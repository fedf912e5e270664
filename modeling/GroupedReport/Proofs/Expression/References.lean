import GroupedReport.Proofs.Expression.Findings
import GroupedReport.Proofs.Expression.Walk
import Mathlib

/-!
# What folding refers to

Folding drops constants alone. What it puts into a builder has the kind of the folded node and
refers to the same columns and the same aggregates in the same order, and no aggregate gets another
key.
-/

namespace GroupedReport.Expression

/-- Folding keeps what an expression refers to: the kind of its values, the columns and aggregates
in it, in their order, and the keys of a boundary that has it as a root, whatever was built after
folding. It hands out no key. -/
theorem folding_keeps_references {builder after later : Builder} {root folded : NodeId}
    (built : builder.Built) (known : root < builder.nodes.size)
    (folds : (Build.fold root).run builder = (folded, after)) (leads : after.LeadsTo later)
    (number : ProgramId) :
    later.kind folded = builder.kind root ∧
      (later.tree folded).references = (builder.tree root).references ∧
      (Program.ofBuilder number later).keysWithin folded =
        (Program.ofBuilder number later).keysWithin root ∧
      after.nextKey = builder.nextKey := by
  have valid := built.valid
  have puts := valid.puts_fold known
  rw [folds] at puts
  have within := (leads.sound puts.valid).2
  have foldedTree : (later.tree folded).bare = (builder.tree root).folded := by
    rw [within.tree_eq puts.known, puts.bare]
  have rootTree : later.tree root = builder.tree root :=
    (puts.within.trans within).tree_eq known
  have references : (later.tree folded).references = (builder.tree root).references := by
    rw [← Tree.references_bare, foldedTree, Tree.references_folded]
  refine ⟨?_, references, ?_, ?_⟩
  · rw [Builder.kind_of_bare foldedTree, Tree.kind_folded, Builder.kind_tree]
  · have keys : (later.tree folded).keys = (later.tree root).keys := by
      rw [Tree.keys_eq_filterMap_references, references, ← rootTree,
        ← Tree.keys_eq_filterMap_references]
    rw [Program.keysWithin_eq, Program.keysWithin_eq]
    exact keys
  · exact (valid.notes_of_foldsTo (valid.foldsTo_of_fold known folds) known).nextKey_eq

def Builder.greatestShifted : Builder :=
  { nodes := #[.field 0 .int32, .literal (.int32 1) .int32, .literal (.int32 (-1)) .int32,
      .binary (.arithmetic .plus .int32) 1 2, .binary (.arithmetic .plus .int32) 0 3,
      .aggregate .max 4 .default 0 .int32]
    nextKey := 1 }

/-- The sum becomes a zero, the zero is dropped, and a new aggregate over the column alone has the
key of the old one. -/
theorem greatest_shifted_keeps_references :
    Builder.greatestShifted.Built ∧
      ∃ after, (Build.fold 5).run Builder.greatestShifted = (7, after) ∧
        after.nodes[7]? = some (.aggregate .max 0 .default 0 .int32) ∧
        after.kind 7 = Builder.greatestShifted.kind 5 ∧
        (after.tree 7).references = (Builder.greatestShifted.tree 5).references ∧
        (Program.ofBuilder 0 after).keysWithin 7 = (Program.ofBuilder 0 after).keysWithin 5 ∧
        after.nextKey = Builder.greatestShifted.nextKey := by
  have built : Builder.greatestShifted.Built :=
    .step (.step (.step (.step (.step (.step .refl (.field 0 .int32)) (.literal (.int32 1)))
      (.literal (.int32 (-1)))) (.arithmetic .plus 1 2 (by decide) (by decide)))
      (.arithmetic .plus 0 3 (by decide) (by decide)))
      (.aggregate .max 4 .default (by decide))
  let after : Builder :=
    { Builder.greatestShifted with
      nodes := Builder.greatestShifted.nodes ++
        #[.literal (.int32 0) .int32, .aggregate .max 0 .default 0 .int32] }
  have folds : (Build.fold 5).run Builder.greatestShifted = (7, after) := by cbv
  exact ⟨built, after, folds, rfl, folding_keeps_references built (by decide) folds .refl 0⟩

end GroupedReport.Expression
