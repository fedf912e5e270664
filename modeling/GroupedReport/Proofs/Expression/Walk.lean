import GroupedReport.Evaluation.Run
import GroupedReport.Proofs.Expression.Shape

/-!
# What a boundary covers

A walk over pending nodes meets the keys of their trees, in the order of the trees. The boundary of
some roots has the keys that are met from them, without those that were met before. So it has the
keys of all aggregates in their trees, and no others.
-/

namespace GroupedReport

namespace Expression

namespace Program

theorem keys_ofNodes {nodes : Array Node} {id : NodeId} {node : Node}
    (found : nodes[id]? = some node) :
    (Tree.ofNodes nodes id).keys =
      node.key?.toList ++ (operandsBelow id node).flatMap fun child =>
        (Tree.ofNodes nodes child).keys := by
  -- An operand that does not come before its node is unknown and has no keys.
  have operand (child : NodeId) :
      (if child < id then Tree.ofNodes nodes child else .unknown child).keys =
        ([child].filter (· < id)).flatMap fun child => (Tree.ofNodes nodes child).keys := by
    by_cases below : child < id
    · simp [below]
    · simp [below, Tree.keys]
  rw [Tree.ofNodes, found]
  cases node with
  | literal | field => rfl
  | unary operator inner => exact operand inner
  | aggregate function inner scope key kind => exact congrArg (key :: ·) (operand inner)
  | binary operator left right =>
      have split : operandsBelow id (.binary operator left right) =
          [left].filter (· < id) ++ [right].filter (· < id) := by
        rw [← List.filter_append]
        rfl
      rw [split, List.flatMap_append]
      exact congr (congrArg _ (operand left)) (operand right)

theorem walkKeys_eq (nodes : Array Node) (pending : List NodeId) :
    walkKeys nodes pending = pending.flatMap fun id => (Tree.ofNodes nodes id).keys := by
  induction pending using walkKeys.induct nodes with
  | case1 => rw [walkKeys, List.flatMap_nil]
  | case2 id pending absent induction =>
      rw [walkKeys, absent, List.flatMap_cons, Tree.ofNodes, absent]
      exact induction
  | case3 id pending node found induction =>
      rw [walkKeys, found, List.flatMap_cons, keys_ofNodes found]
      dsimp only
      rw [induction, List.flatMap_append, List.append_assoc]

theorem keysWithin_eq (program : Program) (id : NodeId) :
    program.keysWithin id = (program.tree id).keys := by
  rw [keysWithin, walkKeys_eq, List.flatMap_singleton, tree]

end Program

end Expression

open Expression

/-! ## Keys that are met more than once -/

namespace Boundary

/-- Whether keys are those among others, each of them once, in the order in which they occur there
for the first time. -/
structure AreFirsts (met keys : List AggregateKey) : Prop where
  mem_iff {key : AggregateKey} : key ∈ keys ↔ key ∈ met
  increasing : keys.Pairwise fun first second => met.idxOf first < met.idxOf second

namespace AreFirsts

variable {met keys : List AggregateKey} (firsts : AreFirsts met keys)
include firsts

theorem increasing_concat (key : AggregateKey) :
    keys.Pairwise fun first second => (met ++ [key]).idxOf first < (met ++ [key]).idxOf second := by
  refine firsts.increasing.imp_of_mem fun firstMember secondMember before => ?_
  rw [List.idxOf_append, if_pos (firsts.mem_iff.mp firstMember), List.idxOf_append,
    if_pos (firsts.mem_iff.mp secondMember)]
  exact before

theorem concat (key : AggregateKey) :
    AreFirsts (met ++ [key]) (if keys.contains key then keys else keys ++ [key]) := by
  split
  · rename_i already
    have known : key ∈ met := firsts.mem_iff.mp (List.contains_iff_mem.mp already)
    refine ⟨?_, firsts.increasing_concat key⟩
    intro other
    rw [firsts.mem_iff, List.mem_append, List.mem_singleton]
    exact ⟨.inl, fun member => member.elim id fun same => same ▸ known⟩
  · rename_i fresh
    have unknown : key ∉ met := fun member =>
      fresh (List.contains_iff_mem.mpr (firsts.mem_iff.mpr member))
    constructor
    · intro other
      rw [List.mem_append, List.mem_append, firsts.mem_iff]
    · refine List.pairwise_append.mpr
        ⟨firsts.increasing_concat key, List.pairwise_singleton _ _, ?_⟩
      intro first firstMember second secondMember
      have firstMet := firsts.mem_iff.mp firstMember
      rw [List.mem_singleton.mp secondMember, List.idxOf_append, if_pos firstMet,
        List.idxOf_append, if_neg unknown]
      exact Nat.lt_of_lt_of_le (List.idxOf_lt_length_of_mem firstMet) (Nat.le_add_left _ _)

theorem addKeys (more : List AggregateKey) : AreFirsts (met ++ more) (addKeys keys more) := by
  induction more generalizing met keys with
  | nil =>
      rw [List.append_nil]
      exact firsts
  | cons key rest induction =>
      have all := induction (firsts.concat key)
      rw [List.append_assoc] at all
      exact all

end AreFirsts

theorem areFirsts_ofRoots (name : String) (program : Program) (roots : List NodeId) :
    AreFirsts (roots.flatMap program.keysWithin) (ofRoots name program roots).keys := by
  have collected {met keys : List AggregateKey} (firsts : AreFirsts met keys) :
      AreFirsts (met ++ roots.flatMap program.keysWithin)
        (roots.foldl (fun keys root => Boundary.addKeys keys (program.keysWithin root)) keys) := by
    induction roots generalizing met keys with
    | nil =>
        rw [List.flatMap_nil, List.append_nil]
        exact firsts
    | cons root rest induction =>
        have all := induction (firsts.addKeys (program.keysWithin root))
        rw [List.append_assoc] at all
        exact all
  exact collected ⟨Iff.rfl, .nil⟩

theorem mem_keys_ofRoots {key : AggregateKey} {name : String} {program : Program}
    {roots : List NodeId} :
    key ∈ (ofRoots name program roots).keys ↔
      ∃ root ∈ roots, key ∈ (program.tree root).keys := by
  rw [(areFirsts_ofRoots name program roots).mem_iff, List.mem_flatMap]
  simp only [Program.keysWithin_eq]

end Boundary

end GroupedReport
