import Mathlib.Logic.Function.Iterate
import GroupedReport.Proofs.Expression.Calls
import GroupedReport.Proofs.Expression.Walk

/-!
# The order of a walk

A walk visits whatever lies on top of a stack. In the end it has met the keys that a recursion over
operands meets, in the same order: while the stack below a node is left alone, the keys of the node
are met, its own one first. A boundary has the keys that are met from its roots, without those that
were met before.
-/

namespace GroupedReport

namespace Expression

/-! ## Recursion over operands -/

/-- The keys of the aggregates that can be reached from a node, by recursion over its operands: the
key of an aggregate before those inside of it, and those of a left operand before those of the
right one. Where two operands are one node, its keys occur twice. -/
inductive Preorder (nodes : Array Node) : NodeId → List AggregateKey → Prop
  | absent {id : NodeId} (absent : nodes[id]? = none) : Preorder nodes id []
  | literal {id : NodeId} {value : Value} {kind : Kind}
      (found : nodes[id]? = some (.literal value kind)) : Preorder nodes id []
  | field {id : NodeId} {column : Nat} {kind : Kind}
      (found : nodes[id]? = some (.field column kind)) : Preorder nodes id []
  | unary {id operand : NodeId} {operator : UnaryOperator} {keys : List AggregateKey}
      (found : nodes[id]? = some (.unary operator operand)) (below : Preorder nodes operand keys) :
      Preorder nodes id keys
  | binary {id left right : NodeId} {operator : BinaryOperator}
      {leftKeys rightKeys : List AggregateKey}
      (found : nodes[id]? = some (.binary operator left right))
      (leftBelow : Preorder nodes left leftKeys) (rightBelow : Preorder nodes right rightKeys) :
      Preorder nodes id (leftKeys ++ rightKeys)
  | aggregate {id inner : NodeId} {function : AggregateFunction} {scope : Scope}
      {key : AggregateKey} {kind : Kind} {keys : List AggregateKey}
      (found : nodes[id]? = some (.aggregate function inner scope key kind))
      (below : Preorder nodes inner keys) : Preorder nodes id (key :: keys)

theorem Unfolds.preorder {nodes : Array Node} {id : NodeId} {tree : Tree}
    (unfolds : Unfolds nodes id tree) : Preorder nodes id tree.keys := by
  induction unfolds with
  | literal found => exact .literal found
  | field found => exact .field found
  | unary found _ induction => exact .unary found induction
  | binary found _ _ left right => exact .binary found left right
  | aggregate found _ induction => exact .aggregate found induction

theorem Builder.Valid.preorder {builder : Builder} (valid : builder.Valid) (id : NodeId) :
    Preorder builder.nodes id (builder.tree id).keys := by
  rcases Nat.lt_or_ge id builder.nodes.size with known | unknown
  · exact (valid.unfolds known).preorder
  · have absent : builder.nodes[id]? = none := Array.getElem?_eq_none unknown
    rw [tree_of_absent absent]
    exact .absent absent

/-! ## Visiting one node after the other -/

/-- A walk that is under way: the nodes that are left to visit, the next one on top, and the keys
that were met. -/
structure Walk where
  stack : List NodeId
  met : List AggregateKey

namespace Walk

def start (id : NodeId) : Walk :=
  ⟨[id], []⟩

/-- Visit the node on top of the stack: its key is met, and its operands are put on the stack, a
left one on top of the right one. A position without a node is left out, and a walk whose stack is
empty has ended. -/
def visit (nodes : Array Node) : Walk → Walk
  | ⟨[], met⟩ => ⟨[], met⟩
  | ⟨id :: stack, met⟩ =>
      match nodes[id]? with
      | none => ⟨stack, met⟩
      | some node => ⟨node.children ++ stack, met ++ node.key?.toList⟩

variable {nodes : Array Node} {id : NodeId}

theorem visit_of_absent (absent : nodes[id]? = none) (stack : List NodeId)
    (met : List AggregateKey) : visit nodes ⟨id :: stack, met⟩ = ⟨stack, met⟩ := by
  rw [visit, absent]

theorem visit_of_node {node : Node} (found : nodes[id]? = some node) (stack : List NodeId)
    (met : List AggregateKey) :
    visit nodes ⟨id :: stack, met⟩ = ⟨node.children ++ stack, met ++ node.key?.toList⟩ := by
  rw [visit, found]

theorem exists_iterate_visit {keys : List AggregateKey} (preorder : Preorder nodes id keys) :
    ∃ visits : Nat, ∀ (stack : List NodeId) (met : List AggregateKey),
      (visit nodes)^[visits] ⟨id :: stack, met⟩ = ⟨stack, met ++ keys⟩ := by
  induction preorder with
  | absent absent =>
      refine ⟨1, fun stack met => ?_⟩
      rw [Function.iterate_one, visit_of_absent absent, List.append_nil]
  | literal found | field found =>
      refine ⟨1, fun stack met => ?_⟩
      rw [Function.iterate_one, visit_of_node found]
      rfl
  | unary found _ induction =>
      rcases induction with ⟨visits, below⟩
      refine ⟨visits + 1, fun stack met => ?_⟩
      rw [Function.iterate_succ_apply, visit_of_node found]
      exact (below stack (met ++ [])).trans (by rw [List.append_nil])
  | @binary _ left right operator leftKeys rightKeys found _ _ leftInduction rightInduction =>
      rcases leftInduction with ⟨leftVisits, leftBelow⟩
      rcases rightInduction with ⟨rightVisits, rightBelow⟩
      refine ⟨rightVisits + leftVisits + 1, fun stack met => ?_⟩
      rw [Function.iterate_succ_apply, Function.iterate_add_apply, visit_of_node found]
      -- The right operand stays on the stack until the keys of the left one have been met.
      calc (visit nodes)^[rightVisits] ((visit nodes)^[leftVisits]
              ⟨left :: right :: stack, met ++ []⟩)
        _ = (visit nodes)^[rightVisits] ⟨right :: stack, met ++ [] ++ leftKeys⟩ := by
            rw [leftBelow]
        _ = ⟨stack, met ++ [] ++ leftKeys ++ rightKeys⟩ := by rw [rightBelow]
        _ = ⟨stack, met ++ (leftKeys ++ rightKeys)⟩ := by rw [List.append_nil, List.append_assoc]
  | @aggregate _ inner function scope key kind keys found _ induction =>
      rcases induction with ⟨visits, below⟩
      refine ⟨visits + 1, fun stack met => ?_⟩
      rw [Function.iterate_succ_apply, visit_of_node found]
      exact (below stack (met ++ [key])).trans (by rw [List.append_assoc, List.singleton_append])

theorem exists_iterate_visit_start {keys : List AggregateKey} (preorder : Preorder nodes id keys) :
    ∃ visits : Nat, (visit nodes)^[visits] (start id) = ⟨[], keys⟩ := by
  rcases exists_iterate_visit preorder with ⟨visits, walked⟩
  exact ⟨visits, walked [] []⟩

theorem ended_unique {walk : Walk} {visits more : Nat} {keys others : List AggregateKey}
    (first : (visit nodes)^[visits] walk = ⟨[], keys⟩)
    (second : (visit nodes)^[more] walk = ⟨[], others⟩) : keys = others := by
  have stays (count : Nat) (met : List AggregateKey) :
      (visit nodes)^[count] ⟨[], met⟩ = ⟨[], met⟩ :=
    Function.iterate_fixed rfl count
  have longer : (visit nodes)^[more + visits] walk = ⟨[], keys⟩ := by
    rw [Function.iterate_add_apply, first, stays]
  rw [Nat.add_comm, Function.iterate_add_apply, second, stays] at longer
  cases longer
  rfl

end Walk

theorem Preorder.unique {nodes : Array Node} {id : NodeId} {keys others : List AggregateKey}
    (first : Preorder nodes id keys) (second : Preorder nodes id others) : keys = others := by
  rcases Walk.exists_iterate_visit_start first with ⟨_, ended⟩
  rcases Walk.exists_iterate_visit_start second with ⟨_, otherEnded⟩
  exact Walk.ended_unique ended otherEnded

end Expression

open Expression

/-! ## Walks in a program -/

open Build in
/-- In a program that was made by calls of a builder, a walk from any node comes to an end. It has
met the keys that recursion over operands gives, and these are the keys within the node. A boundary
has the first occurrences of the keys within its roots. -/
theorem walks_meet_keys_in_preorder {calls : List Call} (admissible : Admissible {} calls)
    (number : ProgramId) :
    let program := Program.ofBuilder number (perform {} calls)
    (∀ id, (∃ visits : Nat, (Walk.visit program.nodes)^[visits] (.start id) =
        ⟨[], program.keysWithin id⟩) ∧
      ∀ keys, Preorder program.nodes id keys ↔ program.keysWithin id = keys) ∧
    ∀ name roots, (Boundary.ofRoots name program roots).name = name ∧
      Boundary.AreFirsts (roots.flatMap program.keysWithin)
        (Boundary.ofRoots name program roots).keys := by
  intro program
  have valid := (Builder.remembers_perform Builder.valid_empty Builder.remembers_empty
    admissible).1
  have preorder (id : NodeId) : Preorder program.nodes id (program.keysWithin id) := by
    rw [Program.keysWithin_eq]
    exact valid.preorder id
  refine ⟨fun id => ⟨Walk.exists_iterate_visit_start (preorder id), fun keys => ?_⟩,
    fun name roots => ⟨rfl, Boundary.areFirsts_ofRoots name program roots⟩⟩
  constructor
  · exact (preorder id).unique
  · rintro rfl
    exact preorder id

namespace Expression.Build

def sharedCalls : List Call :=
  [.field 0 .int32, .aggregate ⟨.max, 0, .default⟩, .arithmetic .plus 1 1,
    .aggregate ⟨.stdevp, 2, .default⟩, .arithmetic .plus 3 1]

end Expression.Build

open Build in
/-- The key of the greatest value is met three times, and is in a boundary once. There is no node
at the second root. -/
theorem shared_greatest_is_met_three_times :
    Admissible {} sharedCalls ∧
      (Program.ofBuilder 0 (perform {} sharedCalls)).keysWithin 4 = [1, 0, 0, 0] ∧
      (Boundary.ofRoots "Regions" (Program.ofBuilder 0 (perform {} sharedCalls)) [1, 9, 4]).keys =
        [0, 1] := by
  have admissible : Admissible {} sharedCalls := by decide +kernel
  rcases walks_meet_keys_in_preorder admissible 0 with ⟨walks, _⟩
  have greatest : Preorder (perform {} sharedCalls).nodes 1 [0] :=
    .aggregate rfl (.field rfl)
  have all : Preorder (perform {} sharedCalls).nodes 4 [1, 0, 0, 0] :=
    .binary rfl (.aggregate rfl (.binary rfl greatest greatest)) greatest
  have first := ((walks 1).2 _).mp greatest
  have second := ((walks 9).2 _).mp (.absent rfl)
  have third := ((walks 4).2 _).mp all
  refine ⟨admissible, third, ?_⟩
  rw [Boundary.ofRoots, List.foldl_cons, first, List.foldl_cons, second, List.foldl_cons, third]
  rfl

end GroupedReport
