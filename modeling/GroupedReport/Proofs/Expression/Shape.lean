import GroupedReport.Expression.Program

/-!
# The shape of a tree

What a tree says apart from the positions of its nodes: its kind, its value if it is a constant,
its aggregates, and all that it refers to. The tree of a node depends on the nodes up to it alone,
so it stays the same while nodes are added.
-/

namespace GroupedReport.Expression

namespace Tree

/-- The kind of the values of a tree. An unknown node is taken as opaque. -/
def kind : Tree → Kind
  | unknown _ => .object
  | literal _ _ kind | field _ _ kind | aggregate _ _ _ _ _ kind => kind
  | unary _ operator _ => operator.resultKind
  | binary _ operator _ _ => operator.resultKind

def constant? : Tree → Option Value
  | literal _ value _ => some value
  | _ => none

/-- A tree with its positions taken out, so that trees can be compared. -/
def bare : Tree → Tree
  | unknown id => unknown id
  | literal _ value kind => literal 0 value kind
  | field _ column kind => field 0 column kind
  | unary _ operator operand => unary 0 operator operand.bare
  | binary _ operator left right => binary 0 operator left.bare right.bare
  | aggregate _ function inner scope key kind => aggregate 0 function inner.bare scope key kind

@[simp] theorem kind_bare (tree : Tree) : tree.bare.kind = tree.kind := by
  cases tree <;> rfl

@[simp] theorem constant?_bare (tree : Tree) : tree.bare.constant? = tree.constant? := by
  cases tree <;> rfl

@[simp] theorem keys_bare (tree : Tree) : tree.bare.keys = tree.keys := by
  induction tree with
  | unknown | literal | field => rfl
  | unary _ _ _ induction => exact induction
  | binary _ _ _ _ left right => rw [bare, keys, keys, left, right]
  | aggregate _ _ _ _ _ _ induction => rw [bare, keys, keys, induction]

/-! ## Aggregates -/

end Tree

structure Aggregation where
  function : AggregateFunction
  inner : Tree
  scope : Scope
  key : AggregateKey
  kind : Kind

namespace Tree

def aggregations : Tree → List Aggregation
  | unknown _ | literal _ _ _ | field _ _ _ => []
  | unary _ _ operand => operand.aggregations
  | binary _ _ left right => left.aggregations ++ right.aggregations
  | aggregate _ function inner scope key kind =>
      ⟨function, inner, scope, key, kind⟩ :: inner.aggregations

theorem keys_eq_map_aggregations (tree : Tree) :
    tree.keys = tree.aggregations.map Aggregation.key := by
  induction tree with
  | unknown | literal | field => rfl
  | unary _ _ _ induction => exact induction
  | binary _ _ _ _ left right => rw [keys, aggregations, List.map_append, left, right]
  | aggregate _ _ _ _ _ _ induction => rw [keys, aggregations, List.map_cons, induction]

def nesting : Tree → Nat
  | unknown _ | literal _ _ _ | field _ _ _ => 0
  | unary _ _ operand => operand.nesting
  | binary _ _ left right => max left.nesting right.nesting
  | aggregate _ _ inner _ _ _ => inner.nesting + 1

@[simp] theorem nesting_bare (tree : Tree) : tree.bare.nesting = tree.nesting := by
  induction tree with
  | unknown | literal | field => rfl
  | unary _ _ _ induction => exact induction
  | binary _ _ _ _ left right => rw [bare, nesting, nesting, left, right]
  | aggregate _ _ _ _ _ _ induction => rw [bare, nesting, nesting, induction]

theorem nesting_eq_zero_of_constant? {tree : Tree} {value : Value}
    (constant : tree.constant? = some value) : tree.nesting = 0 := by
  cases tree <;> first | rfl | cases constant

theorem aggregations_eq_nil {tree : Tree} (flat : tree.nesting = 0) : tree.aggregations = [] := by
  induction tree with
  | unknown | literal | field => rfl
  | unary _ _ _ induction => exact induction flat
  | binary _ _ _ _ left right =>
      rcases Nat.max_eq_zero_iff.mp flat with ⟨leftFlat, rightFlat⟩
      rw [aggregations, left leftFlat, right rightFlat, List.append_nil]
  | aggregate => cases flat

theorem inner_aggregations_eq_nil {tree : Tree} (flat : tree.nesting ≤ 1) :
    ∀ aggregation ∈ tree.aggregations, aggregation.inner.aggregations = [] := by
  induction tree with
  | unknown | literal | field =>
      intro aggregation member
      cases member
  | unary _ _ _ induction => exact induction flat
  | binary _ _ _ _ left right =>
      rcases Nat.max_le.mp flat with ⟨leftFlat, rightFlat⟩
      intro aggregation member
      rcases List.mem_append.mp member with inLeft | inRight
      · exact left leftFlat aggregation inLeft
      · exact right rightFlat aggregation inRight
  | aggregate id function inner scope key kind =>
      have innerFlat : inner.aggregations = [] :=
        aggregations_eq_nil (Nat.le_zero.mp (Nat.le_of_succ_le_succ flat))
      intro aggregation member
      rw [aggregations, innerFlat] at member
      cases List.mem_singleton.mp member
      exact innerFlat

/-! ## References -/

end Tree

inductive Reference where
  | field (column : Nat) (kind : Kind)
  | aggregate (key : AggregateKey) (function : AggregateFunction) (scope : Scope) (kind : Kind)

def Reference.key? : Reference → Option AggregateKey
  | field _ _ => none
  | aggregate key _ _ _ => some key

namespace Tree

/-- What a tree refers to, an aggregate before what is inside of it, and what is in a left operand
before what is in the right one. -/
def references : Tree → List Reference
  | unknown _ | literal _ _ _ => []
  | field _ column kind => [.field column kind]
  | unary _ _ operand => operand.references
  | binary _ _ left right => left.references ++ right.references
  | aggregate _ function inner scope key kind =>
      .aggregate key function scope kind :: inner.references

@[simp] theorem references_bare (tree : Tree) : tree.bare.references = tree.references := by
  induction tree with
  | unknown | literal | field => rfl
  | unary _ _ _ induction => exact induction
  | binary _ _ _ _ left right => rw [bare, references, references, left, right]
  | aggregate _ _ _ _ _ _ induction => rw [bare, references, references, induction]

theorem references_eq_nil_of_constant? {tree : Tree} {value : Value}
    (constant : tree.constant? = some value) : tree.references = [] := by
  cases tree <;> first | rfl | cases constant

theorem keys_eq_filterMap_references (tree : Tree) :
    tree.keys = tree.references.filterMap Reference.key? := by
  induction tree with
  | unknown | literal | field => rfl
  | unary _ _ _ induction => exact induction
  | binary _ _ _ _ left right => rw [keys, references, List.filterMap_append, left, right]
  | aggregate _ _ _ _ _ _ induction =>
      rw [keys, references, induction]
      rfl

/-! ## Trees of nodes -/

theorem ofNodes_congr {nodes others : Array Node} {id : NodeId}
    (equal : ∀ position ≤ id, nodes[position]? = others[position]?) :
    ofNodes nodes id = ofNodes others id := by
  induction id using Nat.strongRecOn with
  | ind id induction =>
      have below {child : NodeId} (smaller : child < id) :
          ofNodes nodes child = ofNodes others child :=
        induction child smaller fun position atMost =>
          equal position (Nat.le_trans atMost (Nat.le_of_lt smaller))
      have operand (child : NodeId) :
          (if child < id then ofNodes nodes child else unknown child) =
            if child < id then ofNodes others child else unknown child := by
        split
        · exact below ‹_›
        · rfl
      rw [ofNodes, ofNodes, equal id (Nat.le_refl id)]
      cases others[id]? with
      | none => rfl
      | some node => cases node <;> simp only [operand]

@[simp] theorem id_ofNodes (nodes : Array Node) (id : NodeId) : (ofNodes nodes id).id = id := by
  rw [ofNodes]
  split <;> rfl

theorem kind_ofNodes (nodes : Array Node) (id : NodeId) :
    (ofNodes nodes id).kind = ((nodes[id]?).map Node.kind).getD .object := by
  rw [ofNodes]
  split <;> simp_all [kind, Node.kind]

theorem constant?_ofNodes (nodes : Array Node) (id : NodeId) :
    (ofNodes nodes id).constant? = (nodes[id]?).bind Node.constant? := by
  rw [ofNodes]
  split <;> simp_all [constant?, Node.constant?]

end Tree

end GroupedReport.Expression
