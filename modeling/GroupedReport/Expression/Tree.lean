import GroupedReport.Expression.Node

/-!
# Expression trees

The tree of a node is what can be reached from it, written out. A node that is used several times
occurs several times. An operand that does not come before its node is unknown, so every tree is
finite.
-/

namespace GroupedReport.Expression

/-- An expression written out, with the positions of its nodes. -/
inductive Tree where
  /-- A position without a node. -/
  | unknown (id : NodeId)
  | literal (id : NodeId) (value : Value) (kind : Kind)
  | field (id : NodeId) (column : Nat) (kind : Kind)
  | unary (id : NodeId) (operator : UnaryOperator) (operand : Tree)
  | binary (id : NodeId) (operator : BinaryOperator) (left right : Tree)
  | aggregate (id : NodeId) (function : AggregateFunction) (inner : Tree) (scope : Scope)
      (key : AggregateKey) (kind : Kind)
deriving Repr

namespace Tree

instance : Inhabited Tree := ⟨unknown 0⟩

def id : Tree → NodeId
  | unknown id | literal id _ _ | field id _ _ | unary id _ _ | binary id _ _ _
  | aggregate id _ _ _ _ _ => id

def ofNodes (nodes : Array Node) (id : NodeId) : Tree :=
  match nodes[id]? with
  | none => unknown id
  | some (.literal value kind) => literal id value kind
  | some (.field column kind) => field id column kind
  | some (.unary operator operand) =>
      unary id operator (if operand < id then ofNodes nodes operand else unknown operand)
  | some (.binary operator left right) =>
      binary id operator
        (if left < id then ofNodes nodes left else unknown left)
        (if right < id then ofNodes nodes right else unknown right)
  | some (.aggregate function inner scope key kind) =>
      aggregate id function
        (if inner < id then ofNodes nodes inner else unknown inner) scope key kind
termination_by id

def dump : Tree → String
  | unknown id => "<invalid ExprId(" ++ Text.Digits.numeral id ++ ")>"
  | literal _ value kind => if value.isNull then "null:" ++ kind.tag else value.display
  | field _ column kind => "$" ++ Text.Digits.numeral column ++ ":" ++ kind.tag
  | unary _ operator operand => "(" ++ operator.name ++ " " ++ operand.dump ++ ")"
  | binary _ operator left right =>
      "(" ++ operator.name ++ " " ++ left.dump ++ " " ++ right.dump ++ ")"
  | aggregate _ function inner scope key _ =>
      "(" ++ function.name ++ "#" ++ Text.Digits.numeral key ++ " " ++ scope.text ++
        " " ++ inner.dump ++ ")"

/-- The keys of all aggregates in a tree: that of an aggregate before those inside of it, and
those of a left operand before those of the right one. -/
def keys : Tree → List AggregateKey
  | unknown _ | literal _ _ _ | field _ _ _ => []
  | unary _ _ operand => operand.keys
  | binary _ _ left right => left.keys ++ right.keys
  | aggregate _ _ inner _ key _ => key :: inner.keys

end Tree

end GroupedReport.Expression
