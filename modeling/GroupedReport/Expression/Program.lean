import GroupedReport.Expression.Builder

/-!
# Programs

A program is a finished array of nodes. Its number tells it apart from other programs, whose
aggregates have the same keys.
-/

namespace GroupedReport.Expression

-- Powers are those of the core library, whatever else is imported.
attribute [local instance (high)] instPowNat

abbrev ProgramId := Nat

structure Program where
  id : ProgramId
  nodes : Array Node

namespace Program

def ofBuilder (id : ProgramId) (builder : Builder) : Program :=
  { id, nodes := builder.nodes }

def tree (program : Program) (id : NodeId) : Tree :=
  .ofNodes program.nodes id

/-- Note the newest node of a key; keys stay in the order of their first nodes. -/
def noteAggregate (id : NodeId) (key : AggregateKey) :
    List (AggregateKey × NodeId) → List (AggregateKey × NodeId)
  | [] => [(key, id)]
  | (other, node) :: rest =>
      if other = key then (key, id) :: rest else (other, node) :: noteAggregate id key rest

def aggregatesFrom (noted : List (AggregateKey × NodeId)) (id : NodeId) :
    List Node → List (AggregateKey × NodeId)
  | [] => noted
  | node :: rest =>
      match node.key? with
      | some key => aggregatesFrom (noteAggregate id key noted) (id + 1) rest
      | none => aggregatesFrom noted (id + 1) rest

def aggregates (program : Program) : List (AggregateKey × NodeId) :=
  aggregatesFrom [] 0 program.nodes.toList

/-- A bound on the walk over pending nodes: a node counts more than two smaller ones. -/
def walkMeasure : List NodeId → Nat
  | [] => 0
  | id :: pending => 3 ^ id + walkMeasure pending

theorem walkMeasure_append (left right : List NodeId) :
    walkMeasure (left ++ right) = walkMeasure left + walkMeasure right := by
  induction left with
  | nil => simp [walkMeasure]
  | cons id rest induction => simp [walkMeasure, induction, Nat.add_assoc]

def operandsBelow (id : NodeId) (node : Node) : List NodeId :=
  node.children.filter (· < id)

theorem walkMeasure_operandsBelow (id : NodeId) (node : Node) :
    walkMeasure (operandsBelow id node) < 3 ^ id := by
  have power {child : NodeId} (below : child < id) : 3 * 3 ^ child ≤ 3 ^ id := by
    have := Nat.pow_le_pow_right (n := 3) (by decide) below
    rwa [Nat.pow_succ, Nat.mul_comm] at this
  have positive : 0 < 3 ^ id := Nat.pow_pos (by decide)
  have single (child : NodeId) : walkMeasure ([child].filter (· < id)) < 3 ^ id := by
    by_cases below : child < id
    · have := power below
      simp [walkMeasure, below]
      omega
    · simp [walkMeasure, below, positive]
  cases node with
  | literal _ _ => simp [operandsBelow, Node.children, walkMeasure, positive]
  | field _ _ => simp [operandsBelow, Node.children, walkMeasure, positive]
  | unary _ operand => exact single operand
  | aggregate _ inner _ _ _ => exact single inner
  | binary _ left right =>
      by_cases leftBelow : left < id
      · have leftPower := power leftBelow
        by_cases rightBelow : right < id
        · have rightPower := power rightBelow
          simp [operandsBelow, Node.children, walkMeasure, leftBelow, rightBelow]
          omega
        · simp [operandsBelow, Node.children, walkMeasure, leftBelow, rightBelow]
          omega
      · by_cases rightBelow : right < id
        · have rightPower := power rightBelow
          simp [operandsBelow, Node.children, walkMeasure, leftBelow, rightBelow]
          omega
        · simp [operandsBelow, Node.children, walkMeasure, leftBelow, rightBelow, positive]

def walkKeys (nodes : Array Node) : List NodeId → List AggregateKey
  | [] => []
  | id :: pending =>
      match nodes[id]? with
      | none => walkKeys nodes pending
      | some node =>
          node.key?.toList ++ walkKeys nodes (operandsBelow id node ++ pending)
termination_by pending => walkMeasure pending
decreasing_by
  · have positive : 0 < 3 ^ id := Nat.pow_pos (by decide)
    simp only [walkMeasure]
    omega
  · have below := walkMeasure_operandsBelow id node
    simp only [walkMeasure, walkMeasure_append]
    omega

/-- The keys of the aggregates that can be reached from a node, in the order of a walk that
visits a node before its operands. -/
def keysWithin (program : Program) (id : NodeId) : List AggregateKey :=
  walkKeys program.nodes [id]

end Program

end GroupedReport.Expression
