import Mathlib.Data.List.Induction
import Mathlib.Data.List.Nodup
import GroupedReport.Proofs.Expression.Arena

/-!
# The aggregates of a program

A program lists the keys of its aggregates in the order in which they first occur among the nodes,
each with the newest node that has it.
-/

namespace GroupedReport.Expression

namespace Program

/-! ## Noting an aggregate -/

section

variable {noted : List (AggregateKey × NodeId)} {id : NodeId} {key : AggregateKey}

theorem map_fst_noteAggregate (noted : List (AggregateKey × NodeId)) (id : NodeId)
    (key : AggregateKey) :
    (noteAggregate id key noted).map Prod.fst =
      if key ∈ noted.map Prod.fst then noted.map Prod.fst else noted.map Prod.fst ++ [key] := by
  induction noted with
  | nil => rfl
  | cons first rest induction =>
      rw [noteAggregate]
      by_cases same : first.1 = key
      · rw [if_pos same, List.map_cons, List.map_cons, same, if_pos List.mem_cons_self]
      · have apart : key ≠ first.1 := fun equal => same equal.symm
        rw [if_neg same, List.map_cons, induction, List.map_cons]
        simp only [List.mem_cons, apart, false_or]
        split <;> rfl

theorem nodup_noteAggregate (distinct : (noted.map Prod.fst).Nodup) :
    ((noteAggregate id key noted).map Prod.fst).Nodup := by
  rw [map_fst_noteAggregate]
  split
  · exact distinct
  · rename_i absent
    refine List.nodup_append.mpr ⟨distinct, List.nodup_singleton key, ?_⟩
    rintro known member _ isKey rfl
    cases List.mem_singleton.mp isKey
    exact absent member

theorem mem_noteAggregate (distinct : (noted.map Prod.fst).Nodup) {other : AggregateKey}
    {node : NodeId} :
    (other, node) ∈ noteAggregate id key noted ↔
      if other = key then node = id else (other, node) ∈ noted := by
  induction noted with
  | nil => by_cases same : other = key <;> simp [noteAggregate, same]
  | cons first rest induction =>
      rcases List.nodup_cons.mp distinct with ⟨isNew, restDistinct⟩
      have inRest := induction restDistinct
      rw [noteAggregate]
      by_cases firstSame : first.1 = key
      · rw [if_pos firstSame]
        by_cases same : other = key
        · have absent : (other, node) ∉ rest := by
            intro member
            rw [firstSame, ← same] at isNew
            exact isNew (List.mem_map_of_mem member)
          simp [same, same ▸ absent]
        · have apart : (other, node) ≠ first := by
            rintro rfl
            exact same firstSame
          simp [same, apart]
      · rw [if_neg firstSame, List.mem_cons, inRest]
        by_cases same : other = key
        · have apart : (other, node) ≠ first := by
            rintro rfl
            exact firstSame same
          simp [same, same ▸ apart]
        · rw [if_neg same, if_neg same, List.mem_cons]

end

/-! ## The aggregates among nodes -/

theorem aggregatesFrom_append (noted : List (AggregateKey × NodeId)) (id : NodeId)
    (first second : List Node) :
    aggregatesFrom noted id (first ++ second) =
      aggregatesFrom (aggregatesFrom noted id first) (id + first.length) second := by
  induction first generalizing noted id with
  | nil => rfl
  | cons node rest induction =>
      have position : id + (rest.length + 1) = id + 1 + rest.length := by
        rw [Nat.add_comm rest.length, Nat.add_assoc]
      rw [List.cons_append, aggregatesFrom, aggregatesFrom, List.length_cons, position]
      cases node.key? with
      | none => exact induction noted (id + 1)
      | some key => exact induction (noteAggregate id key noted) (id + 1)

theorem aggregatesFrom_concat (nodes : List Node) (node : Node) :
    aggregatesFrom [] 0 (nodes ++ [node]) =
      match node.key? with
      | some key => noteAggregate nodes.length key (aggregatesFrom [] 0 nodes)
      | none => aggregatesFrom [] 0 nodes := by
  rw [aggregatesFrom_append, Nat.zero_add, aggregatesFrom]
  rfl

theorem nodup_aggregatesFrom (nodes : List Node) :
    ((aggregatesFrom [] 0 nodes).map Prod.fst).Nodup := by
  induction nodes using List.reverseRecOn with
  | nil => exact List.nodup_nil
  | append_singleton nodes node induction =>
      rw [aggregatesFrom_concat]
      split
      · exact nodup_noteAggregate induction
      · exact induction

structure IsNewest (nodes : List Node) (key : AggregateKey) (id : NodeId) : Prop where
  hasKey : nodes[id]?.bind Node.key? = some key
  newest {other : NodeId} : nodes[other]?.bind Node.key? = some key → other ≤ id

theorem isNewest_concat {nodes : List Node} {node : Node} {key : AggregateKey}
    (own : node.key? = some key) : IsNewest (nodes ++ [node]) key nodes.length where
  hasKey := by simp [own]
  newest {other} found := by
    rcases Option.bind_eq_some_iff.mp found with ⟨_, present, _⟩
    have below := (List.getElem?_eq_some_iff.mp present).choose
    rw [List.length_append, List.length_singleton] at below
    exact Nat.le_of_lt_succ below

theorem IsNewest.concat {nodes : List Node} {key : AggregateKey} {id : NodeId}
    (newest : IsNewest nodes key id) {node : Node} (other : node.key? ≠ some key) :
    IsNewest (nodes ++ [node]) key id where
  hasKey := by
    rcases Option.bind_eq_some_iff.mp newest.hasKey with ⟨_, present, _⟩
    rw [List.getElem?_append_left (List.getElem?_eq_some_iff.mp present).choose]
    exact newest.hasKey
  newest {position} found := by
    rw [List.getElem?_append] at found
    split at found
    · exact newest.newest found
    · rcases Option.bind_eq_some_iff.mp found with ⟨last, present, isKey⟩
      cases List.mem_singleton.mp (List.mem_of_getElem? present)
      exact absurd isKey other

theorem isNewest_of_mem (nodes : List Node) {key : AggregateKey} {id : NodeId}
    (member : (key, id) ∈ aggregatesFrom [] 0 nodes) : IsNewest nodes key id := by
  induction nodes using List.reverseRecOn with
  | nil => cases member
  | append_singleton nodes node induction =>
      rw [aggregatesFrom_concat] at member
      cases own : node.key? with
      | none =>
          rw [own] at member
          exact (induction member).concat (by simp [own])
      | some added =>
          rw [own] at member
          rw [mem_noteAggregate (nodup_aggregatesFrom nodes)] at member
          split at member
          · rename_i same
            rw [member, same]
            exact isNewest_concat own
          · rename_i apart
            refine (induction member).concat ?_
            rw [own]
            exact fun equal => apart (Option.some.inj equal).symm

end Program

end GroupedReport.Expression
