import GroupedReport.Proofs.Data.Scope
import GroupedReport.Proofs.Evaluation.Ensures
import GroupedReport.Proofs.Expression.Building

/-!
# Growth of a cache

Evaluation adds values to a cache and takes none away. It only ever stores under slots that have no
value, because the aggregates inside of an aggregate have other keys.
-/

namespace GroupedReport

open Expression

/-! ## Runs that grow -/

/-- What a cache has more than another one: values of aggregates whose keys may be added, each
stored once under a slot without a value. -/
structure Cache.Adds (may : AggregateKey → Prop) (before after : Cache)
    (added : List (Slot × Value)) : Prop where
  entries : after.entries = added ++ before.entries
  stores : after.stats.stores = before.stats.stores + added.length
  absent : ∀ entry ∈ added, before.peek? entry.1 = none
  allowed : ∀ entry ∈ added, ∃ key, entry.1 = .aggregate key ∧ may key
  distinct : (added.map Prod.fst).Nodup

/-- Whether a run was left by evaluations of aggregates whose keys may be added. -/
structure Run.Grows (may : AggregateKey → Prop) (before after : Run) : Prop where
  data : after.data = before.data
  program {program : ProgramId} :
    before.program? = some program → after.program? = some program
  adds : ∃ added, before.cache.Adds may after.cache added

namespace Cache.Adds

variable {may : AggregateKey → Prop} {before after : Cache} {added : List (Slot × Value)}

theorem peek? (adds : before.Adds may after added) (slot : Slot) :
    after.peek? slot = (added.lookup slot).or (before.peek? slot) := by
  rw [Cache.peek?, adds.entries, List.lookup_append, Cache.peek?]

theorem lookup_eq_none (adds : before.Adds may after added) {slot : Slot}
    (held : before.peek? slot ≠ none ∨ ∀ key, slot = .aggregate key → ¬may key) :
    added.lookup slot = none := by
  apply List.lookup_eq_none_iff.mpr
  intro entry member
  rw [bne_iff_ne]
  rintro rfl
  rcases held with present | forbidden
  · exact present (adds.absent entry member)
  · rcases adds.allowed entry member with ⟨key, equal, permitted⟩
    exact forbidden key equal permitted

end Cache.Adds

namespace Run.Grows

variable {may : AggregateKey → Prop} {before after later : Run}

theorem keeps (grows : before.Grows may after) {slot : Slot} {value : Value}
    (held : before.cache.peek? slot = some value) : after.cache.peek? slot = some value := by
  rcases grows.adds with ⟨added, adds⟩
  have present : before.cache.peek? slot ≠ none := by
    rw [held]
    exact Option.some_ne_none value
  rw [adds.peek?, adds.lookup_eq_none (.inl present), held, Option.none_or]

theorem absent (grows : before.Grows may after) {key : AggregateKey} (forbidden : ¬may key)
    (free : before.cache.peek? (.aggregate key) = none) :
    after.cache.peek? (.aggregate key) = none := by
  rcases grows.adds with ⟨added, adds⟩
  have notAdded : ∀ other, Slot.aggregate key = .aggregate other → ¬may other := by
    intro other same
    cases same
    exact forbidden
  rw [adds.peek?, adds.lookup_eq_none (.inr notAdded), free, Option.none_or]

theorem of_alike (alike : before.Alike after) : before.Grows may after where
  data := alike.data
  program := alike.program
  adds := by
    refine ⟨[], alike.entries, alike.stores, ?_, ?_, List.nodup_nil⟩
    · intro entry member
      cases member
    · intro entry member
      cases member

theorem refl (run : Run) : run.Grows may run :=
  of_alike (.refl run)

theorem trans (left : before.Grows may after) (right : after.Grows may later) :
    before.Grows may later where
  data := right.data.trans left.data
  program bound := right.program (left.program bound)
  adds := by
    rcases left.adds with ⟨first, firstAdds⟩
    rcases right.adds with ⟨second, secondAdds⟩
    have free {entry : Slot × Value} (member : entry ∈ second) :
        first.lookup entry.1 = none ∧ before.cache.peek? entry.1 = none := by
      have absent := secondAdds.absent entry member
      rw [firstAdds.peek?] at absent
      exact Option.or_eq_none_iff.mp absent
    refine ⟨second ++ first, ?_, ?_, ?_, ?_, ?_⟩
    · rw [secondAdds.entries, firstAdds.entries, List.append_assoc]
    · rw [secondAdds.stores, firstAdds.stores, List.length_append]
      omega
    · intro entry member
      rcases List.mem_append.mp member with new | old
      · exact (free new).2
      · exact firstAdds.absent entry old
    · intro entry member
      rcases List.mem_append.mp member with new | old
      · exact secondAdds.allowed entry new
      · exact firstAdds.allowed entry old
    · rw [List.map_append, List.nodup_append]
      refine ⟨secondAdds.distinct, firstAdds.distinct, ?_⟩
      intro newSlot new oldSlot old same
      rcases List.mem_map.mp new with ⟨newEntry, newMember, rfl⟩
      rcases List.mem_map.mp old with ⟨oldEntry, oldMember, rfl⟩
      have different := List.lookup_eq_none_iff.mp (free newMember).1 oldEntry oldMember
      exact bne_iff_ne.mp different same

theorem mono {other : AggregateKey → Prop} (grows : before.Grows may after)
    (implies : ∀ key, may key → other key) : before.Grows other after where
  data := grows.data
  program := grows.program
  adds := by
    rcases grows.adds with ⟨added, adds⟩
    refine ⟨added, adds.entries, adds.stores, adds.absent, ?_, adds.distinct⟩
    intro entry member
    rcases adds.allowed entry member with ⟨key, equal, permitted⟩
    exact ⟨key, equal, implies key permitted⟩

theorem store {run : Run} {key : AggregateKey} {value : Value} (permitted : may key)
    (free : run.cache.peek? (.aggregate key) = none) :
    run.Grows may { run with cache := run.cache.store (.aggregate key) value } where
  data := rfl
  program := id
  adds := by
    refine ⟨[(.aggregate key, value)], ?_, rfl, ?_, ?_, List.pairwise_singleton _ _⟩
    · rw [Cache.store, Cache.without_of_peek?_eq_none free]
      rfl
    · intro entry member
      cases List.mem_singleton.mp member
      exact free
    · intro entry member
      cases List.mem_singleton.mp member
      exact ⟨key, rfl, permitted⟩

end Run.Grows

/-! ## Evaluation -/

namespace Evaluate

/-- Whether an action does nothing to a cache but add values of aggregates whose keys may be
added. -/
def GrowsBy (may : AggregateKey → Prop) (action : Evaluate α) : Prop :=
  ∀ run : Run, run.data.SharesByScope → run.Grows may (action.run run).2

variable {may : AggregateKey → Prop}

theorem growsBy_pure (value : α) : GrowsBy may (pure value) :=
  fun run _ => .refl run

theorem growsBy_throw (error : EvaluationError) : GrowsBy may (throw error : Evaluate α) :=
  fun run _ => .refl run

theorem growsBy_operator (result : Except OperatorError Value) : GrowsBy may (operator result) := by
  intro run _
  rw [run_operator]
  exact .refl run

theorem growsBy_conversion (result : Except CoercionError α) :
    GrowsBy may (conversion result) := by
  intro run _
  rw [run_conversion]
  exact .refl run

theorem growsBy_ofResult (result : Except EvaluationError α) : GrowsBy may (ofResult result) := by
  intro run _
  rw [run_ofResult]
  exact .refl run

theorem growsBy_read (row : RowId) (column : Nat) : GrowsBy may (read row column) := by
  intro run _
  rw [run_read]
  exact .of_alike ⟨rfl, rfl, rfl, id⟩

theorem GrowsBy.bind {action : Evaluate α} {next : α → Evaluate β} (first : GrowsBy may action)
    (second : ∀ value, GrowsBy may (next value)) : GrowsBy may (action >>= next) := by
  intro run shares
  have grows := first run shares
  rw [run_bind]
  rcases equal : action.run run with ⟨_ | value, after⟩
  · rw [equal] at grows
    exact grows
  · rw [equal] at grows
    have stillShares : after.data.SharesByScope := grows.data ▸ shares
    exact grows.trans (second value after stillShares)

theorem GrowsBy.mono {other : AggregateKey → Prop} {action : Evaluate α}
    (grows : GrowsBy may action) (implies : ∀ key, may key → other key) : GrowsBy other action :=
  fun run shares => (grows run shares).mono implies

theorem growsBy_foldlM {step : β → RowId → Evaluate β}
    (each : ∀ state row, GrowsBy may (step state row)) (rows : List RowId) (state : β) :
    GrowsBy may (rows.foldlM step state) := by
  induction rows generalizing state with
  | nil => exact growsBy_pure state
  | cons row rest induction =>
      rw [List.foldlM_cons]
      exact (each state row).bind induction

end Evaluate

namespace Aggregate

open Evaluate

variable {may inside : AggregateKey → Prop} {inner : RowId → Evaluate Value}

theorem growsBy_reduce (each : ∀ row, GrowsBy may (inner row)) (function : AggregateFunction)
    (rows : List RowId) : GrowsBy may (reduce function inner rows) := by
  rw [reduce_eq]
  refine (growsBy_foldlM ?_ rows function.reduction.start).bind fun state => growsBy_pure _
  intro state row
  exact (each row).bind fun item => growsBy_ofResult _

theorem growsBy_evaluate (each : ∀ row, GrowsBy inside (inner row)) {key : AggregateKey}
    {scope : Scope} (own : ¬inside key) (implies : ∀ key, inside key → may key)
    (permitted : scope.isShared = true → may key) (engine : Engine)
    (function : AggregateFunction) (row? : Option RowId) :
    GrowsBy may (evaluate engine function inner scope key row?) := by
  intro run shares
  rw [run_evaluate]
  cases binds : run.bindTo engine.program.id with
  | error error => exact .refl run
  | ok bound =>
      have boundAlike := (Run.alike_bindTo binds).1
      dsimp only
      cases covers : bound.data.extent? scope row? with
      | none => exact .of_alike boundAlike
      | some extent =>
          have searchedAlike := bound.alike_searched engine key
          have searchedGrows : run.Grows may (engine.searched bound key) :=
            (Run.Grows.of_alike boundAlike).trans (.of_alike searchedAlike)
          have boundShares : bound.data.SharesByScope := boundAlike.data ▸ shares
          have searchedShares : (engine.searched bound key).data.SharesByScope :=
            searchedAlike.data ▸ boundShares
          have reduced := growsBy_reduce each function extent.rows _ searchedShares
          dsimp only
          cases held : engine.kept? bound key with
          | some value => exact searchedGrows
          | none =>
              dsimp only
              rcases equal : (reduce function inner extent.rows).run (engine.searched bound key)
                with ⟨_ | value, after⟩ <;> rw [equal] at reduced
              · exact searchedGrows.trans (reduced.mono implies)
              · rw [Engine.settle]
                split
                · rename_i keeps
                  -- What lies inside has other keys, so the slot is as free as it was before.
                  rcases Bool.and_eq_true_iff.mp keeps with ⟨caching, cacheable⟩
                  rw [boundShares covers] at cacheable
                  rw [Engine.kept?, if_pos caching, ← searchedAlike.peek?_eq] at held
                  exact (searchedGrows.trans (reduced.mono implies)).trans
                    (.store (permitted cacheable) (reduced.absent own held))
                · exact searchedGrows.trans (reduced.mono implies)

end Aggregate

/-! ## Nodes -/

namespace Expression.Builder

open Evaluate

def MayKeep (builder : Builder) (key : AggregateKey) : Prop :=
  ∃ (id : NodeId) (function : AggregateFunction) (inner : NodeId) (scope : Scope) (kind : Kind),
    builder.nodes[id]? = some (.aggregate function inner scope key kind) ∧ scope.isShared = true

theorem Valid.growsBy_evaluateTree {builder : Builder} (valid : builder.Valid) (engine : Engine)
    (id : NodeId) (row? : Option RowId) :
    (engine.evaluateTree (builder.tree id) row?).GrowsBy fun key =>
      key ∈ (builder.tree id).keys ∧ builder.MayKeep key := by
  induction id using valid.node_induction generalizing row? with
  | unknown id absent =>
      rw [tree_of_absent absent]
      exact growsBy_throw _
  | literal id value kind found =>
      rw [valid.tree_eq found]
      exact growsBy_pure value
  | field id column kind found =>
      rw [valid.tree_eq found]
      cases row? with
      | none => exact growsBy_pure Value.null
      | some row => exact (growsBy_read row column).bind fun value => growsBy_conversion _
  | unary id operator operand found induction =>
      rw [valid.tree_eq found]
      exact (induction row?).bind fun value => growsBy_operator _
  | binary id operator left right found leftInduction rightInduction =>
      rw [valid.tree_eq found]
      have leftGrows := (leftInduction row?).mono fun key inLeft =>
        And.intro (List.mem_append_left (builder.tree right).keys inLeft.1) inLeft.2
      have rightGrows := (rightInduction row?).mono fun key inRight =>
        And.intro (List.mem_append_right (builder.tree left).keys inRight.1) inRight.2
      exact leftGrows.bind fun leftValue =>
        rightGrows.bind fun rightValue => growsBy_operator _
  | aggregate id function inner scope key kind found induction =>
      rcases valid.node found with ⟨_, _, _, inside⟩
      rw [valid.tree_eq found]
      apply Aggregate.growsBy_evaluate (fun row => induction (some row))
      · intro own
        exact Nat.lt_irrefl key (inside key own.1)
      · intro other within
        exact ⟨List.mem_cons_of_mem key within.1, within.2⟩
      · intro shared
        exact ⟨List.mem_cons_self, id, function, inner, scope, kind, found, shared⟩

end Expression.Builder

end GroupedReport
