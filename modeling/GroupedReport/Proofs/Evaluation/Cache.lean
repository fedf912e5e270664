import GroupedReport.Evaluation.Run

/-!
# What a cache holds

Storing a value changes one slot, and dropping values leaves the others as they are. Looking for a
value only counts.
-/

namespace GroupedReport

namespace Cache

theorem lookup_without (slot other : Slot) (entries : List (Slot × Value)) :
    (without slot entries).lookup other = if other = slot then none else entries.lookup other := by
  induction entries with
  | nil =>
      rw [without, List.filter_nil, List.lookup_nil]
      split <;> rfl
  | cons entry rest induction =>
      rw [without] at induction ⊢
      rcases entry with ⟨held, value⟩
      by_cases dropped : held = slot
      · rw [List.filter_cons_of_neg (by simp [dropped]), induction, List.lookup_cons, dropped]
        by_cases same : other = slot
        · rw [if_pos same, if_pos same]
        · rw [if_neg same, if_neg same, beq_eq_false_iff_ne.mpr same]
      · rw [List.filter_cons_of_pos (by simp [dropped]), List.lookup_cons, List.lookup_cons,
          induction]
        by_cases same : other = slot
        · have different : (other == held) = false := by
            rw [same]
            exact beq_eq_false_iff_ne.mpr (Ne.symm dropped)
          rw [if_pos same, if_pos same, different]
        · rw [if_neg same, if_neg same]

theorem without_of_peek?_eq_none {cache : Cache} {slot : Slot}
    (absent : cache.peek? slot = none) : without slot cache.entries = cache.entries := by
  rw [without, List.filter_eq_self]
  intro entry member
  have different := List.lookup_eq_none_iff.mp absent entry member
  rw [bne, Bool.beq_comm, Bool.not_eq_true']
  exact beq_eq_false_iff_ne.mpr fun same => by simp [same] at different

theorem peek?_store_of_ne {cache : Cache} {slot other : Slot} {value : Value}
    (different : other ≠ slot) : (cache.store slot value).peek? other = cache.peek? other := by
  rw [peek?, store, List.lookup_cons, beq_eq_false_iff_ne.mpr different]
  exact (lookup_without slot other cache.entries).trans (if_neg different)

@[simp] theorem entries_get? (cache : Cache) (slot : Slot) :
    (cache.get? slot).2.entries = cache.entries := by
  rw [get?]
  split <;> rfl

@[simp] theorem stores_get? (cache : Cache) (slot : Slot) :
    (cache.get? slot).2.stats.stores = cache.stats.stores := by
  rw [get?]
  split <;> rfl

theorem peek?_drop (cache : Cache) (slot other : Slot) :
    (cache.drop slot).peek? other = if other = slot then none else cache.peek? other := by
  rw [drop]
  split
  · exact lookup_without slot other cache.entries
  · rename_i absent
    split
    · rename_i same
      rw [same]
      exact Option.not_isSome_iff_eq_none.mp absent
    · rfl

end Cache

namespace Run

theorem peek?_invalidate (run : Run) (key : Expression.AggregateKey) (slot : Slot) :
    (run.invalidate key).cache.peek? slot =
      if slot = .aggregate key then none else run.cache.peek? slot :=
  Cache.peek?_drop run.cache (.aggregate key) slot

theorem peek?_cross (run : Run) (boundary : Boundary) (slot : Slot) :
    (run.cross boundary).cache.peek? slot =
      if slot ∈ boundary.keys.map Slot.aggregate then none else run.cache.peek? slot := by
  rw [cross]
  generalize boundary.keys = keys
  induction keys generalizing run with
  | nil => rw [List.foldl_nil, List.map_nil, if_neg List.not_mem_nil]
  | cons key rest induction =>
      rw [List.foldl_cons, induction, peek?_invalidate, List.map_cons]
      by_cases first : slot = .aggregate key
      · rw [if_pos first, if_pos (List.mem_cons.mpr (.inl first))]
        split <;> rfl
      · rw [if_neg first]
        by_cases inRest : slot ∈ rest.map Slot.aggregate
        · rw [if_pos inRest, if_pos (List.mem_cons_of_mem _ inRest)]
        · rw [if_neg inRest, if_neg]
          intro member
          exact (List.mem_cons.mp member).elim first inRest

theorem cross_keeps (property : Run → Prop)
    (each : ∀ run key, property run → property (run.invalidate key)) (boundary : Boundary)
    {run : Run} (start : property run) : property (run.cross boundary) :=
  List.foldlRecOn boundary.keys Run.invalidate start fun run kept key _ => each run key kept

theorem data_cross (run : Run) (boundary : Boundary) : (run.cross boundary).data = run.data :=
  cross_keeps (fun other => other.data = run.data) (fun _ _ same => same) boundary rfl

theorem program?_cross (run : Run) (boundary : Boundary) :
    (run.cross boundary).program? = run.program? :=
  cross_keeps (fun other => other.program? = run.program?) (fun _ _ same => same) boundary rfl

end Run

end GroupedReport
