import GroupedReport.Proofs.Data.Calls

/-!
# Groupings enclose those behind them

A grouping begins with the columns of the innermost one and is put behind it. So every grouping
encloses those behind it, as long as no name is declared again but that of the innermost one: a
grouping that takes the place of an outer one has the columns of those that it ought to enclose.
-/

namespace GroupedReport

namespace DataSet

/-- Whether names are declared from the outside to the inside: a name is declared again only right
behind itself. -/
def DeclaredInwards (names : List String) : Prop :=
  ∀ position, (below : position < names.length) → names[position] ∈ names.take position →
    (names.take position).getLast? = some names[position]

instance (names : List String) : Decidable (DeclaredInwards names) :=
  inferInstanceAs (Decidable (∀ position, (below : position < names.length) → _ → _))

/-- What holds of the groupings of a data set whose names are declared from the outside to the
inside. -/
structure Layered (dataSet : DataSet) : Prop where
  distinct : dataSet.groupNames.Nodup
  columns : dataSet.groupings.Pairwise fun outer inner => outer.2.columns <+: inner.2.columns

theorem declaredInwards_concat {names : List String} {name : String}
    (inwards : DeclaredInwards (names ++ [name])) :
    DeclaredInwards names ∧ (name ∈ names → names.getLast? = some name) := by
  constructor
  · intro position below
    have known : position < (names ++ [name]).length := by
      rw [List.length_append]
      exact Nat.lt_add_right 1 below
    have first := inwards position known
    rw [List.getElem_append_left below, List.take_append_of_le_length (Nat.le_of_lt below)] at first
    exact first
  · have known : names.length < (names ++ [name]).length := by simp
    have last := inwards names.length known
    rw [List.getElem_concat_length rfl, List.take_left] at last
    exact last

/-! ## One declaration -/

theorem prefix_innermost {dataSet : DataSet}
    (columns : dataSet.groupings.Pairwise fun outer inner => outer.2.columns <+: inner.2.columns) :
    ∀ entry ∈ dataSet.groupings, ∀ innermost, dataSet.innermost? = some innermost →
      entry.2.columns <+: innermost.columns := by
  intro entry member innermost isInnermost
  rcases List.eq_nil_or_concat dataSet.groupings with none | ⟨outer, last, equal⟩
  · rw [none] at member
    cases member
  · rw [List.concat_eq_append] at equal
    rw [innermost?_concat equal] at isInnermost
    cases isInnermost
    rw [equal] at member columns
    rcases List.mem_append.mp member with isOuter | isLast
    · exact (List.pairwise_append.mp columns).2.2 entry isOuter last (List.mem_singleton_self _)
    · rw [List.mem_singleton.mp isLast]

section

variable {dataSet : DataSet} (layered : dataSet.Layered)
include layered

/-- A grouping is put behind all others, or behind all others but the innermost one. -/
theorem Layered.putGrouping_eq {name : String}
    (inwards : name ∈ dataSet.groupNames → dataSet.groupNames.getLast? = some name) :
    ∃ kept, kept <+: dataSet.groupings ∧ name ∉ kept.map Prod.fst ∧
      ∀ grouping, putGrouping name grouping dataSet.groupings = kept ++ [(name, grouping)] := by
  by_cases declared : name ∈ dataSet.groupNames
  · rcases List.eq_nil_or_concat dataSet.groupings with none | ⟨outer, innermost, equal⟩
    · rw [groupNames, none] at declared
      cases declared
    · rw [List.concat_eq_append] at equal
      have distinct := layered.distinct
      have last := inwards declared
      rw [groupNames, equal, List.map_append, List.map_singleton] at distinct last
      rw [List.getLast?_concat] at last
      cases last
      have new : innermost.1 ∉ outer.map Prod.fst := by
        intro member
        exact (List.nodup_append.mp distinct).2.2 _ member _ (List.mem_singleton_self _) rfl
      refine ⟨outer, ⟨[innermost], equal.symm⟩, new, ?_⟩
      intro grouping
      rw [equal, putGrouping_append new, putGrouping, if_pos rfl]
  · exact ⟨dataSet.groupings, List.prefix_rfl, declared, putGrouping_of_not_mem declared⟩

theorem Layered.groupBy {name : String}
    (inwards : name ∈ dataSet.groupNames → dataSet.groupNames.getLast? = some name)
    (columns : List Nat) :
    (dataSet.groupBy name columns).Layered ∧
      (dataSet.groupBy name columns).groupNames.getLast? = some name := by
  have around : ∀ entry ∈ dataSet.groupings, entry.2.columns <+:
      (dataSet.innermost?.map Grouping.columns).getD [] :=
    fun _ => prefix_getD (prefix_innermost layered.columns)
  rcases layered.putGrouping_eq inwards with ⟨kept, ⟨rest, all⟩, new, equal⟩
  have distinct := layered.distinct
  have nested := layered.columns
  rw [groupNames, ← all, List.map_append] at distinct
  rw [← all] at nested
  rw [DataSet.groupBy, equal]
  generalize (dataSet.innermost?.map Grouping.columns).getD [] = enclosing at around
  refine ⟨⟨?_, ?_⟩, ?_⟩
  · rw [groupNames, List.map_append, List.map_singleton]
    rw [← List.concat_eq_append]
    exact (List.nodup_append.mp distinct).1.concat new
  · apply List.pairwise_append.mpr
    refine ⟨(List.pairwise_append.mp nested).1, List.pairwise_singleton _ _, ?_⟩
    intro outer isOuter inner isInner
    cases List.mem_singleton.mp isInner
    rw [columns_assignFrom]
    have before : outer ∈ dataSet.groupings := by
      rw [← all]
      exact List.mem_append_left rest isOuter
    exact (around outer before).trans (List.prefix_append enclosing columns)
  · rw [groupNames, List.map_append, List.map_singleton, List.getLast?_concat]

end

/-! ## All declarations -/

theorem layered_declareAll (name : String) (columns : List String)
    {groupings : List (String × List Nat)}
    (inwards : DeclaredInwards (groupings.map Prod.fst)) :
    (declareAll { name, columns } groupings).Layered ∧
      (declareAll { name, columns } groupings).groupNames.getLast? =
        (groupings.map Prod.fst).getLast? := by
  induction groupings using List.reverseRecOn with
  | nil => exact ⟨⟨List.nodup_nil, List.Pairwise.nil⟩, rfl⟩
  | append_singleton rest grouping induction =>
      rw [List.map_append, List.map_singleton] at inwards
      rcases declaredInwards_concat inwards with ⟨restInwards, again⟩
      rcases induction restInwards with ⟨layered, last⟩
      have declared : grouping.1 ∈ (declareAll { name, columns } rest).groupNames →
          grouping.1 ∈ rest.map Prod.fst := by
        rw [groupNames_declareAll]
        exact List.mem_eraseDups.mp
      have next := layered.groupBy (fun member => last.trans (again (declared member))) grouping.2
      rw [declareAll, List.foldl_append, List.map_append, List.map_singleton,
        List.getLast?_concat]
      exact next

theorem assigned_performAll (name : String) (columns : List String) (calls : List Call) :
    ∀ entry ∈ (performAll { name, columns } calls).groupings,
      entry.2.Assigned (performAll { name, columns } calls).rows := by
  rw [performAll_eq]
  intro entry member
  rcases List.mem_map.mp member with ⟨_, _, rfl⟩
  exact (Grouping.assigned_nil _).assignFrom _

theorem pairwise_columns_performAll (name : String) (columns : List String) {calls : List Call}
    (inwards : DeclaredInwards ((calls.filterMap Call.grouping?).map Prod.fst)) :
    (performAll { name, columns } calls).groupings.Pairwise fun outer inner =>
      outer.2.columns <+: inner.2.columns := by
  have columnsEqual (columns : List Nat) (rows : List (List Value)) :
      (Grouping.ofRows columns rows).columns = columns :=
    columns_assignFrom { columns } 0 rows
  rw [performAll_eq, fill, List.pairwise_map]
  apply (layered_declareAll name columns inwards).1.columns.imp
  intro outer inner prefixed
  rw [columnsEqual, columnsEqual]
  exact prefixed

end DataSet

open DataSet in
/-- Where groupings are declared from the outside to the inside, rows that share a group share one
in every grouping before it. So the innermost group of a row says which group of every grouping the
row is in. -/
theorem groupings_are_nested (name : String) (columns : List String) {calls : List Call}
    (inwards : DeclaredInwards ((calls.filterMap Call.grouping?).map Prod.fst)) :
    let dataSet := performAll { name, columns } calls
    (dataSet.groupings.Pairwise fun outer inner => ∀ first second,
      inner.2.groupIndex? first = inner.2.groupIndex? second →
        outer.2.groupIndex? first = outer.2.groupIndex? second) ∧
    ∀ first second, dataSet.innermostIndex? first = dataSet.innermostIndex? second →
      ∀ entry ∈ dataSet.groupings, entry.2.groupIndex? first = entry.2.groupIndex? second := by
  intro dataSet
  have assigned := assigned_performAll name columns calls
  have prefixed := pairwise_columns_performAll name columns inwards
  have nested : dataSet.Nested := ⟨assigned, prefix_innermost prefixed⟩
  constructor
  · apply prefixed.imp_of_mem
    intro outer inner isOuter isInner begins first second together
    exact (assigned outer isOuter).groupIndex?_eq_of_columns (assigned inner isInner) begins
      together
  · intro first second together entry member
    exact nested.groupIndex?_eq together member

open DataSet in
/-- Sales of one city are in one region, even though cities were declared twice. -/
theorem cities_are_nested :
    let calls : List Call := [.groupBy "Regions" [0], .pushRow [.string "East", .string "Bonn"],
      .groupBy "Cities" [2], .groupBy "Cities" [1], .pushRow [.string "West", .string "Bonn"],
      .pushRow [.string "East", .string "Bonn"]]
    let dataSet := performAll { name := "Sales", columns := ["Region", "City", "Amount"] } calls
    DeclaredInwards ((calls.filterMap Call.grouping?).map Prod.fst) ∧
      dataSet.groupRows? "Cities" = some [[0, 2], [1]] ∧
      ∀ entry ∈ dataSet.groupings, entry.2.groupIndex? 0 = entry.2.groupIndex? 2 := by
  intro calls dataSet
  have inwards : DeclaredInwards ((calls.filterMap Call.grouping?).map Prod.fst) := by
    decide +kernel
  have together : dataSet.innermostIndex? 0 = dataSet.innermostIndex? 2 := by decide +kernel
  exact ⟨inwards, by decide +kernel,
    (groupings_are_nested "Sales" ["Region", "City", "Amount"] inwards).2 0 2 together⟩

open DataSet in
/-- A grouping that is declared again in front of others is not around them: sales of one city may
be in two groups of the grouping before it, and the innermost group of a row no longer says
which. -/
theorem redeclared_regions_part_cities :
    let dataSet := performAll { name := "Sales", columns := ["Region", "City", "Amount"] }
      [.groupBy "Regions" [0], .groupBy "Cities" [1], .groupBy "Regions" [2],
        .pushRow [.string "East", .string "Bonn", .int32 1],
        .pushRow [.string "East", .string "Bonn", .int32 2]]
    dataSet.groupNames = ["Regions", "Cities"] ∧
      dataSet.groupRows? "Cities" = some [[0, 1]] ∧
      dataSet.groupRows? "Regions" = some [[0], [1]] ∧
      dataSet.innermostIndex? 0 = dataSet.innermostIndex? 1 ∧
      ¬∀ entry ∈ dataSet.groupings, entry.2.groupIndex? 0 = entry.2.groupIndex? 1 := by
  decide +kernel

end GroupedReport
