import GroupedReport.Proofs.Data.Grouping
import GroupedReport.Proofs.Data.Scope
import GroupedReport.Proofs.Result

/-!
# Nested groupings

The columns of a grouping begin with those of the groupings around it. So rows of one innermost
group are together in every other group, and every scope looks the same from them, apart from the
cells of two groups.
-/

namespace GroupedReport

namespace DataSet

/-- What holds of the groupings of a data set: they have assigned its rows, and all of them have
columns that those of the innermost one begin with. -/
structure Nested (dataSet : DataSet) : Prop where
  assigned : ∀ entry ∈ dataSet.groupings, entry.2.Assigned dataSet.rows
  enclosing : ∀ entry ∈ dataSet.groupings, ∀ innermost, dataSet.innermost? = some innermost →
    entry.2.columns <+: innermost.columns

/-! ## Making data sets -/

theorem nested_empty (name : String) (columns : List String) : Nested { name, columns } where
  assigned entry member := by cases member
  enclosing entry member := by cases member

theorem putGrouping_append {name : String} {front : List (String × Grouping)}
    (new : name ∉ front.map Prod.fst) (grouping : Grouping) (rest : List (String × Grouping)) :
    putGrouping name grouping (front ++ rest) = front ++ putGrouping name grouping rest := by
  induction front with
  | nil => rfl
  | cons entry others induction =>
      rw [List.map_cons, List.mem_cons, not_or] at new
      rw [List.cons_append, putGrouping, if_neg (Ne.symm new.1), induction new.2,
        List.cons_append]

theorem putGrouping_of_not_mem {name : String} {groupings : List (String × Grouping)}
    (new : name ∉ groupings.map Prod.fst) (grouping : Grouping) :
    putGrouping name grouping groupings = groupings ++ [(name, grouping)] := by
  have put := putGrouping_append new grouping []
  rw [List.append_nil] at put
  exact put

theorem columns_assignFrom (grouping : Grouping) (row : RowId) (rows : List (List Value)) :
    (grouping.assignFrom row rows).columns = grouping.columns := by
  induction rows generalizing grouping row with
  | nil => rfl
  | cons values rest induction =>
      rw [Grouping.assignFrom, induction, Grouping.assign]
      split <;> rfl

theorem innermost?_concat {dataSet : DataSet} {name : String} {grouping : Grouping}
    {groupings : List (String × Grouping)}
    (equal : dataSet.groupings = groupings ++ [(name, grouping)]) :
    dataSet.innermost? = some grouping := by
  rw [innermost?, equal, List.getLast?_concat, Option.map_some]

theorem prefix_getD {dataSet : DataSet}
    (enclosing : ∀ entry ∈ dataSet.groupings, ∀ innermost, dataSet.innermost? = some innermost →
      entry.2.columns <+: innermost.columns)
    {entry : String × Grouping} (member : entry ∈ dataSet.groupings) :
    entry.2.columns <+: (dataSet.innermost?.map Grouping.columns).getD [] := by
  cases innermost : dataSet.innermost? with
  | some grouping => exact enclosing entry member grouping innermost
  | none =>
      rw [innermost?, Option.map_eq_none_iff, List.getLast?_eq_none_iff] at innermost
      rw [innermost] at member
      cases member

theorem Nested.groupBy {dataSet : DataSet} (nested : dataSet.Nested) {name : String}
    (new : name ∉ dataSet.groupNames) (columns : List Nat) :
    (dataSet.groupBy name columns).Nested := by
  have around : ∀ entry ∈ dataSet.groupings, entry.2.columns <+:
      (dataSet.innermost?.map Grouping.columns).getD [] :=
    fun _ => prefix_getD nested.enclosing
  rw [DataSet.groupBy]
  generalize (dataSet.innermost?.map Grouping.columns).getD [] = enclosing at around
  have assigned := (Grouping.assigned_nil (enclosing ++ columns)).assignFrom dataSet.rows
  have columnsEqual := columns_assignFrom { columns := enclosing ++ columns } 0 dataSet.rows
  rw [putGrouping_of_not_mem new]
  generalize Grouping.assignFrom { columns := enclosing ++ columns } 0 dataSet.rows = grouping
    at columnsEqual assigned
  constructor
  · intro entry member
    rcases List.mem_append.mp member with old | last
    · exact nested.assigned entry old
    · cases List.mem_singleton.mp last
      exact assigned
  · intro entry member innermost equal
    rw [innermost?_concat rfl] at equal
    cases equal
    rcases List.mem_append.mp member with old | last
    · rw [columnsEqual]
      exact (around entry old).trans (List.prefix_append enclosing columns)
    · cases List.mem_singleton.mp last
      exact List.prefix_rfl

theorem groupNames_groupBy {dataSet : DataSet} {name : String} (new : name ∉ dataSet.groupNames)
    (columns : List Nat) :
    (dataSet.groupBy name columns).groupNames = dataSet.groupNames ++ [name] := by
  rw [groupNames, groupBy, putGrouping_of_not_mem new, List.map_append]
  rfl

theorem Nested.groupByAll {dataSet : DataSet} (nested : dataSet.Nested)
    {groupings : List (String × List Nat)}
    (distinct : (dataSet.groupNames ++ groupings.map Prod.fst).Nodup) :
    (groupings.foldl (fun dataSet grouping => dataSet.groupBy grouping.1 grouping.2)
      dataSet).Nested := by
  induction groupings generalizing dataSet with
  | nil => exact nested
  | cons grouping rest induction =>
      have new : grouping.1 ∉ dataSet.groupNames := by
        intro member
        exact (List.nodup_append.mp distinct).2.2 _ member _ List.mem_cons_self rfl
      apply induction (nested.groupBy new grouping.2)
      rw [groupNames_groupBy new, List.append_assoc]
      exact distinct

theorem columns_assign (grouping : Grouping) (row : RowId) (values : List Value) :
    (grouping.assign row values).columns = grouping.columns :=
  columns_assignFrom grouping row [values]

theorem Nested.push {dataSet : DataSet} (nested : dataSet.Nested) (values : List Value) :
    (dataSet.push values).2.Nested := by
  rw [DataSet.push]
  split
  · exact nested
  · constructor
    · intro entry member
      rcases List.mem_map.mp member with ⟨before, old, rfl⟩
      exact (nested.assigned before old).assign values
    · intro entry member innermost equal
      rcases List.mem_map.mp member with ⟨before, old, rfl⟩
      rw [innermost?, List.getLast?_map, Option.map_map] at equal
      rcases Option.map_eq_some_iff.mp equal with ⟨last, isLast, rfl⟩
      have wasInnermost : dataSet.innermost? = some last.2 := by
        rw [innermost?, isLast, Option.map_some]
      have enclosing := nested.enclosing before old last.2 wasInnermost
      change (before.2.assign _ values).columns <+: (last.2.assign _ values).columns
      rw [columns_assign, columns_assign]
      exact enclosing

theorem push_of_pushRow {dataSet after : DataSet} {values : List Value}
    (pushed : dataSet.pushRow values = .ok after) : (dataSet.push values).2 = after := by
  rcases Result.map_eq_ok pushed with ⟨_, _, equal⟩
  exact equal.symm

theorem Nested.pushRows {dataSet after : DataSet} (nested : dataSet.Nested)
    {rows : List (List Value)} (pushed : dataSet.pushRows rows = .ok after) : after.Nested := by
  induction rows generalizing dataSet with
  | nil =>
      cases pushed
      exact nested
  | cons values rest induction =>
      rw [DataSet.pushRows] at pushed
      rcases Result.bind_eq_ok pushed with ⟨next, first, others⟩
      rw [← push_of_pushRow first] at others
      exact induction (nested.push values) others

end DataSet

/-! ## Where rows are together -/

theorem Grouping.Assigned.groupIndex?_eq_of_columns {outer inner : Grouping}
    {rows : List (List Value)} (outerAssigned : outer.Assigned rows)
    (innerAssigned : inner.Assigned rows) (columns : outer.columns <+: inner.columns)
    {first second : RowId} (together : inner.groupIndex? first = inner.groupIndex? second) :
    outer.groupIndex? first = outer.groupIndex? second := by
  have absent {grouping : Grouping} (assigned : grouping.Assigned rows) {row : RowId} :
      grouping.groupIndex? row = none ↔ rows[row]? = none := by
    rw [groupIndex?, List.getElem?_eq_none_iff, List.getElem?_eq_none_iff, assigned.length]
  cases firstFound : rows[first]? with
  | none =>
      have firstAbsent := (absent innerAssigned).mpr firstFound
      have secondFound := (absent innerAssigned).mp (together.symm.trans firstAbsent)
      rw [(absent outerAssigned).mpr firstFound, (absent outerAssigned).mpr secondFound]
  | some firstValues =>
      cases secondFound : rows[second]? with
      | none =>
          have secondAbsent := (absent innerAssigned).mpr secondFound
          have none := (absent innerAssigned).mp (together.trans secondAbsent)
          rw [firstFound] at none
          cases none
      | some secondValues =>
          rw [outerAssigned.groupIndex?_eq_iff firstFound secondFound]
          rcases innerAssigned.sameKey_of_groupIndex? firstFound secondFound together with
            same | equal
          · exact .inl same
          · rcases columns with ⟨more, columns⟩
            rw [key, key, ← columns, List.map_append, List.map_append] at equal
            refine .inr (Group.sameKey_of_append ?_ equal)
            rw [key, key, List.length_map, List.length_map]

namespace DataSet

section

variable {dataSet : DataSet} (nested : dataSet.Nested) {first second : RowId}
  (together : dataSet.innermostIndex? first = dataSet.innermostIndex? second)
include nested together

theorem Nested.groupIndex?_eq {entry : String × Grouping} (member : entry ∈ dataSet.groupings) :
    entry.2.groupIndex? first = entry.2.groupIndex? second := by
  cases last : dataSet.groupings.getLast? with
  | none =>
      rw [List.getLast?_eq_none_iff] at last
      rw [last] at member
      cases member
  | some innermost =>
      have isInnermost : dataSet.innermost? = some innermost.2 := by
        rw [innermost?, last, Option.map_some]
      have index (row : RowId) : dataSet.innermostIndex? row = innermost.2.groupIndex? row := by
        rw [innermostIndex?, isInnermost, Option.bind_some]
      rw [index, index] at together
      exact (nested.assigned entry member).groupIndex?_eq_of_columns
        (nested.assigned innermost (List.mem_of_getLast? last))
        (nested.enclosing entry member innermost.2 isInnermost) together

theorem Nested.rowsOf?_eq {entry : String × Grouping} (member : entry ∈ dataSet.groupings) :
    entry.2.rowsOf? first = entry.2.rowsOf? second := by
  rw [Grouping.rowsOf?, Grouping.rowsOf?, nested.groupIndex?_eq together member]

/-- A shared scope looks the same from rows of one innermost group. -/
theorem Nested.extent?_eq {scope : Scope} (shared : scope.isShared = true) :
    dataSet.extent? scope (some first) = dataSet.extent? scope (some second) := by
  cases scope with
  | cell => cases shared
  | dataSet name => rfl
  | default =>
      unfold extent?
      cases innermost : dataSet.innermost? with
      | none => rfl
      | some grouping =>
          rcases Option.map_eq_some_iff.mp innermost with ⟨entry, last, rfl⟩
          dsimp only
          rw [nested.rowsOf?_eq together (List.mem_of_getLast? last)]
  | group name =>
      rw [extent?, extent?, Option.bind_some, Option.bind_some, rowsOf?, rowsOf?, grouping?]
      cases found : dataSet.groupings.find? fun entry => Text.sameIgnoringCase entry.1 name with
      | none => rfl
      | some entry =>
          rw [Option.map_some, Option.bind_some, Option.bind_some,
            nested.rowsOf?_eq together (List.mem_of_find?_eq_some found)]

end

end DataSet

end GroupedReport
