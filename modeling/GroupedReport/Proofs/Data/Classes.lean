import GroupedReport.Proofs.Data.Calls
import GroupedReport.Proofs.Data.Scope
import Mathlib.Data.List.Sort

/-!
# Scopes are classes of rows

From every row that a scope covers, the scope covers the same rows. Groups have this from the
partition that their grouping is, and the cells of two groups have it from both groupings.
-/

namespace GroupedReport

/-- Whether rows are the class of one of them among the first rows: an increasing list, which is
seen from each row in it. -/
structure IsClassOf (count : Nat) (seen? : RowId → Option (List RowId)) (row : RowId)
    (rows : List RowId) : Prop where
  increasing : rows.Pairwise (· < ·)
  known : ∀ other ∈ rows, other < count
  own : row ∈ rows
  shared : ∀ other ∈ rows, seen? other = some rows

namespace IsClassOf

theorem range {count : Nat} {row : RowId} (present : row < count) :
    IsClassOf count (fun _ => some (List.range count)) row (List.range count) where
  increasing := List.pairwise_lt_range
  known _ := List.mem_range.mp
  own := List.mem_range.mpr present
  shared _ _ := rfl

theorem filter {count : Nat} {first? second? : RowId → Option (List RowId)} {row : RowId}
    {first second : List RowId} (firstClass : IsClassOf count first? row first)
    (secondClass : IsClassOf count second? row second) :
    IsClassOf count
      (fun other => do
        let first ← first? other
        let second ← second? other
        some (first.filter second.contains))
      row (first.filter second.contains) where
  increasing := firstClass.increasing.filter _
  known other member := firstClass.known other (List.mem_filter.mp member).1
  own := List.mem_filter.mpr ⟨firstClass.own, List.contains_iff_mem.mpr secondClass.own⟩
  shared other member := by
    rcases List.mem_filter.mp member with ⟨inFirst, inSecond⟩
    rw [firstClass.shared other inFirst,
      secondClass.shared other (List.contains_iff_mem.mp inSecond)]
    rfl

end IsClassOf

theorem filter_contains_comm {first second : List RowId} (firstIncreasing : first.Pairwise (· < ·))
    (secondIncreasing : second.Pairwise (· < ·)) :
    first.filter second.contains = second.filter first.contains := by
  apply (firstIncreasing.filter _).eq_of_mem_iff (secondIncreasing.filter _)
  intro row
  rw [List.mem_filter, List.mem_filter, List.contains_iff_mem, List.contains_iff_mem, and_comm]

theorem Grouping.Partitions.isClassOf_rowsOf? {grouping : Grouping} {rows : List (List Value)}
    (partitions : grouping.Partitions rows) {row : RowId} {inGroup : List RowId}
    (found : grouping.rowsOf? row = some inGroup) :
    IsClassOf rows.length grouping.rowsOf? row inGroup := by
  have known := partitions.lt_of_rowsOf? found
  rcases Option.bind_eq_some_iff.mp found with ⟨index, assigned, found⟩
  rcases Option.bind_eq_some_iff.mp found with ⟨group, isGroup, equal⟩
  cases equal
  have own : row ∈ group.rows := by
    rcases partitions.agrees.mp assigned with ⟨other, isOther, member⟩
    cases Option.some.inj (isGroup.symm.trans isOther)
    exact member
  have shared : ∀ other ∈ group.rows, grouping.rowsOf? other = some group.rows := by
    intro other member
    rw [Grouping.rowsOf?, partitions.agrees.mpr ⟨group, isGroup, member⟩, Option.bind_eq_bind,
      Option.bind_some, isGroup]
    rfl
  exact ⟨partitions.increasing group (List.mem_of_getElem? isGroup), known, own, shared⟩

namespace DataSet

/-- The rows that a scope covers, as seen from a row. -/
def rowsIn? (dataSet : DataSet) : Scope → RowId → Option (List RowId)
  | .default, row =>
      match dataSet.innermost? with
      | some grouping => grouping.rowsOf? row
      | none => some dataSet.allRows
  | .dataSet name, _ =>
      if Text.sameIgnoringCase dataSet.name name then some dataSet.allRows else none
  | .group name, row => dataSet.rowsOf? name row
  | .cell rowGroup columnGroup, row => do
      let across ← dataSet.rowsOf? rowGroup row
      let down ← dataSet.rowsOf? columnGroup row
      some (across.filter down.contains)

theorem extent?_eq_map_rowsIn? (dataSet : DataSet) (scope : Scope) (row : RowId) :
    dataSet.extent? scope (some row) =
      (dataSet.rowsIn? scope row).map fun rows => ⟨rows, scope.isShared⟩ := by
  unfold extent? rowsIn?
  cases scope with
  | default =>
      cases dataSet.innermost? with
      | none => rfl
      | some grouping => rfl
  | dataSet name =>
      dsimp only
      split
      · rfl
      · rfl
  | group name => rfl
  | cell rowGroup columnGroup =>
      dsimp only
      rw [Option.bind_eq_bind, Option.bind_some]
      cases dataSet.rowsOf? rowGroup row with
      | none => rfl
      | some across =>
          cases dataSet.rowsOf? columnGroup row with
          | none => rfl
          | some down => rfl

section

variable {dataSet : DataSet}
  (partitions : ∀ entry ∈ dataSet.groupings, entry.2.Partitions dataSet.rows)
include partitions

theorem isClassOf_rowsOf? {name : String} {row : RowId} {rows : List RowId}
    (found : dataSet.rowsOf? name row = some rows) :
    IsClassOf dataSet.rows.length (dataSet.rowsOf? name) row rows := by
  rcases Option.bind_eq_some_iff.mp found with ⟨grouping, isFound, found⟩
  have look : dataSet.rowsOf? name = grouping.rowsOf? := by
    funext other
    rw [rowsOf?, isFound, Option.bind_some]
  rcases Option.map_eq_some_iff.mp isFound with ⟨entry, first, rfl⟩
  rw [look]
  exact (partitions entry (List.mem_of_find?_eq_some first)).isClassOf_rowsOf? found

theorem isClassOf_rowsIn? {scope : Scope} {row : RowId} (present : row < dataSet.rows.length)
    {rows : List RowId} (covers : dataSet.rowsIn? scope row = some rows) :
    IsClassOf dataSet.rows.length (dataSet.rowsIn? scope) row rows := by
  unfold rowsIn? at covers ⊢
  cases scope with
  | default =>
      dsimp only at covers ⊢
      cases innermost : dataSet.innermost? with
      | none =>
          rw [innermost] at covers
          cases covers
          exact .range present
      | some grouping =>
          rw [innermost] at covers
          rcases Option.map_eq_some_iff.mp innermost with ⟨entry, last, rfl⟩
          exact (partitions entry (List.mem_of_getLast? last)).isClassOf_rowsOf? covers
  | dataSet name =>
      dsimp only at covers ⊢
      split at covers
      · rename_i named
        cases covers
        rw [if_pos named]
        exact .range present
      · cases covers
  | group name => exact isClassOf_rowsOf? partitions covers
  | cell rowGroup columnGroup =>
      rcases Option.bind_eq_some_iff.mp covers with ⟨across, acrossFound, covers⟩
      rcases Option.bind_eq_some_iff.mp covers with ⟨down, downFound, equal⟩
      cases equal
      exact (isClassOf_rowsOf? partitions acrossFound).filter
        (isClassOf_rowsOf? partitions downFound)

theorem rowsIn?_cell_comm (rowGroup columnGroup : String) (row : RowId) :
    dataSet.rowsIn? (.cell rowGroup columnGroup) row =
      dataSet.rowsIn? (.cell columnGroup rowGroup) row := by
  rw [rowsIn?, rowsIn?]
  cases acrossFound : dataSet.rowsOf? rowGroup row with
  | none =>
      cases dataSet.rowsOf? columnGroup row with
      | none => rfl
      | some down => rfl
  | some across =>
      cases downFound : dataSet.rowsOf? columnGroup row with
      | none => rfl
      | some down =>
          exact congrArg some (filter_contains_comm
            (isClassOf_rowsOf? partitions acrossFound).increasing
            (isClassOf_rowsOf? partitions downFound).increasing)

end

/-- Whatever the calls that a data set is made by, a scope that covers rows as seen from one of
the rows covers a class of rows: increasing rows of the data set, the row itself among them, from
each of which it has the same extent. A cell covers what its two groups have in common. -/
theorem scopes_cover_classes (name : String) (columns : List String) (calls : List Call)
    {scope : Scope} {row : RowId} {extent : Extent} :
    let dataSet := performAll { name, columns } calls
    row < dataSet.rows.length → dataSet.extent? scope (some row) = some extent →
      extent.rows.Pairwise (· < ·) ∧
      (∀ other ∈ extent.rows, other < dataSet.rows.length) ∧
      row ∈ extent.rows ∧
      (∀ other ∈ extent.rows, dataSet.extent? scope (some other) = some extent) ∧
      ∀ {rowGroup columnGroup : String}, scope = .cell rowGroup columnGroup →
        (∃ across down,
          dataSet.extent? (.group rowGroup) (some row) = some across ∧
          dataSet.extent? (.group columnGroup) (some row) = some down ∧
          ∀ other, other ∈ extent.rows ↔ other ∈ across.rows ∧ other ∈ down.rows) ∧
        dataSet.extent? (.cell columnGroup rowGroup) (some row) = some extent := by
  intro dataSet present covers
  have partitions : ∀ entry ∈ dataSet.groupings, entry.2.Partitions dataSet.rows :=
    partitions_performAll name columns calls
  rw [extent?_eq_map_rowsIn?] at covers
  rcases Option.map_eq_some_iff.mp covers with ⟨rows, found, rfl⟩
  have isClass := isClassOf_rowsIn? partitions present found
  refine ⟨isClass.increasing, isClass.known, isClass.own, ?_, ?_⟩
  · intro other member
    rw [extent?_eq_map_rowsIn?, isClass.shared other member, Option.map_some]
  · rintro rowGroup columnGroup rfl
    constructor
    · rcases Option.bind_eq_some_iff.mp found with ⟨across, acrossFound, found⟩
      rcases Option.bind_eq_some_iff.mp found with ⟨down, downFound, equal⟩
      cases equal
      refine ⟨⟨across, true⟩, ⟨down, true⟩, ?_, ?_, ?_⟩
      · rw [extent?, Option.bind_some, acrossFound, Option.map_some]
      · rw [extent?, Option.bind_some, downFound, Option.map_some]
      · intro other
        rw [List.mem_filter, List.contains_iff_mem]
    · rw [extent?_eq_map_rowsIn?, ← rowsIn?_cell_comm partitions, found, Option.map_some]
      rfl

def regionsByQuarter : List Call :=
  [.groupBy "Region" [0], .pushRow [.string "north", .int32 1],
    .pushRow [.string "south", .int32 1], .groupBy "Quarter" [1],
    .pushRow [.string "north", .int32 2], .pushRow [.string "north", .int32 1]]

/-- The first row shares its region and quarter with the last one. -/
theorem scopes_cover_classes_regionsByQuarter :
    let dataSet := performAll { name := "Sales", columns := ["Region", "Quarter"] } regionsByQuarter
    dataSet.extent? (.cell "region" "Quarter") (some 0) = some ⟨[0, 3], false⟩ ∧
    dataSet.extent? (.cell "Quarter" "region") (some 0) = some ⟨[0, 3], false⟩ := by
  intro dataSet
  have covers : dataSet.extent? (.cell "region" "Quarter") (some 0) = some ⟨[0, 3], false⟩ := by
    rfl
  rcases scopes_cover_classes "Sales" ["Region", "Quarter"] regionsByQuarter (by decide) covers with
    ⟨_, _, _, _, cell⟩
  exact ⟨covers, (cell rfl).2⟩

end DataSet

end GroupedReport
