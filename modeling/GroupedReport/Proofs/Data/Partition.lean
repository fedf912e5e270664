import GroupedReport.Proofs.Data.Grouping
import Mathlib.Data.List.Nodup

/-!
# Groups part the rows

Every row goes behind the rows that its group has already, and a new group goes behind all others.
So each group has the rows that are assigned to it, in their order, and the groups come in the
order of their first rows.
-/

namespace GroupedReport

/-! ## Keys that equal nothing -/

def Value.IsNotANumber (value : Value) : Prop :=
  ∃ number : Float, value = .float64 number ∧ number.isNaN = true

namespace Value

theorem not_same_of_isNotANumber {value : Value} (missing : value.IsNotANumber) (other : Value) :
    value.same other = false := by
  rcases missing with ⟨number, rfl, isNaN⟩
  rw [Bool.eq_false_iff]
  intro equal
  cases other <;> try exact Bool.noConfusion equal
  case float64 other =>
    rcases (Binary64.beq_iff number other).mp equal with ⟨_, isNumber, _⟩
    change (Binary64.unpacked number).isNaN = true at isNaN
    cases shape : Binary64.unpacked number <;> rw [shape] at isNumber isNaN
    case notANumber => cases isNumber
    all_goals cases isNaN

end Value

theorem Group.not_sameKey_of_isNotANumber {key : List Value} {value : Value}
    (member : value ∈ key) (missing : value.IsNotANumber) (other : List Value) :
    sameKey key other = false := by
  induction key generalizing other with
  | nil => cases member
  | cons first rest induction =>
      cases other with
      | nil => rfl
      | cons head others =>
          rw [sameKey, Bool.and_eq_false_iff]
          rcases List.mem_cons.mp member with rfl | inRest
          · exact .inl (Value.not_same_of_isNotANumber missing head)
          · exact .inr (induction inRest others)

namespace Grouping

/-! ## Groups in order -/

def members (grouping : Grouping) (index : Nat) : List RowId :=
  (List.range grouping.assignment.length).filter fun row =>
    grouping.groupIndex? row == some index

/-- What holds of the groups of a grouping: each has the rows that are assigned to it, and begins
before all rows of the groups behind it. -/
structure Ordered (grouping : Grouping) : Prop where
  rows {index : Nat} {group : Group} :
    grouping.groups[index]? = some group → group.rows = grouping.members index
  bound : ∀ index ∈ grouping.assignment, index < grouping.groups.length
  begins {earlier later : Nat} {group other : Group} : earlier < later →
    grouping.groups[earlier]? = some group → grouping.groups[later]? = some other →
      ∃ first, group.rows.head? = some first ∧ ∀ row ∈ other.rows, first < row

theorem mem_members {grouping : Grouping} {index : Nat} {row : RowId} :
    row ∈ grouping.members index ↔ grouping.groupIndex? row = some index := by
  rw [members, List.mem_filter, List.mem_range, beq_iff_eq, and_iff_right_iff_imp]
  intro assigned
  exact (List.getElem?_eq_some_iff.mp assigned).choose

theorem ordered_nil (columns : List Nat) : Ordered { columns } where
  rows found := by cases found
  bound index member := by cases member
  begins _ found := by cases found

section

variable {grouping : Grouping} (ordered : grouping.Ordered)

theorem members_concat {next : Grouping} {place : Nat}
    (assigned : next.assignment = grouping.assignment ++ [place]) (index : Nat) :
    next.members index = grouping.members index ++
      if place = index then [grouping.assignment.length] else [] := by
  rw [members, assigned, List.length_append, List.length_singleton, List.range_succ,
    List.filter_append]
  congr 1
  · apply List.filter_congr
    intro row member
    rw [groupIndex?, groupIndex?, assigned,
      List.getElem?_append_left (List.mem_range.mp member)]
  · rw [List.filter_singleton, groupIndex?, assigned, List.getElem?_concat_length]
    by_cases same : place = index
    · simp [same]
    · rw [if_neg same, beq_eq_false_iff_ne.mpr (fun equal => same (Option.some.inj equal)),
        cond_false]

include ordered

theorem Ordered.row_lt {index : Nat} {group : Group}
    (found : grouping.groups[index]? = some group) :
    ∀ row ∈ group.rows, row < grouping.assignment.length := by
  intro row member
  rw [ordered.rows found] at member
  exact List.mem_range.mp (List.mem_filter.mp member).1

theorem Ordered.assign_found {place : Nat} (below : place < grouping.groups.length) :
    Ordered
      { grouping with
        groups := grouping.groups.modify place (Group.add grouping.assignment.length)
        assignment := grouping.assignment ++ [place] } where
  rows {index group} equal := by
    rw [List.getElem?_modify] at equal
    rcases Option.map_eq_some_iff.mp equal with ⟨before, beforeFound, rfl⟩
    rw [members_concat rfl, ← ordered.rows beforeFound]
    split
    · rfl
    · exact (List.append_nil before.rows).symm
  bound index member := by
    rw [List.length_modify]
    rcases List.mem_append.mp member with old | new
    · exact ordered.bound index old
    · cases List.mem_singleton.mp new
      exact below
  begins {earlier later group other} before groupEqual otherEqual := by
    rw [List.getElem?_modify] at groupEqual otherEqual
    rcases Option.map_eq_some_iff.mp groupEqual with ⟨oldGroup, groupFound, rfl⟩
    rcases Option.map_eq_some_iff.mp otherEqual with ⟨oldOther, otherFound, rfl⟩
    rcases ordered.begins before groupFound otherFound with ⟨first, head, least⟩
    have known : first < grouping.assignment.length :=
      ordered.row_lt groupFound first (List.mem_of_head? head)
    refine ⟨first, ?_, ?_⟩
    · split
      · rw [Group.add, List.head?_append, head, Option.some_or]
      · exact head
    · intro row member
      split at member
      · rcases List.mem_append.mp member with old | new
        · exact least row old
        · cases List.mem_singleton.mp new
          exact known
      · exact least row member

theorem Ordered.assign_missing (nonempty : ∀ group ∈ grouping.groups, group.rows ≠ [])
    (key : List Value) :
    Ordered
      { grouping with
        groups := grouping.groups ++ [⟨key, [grouping.assignment.length]⟩]
        assignment := grouping.assignment ++ [grouping.groups.length] } where
  rows {index group} equal := by
    rw [members_concat rfl]
    rcases eq_or_of_getElem?_concat equal with old | ⟨rfl, rfl⟩
    · have different : grouping.groups.length ≠ index :=
        Nat.ne_of_gt (List.getElem?_eq_some_iff.mp old).choose
      rw [if_neg different, List.append_nil]
      exact ordered.rows old
    · -- No row is assigned to the group yet.
      have none : grouping.members grouping.groups.length = [] := by
        apply List.eq_nil_iff_forall_not_mem.mpr
        intro row member
        exact Nat.lt_irrefl _ (ordered.bound _ (List.mem_of_getElem? (mem_members.mp member)))
      rw [none, if_pos rfl, List.nil_append]
  bound index member := by
    rw [List.length_append, List.length_singleton]
    rcases List.mem_append.mp member with old | new
    · exact Nat.lt_succ_of_lt (ordered.bound index old)
    · cases List.mem_singleton.mp new
      exact Nat.lt_succ_self _
  begins {earlier later group other} before groupEqual otherEqual := by
    have groupFound : grouping.groups[earlier]? = some group := by
      rcases eq_or_of_getElem?_concat groupEqual with old | ⟨rfl, _⟩
      · exact old
      · have bound := (List.getElem?_eq_some_iff.mp otherEqual).choose
        rw [List.length_append, List.length_singleton] at bound
        omega
    rcases eq_or_of_getElem?_concat otherEqual with old | ⟨rfl, rfl⟩
    · exact ordered.begins before groupFound old
    · rcases List.exists_cons_of_ne_nil (nonempty group (List.mem_of_getElem? groupFound)) with
        ⟨first, rest, equal⟩
      have isFirst : first ∈ group.rows := by
        rw [equal]
        exact List.mem_cons_self
      refine ⟨first, ?_, ?_⟩
      · rw [equal]
        rfl
      · intro row member
        cases List.mem_singleton.mp member
        exact ordered.row_lt groupFound first isFirst

theorem Ordered.assign (nonempty : ∀ group ∈ grouping.groups, group.rows ≠ [])
    (values : List Value) :
    (grouping.assign grouping.assignment.length values).Ordered := by
  rw [Grouping.assign]
  cases found : grouping.index? (grouping.key values) with
  | some place =>
      exact ordered.assign_found (List.findIdx?_eq_some_iff_getElem.mp found).choose
  | none => exact ordered.assign_missing nonempty _

end

theorem Ordered.assignFrom {grouping : Grouping} {rows : List (List Value)}
    (ordered : grouping.Ordered) (assigned : grouping.Assigned rows) (more : List (List Value)) :
    (grouping.assignFrom rows.length more).Ordered := by
  induction more generalizing grouping rows with
  | nil => exact ordered
  | cons values rest induction =>
      have next := ordered.assign assigned.rows_ne_nil values
      rw [assigned.length] at next
      have others := induction next (assigned.assign values)
      rw [List.length_append] at others
      exact others

/-! ## Partitions -/

/-- What it means that a grouping parts rows: its groups are increasing lists of rows, each row is
in the group that it is assigned to and in no other, and two rows are in one group if their keys
are equal. Groups are numbered in the order of their first rows. -/
structure Partitions (grouping : Grouping) (rows : List (List Value)) : Prop where
  nonempty : ∀ group ∈ grouping.groups, group.rows ≠ []
  increasing : ∀ group ∈ grouping.groups, group.rows.Pairwise (· < ·)
  covers : (grouping.groups.flatMap Group.rows).Perm (List.range rows.length)
  length : grouping.assignment.length = rows.length
  agrees {row : RowId} {index : Nat} : grouping.groupIndex? row = some index ↔
    ∃ group, grouping.groups[index]? = some group ∧ row ∈ group.rows
  together {first second : RowId} {firstValues secondValues : List Value} : first ≠ second →
    rows[first]? = some firstValues → rows[second]? = some secondValues →
      (grouping.groupIndex? first = grouping.groupIndex? second ↔
        Group.sameKey (grouping.key firstValues) (grouping.key secondValues) = true)
  alone {row : RowId} {values : List Value} : rows[row]? = some values →
    (∃ value ∈ grouping.key values, value.IsNotANumber) →
      ∃ group ∈ grouping.groups, group.rows = [row]
  begins {earlier later : Nat} {group other : Group} : earlier < later →
    grouping.groups[earlier]? = some group → grouping.groups[later]? = some other →
      ∃ first, group.rows.head? = some first ∧ ∀ row ∈ other.rows, first < row

section

variable {grouping : Grouping} {rows : List (List Value)} (ordered : grouping.Ordered)
include ordered

theorem Ordered.increasing : ∀ group ∈ grouping.groups, group.rows.Pairwise (· < ·) := by
  intro group member
  rcases List.getElem?_of_mem member with ⟨index, found⟩
  rw [ordered.rows found]
  exact List.pairwise_lt_range.filter _

theorem Ordered.groupIndex?_eq_some_iff {row : RowId} {index : Nat} :
    grouping.groupIndex? row = some index ↔
      ∃ group, grouping.groups[index]? = some group ∧ row ∈ group.rows := by
  constructor
  · intro assigned
    have below := ordered.bound index (List.mem_of_getElem? assigned)
    refine ⟨_, List.getElem?_eq_getElem below, ?_⟩
    rw [ordered.rows (List.getElem?_eq_getElem below)]
    exact mem_members.mpr assigned
  · rintro ⟨group, found, member⟩
    rw [ordered.rows found] at member
    exact mem_members.mp member

theorem Ordered.covers :
    (grouping.groups.flatMap Group.rows).Perm (List.range grouping.assignment.length) := by
  have apart : (grouping.groups.flatMap Group.rows).Nodup := by
    rw [List.nodup_flatMap]
    refine ⟨fun group member => (ordered.increasing group member).imp Nat.ne_of_lt, ?_⟩
    rw [List.pairwise_iff_getElem]
    intro earlier later earlierBelow laterBelow before row inEarlier inLater
    have first := ordered.groupIndex?_eq_some_iff.mpr
      ⟨_, List.getElem?_eq_getElem earlierBelow, inEarlier⟩
    have second := ordered.groupIndex?_eq_some_iff.mpr
      ⟨_, List.getElem?_eq_getElem laterBelow, inLater⟩
    rw [first] at second
    exact Nat.ne_of_lt before (Option.some.inj second)
  apply (List.perm_ext_iff_of_nodup apart List.nodup_range).mpr
  intro row
  rw [List.mem_flatMap, List.mem_range]
  constructor
  · rintro ⟨group, member, inGroup⟩
    rcases List.getElem?_of_mem member with ⟨index, found⟩
    exact ordered.row_lt found row inGroup
  · intro below
    rcases ordered.groupIndex?_eq_some_iff.mp (List.getElem?_eq_getElem below) with
      ⟨group, found, inGroup⟩
    exact ⟨group, List.mem_of_getElem? found, inGroup⟩

variable (assigned : grouping.Assigned rows)
include assigned

theorem Ordered.alone {row : RowId} {values : List Value} (found : rows[row]? = some values)
    (missing : ∃ value ∈ grouping.key values, value.IsNotANumber) :
    ∃ group ∈ grouping.groups, group.rows = [row] := by
  rcases missing with ⟨value, inKey, isMissing⟩
  have below := Nat.lt_of_lt_of_eq (List.getElem?_eq_some_iff.mp found).choose
    assigned.length.symm
  rcases ordered.groupIndex?_eq_some_iff.mp (List.getElem?_eq_getElem below) with
    ⟨group, groupFound, inGroup⟩
  have member := List.mem_of_getElem? groupFound
  have only : ∀ other ∈ group.rows, other = row := by
    intro other inside
    have otherBelow := Nat.lt_of_lt_of_eq (ordered.row_lt groupFound other inside)
      assigned.length
    have together : grouping.groupIndex? row = grouping.groupIndex? other := by
      rw [ordered.groupIndex?_eq_some_iff.mpr ⟨group, groupFound, inGroup⟩,
        ordered.groupIndex?_eq_some_iff.mpr ⟨group, groupFound, inside⟩]
    rcases assigned.sameKey_of_groupIndex? found (List.getElem?_eq_getElem otherBelow) together
      with same | equal
    · exact same.symm
    · rw [Group.not_sameKey_of_isNotANumber inKey isMissing] at equal
      cases equal
  refine ⟨group, member, ?_⟩
  have increasing := ordered.increasing group member
  rcases rows : group.rows with _ | ⟨first, _ | ⟨second, rest⟩⟩ <;>
    rw [rows] at inGroup only increasing
  · cases inGroup
  · rw [only first List.mem_cons_self]
  · have less := List.rel_of_pairwise_cons increasing List.mem_cons_self
    rw [only first List.mem_cons_self,
      only second (List.mem_cons_of_mem _ List.mem_cons_self)] at less
    exact absurd less (Nat.lt_irrefl row)

theorem Ordered.partitions : grouping.Partitions rows where
  nonempty := assigned.rows_ne_nil
  increasing := ordered.increasing
  covers := assigned.length ▸ ordered.covers
  length := assigned.length
  agrees := ordered.groupIndex?_eq_some_iff
  together different firstFound secondFound := by
    rw [assigned.groupIndex?_eq_iff firstFound secondFound, or_iff_right different]
  alone := ordered.alone assigned
  begins := ordered.begins

end

theorem Partitions.lt_of_rowsOf? {grouping : Grouping} {rows : List (List Value)}
    (partitions : grouping.Partitions rows) {start : RowId} {inGroup : List RowId}
    (found : grouping.rowsOf? start = some inGroup) : ∀ row ∈ inGroup, row < rows.length := by
  rcases Option.bind_eq_some_iff.mp found with ⟨index, _, found⟩
  rcases Option.bind_eq_some_iff.mp found with ⟨group, isGroup, equal⟩
  cases equal
  intro row member
  have inAll := List.mem_flatMap.mpr ⟨group, List.mem_of_getElem? isGroup, member⟩
  exact List.mem_range.mp (partitions.covers.mem_iff.mp inAll)

def ofRows (columns : List Nat) (rows : List (List Value)) : Grouping :=
  assignFrom { columns } 0 rows

theorem partitions_ofRows (columns : List Nat) (rows : List (List Value)) :
    (ofRows columns rows).Partitions rows := by
  have assigned := assigned_nil columns
  exact ((ordered_nil columns).assignFrom assigned rows).partitions (assigned.assignFrom rows)

end Grouping

end GroupedReport
