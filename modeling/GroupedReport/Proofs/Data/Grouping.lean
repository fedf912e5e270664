import GroupedReport.Proofs.Value.Same

/-!
# Groups of rows

The group of a row is the first one that the row founded or that has the key of the row. So two
rows are in one group if they are the same row or have equal keys, and in no other case.
-/

namespace GroupedReport

namespace Group

/-- Whether a row belongs to a group: it is its first row, or has its key. -/
def claims (row : RowId) (key : List Value) (group : Group) : Bool :=
  group.rows.head? == some row || sameKey group.key key

end Group

namespace Grouping

/-- What holds of a grouping once it has assigned some rows. -/
structure Assigned (grouping : Grouping) (rows : List (List Value)) : Prop where
  length : grouping.assignment.length = rows.length
  /-- Every group has the key of its first row. -/
  founded {index : Nat} {group : Group} : grouping.groups[index]? = some group →
    ∃ first values, group.rows.head? = some first ∧ rows[first]? = some values ∧
      group.key = grouping.key values
  index {row : RowId} {values : List Value} : rows[row]? = some values →
    grouping.assignment[row]? = grouping.groups.findIdx? (Group.claims row (grouping.key values))

theorem assigned_nil (columns : List Nat) : Assigned { columns } [] where
  length := rfl
  founded found := by cases found
  index found := by cases found

/-! ## The next row -/

theorem findIdx?_congr {groups : List Group} {first second : Group → Bool}
    (agree : ∀ group ∈ groups, first group = second group) :
    groups.findIdx? first = groups.findIdx? second := by
  induction groups with
  | nil => rfl
  | cons group rest induction =>
      rw [List.findIdx?_cons, List.findIdx?_cons, agree group List.mem_cons_self,
        induction fun group member => agree group (List.mem_cons_of_mem _ member)]

theorem findIdx?_modify_add {groups : List Group} (founded : ∀ group ∈ groups, group.rows ≠ [])
    (index : Nat) (row other : RowId) (key : List Value) :
    (groups.modify index (Group.add row)).findIdx? (Group.claims other key) =
      groups.findIdx? (Group.claims other key) := by
  induction groups generalizing index with
  | nil => rw [List.modify_nil]
  | cons group rest induction =>
      have restFounded : ∀ group ∈ rest, group.rows ≠ [] :=
        fun group member => founded group (List.mem_cons_of_mem _ member)
      cases index with
      | zero =>
          have head : (group.rows ++ [row]).head? = group.rows.head? := by
            rcases List.exists_cons_of_ne_nil (founded group List.mem_cons_self) with
              ⟨first, others, equal⟩
            rw [equal]
            rfl
          have claims : (group.add row).claims other key = group.claims other key := by
            rw [Group.claims, Group.claims, Group.add, head]
          rw [List.modify_zero_cons, List.findIdx?_cons, List.findIdx?_cons, claims]
      | succ index =>
          rw [List.modify_succ_cons, List.findIdx?_cons, List.findIdx?_cons,
            induction restFounded]

theorem eq_or_of_getElem?_concat {items : List α} {last found : α} {index : Nat}
    (equal : (items ++ [last])[index]? = some found) :
    items[index]? = some found ∨ index = items.length ∧ found = last := by
  rw [List.getElem?_append] at equal
  split at equal
  · exact .inl equal
  · rename_i atLeast
    cases next : index - items.length with
    | zero =>
        rw [next] at equal
        cases equal
        exact .inr ⟨Nat.le_antisymm (Nat.sub_eq_zero_iff_le.mp next) (Nat.le_of_not_lt atLeast),
          rfl⟩
    | succ =>
        rw [next] at equal
        cases equal

section

variable {grouping : Grouping} {rows : List (List Value)} (assigned : grouping.Assigned rows)
include assigned

theorem Assigned.rows_ne_nil : ∀ group ∈ grouping.groups, group.rows ≠ [] := by
  intro group member empty
  rcases List.getElem?_of_mem member with ⟨index, found⟩
  rcases assigned.founded found with ⟨first, values, head, _⟩
  rw [empty] at head
  cases head

theorem Assigned.findIdx?_claims (key : List Value) :
    grouping.groups.findIdx? (Group.claims rows.length key) = grouping.index? key := by
  apply findIdx?_congr
  intro group member
  rcases List.getElem?_of_mem member with ⟨index, groupFound⟩
  rcases assigned.founded groupFound with ⟨first, values, head, found, _⟩
  have below := (List.getElem?_eq_some_iff.mp found).choose
  have different : (group.rows.head? == some rows.length) = false := by
    rw [head, beq_eq_false_iff_ne]
    intro same
    exact Nat.ne_of_lt below (Option.some.inj same)
  rw [Group.claims, different, Bool.false_or]

theorem Assigned.assign_found {values : List Value} {place : Nat}
    (found : grouping.index? (grouping.key values) = some place) :
    Assigned
      { grouping with
        groups := grouping.groups.modify place (Group.add rows.length)
        assignment := grouping.assignment ++ [place] }
      (rows ++ [values]) where
  length := by simp [assigned.length]
  founded {index group} equal := by
    rw [List.getElem?_modify] at equal
    rcases Option.map_eq_some_iff.mp equal with ⟨before, beforeFound, rfl⟩
    rcases assigned.founded beforeFound with ⟨first, founding, head, firstFound, key⟩
    have stillFound : (rows ++ [values])[first]? = some founding := by
      rw [List.getElem?_append_left (List.getElem?_eq_some_iff.mp firstFound).choose]
      exact firstFound
    refine ⟨first, founding, ?_, stillFound, ?_⟩
    · split
      · simp [Group.add, head]
      · exact head
    · split <;> exact key
  index {row given} equal := by
    rw [findIdx?_modify_add assigned.rows_ne_nil]
    rcases eq_or_of_getElem?_concat equal with old | ⟨rfl, rfl⟩
    · have known := (List.getElem?_eq_some_iff.mp old).choose
      rw [List.getElem?_append_left (Nat.lt_of_lt_of_eq known assigned.length.symm)]
      exact assigned.index old
    · rw [← assigned.length, List.getElem?_concat_length, assigned.length]
      exact found.symm.trans (assigned.findIdx?_claims _).symm

theorem Assigned.assign_missing {values : List Value}
    (missing : grouping.index? (grouping.key values) = none) :
    Assigned
      { grouping with
        groups := grouping.groups ++ [⟨grouping.key values, [rows.length]⟩]
        assignment := grouping.assignment ++ [grouping.groups.length] }
      (rows ++ [values]) where
  length := by simp [assigned.length]
  founded {index group} equal := by
    rw [List.getElem?_append] at equal
    split at equal
    · rcases assigned.founded equal with ⟨first, founding, head, firstFound, key⟩
      refine ⟨first, founding, head, ?_, key⟩
      rw [List.getElem?_append_left (List.getElem?_eq_some_iff.mp firstFound).choose]
      exact firstFound
    · have new := List.mem_of_getElem? equal
      cases List.mem_singleton.mp new
      exact ⟨rows.length, values, rfl, List.getElem?_concat_length, rfl⟩
  index {row given} equal := by
    rw [List.findIdx?_append]
    change _ = Option.or (grouping.groups.findIdx? (Group.claims row (grouping.key given)))
      (([⟨grouping.key values, [rows.length]⟩] : List Group).findIdx?
        (Group.claims row (grouping.key given)) |>.map (· + grouping.groups.length))
    rcases eq_or_of_getElem?_concat equal with old | ⟨rfl, rfl⟩
    · have known := Nat.lt_of_lt_of_eq (List.getElem?_eq_some_iff.mp old).choose
        assigned.length.symm
      have index := assigned.index old
      rw [List.getElem?_eq_getElem known] at index
      rw [List.getElem?_append_left known, ← index, List.getElem?_eq_getElem known]
      rfl
    · have absent := (assigned.findIdx?_claims (grouping.key given)).trans missing
      have own : Group.claims rows.length (grouping.key given)
          ⟨grouping.key given, [rows.length]⟩ = true := by
        simp [Group.claims]
      rw [← assigned.length, List.getElem?_concat_length, assigned.length, absent,
        List.findIdx?_singleton, own, Option.none_or, if_pos rfl, Option.map_some, Nat.zero_add]

theorem Assigned.assign (values : List Value) :
    (grouping.assign rows.length values).Assigned (rows ++ [values]) := by
  rw [Grouping.assign]
  cases found : grouping.index? (grouping.key values) with
  | some place => exact assigned.assign_found found
  | none => exact assigned.assign_missing found

end

theorem Assigned.assignFrom {grouping : Grouping} {rows : List (List Value)}
    (assigned : grouping.Assigned rows) (more : List (List Value)) :
    (grouping.assignFrom rows.length more).Assigned (rows ++ more) := by
  induction more generalizing grouping rows with
  | nil =>
      rw [List.append_nil]
      exact assigned
  | cons values rest induction =>
      have next := induction (assigned.assign values)
      rw [List.length_append, List.append_assoc] at next
      exact next

/-! ## One group -/

section

variable {grouping : Grouping} {rows : List (List Value)} (assigned : grouping.Assigned rows)
  {first second : RowId} {firstValues secondValues : List Value}
  (firstFound : rows[first]? = some firstValues) (secondFound : rows[second]? = some secondValues)
include assigned firstFound

theorem Assigned.key_eq_of_head? {index : Nat} {group : Group}
    (found : grouping.groups[index]? = some group) (head : group.rows.head? = some first) :
    group.key = grouping.key firstValues := by
  rcases assigned.founded found with ⟨founder, values, founderHead, founderFound, key⟩
  rw [head] at founderHead
  cases founderHead
  rw [firstFound] at founderFound
  cases founderFound
  exact key

theorem Assigned.groupIndex?_eq_index?
    (same : Group.sameKey (grouping.key firstValues) (grouping.key firstValues) = true) :
    grouping.groupIndex? first = grouping.index? (grouping.key firstValues) := by
  rw [groupIndex?, assigned.index firstFound]
  apply findIdx?_congr
  intro group member
  rcases List.getElem?_of_mem member with ⟨index, found⟩
  rw [Group.claims]
  cases head : group.rows.head? == some first with
  | false => rw [Bool.false_or]
  | true =>
      rw [assigned.key_eq_of_head? firstFound found (eq_of_beq head), same, Bool.or_true]

include secondFound

theorem Assigned.sameKey_of_groupIndex?
    (equal : grouping.groupIndex? first = grouping.groupIndex? second) :
    first = second ∨
      Group.sameKey (grouping.key firstValues) (grouping.key secondValues) = true := by
  have known := Nat.lt_of_lt_of_eq (List.getElem?_eq_some_iff.mp firstFound).choose
    assigned.length.symm
  have firstIndex := assigned.index firstFound
  have secondIndex := assigned.index secondFound
  rw [groupIndex?, groupIndex?] at equal
  rw [← equal] at secondIndex
  rw [List.getElem?_eq_getElem known] at firstIndex secondIndex
  rcases List.findIdx?_eq_some_iff_getElem.mp firstIndex.symm with ⟨below, firstClaims, _⟩
  rcases List.findIdx?_eq_some_iff_getElem.mp secondIndex.symm with ⟨_, secondClaims, _⟩
  have found := List.getElem?_eq_getElem below
  generalize grouping.groups[grouping.assignment[first]] = group at firstClaims secondClaims found
  rw [Group.claims, Bool.or_eq_true, beq_iff_eq] at firstClaims secondClaims
  rcases firstClaims with firstHead | firstKey
  · rcases secondClaims with secondHead | secondKey
    · rw [firstHead] at secondHead
      exact .inl (Option.some.inj secondHead)
    · rw [assigned.key_eq_of_head? firstFound found firstHead] at secondKey
      exact .inr secondKey
  · rcases secondClaims with secondHead | secondKey
    · rw [assigned.key_eq_of_head? secondFound found secondHead] at firstKey
      exact .inr (Group.sameKey_symm firstKey)
    · exact .inr (Group.sameKey_trans (Group.sameKey_symm firstKey) secondKey)

theorem Assigned.groupIndex?_of_sameKey
    (equal : Group.sameKey (grouping.key firstValues) (grouping.key secondValues) = true) :
    grouping.groupIndex? first = grouping.groupIndex? second := by
  have firstSame := Group.sameKey_trans equal (Group.sameKey_symm equal)
  have secondSame := Group.sameKey_trans (Group.sameKey_symm equal) equal
  rw [assigned.groupIndex?_eq_index? firstFound firstSame,
    assigned.groupIndex?_eq_index? secondFound secondSame, index?, index?]
  apply findIdx?_congr
  intro group _
  exact Group.sameKey_congr equal group.key

theorem Assigned.groupIndex?_eq_iff :
    grouping.groupIndex? first = grouping.groupIndex? second ↔
      first = second ∨
        Group.sameKey (grouping.key firstValues) (grouping.key secondValues) = true := by
  constructor
  · exact assigned.sameKey_of_groupIndex? firstFound secondFound
  · rintro (rfl | equal)
    · rfl
    · exact assigned.groupIndex?_of_sameKey firstFound secondFound equal

end

end Grouping

end GroupedReport
