import GroupedReport.Fields
import Mathlib.Data.List.Nodup

/-!
# Declared fields

Every declaration takes the next column, so the columns of fields increase. A field has the name
that its column was declared with, and no other field that can be found has its name in any case.
So every field is found under its own name.
-/

namespace GroupedReport.Fields

/-- Fields that were declared one after the other. -/
inductive Declared : Fields → Prop
  | none : Declared {}
  | add {fields : Fields} (name : String) (kind : Kind) :
      Declared fields → Declared (fields.add name kind).1

theorem add_cases (fields : Fields) (name : String) (kind : Kind) :
    (∃ field, fields.get? name = some field ∧ fields.add name kind =
        (⟨fields.reachable, fields.columns ++ [name]⟩, none)) ∨
      (fields.get? name = none ∧ fields.add name kind =
        (⟨fields.reachable ++ [⟨name, kind, fields.columns.length⟩], fields.columns ++ [name]⟩,
          some fields.columns.length)) := by
  rw [add]
  split
  · rename_i taken
    rcases Option.isSome_iff_exists.mp taken with ⟨field, found⟩
    exact .inl ⟨field, found, rfl⟩
  · rename_i free
    exact .inr ⟨Option.not_isSome_iff_eq_none.mp free, rfl⟩

theorem declared_loadFrom {fields : Fields} (declared : fields.Declared) (entries : List Json) :
    (fields.loadFrom entries).1.Declared := by
  induction entries generalizing fields with
  | nil => exact declared
  | cons entry rest induction =>
      have entryDeclared : (fields.loadEntry entry).1.Declared := by
        rw [loadEntry]
        split
        · exact declared.add _ _
        · exact declared
      exact induction entryDeclared

theorem declared_load (entries : List Json) : (load entries).1.Declared :=
  declared_loadFrom .none entries

/-! ## Names -/

theorem get?_congr {first second : String} (same : Text.lowercase first = Text.lowercase second)
    (fields : Fields) : fields.get? first = fields.get? second := by
  rw [get?, get?, same]

theorem Declared.column_get? {fields : Fields} (declared : fields.Declared) (name : String) :
    (fields.get? name).map Field.column =
      fields.columns.findIdx? fun column => Text.lowercase column == Text.lowercase name := by
  induction declared with
  | none => rfl
  | @add fields new kind _ induction =>
      rcases add_cases fields new kind with ⟨field, taken, added⟩ | ⟨free, added⟩
      · rw [added, List.findIdx?_append, ← induction]
        change (fields.get? name).map Field.column = _
        cases found : fields.get? name with
        | some other => rfl
        | none =>
            -- The new column cannot be the first one with its name.
            have different : (Text.lowercase new == Text.lowercase name) = false := by
              rw [beq_eq_false_iff_ne]
              intro same
              rw [get?_congr same, found] at taken
              cases taken
            rw [List.findIdx?_singleton, different]
            rfl
      · rw [added, List.findIdx?_append, ← induction]
        change ((fields.reachable ++ [_]).find? _).map Field.column = _
        rw [List.find?_append, List.find?_singleton, List.findIdx?_singleton, ← get?]
        dsimp only
        cases fields.get? name with
        | some other => rfl
        | none => cases Text.lowercase new == Text.lowercase name <;> simp

/-! ## Columns and names -/

/-- How fields lie in their columns: in the order of the columns, each under its own name, which no
other field has. -/
structure Laid (fields : Fields) : Prop where
  increasing : fields.reachable.Pairwise fun first second => first.column < second.column
  apart : fields.reachable.Pairwise fun first second =>
    Text.lowercase first.name ≠ Text.lowercase second.name
  named {field : Field} :
    field ∈ fields.reachable → fields.columns[field.column]? = some field.name
  found {name : String} : name ∈ fields.columns → (fields.get? name).isSome = true

theorem Laid.column_lt {fields : Fields} (laid : fields.Laid) {field : Field}
    (member : field ∈ fields.reachable) : field.column < fields.columns.length :=
  (List.getElem?_eq_some_iff.mp (laid.named member)).1

theorem get?_eq_some {fields : Fields} {name : String} {field : Field}
    (found : fields.get? name = some field) :
    field ∈ fields.reachable ∧ Text.lowercase field.name = Text.lowercase name := by
  have same := List.find?_some found
  exact ⟨List.mem_of_find?_eq_some found, beq_iff_eq.mp same⟩

theorem Laid.add {fields : Fields} (laid : fields.Laid) (name : String) (kind : Kind) :
    (fields.add name kind).1.Laid := by
  have stays {field : Field} (member : field ∈ fields.reachable) :
      (fields.columns ++ [name])[field.column]? = some field.name := by
    rw [List.getElem?_append_left (laid.column_lt member)]
    exact laid.named member
  rcases add_cases fields name kind with ⟨field, taken, added⟩ | ⟨free, added⟩
  · rw [added]
    refine ⟨laid.increasing, laid.apart, stays, ?_⟩
    intro other member
    rcases List.mem_append.mp member with old | new
    · exact laid.found old
    · rw [List.mem_singleton.mp new]
      exact Option.isSome_of_eq_some taken
  · rw [added]
    refine ⟨?_, ?_, ?_, ?_⟩
    · refine List.pairwise_append.mpr ⟨laid.increasing, List.pairwise_singleton _ _, ?_⟩
      intro first old second new
      rw [List.mem_singleton.mp new]
      exact laid.column_lt old
    · refine List.pairwise_append.mpr ⟨laid.apart, List.pairwise_singleton _ _, ?_⟩
      intro first old second new same
      rw [List.mem_singleton.mp new] at same
      exact List.find?_eq_none.mp free first old (beq_iff_eq.mpr same)
    · intro field member
      rcases List.mem_append.mp member with old | new
      · exact stays old
      · rw [List.mem_singleton.mp new]
        exact List.getElem?_concat_length
    · intro other member
      rw [get?, List.find?_append, Option.isSome_or, Bool.or_eq_true]
      rcases List.mem_append.mp member with old | new
      · exact .inl (laid.found old)
      · rw [List.mem_singleton.mp new]
        exact .inr (by simp)

theorem Declared.laid {fields : Fields} (declared : fields.Declared) : fields.Laid := by
  induction declared with
  | none => exact ⟨.nil, .nil, nofun, nofun⟩
  | add name kind _ induction => exact induction.add name kind

theorem columnKind_of_not_mem {fields : Fields} {column : Nat}
    (other : column ∉ fields.reachable.map Field.column) : fields.columnKind column = .object := by
  have absent : fields.reachable.find? (fun field => field.column == column) = none := by
    rw [List.find?_eq_none]
    rintro field member same
    exact other (List.mem_map.mpr ⟨field, member, eq_of_beq same⟩)
  rw [columnKind, absent]
  rfl

namespace Laid

variable {fields : Fields} (laid : fields.Laid)
include laid

theorem nodup_columns : (fields.reachable.map Field.column).Nodup :=
  List.pairwise_map.mpr (laid.increasing.imp Nat.ne_of_lt)

theorem eq_of_column_eq {first second : Field} (firstMember : first ∈ fields.reachable)
    (secondMember : second ∈ fields.reachable) (same : first.column = second.column) :
    first = second :=
  List.inj_on_of_nodup_map laid.nodup_columns firstMember secondMember same

theorem get?_of_mem {field : Field} (member : field ∈ fields.reachable) :
    fields.get? field.name = some field := by
  have named := List.mem_of_getElem? (laid.named member)
  rcases Option.isSome_iff_exists.mp (laid.found named) with ⟨other, found⟩
  rcases get?_eq_some found with ⟨otherMember, same⟩
  have distinct : (fields.reachable.map fun field => Text.lowercase field.name).Nodup :=
    List.pairwise_map.mpr laid.apart
  rw [found, List.inj_on_of_nodup_map distinct otherMember member same]

theorem mem_reachable_iff {field : Field} :
    field ∈ fields.reachable ↔ ∃ name, fields.get? name = some field :=
  ⟨fun member => ⟨field.name, laid.get?_of_mem member⟩, fun ⟨_, found⟩ => (get?_eq_some found).1⟩

theorem columnKind_eq {field : Field} (member : field ∈ fields.reachable) :
    fields.columnKind field.column = field.kind := by
  rw [columnKind]
  cases found : fields.reachable.find? fun other => other.column == field.column with
  | none => exact absurd (beq_self_eq_true field.column) (List.find?_eq_none.mp found field member)
  | some other =>
      have same := List.find?_some found
      have equal :=
        laid.eq_of_column_eq (List.mem_of_find?_eq_some found) member (beq_iff_eq.mp same)
      rw [equal]
      rfl

theorem column_ne {first second : String} {field other : Field}
    (different : Text.lowercase first ≠ Text.lowercase second)
    (found : fields.get? first = some field) (otherFound : fields.get? second = some other) :
    field.column ≠ other.column := by
  intro same
  rcases get?_eq_some found with ⟨member, lower⟩
  rcases get?_eq_some otherFound with ⟨otherMember, otherLower⟩
  rw [laid.eq_of_column_eq member otherMember same] at lower
  exact different (lower.symm.trans otherLower)

theorem get?_column (distinct : (fields.columns.map Text.lowercase).Nodup) {column : Nat}
    {name : String} (named : fields.columns[column]? = some name) :
    fields.get? name = some ⟨name, fields.columnKind column, column⟩ := by
  rcases Option.isSome_iff_exists.mp (laid.found (List.mem_of_getElem? named)) with ⟨field, found⟩
  rcases get?_eq_some found with ⟨member, lower⟩
  have own := laid.named member
  -- The field and the column have a name in common, so that the column is the field's own.
  have same : field.column = column := by
    have inside : field.column < (fields.columns.map Text.lowercase).length := by
      rw [List.length_map]
      exact laid.column_lt member
    apply (List.getElem?_inj inside distinct).mp
    rw [List.getElem?_map, List.getElem?_map, own, named]
    exact congrArg some lower
  subst same
  rw [own] at named
  cases named
  rw [found, laid.columnKind_eq member]

end Laid

end GroupedReport.Fields
