import GroupedReport.Data.DataSet
import GroupedReport.Proofs.Data.Fields
import GroupedReport.Proofs.Text.LetterCase

/-!
# Fields and columns by name

A name is looked up among the fields, where all letters have case, and among the columns of a data
set, where only ASCII letters have. The first of these finds whatever the second one does. Both find
the same column unless the name and that of the field differ in the case of other letters.
-/

namespace GroupedReport

section

variable {strict lax : α → Bool} (implies : ∀ item, strict item = true → lax item = true)
  {items : List α}
include implies

theorem exists_findIdx?_le {index : Nat} (found : items.findIdx? strict = some index) :
    ∃ first, items.findIdx? lax = some first ∧ first ≤ index := by
  rcases List.findIdx?_eq_some_iff_getElem.mp found with ⟨inside, accepted, _⟩
  cases searched : items.findIdx? lax with
  | none =>
      have refused := List.findIdx?_eq_none_iff.mp searched _ (List.getElem_mem inside)
      rw [implies _ accepted] at refused
      cases refused
  | some first =>
      refine ⟨first, rfl, Nat.le_of_not_lt fun before => ?_⟩
      rcases List.findIdx?_eq_some_iff_getElem.mp searched with ⟨_, _, refused⟩
      exact refused index before (implies _ accepted)

theorem findIdx?_eq_findIdx?_iff : items.findIdx? strict = items.findIdx? lax ↔
    ∀ index item, items.findIdx? lax = some index → items[index]? = some item →
      strict item = true := by
  constructor
  · intro same index item found isItem
    rw [← same] at found
    rcases List.findIdx?_eq_some_iff_getElem.mp found with ⟨inside, accepted, _⟩
    rw [List.getElem?_eq_getElem inside] at isItem
    cases isItem
    exact accepted
  · intro both
    cases found : items.findIdx? lax with
    | none =>
        rw [List.findIdx?_eq_none_iff] at found ⊢
        intro item member
        have refused := found item member
        by_contra accepted
        rw [implies item (Bool.not_eq_false _ ▸ accepted)] at refused
        cases refused
    | some index =>
        rcases List.findIdx?_eq_some_iff_getElem.mp found with ⟨inside, _, before⟩
        have accepted := both index _ found (List.getElem?_eq_getElem inside)
        exact List.findIdx?_eq_some_iff_getElem.mpr
          ⟨inside, accepted, fun earlier isEarlier strictly =>
            before earlier isEarlier (implies _ strictly)⟩

end

theorem beq_lowercase_of_sameIgnoringCase (name column : String)
    (same : Text.sameIgnoringCase column name = true) :
    (Text.lowercase column == Text.lowercase name) = true :=
  beq_iff_eq.mpr (Text.lowercase_eq_of_sameIgnoringCase same)

/-- A data set with the columns of declared fields has a column of a name where there is a field of
the name. The column is that of the field exactly if their names differ in ASCII letters alone; it
never comes before the field, and where all names are ASCII it is always that of the field. -/
theorem lookups_agree_up_to_ascii {fields : Fields} (declared : fields.Declared)
    {dataSet : DataSet} (columns : dataSet.columns = fields.columns) (name : String) :
    (dataSet.column? name = (fields.get? name).map Field.column ↔
      ∀ field ∈ fields.get? name, Text.sameIgnoringCase field.name name = true) ∧
    (∀ column, dataSet.column? name = some column →
      ∃ field, fields.get? name = some field ∧ field.column ≤ column) ∧
    (Text.isAscii name = true → (∀ column ∈ dataSet.columns, Text.isAscii column = true) →
      dataSet.column? name = (fields.get? name).map Field.column) := by
  have named {field : Field} (found : fields.get? name = some field) :
      dataSet.columns[field.column]? = some field.name := by
    rw [columns]
    exact declared.laid.named (Fields.get?_eq_some found).1
  have agree_iff : dataSet.column? name = (fields.get? name).map Field.column ↔
      ∀ field ∈ fields.get? name, Text.sameIgnoringCase field.name name = true := by
    rw [declared.column_get? name, ← columns, DataSet.column?,
      findIdx?_eq_findIdx?_iff (beq_lowercase_of_sameIgnoringCase name), columns,
      ← declared.column_get? name, ← columns]
    constructor
    · intro accepted field found
      exact accepted field.column field.name (congrArg (Option.map Field.column) found)
        (named found)
    · intro accepted index item found isItem
      rcases Option.map_eq_some_iff.mp found with ⟨field, isField, rfl⟩
      rw [named isField] at isItem
      cases isItem
      exact accepted field isField
  refine ⟨agree_iff, ?_, ?_⟩
  · intro column found
    rcases exists_findIdx?_le (beq_lowercase_of_sameIgnoringCase name) found with
      ⟨first, isFirst, atMost⟩
    rw [columns, ← declared.column_get? name] at isFirst
    rcases Option.map_eq_some_iff.mp isFirst with ⟨field, isField, rfl⟩
    exact ⟨field, isField, atMost⟩
  · intro nameAscii columnsAscii
    rw [agree_iff]
    intro field found
    exact Text.sameIgnoringCase_of_isAscii
      (columnsAscii field.name (List.mem_of_getElem? (named found))) nameAscii
      (Fields.get?_eq_some found).2

def Fields.regionTwice : Fields :=
  ⟨[⟨"Region", .string, 0⟩, ⟨"Amount", .int32, 1⟩], ["Region", "Amount", "REGION"]⟩

/-- Every spelling of the name leads to the first column. -/
theorem region_is_found_in_first_column :
    Fields.regionTwice.Declared ∧
      ({ name := "Sales", columns := Fields.regionTwice.columns } : DataSet).column? "REGION" =
        some 0 := by
  have declared : Fields.regionTwice.Declared := by
    have made := ((Fields.Declared.none.add "Region" .string).add "Amount" .int32).add "REGION"
      .string
    have equal : (((({} : Fields).add "Region" .string).1.add "Amount" .int32).1.add "REGION"
        .string).1 = Fields.regionTwice := by decide +kernel
    rw [equal] at made
    exact made
  refine ⟨declared, ?_⟩
  rw [(lookups_agree_up_to_ascii declared rfl "REGION").2.2 (by decide +kernel)
    (by decide +kernel)]
  decide +kernel

def Fields.storeys : Fields :=
  ⟨[⟨"Étage", .int32, 0⟩], ["Étage"]⟩

/-- Where the case of such a letter differs, the field is found and its column is not. -/
theorem storey_column_is_not_found :
    Fields.storeys.Declared ∧
      Fields.storeys.get? "étage" = some ⟨"Étage", .int32, 0⟩ ∧
      ({ name := "Houses", columns := Fields.storeys.columns } : DataSet).column? "étage" =
        none := by
  have declared : Fields.storeys.Declared := by
    have made := Fields.Declared.none.add "Étage" .int32
    have equal : (({} : Fields).add "Étage" .int32).1 = Fields.storeys := by decide +kernel
    rw [equal] at made
    exact made
  exact ⟨declared, by decide +kernel, by decide +kernel⟩

end GroupedReport
