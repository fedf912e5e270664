import GroupedReport.Proofs.Data.Fields
import GroupedReport.Proofs.Evaluation.Folding
import GroupedReport.Proofs.Evaluation.Kinds
import GroupedReport.Proofs.Report.Loading

/-!
# The two notations of a row

A row is written as an array in the order of the columns, or as an object with the names of its
columns. Both load to the same values, or fail in the same row, and the order of the members of an
object does not matter. What is loaded has the kinds of the columns, so that a field reads the
values of its column as they are.
-/

namespace GroupedReport

open Expression

/-! ## Kinds of loaded values -/

namespace Row

/-- Whether each value of a row is null or of the kind of its column. -/
def FitsColumns (fields : Fields) (values : Row) : Prop :=
  ∀ {column : Nat} {value : Value}, values[column]? = some value →
    value = .null ∨ value.kind? = some (fields.columnKind column)

variable {fields : Fields} {row : Nat} {values : Row}

theorem kind?_of_load? {name : String} {kind : Kind} {json : Json} {value : Value}
    (loaded : load? row name kind json = .ok value) : value = .null ∨ value.kind? = some kind :=
  Value.kind?_of_ofJson (Result.mapError_eq_ok loaded)

theorem eq_null_of_nulls {names : List String} {column : Nat} {value : Value}
    (found : (names.map fun _ => Value.null)[column]? = some value) : value = .null := by
  rw [List.getElem?_map] at found
  rcases Option.map_eq_some_iff.mp found with ⟨_, _, equal⟩
  exact equal.symm

theorem fitsColumns_ofElements {column : Nat} {names : List String} {elements : List Json}
    (loaded : ofElements fields row column names elements = .ok values) {index : Nat}
    {value : Value} (found : values[index]? = some value) :
    value = .null ∨ value.kind? = some (fields.columnKind (column + index)) := by
  induction names generalizing column elements values index with
  | nil =>
      cases loaded
      cases found
  | cons name rest induction =>
      cases elements with
      | nil =>
          cases loaded
          have nulls : ((name :: rest).map fun _ => Value.null)[index]? = some value := found
          exact .inl (eq_null_of_nulls nulls)
      | cons json others =>
          rcases Result.bind_eq_ok loaded with ⟨first, firstLoaded, loaded⟩
          rcases Result.bind_eq_ok loaded with ⟨following, restLoaded, equal⟩
          cases equal
          cases index with
          | zero =>
              cases found
              exact kind?_of_load? firstLoaded
          | succ index =>
              have following := induction restLoaded found
              rw [Nat.add_right_comm] at following
              exact following

theorem FitsColumns.ofMembers (laid : fields.Laid) {members : List (String × Json)} {before : Row}
    (fits : FitsColumns fields before)
    (loaded : ofMembers fields row before members = .ok values) : FitsColumns fields values := by
  induction members generalizing before with
  | nil =>
      cases loaded
      exact fits
  | cons entry rest induction =>
      rw [Row.ofMembers] at loaded
      split at loaded
      · exact induction fits loaded
      · rename_i field found
        rcases Result.bind_eq_ok loaded with ⟨value, valueLoaded, restLoaded⟩
        refine induction ?_ restLoaded
        intro column other held
        rw [List.getElem?_set] at held
        split at held
        · rename_i own
          split at held
          · cases held
            rw [← own, laid.columnKind_eq (Fields.get?_eq_some found).1]
            exact kind?_of_load? valueLoaded
          · cases held
        · exact fits held

theorem fitsColumns_ofJson (laid : fields.Laid) {json : Json}
    (loaded : ofJson fields row json = .ok values) : FitsColumns fields values := by
  unfold ofJson at loaded
  split at loaded
  · intro column value found
    have fits := fitsColumns_ofElements loaded found
    rw [Nat.zero_add] at fits
    exact fits
  · have nulls : FitsColumns fields (fields.columns.map fun _ => .null) :=
      fun found => .inl (eq_null_of_nulls found)
    intro column value found
    exact nulls.ofMembers laid loaded found
  · cases loaded

theorem fitsColumns_of_loadFrom (laid : fields.Laid) {data : List Json} {rows : List Row}
    (loaded : loadFrom fields row data = .ok rows) :
    ∀ values ∈ rows, FitsColumns fields values := by
  induction data generalizing row rows with
  | nil =>
      cases loaded
      exact List.forall_mem_nil _
  | cons json rest induction =>
      rcases Result.bind_eq_ok loaded with ⟨values, first, loaded⟩
      rcases Result.bind_eq_ok loaded with ⟨others, restLoaded, equal⟩
      cases equal
      intro other member
      rcases List.mem_cons.mp member with rfl | later
      · exact fitsColumns_ofJson laid first
      · exact induction restLoaded other later

/-! ## Reading loaded values -/

theorem run_field_of_loaded (laid : fields.Laid) {engine : Engine} {id : NodeId} {name : String}
    {field : Field} (named : fields.get? name = some field) {dataSet : DataSet}
    (columns : dataSet.columns = fields.columns) {run : Run} (reads : run.data = dataSet.source)
    (held : dataSet.rows[row]? = some values) (fits : FitsColumns fields values) {value : Value}
    (found : values[field.column]? = some value) :
    ((engine.evaluateTree (.field id field.column field.kind) (some row)).run run).1 =
      .ok value := by
  rcases Fields.get?_eq_some named with ⟨member, _⟩
  have inside : ¬dataSet.columns.length ≤ field.column := by
    rw [columns]
    exact Nat.not_le.mpr (laid.column_lt member)
  have given : run.data.value row field.column = .ok value := by
    rw [reads]
    change dataSet.value row field.column = _
    rw [DataSet.value, held]
    dsimp only
    rw [if_neg inside, found]
    rfl
  have own := fits found
  rw [laid.columnKind_eq member] at own
  rw [Engine.run_field, given]
  change (value.coerce field.kind).mapError EvaluationError.conversion = _
  rw [Value.coerce_of_kind? own]
  rfl

end Row

theorem Expression.Builder.run_native_of_field {fields : Fields} {name : String} {field : Field}
    (named : fields.get? name = some field) {start after builder : Builder} {id : NodeId}
    (valid : start.Valid) (built : (Formula.build fields (.field name)).run start = (id, after))
    (leads : after.LeadsTo builder) (number : ProgramId) (options : Options) (row? : Option RowId)
    (run : Run) :
    ((builder.engine number options).native id row?).run run =
      ((builder.engine number options).evaluateTree
        (.field 0 field.column field.kind) row?).run run := by
  rw [Formula.build, Formula.buildField, named] at built
  have puts := puts_field valid field.column field.kind
  rw [built] at puts
  have within := (leads.sound puts.valid).2
  have evaluated : (builder.engine number options).program.tree id = builder.tree id := rfl
  rw [Engine.native, evaluated, within.tree_eq puts.known, ← Engine.evaluateTree_bare, puts.bare]

/-! ## Results that are alike -/

def RowError.row : RowError → Nat
  | value row _ _ => row
  | shape row _ => row

namespace Row

variable {fields : Fields} {row : Nat} {values : Row}

/-- Whether two results are the same value, or errors in the same row. -/
inductive Alike : Except RowError α → Except RowError α → Prop
  | ok (value : α) : Alike (.ok value) (.ok value)
  | error {first second : RowError} : first.row = second.row → Alike (.error first) (.error second)

namespace Alike

theorem refl (result : Except RowError α) : Alike result result := by
  cases result with
  | error error => exact .error rfl
  | ok value => exact .ok value

theorem symm {first second : Except RowError α} (alike : Alike first second) :
    Alike second first := by
  cases alike with
  | ok value => exact .ok value
  | error same => exact .error same.symm

theorem trans {first second third : Except RowError α} (left : Alike first second)
    (right : Alike second third) : Alike first third := by
  cases left with
  | ok value => exact right
  | error same =>
      cases right with
      | error other => exact .error (same.trans other)

theorem bind {left right : Except RowError α} {leftNext rightNext : α → Except RowError β}
    (alike : Alike left right) (next : ∀ value, Alike (leftNext value) (rightNext value)) :
    Alike (left >>= leftNext) (right >>= rightNext) := by
  cases alike with
  | ok value => exact next value
  | error same => exact .error same

end Alike

theorem row_of_load? {name : String} {kind : Kind} {json : Json} {error : RowError}
    (failed : load? row name kind json = .error error) : error.row = row := by
  rcases Result.mapError_eq_error failed with ⟨cause, _, rfl⟩
  rfl

/-! ## Members in any order -/

theorem alike_ofMembers_swap (laid : fields.Laid) {first second : String × Json}
    (different : Text.lowercase first.1 ≠ Text.lowercase second.1)
    (rest : List (String × Json)) :
    Alike (ofMembers fields row values (first :: second :: rest))
      (ofMembers fields row values (second :: first :: rest)) := by
  rcases first with ⟨firstName, firstJson⟩
  rcases second with ⟨secondName, secondJson⟩
  simp only [ofMembers]
  cases firstFound : fields.get? firstName with
  | none => exact .refl _
  | some field =>
      cases secondFound : fields.get? secondName with
      | none => exact .refl _
      | some other =>
          have apart := laid.column_ne different firstFound secondFound
          dsimp only
          cases loaded : load? row field.name field.kind firstJson with
          | error error =>
              cases otherLoaded : load? row other.name other.kind secondJson with
              | error otherError =>
                  exact .error ((row_of_load? loaded).trans (row_of_load? otherLoaded).symm)
              | ok otherValue => exact .error rfl
          | ok value =>
              cases load? row other.name other.kind secondJson with
              | error otherError => exact .error rfl
              | ok otherValue =>
                  change Alike (ofMembers fields row _ rest) (ofMembers fields row _ rest)
                  rw [List.set_comm _ _ apart]
                  exact .refl _

theorem alike_ofMembers (laid : fields.Laid) {members others : List (String × Json)}
    (permuted : members.Perm others)
    (distinct : members.Pairwise fun first second =>
      Text.lowercase first.1 ≠ Text.lowercase second.1) :
    Alike (ofMembers fields row values members) (ofMembers fields row values others) := by
  induction permuted generalizing values with
  | nil => exact .refl _
  | cons member _ induction =>
      rw [ofMembers, ofMembers]
      split
      · exact induction distinct.of_cons
      · exact (Alike.refl _).bind fun value => induction distinct.of_cons
  | swap second first rest =>
      exact alike_ofMembers_swap laid (List.rel_of_pairwise_cons distinct List.mem_cons_self) rest
  | trans earlier _ firstInduction secondInduction =>
      refine (firstInduction distinct).trans (secondInduction ?_)
      exact distinct.perm earlier fun different => different.symm

/-! ## Elements and members -/

theorem ofMembers_zip (laid : fields.Laid)
    (distinct : (fields.columns.map Text.lowercase).Nodup) (front : Row) {names : List String}
    (behind : fields.columns.drop front.length = names) (elements : List Json) :
    ofMembers fields row (front ++ names.map fun _ => .null) (names.zip elements) =
      (ofElements fields row front.length names elements).map (front ++ ·) := by
  induction names generalizing front elements with
  | nil => rfl
  | cons name rest induction =>
      cases elements with
      | nil => rfl
      | cons json others =>
          have named : fields.columns[front.length]? = some name := by
            rw [← List.head?_drop, behind]
            rfl
          rw [List.zip_cons_cons, ofMembers, laid.get?_column distinct named, ofElements]
          dsimp only
          cases load? row name (fields.columnKind front.length) json with
          | error => rfl
          | ok value =>
              have behindValue : fields.columns.drop (front ++ [value]).length = rest := by
                rw [List.length_append, List.length_singleton, ← List.tail_drop, behind]
                rfl
              have later := induction (front ++ [value]) behindValue others
              rw [List.append_assoc, List.length_append] at later
              have put : (front ++ (name :: rest).map fun _ => Value.null).set front.length value =
                  front ++ ([value] ++ rest.map fun _ => .null) := by
                rw [List.set_append_right _ _ (Nat.le_refl _), Nat.sub_self]
                rfl
              change ofMembers fields row (_ : Row) (rest.zip others) = _
              rw [put, later]
              change _ = Except.map _ (ofElements fields row (front.length + 1) rest others >>= _)
              cases ofElements fields row (front.length + 1) rest others with
              | error => rfl
              | ok following => exact congrArg Except.ok (List.append_assoc _ _ _)

/-! ## Rows in both notations -/

/-- How a row of some elements is written: as their array, or as an object in which every column
names its element, in any order. -/
inductive Notes (columns : List String) (elements : List Json) : Json → Prop
  | array : Notes columns elements (.array elements)
  | object {members : List (String × Json)} :
      (columns.zip elements).Perm members → Notes columns elements (.object members)

/-- Whether two rows are the same row, or the same elements in two notations. -/
inductive SameRow (columns : List String) : Json → Json → Prop
  | refl (json : Json) : SameRow columns json json
  | notes {elements : List Json} {first second : Json} :
      Notes columns elements first → Notes columns elements second → SameRow columns first second

theorem distinct_zip {names : List String} (distinct : (names.map Text.lowercase).Nodup)
    (elements : List Json) :
    (names.zip elements).Pairwise fun first second =>
      Text.lowercase first.1 ≠ Text.lowercase second.1 := by
  induction names generalizing elements with
  | nil => exact .nil
  | cons name rest induction =>
      cases elements with
      | nil => exact .nil
      | cons json others =>
          rw [List.map_cons, List.nodup_cons] at distinct
          refine .cons ?_ (induction distinct.2 others)
          intro member inZip same
          apply distinct.1
          have named : Text.lowercase member.1 ∈ rest.map Text.lowercase :=
            List.mem_map_of_mem (List.of_mem_zip inZip).1
          rw [← same] at named
          exact named

variable (laid : fields.Laid) (distinct : (fields.columns.map Text.lowercase).Nodup)
include laid distinct

theorem alike_ofElements {elements : List Json} {json : Json}
    (notes : Notes fields.columns elements json) :
    Alike (ofElements fields row 0 fields.columns elements) (ofJson fields row json) := by
  cases notes with
  | array => exact .refl _
  | object permuted =>
      have whole : ofMembers fields row (fields.columns.map fun _ => .null)
          (fields.columns.zip elements) =
            (ofElements fields row 0 fields.columns elements).map fun values => values :=
        ofMembers_zip laid distinct [] rfl elements
      rw [Result.map_id] at whole
      rw [← whole]
      exact alike_ofMembers laid permuted (distinct_zip distinct elements)

theorem alike_ofJson {first second : Json} (same : SameRow fields.columns first second) :
    Alike (ofJson fields row first) (ofJson fields row second) := by
  cases same with
  | refl => exact .refl _
  | notes firstNotes secondNotes =>
      exact (alike_ofElements laid distinct firstNotes).symm.trans
        (alike_ofElements laid distinct secondNotes)

theorem alike_loadFrom {data others : List Json}
    (same : List.Forall₂ (SameRow fields.columns) data others) :
    Alike (loadFrom fields row data) (loadFrom fields row others) := by
  induction same generalizing row with
  | nil => exact .refl _
  | cons first _ induction =>
      apply (alike_ofJson laid distinct first).bind
      intro values
      exact induction.bind fun rows => .ok _

end Row

/-! ## Loading rows -/

/-- Loaded rows have one value for each column, null or of the kind of the column, and every field
that is built by its name reads these values as they are. If the names of the columns differ in
more than case, then rows load alike in both notations: to the same values, or with an error in the
same row. -/
theorem rows_load_as_declared {fields : Fields} (declared : fields.Declared) :
    (∀ {data : List Json} {rows : List Row}, Row.load fields data = .ok rows →
      (∀ values ∈ rows,
        values.length = fields.columns.length ∧ Row.FitsColumns fields values) ∧
      ∀ {name : String} {field : Field} {start after builder : Builder} {id : NodeId},
        fields.get? name = some field → start.Built →
          (Formula.build fields (.field name)).run start = (id, after) → after.LeadsTo builder →
        ∀ (number : ProgramId) (options : Options) {dataSet : DataSet} {run : Run},
          dataSet.columns = fields.columns → dataSet.rows = rows → run.data = dataSet.source →
        ∀ {row : RowId} {values : Row}, rows[row]? = some values →
          ∃ value, values[field.column]? = some value ∧
            (((builder.engine number options).native id (some row)).run run).1 = .ok value) ∧
    ((fields.columns.map Text.lowercase).Nodup → ∀ {data others : List Json},
      List.Forall₂ (Row.SameRow fields.columns) data others →
        Row.Alike (Row.load fields data) (Row.load fields others)) := by
  have laid := declared.laid
  refine ⟨?_, fun distinct data others same => Row.alike_loadFrom laid distinct same⟩
  intro data rows loaded
  have fits := Row.fitsColumns_of_loadFrom laid loaded
  have lengths := Row.length_of_loadFrom loaded
  refine ⟨fun values member => ⟨lengths values member, fits values member⟩, ?_⟩
  intro name field start after builder id named startBuilt built leads number options dataSet run
    columns held reads row values found
  have member := List.mem_of_getElem? found
  have inside : field.column < values.length := by
    rw [lengths values member]
    exact laid.column_lt (Fields.get?_eq_some named).1
  refine ⟨values[field.column], List.getElem?_eq_getElem inside, ?_⟩
  rw [Builder.run_native_of_field named startBuilt.valid built leads]
  rw [← held] at found
  exact Row.run_field_of_loaded laid named columns reads found (fits values member)
    (List.getElem?_eq_getElem inside)

def Fields.regionAndNumber : Fields :=
  { reachable := [⟨"Region", .string, 0⟩, ⟨"Number", .int32, 1⟩], columns := ["Region", "Number"] }

theorem Fields.declared_regionAndNumber : regionAndNumber.Declared := by
  have equal : ((Fields.add {} "Region" .string).1.add "Number" .int32).1 = regionAndNumber := by
    decide
  rw [← equal]
  exact (Declared.none.add _ _).add _ _

def DataSet.sevenInNorth : DataSet :=
  { name := "Numbers", columns := ["Region", "Number"], rows := [[.string "North", .int32 7]] }

/-- Seven in the north loads from an array and from an object, and is read back as seven. -/
theorem seven_in_north_loads_as_declared :
    Fields.regionAndNumber.Declared ∧
      Row.load Fields.regionAndNumber [.array [.string "North", .integer 7]] =
        .ok DataSet.sevenInNorth.rows ∧
      Row.FitsColumns Fields.regionAndNumber [.string "North", .int32 7] ∧
      (∃ value, [Value.string "North", .int32 7][1]? = some value ∧
        (((Builder.engine { nodes := #[.field 1 .int32] } 0 {}).native 0 (some 0)).run
          (.start DataSet.sevenInNorth.source)).1 = .ok value) ∧
      Row.Alike (Row.load Fields.regionAndNumber [.array [.string "North", .integer 7]])
        (Row.load Fields.regionAndNumber
          [.object [("Number", .integer 7), ("Region", .string "North")]]) := by
  have declared := Fields.declared_regionAndNumber
  have loaded : Row.load Fields.regionAndNumber [.array [.string "North", .integer 7]] =
      .ok DataSet.sevenInNorth.rows := rfl
  have named : Fields.regionAndNumber.get? "number" = some ⟨"Number", .int32, 1⟩ := by decide
  have built : (Formula.build Fields.regionAndNumber (.field "number")).run {} =
      (0, { nodes := #[.field 1 .int32] }) := by
    rw [Formula.build, Formula.buildField, named]
    rfl
  have notes : Row.Notes Fields.regionAndNumber.columns [.string "North", .integer 7]
      (.object [("Number", .integer 7), ("Region", .string "North")]) :=
    .object (.swap _ _ _)
  rcases rows_load_as_declared declared with ⟨loads, alike⟩
  rcases loads loaded with ⟨fits, reads⟩
  refine ⟨declared, loaded, (fits _ List.mem_cons_self).2, ?_, ?_⟩
  · exact reads named .refl built .refl 0 {} rfl rfl rfl rfl
  · exact alike (by decide) (.cons (.notes .array notes) .nil)

end GroupedReport
