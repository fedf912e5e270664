import Mathlib.Data.List.Induction
import GroupedReport.Proofs.Data.Fields

/-!
# Field lists

A field list is read entry by entry: the columns are the names that its entries declare, and a name
leads to the first entry that declares it, in whatever case. What is wrong with an entry is reported
in the order of the entries and never keeps the others from being read. So the columns of the data
stay where the field list has them.
-/

namespace GroupedReport.Fields

/-! ## Entries -/

def entryText? (key : String) (entry : Json) : Option String :=
  match entry.member? key with
  | some (.string text) => some text
  | _ => none

def unknownType? (entry : Json) : Option String :=
  (entryText? "type" entry).filter fun typeName => (Kind.ofName? typeName).isNone

def declaredKind (entry : Json) : Kind :=
  ((entryText? "type" entry).bind Kind.ofName?).getD .object

def declaration? (entry : Json) : Option (String × Kind) :=
  (entryText? "name" entry).map (·, declaredKind entry)

def declarations (entries : List Json) : List (String × Kind) :=
  entries.filterMap declaration?

/-- The fields that are declared, those of one name included. Each has the column of its place. -/
def declaredFields (entries : List Json) : List Field :=
  (declarations entries).mapIdx fun column declared => ⟨declared.1, declared.2, column⟩

def malformed (entry : Json) : Diagnostic :=
  .warning .unknownElement ("Unknown element '" ++ entry.compact ++ "' in fields list.")

def unknownType (name typeName : String) : Diagnostic :=
  .warning .unknownElement
    ("Unknown type '" ++ typeName ++ "' for field " ++ name ++ ".  Object assumed.")

/-- What is reported about an entry behind other ones: that it is malformed, or else that its type
is unknown, and that its name was declared before. -/
def findings (earlier : List Json) (entry : Json) : Diagnostic.Log :=
  match entryText? "name" entry with
  | none => [malformed entry]
  | some name =>
      ((unknownType? entry).map (unknownType name)).toList ++
        if (declarations earlier).any fun declared =>
          Text.lowercase declared.1 == Text.lowercase name then [duplicate name] else []

theorem entryKind_eq (name : String) (entry : Json) :
    entryKind name entry =
      (declaredKind entry, ((unknownType? entry).map (unknownType name)).toList) := by
  rw [entryKind, declaredKind, unknownType?, entryText?]
  cases entry.member? "type" with
  | none => rfl
  | some member =>
      cases member with
      | string typeName =>
          dsimp only
          rw [kindOf, Option.bind_some, Option.filter_some]
          cases Kind.ofName? typeName <;> rfl
      | _ => rfl

theorem declare_eq (fields : Fields) (name : String) (kind : Kind) :
    fields.declare name kind =
      ((fields.add name kind).1, (fields.add name kind).2,
        if (fields.get? name).isSome then [duplicate name] else []) := by
  rcases add_cases fields name kind with ⟨field, taken, added⟩ | ⟨free, added⟩
  · rw [declare, added, taken]
    rfl
  · rw [declare, added, free]
    rfl

theorem loadEntry_eq (fields : Fields) (entry : Json) :
    fields.loadEntry entry = match entryText? "name" entry with
      | none => (fields, [malformed entry])
      | some name =>
          ((fields.add name (declaredKind entry)).1,
            ((unknownType? entry).map (unknownType name)).toList ++
              if (fields.get? name).isSome then [duplicate name] else []) := by
  rw [loadEntry, entryText?]
  cases entry.member? "name" with
  | none => rfl
  | some member =>
      cases member with
      | string name =>
          dsimp only
          rw [entryKind_eq, declare_eq]
      | _ => rfl

/-! ## Declaring one field after the other -/

def ofDeclarations (declarations : List (String × Kind)) : Fields :=
  declarations.foldl (fun fields declared => (fields.add declared.1 declared.2).1) {}

theorem ofDeclarations_concat (declarations : List (String × Kind)) (declared : String × Kind) :
    ofDeclarations (declarations ++ [declared]) =
      ((ofDeclarations declarations).add declared.1 declared.2).1 :=
  List.foldl_concat _ _ _ _

theorem columns_add (fields : Fields) (name : String) (kind : Kind) :
    (fields.add name kind).1.columns = fields.columns ++ [name] := by
  rcases add_cases fields name kind with ⟨_, _, added⟩ | ⟨_, added⟩ <;> rw [added]

theorem get?_add (fields : Fields) (name : String) (kind : Kind) (asked : String) :
    (fields.add name kind).1.get? asked = (fields.get? asked).or
      (if Text.lowercase name == Text.lowercase asked
        then some ⟨name, kind, fields.columns.length⟩ else none) := by
  rcases add_cases fields name kind with ⟨field, taken, added⟩ | ⟨free, added⟩
  · rw [added]
    change fields.get? asked = _
    split
    · rename_i same
      rw [← get?_congr (eq_of_beq same) fields, taken]
      rfl
    · rw [Option.or_none]
  · rw [added]
    change (fields.reachable ++ [_]).find? _ = _
    rw [List.find?_append, List.find?_singleton]
    rfl

theorem columns_ofDeclarations (declarations : List (String × Kind)) :
    (ofDeclarations declarations).columns = declarations.map Prod.fst := by
  induction declarations using List.reverseRecOn with
  | nil => rfl
  | append_singleton declarations declared induction =>
      rw [ofDeclarations_concat, columns_add, induction, List.map_append]
      rfl

theorem get?_ofDeclarations (declarations : List (String × Kind)) (name : String) :
    (ofDeclarations declarations).get? name =
      (declarations.mapIdx fun column declared => (⟨declared.1, declared.2, column⟩ : Field)).find?
        fun field => Text.lowercase field.name == Text.lowercase name := by
  induction declarations using List.reverseRecOn with
  | nil => rfl
  | append_singleton declarations declared induction =>
      rw [ofDeclarations_concat, get?_add, induction, columns_ofDeclarations, List.length_map,
        List.mapIdx_concat, List.find?_append, List.find?_singleton]

theorem isSome_get?_ofDeclarations (declarations : List (String × Kind)) (name : String) :
    ((ofDeclarations declarations).get? name).isSome = declarations.any fun declared =>
      Text.lowercase declared.1 == Text.lowercase name := by
  induction declarations using List.reverseRecOn with
  | nil => rfl
  | append_singleton declarations declared induction =>
      rw [ofDeclarations_concat, get?_add, Option.isSome_or, induction, List.any_append,
        List.any_cons, List.any_nil, Bool.or_false]
      cases Text.lowercase declared.1 == Text.lowercase name <;> rfl

/-! ## Reading a field list -/

theorem loadFrom_append (fields : Fields) (front back : List Json) :
    fields.loadFrom (front ++ back) =
      (((fields.loadFrom front).1.loadFrom back).1,
        (fields.loadFrom front).2 ++ ((fields.loadFrom front).1.loadFrom back).2) := by
  induction front generalizing fields with
  | nil => rfl
  | cons entry rest induction =>
      simp only [List.cons_append, loadFrom, induction, List.append_assoc]

theorem load_concat (entries : List Json) (entry : Json) :
    load (entries ++ [entry]) =
      (((load entries).1.loadEntry entry).1,
        (load entries).2 ++ ((load entries).1.loadEntry entry).2) := by
  have alone (fields : Fields) : fields.loadFrom [entry] = fields.loadEntry entry := by
    simp only [loadFrom, List.append_nil]
  rw [load, loadFrom_append, alone]
  rfl

theorem declarations_concat (entries : List Json) (entry : Json) :
    declarations (entries ++ [entry]) = declarations entries ++ (declaration? entry).toList := by
  rw [declarations, List.filterMap_append, ← declarations, List.filterMap_cons]
  cases declaration? entry <;> rfl

theorem fields_load (entries : List Json) :
    (load entries).1 = ofDeclarations (declarations entries) := by
  induction entries using List.reverseRecOn with
  | nil => rfl
  | append_singleton entries entry induction =>
      rw [load_concat, loadEntry_eq, induction, declarations_concat, declaration?]
      cases entryText? "name" entry with
      | none => rw [Option.map_none, Option.toList_none, List.append_nil]
      | some name => exact (ofDeclarations_concat _ (name, declaredKind entry)).symm

theorem log_load (entries : List Json) :
    (load entries).2 =
      (entries.mapIdx fun index entry => findings (entries.take index) entry).flatten := by
  induction entries using List.reverseRecOn with
  | nil => rfl
  | append_singleton entries entry induction =>
      have earlier : (entries.mapIdx fun index other =>
          findings ((entries ++ [entry]).take index) other) =
            entries.mapIdx fun index other => findings (entries.take index) other := by
        rw [List.mapIdx_eq_mapIdx_iff]
        intro index inside
        rw [List.take_append_of_le_length (Nat.le_of_lt inside)]
      have last : ((load entries).1.loadEntry entry).2 = findings entries entry := by
        rw [loadEntry_eq, findings]
        cases entryText? "name" entry with
        | none => rfl
        | some name =>
            dsimp only
            rw [fields_load, isSome_get?_ofDeclarations]
      rw [load_concat, last, induction, List.mapIdx_concat, List.flatten_concat, earlier,
        List.take_left]

theorem eq_warning_of_mem_findings {earlier : List Json} {entry : Json} {diagnostic : Diagnostic}
    (member : diagnostic ∈ findings earlier entry) :
    ∃ code ∈ [Diagnostic.Code.unknownElement, .duplicateName], ∃ message,
      diagnostic = .warning code message := by
  have element : Diagnostic.Code.unknownElement ∈
      [Diagnostic.Code.unknownElement, .duplicateName] := List.mem_cons_self
  rw [findings] at member
  split at member
  · exact ⟨_, element, _, List.mem_singleton.mp member⟩
  · rcases List.mem_append.mp member with ofType | ofName
    · rcases Option.map_eq_some_iff.mp (Option.mem_toList.mp ofType) with ⟨_, _, rfl⟩
      exact ⟨_, element, _, rfl⟩
    · split at ofName
      · exact ⟨_, List.mem_cons_of_mem _ List.mem_cons_self, _, List.mem_singleton.mp ofName⟩
      · cases ofName

theorem eq_warning_of_mem_load {entries : List Json} {diagnostic : Diagnostic}
    (member : diagnostic ∈ (load entries).2) :
    ∃ code ∈ [Diagnostic.Code.unknownElement, .duplicateName], ∃ message,
      diagnostic = .warning code message := by
  rw [log_load] at member
  rcases List.mem_flatten.mp member with ⟨_, ofEntry, inside⟩
  rcases List.mem_mapIdx.mp ofEntry with ⟨index, _, rfl⟩
  exact eq_warning_of_mem_findings inside

/-! ## What is read -/

/-- How the fields that are read from entries, and what is reported about them, follow from the
entries. -/
structure ReadFrom (entries : List Json) (fields : Fields) (log : Diagnostic.Log) : Prop where
  /-- The columns have the names of the well-formed entries, in their order. -/
  columns : fields.columns = entries.filterMap (entryText? "name")
  /-- A name is that of the first entry that declares it in any case, at the place of its name. -/
  get? (name : String) : fields.get? name = (declaredFields entries).find? fun field =>
    Text.lowercase field.name == Text.lowercase name
  /-- A field is reachable if it has a name that it is found under. -/
  mem_reachable {field : Field} : field ∈ fields.reachable ↔ ∃ name, fields.get? name = some field
  named {field : Field} : field ∈ fields.reachable → fields.columns[field.column]? = some field.name
  columnKind {field : Field} :
    field ∈ fields.reachable → fields.columnKind field.column = field.kind
  otherKind {column : Nat} :
    column ∉ fields.reachable.map Field.column → fields.columnKind column = .object
  distinct : (fields.reachable.map Field.column).Nodup
  /-- Every entry is reported as what it is behind those in front of it, and nothing else is. -/
  log_eq : log = (entries.mapIdx fun index entry => findings (entries.take index) entry).flatten
  warning {diagnostic : Diagnostic} : diagnostic ∈ log → diagnostic.severity = .warning

/-- Whatever the entries of a field list are, names, columns and kinds follow from the well-formed
ones by their places, and every fault of an entry is reported as one warning. -/
theorem field_lists_are_read_by_place (entries : List Json) :
    ReadFrom entries (load entries).1 (load entries).2 := by
  have laid := (declared_load entries).laid
  constructor
  · rw [fields_load, columns_ofDeclarations, declarations, List.map_filterMap]
    congr 1
    funext entry
    rw [declaration?, Option.map_map]
    exact Option.map_id'
  · intro name
    rw [fields_load, get?_ofDeclarations]
    rfl
  · exact laid.mem_reachable_iff
  · exact laid.named
  · exact laid.columnKind_eq
  · exact columnKind_of_not_mem
  · exact laid.nodup_columns
  · exact log_load entries
  · intro diagnostic member
    rcases eq_warning_of_mem_load member with ⟨_, _, _, rfl⟩
    rfl

/-- A second field of a name takes a column, but only the first one is found. -/
example : load
    [.object [("name", .string "Amount"), ("type", .string "int32")],
      .object [("name", .string "amount")], .object [("name", .string "Region")]] =
    (⟨[⟨"Amount", .int32, 0⟩, ⟨"Region", .object, 2⟩], ["Amount", "amount", "Region"]⟩,
      [duplicate "amount"]) := by decide +kernel

end GroupedReport.Fields
