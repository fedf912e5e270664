import GroupedReport.Diagnostic.Basic
import GroupedReport.Json.Text
import GroupedReport.Kind
import GroupedReport.Text.LetterCase

/-!
# Fields

The fields of a data set, as a definition declares them. Every declared field takes the next
column of a row. Of fields with the same name, apart from letter case, only the first one can be
found by name; the others still take a column.
-/

namespace GroupedReport

structure Field where
  name : String
  kind : Kind
  column : Nat
deriving DecidableEq, Repr

/-- Declared fields: those that can be found by name, and the names of all columns. -/
structure Fields where
  reachable : List Field := []
  columns : List String := []
deriving DecidableEq, Repr

namespace Fields

def get? (fields : Fields) (name : String) : Option Field :=
  fields.reachable.find? fun field => Text.lowercase field.name == Text.lowercase name

/-- Declare a field. The column is given if the name was not taken yet. -/
def add (fields : Fields) (name : String) (kind : Kind) : Fields × Option Nat :=
  let column := fields.columns.length
  let columns := fields.columns ++ [name]
  if (fields.get? name).isSome then ({ fields with columns }, none)
  else (⟨fields.reachable ++ [⟨name, kind, column⟩], columns⟩, some column)

def duplicate (name : String) : Diagnostic :=
  .warning .duplicateName ("Field " ++ name ++ " has duplicates.")

def declare (fields : Fields) (name : String) (kind : Kind) :
    Fields × Option Nat × Diagnostic.Log :=
  let (fields, column?) := fields.add name kind
  (fields, column?, if column?.isSome then [] else [duplicate name])

def kindOf (fieldName typeName : String) : Kind × Diagnostic.Log :=
  match Kind.ofName? typeName with
  | some kind => (kind, [])
  | none =>
      (.object, [.warning .unknownElement
        ("Unknown type '" ++ typeName ++ "' for field " ++ fieldName ++ ".  Object assumed.")])

def entryKind (fieldName : String) (entry : Json) : Kind × Diagnostic.Log :=
  match entry.member? "type" with
  | some (.string typeName) => kindOf fieldName typeName
  | _ => (.object, [])

/-- Declare the field of an entry. An entry without a name is reported and takes no column. -/
def loadEntry (fields : Fields) (entry : Json) : Fields × Diagnostic.Log :=
  match entry.member? "name" with
  | some (.string name) =>
      let (kind, kindLog) := entryKind name entry
      let (fields, _, nameLog) := fields.declare name kind
      (fields, kindLog ++ nameLog)
  | _ =>
      (fields, [.warning .unknownElement
        ("Unknown element '" ++ entry.compact ++ "' in fields list.")])

def loadFrom (fields : Fields) : List Json → Fields × Diagnostic.Log
  | [] => (fields, [])
  | entry :: rest =>
      let (fields, entryLog) := fields.loadEntry entry
      let (fields, restLog) := loadFrom fields rest
      (fields, entryLog ++ restLog)

def load (entries : List Json) : Fields × Diagnostic.Log :=
  loadFrom {} entries

def columnKind (fields : Fields) (column : Nat) : Kind :=
  ((fields.reachable.find? fun field => field.column == column).map Field.kind).getD .object

end Fields

end GroupedReport
