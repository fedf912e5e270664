import GroupedReport.Fields
import GroupedReport.Value.Json

/-!
# Rows

A row of data is given as an array in the order of the columns, or as an object with the names of
fields as keys. Either way it becomes one value for each column, of the kind of its field.
-/

namespace GroupedReport

/-- The values of one row, in the order of the columns. -/
abbrev Row := List Value

inductive RowError where
  /-- A value does not convert to the kind of its field. -/
  | value (row : Nat) (field : String) (error : CoercionError)
  /-- A row is neither an array nor an object. -/
  | shape (row : Nat) (found : Json)
deriving Repr

namespace RowError

def shapeReason (row : Nat) (found : Json) : String :=
  "row " ++ Text.Digits.numeral row ++ " must be an array or an object, found " ++
    found.compact

def message : RowError → String
  | value row field error =>
      "Row " ++ Text.Digits.numeral row ++ ", field '" ++ field ++ "': " ++ error.message
  | shape row found => "Invalid JSON: " ++ shapeReason row found

def code : RowError → Diagnostic.Code
  | value _ _ _ => .invalidConversion
  | shape _ _ => .invalidFormat

end RowError

namespace Row

def load? (row : Nat) (field : String) (kind : Kind) (json : Json) :
    Except RowError Value :=
  (Value.ofJson kind json).mapError (.value row field)

/-- The values of an array, from a column on. Missing values are null, and values beyond the
last column are ignored. -/
def ofElements (fields : Fields) (row column : Nat) :
    List String → List Json → Except RowError Row
  | [], _ => .ok []
  | _ :: names, [] => .ok (.null :: names.map fun _ => .null)
  | name :: names, json :: rest => do
      let value ← load? row name (fields.columnKind column) json
      let values ← ofElements fields row (column + 1) names rest
      .ok (value :: values)

/-- Put the values of members into a row. Members that name no field are ignored. -/
def ofMembers (fields : Fields) (row : Nat) (values : Row) :
    List (String × Json) → Except RowError Row
  | [] => .ok values
  | (name, json) :: rest =>
      match fields.get? name with
      | none => ofMembers fields row values rest
      | some field => do
          let value ← load? row field.name field.kind json
          ofMembers fields row (values.set field.column value) rest

def ofJson (fields : Fields) (row : Nat) : Json → Except RowError Row
  | .array elements => ofElements fields row 0 fields.columns elements
  | .object members => ofMembers fields row (fields.columns.map fun _ => .null) members
  | json => .error (.shape row json)

def loadFrom (fields : Fields) (row : Nat) : List Json → Except RowError (List Row)
  | [] => .ok []
  | json :: rest => do
      let values ← ofJson fields row json
      let rows ← loadFrom fields (row + 1) rest
      .ok (values :: rows)

/-- All rows of some data. The first error in the order of the data wins. -/
def load (fields : Fields) (data : List Json) : Except RowError (List Row) :=
  loadFrom fields 0 data

end Row

end GroupedReport
