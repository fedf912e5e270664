import GroupedReport.Json.Record
import GroupedReport.Operator.Basic
import GroupedReport.Value.Json

/-!
# Tagged values

A value can be written so that it reads back with its kind: an object whose only key is the name
of the kind. Kinds and functions are written by their names.
-/

namespace GroupedReport

namespace Kind

def toJson (kind : Kind) : Json :=
  .string kind.tag

def ofDocument? (document : Json.Document) : Option Kind :=
  document.name?.bind ofTag?

end Kind

namespace AggregateFunction

def toJson (function : AggregateFunction) : Json :=
  .string function.name

def ofDocument? (document : Json.Document) : Option AggregateFunction :=
  document.name?.bind ofTag?

end AggregateFunction

namespace Value

def toTagged : Value → Json
  | .null => .string "Null"
  | .boolean value => .object [("Boolean", .bool value)]
  | .int32 value => .object [("Int32", .integer value.toInt)]
  | .float64 value => .object [("Float64", toJson (.float64 value))]
  | .decimal value => .object [("Decimal", .string (.ofList value.text))]
  | .string value => .object [("String", .string value)]
  | .dateTime value => .object [("DateTime", .string (.ofList value.text))]
  | .object value => .object [("Object", value)]

/-- A decimal from its text, or from the digits of a number. -/
def taggedDecimal? : Json.Document → Option Decimal
  | .string value => value.bind fun text => Decimal.read? text.toList
  | .number (some (.integer value)) => Decimal.read? (Text.Digits.writeInt value)
  | .number (some (.float value)) => Decimal.read? (Binary64.plainText value).toList
  | _ => none

def ofTagged? (name : String) (content : Json.Document) : Option Value :=
  if name = "Boolean" then content.bool?.map boolean
  else if name = "Int32" then
    (content.integer? Decimal.int32Least Decimal.int32Greatest).map fun value =>
      int32 (Int32.ofInt value)
  else if name = "Float64" then content.float?.map float64
  else if name = "Decimal" then (taggedDecimal? content).map decimal
  else if name = "String" then content.text?.map string
  else if name = "DateTime" then
    content.text?.bind fun text => (DateTime.readCanonical? text.toList).map dateTime
  else if name = "Object" then content.json?.map object
  else none

def ofDocument? (document : Json.Document) : Option Value :=
  if document.name? = some "Null" then some null
  else match document with
    | .object [(some name, content)] => ofTagged? name content
    | _ => none

end Value

end GroupedReport
