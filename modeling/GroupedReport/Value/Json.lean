import GroupedReport.Value.Coercion

/-!
# Values and JSON

Data and literals come as JSON, and results are written as JSON. Decimals and points in time are
written as text, so that nothing is lost.
-/

namespace GroupedReport.Value

/-- The value of a kind that JSON data stands for. Null stays null. -/
def ofJson (kind : Kind) : Json → Except CoercionError Value
  | .null => .ok null
  | json => (object json).coerce kind

def infer : Json → Value
  | .null => null
  | .bool value => boolean value
  | .integer value =>
      match Coercion.int32OfInt? value with
      | some small => int32 small
      | none => float64 (Binary64.ofInt value)
  | .float value => float64 value
  | .string value => string value
  | json => object json

def toJson : Value → Json
  | null => .null
  | boolean value => .bool value
  | int32 value => .integer value.toInt
  | float64 value => .ofFloat value
  | decimal value => .string (.ofList value.text)
  | string value => .string value
  | dateTime value => .string (.ofList value.text)
  | object value => value

end GroupedReport.Value
