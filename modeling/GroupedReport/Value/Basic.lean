import GroupedReport.Binary64.Order
import GroupedReport.Binary64.Text
import GroupedReport.Calendar.Text
import GroupedReport.Decimal.Binary64
import GroupedReport.Decimal.Text
import GroupedReport.Json.Text
import GroupedReport.Kind

/-!
# Values

A value is what an expression evaluates to. Missing data is null, or a double that is not a
number.
-/

namespace GroupedReport

inductive Value where
  | null
  | boolean (value : Bool)
  | int32 (value : Int32)
  | float64 (value : Float)
  | decimal (value : Decimal)
  | string (value : String)
  | dateTime (value : DateTime)
  | object (value : Json)
deriving Repr

namespace Value

instance : Inhabited Value := ⟨null⟩

def kind? : Value → Option Kind
  | null => none
  | boolean _ => some .boolean
  | int32 _ => some .int32
  | float64 _ => some .float64
  | decimal _ => some .decimal
  | string _ => some .string
  | dateTime _ => some .dateTime
  | object _ => some .object

def isNull : Value → Bool
  | null => true
  | _ => false

def isAbsent : Value → Bool
  | null => true
  | float64 value => value.isNaN
  | _ => false

def ofFloatOrNull (value : Float) : Value :=
  if value.isNaN then null else float64 value

/-- Whether two values are equal: of one kind, and equal in it. Decimals are equal if they stand
for the same number; a double that is not a number equals nothing. -/
def same : Value → Value → Bool
  | null, null => true
  | boolean left, boolean right => left == right
  | int32 left, int32 right => left == right
  | float64 left, float64 right => left == right
  | decimal left, decimal right => left.sameNumber right
  | string left, string right => left == right
  | dateTime left, dateTime right => left == right
  | object left, object right => left.same right
  | _, _ => false

/-- Compare two values. Numbers of different kinds are compared as numbers, as doubles if one of
them is a double. Other kinds are compared only with themselves, and null and opaque values not
at all. -/
def compare? : Value → Value → Option Ordering
  | boolean left, boolean right => some (compare left right)
  | int32 left, int32 right => some (compare left.toInt right.toInt)
  | decimal left, decimal right => some (left.compare right)
  | int32 left, decimal right => some ((Decimal.ofInt32 left).compare right)
  | decimal left, int32 right => some (left.compare (.ofInt32 right))
  | float64 left, float64 right => Binary64.compare? left right
  | float64 left, int32 right => Binary64.compare? left (Binary64.ofInt right.toInt)
  | int32 left, float64 right => Binary64.compare? (Binary64.ofInt left.toInt) right
  | float64 left, decimal right => Binary64.compare? left right.toFloat
  | decimal left, float64 right => Binary64.compare? left.toFloat right
  | string left, string right => some (compare left right)
  | dateTime left, dateTime right => some (left.compare right)
  | _, _ => none

def display : Value → String
  | null => "null"
  | boolean value => if value then "true" else "false"
  | int32 value => .ofList (Text.Digits.writeInt value.toInt)
  | float64 value => Binary64.plainText value
  | decimal value => .ofList value.text
  | string value => "'" ++ value ++ "'"
  | dateTime value => "@" ++ .ofList value.text
  | object value => value.compact

end Value

/-- The least value of a kind. For whole numbers, decimals and points in time it also stands for
missing data. -/
def Kind.sentinel : Kind → Value
  | .boolean => .boolean true
  | .int32 => .int32 Int32.minValue
  | .float64 => .float64 Binary64.least
  | .decimal => .decimal .least
  | .string | .object => .string ""
  | .dateTime => .dateTime .least

end GroupedReport
