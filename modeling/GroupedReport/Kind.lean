/-!
# Kinds

Every value that is not null has one of seven kinds, and every expression has a kind that is
known before it is evaluated.
-/

namespace GroupedReport

inductive Kind where
  | boolean
  | int32
  | float64
  | decimal
  | string
  | dateTime
  /-- An opaque value, which is only passed on. -/
  | object
deriving DecidableEq, Repr

namespace Kind

def all : List Kind :=
  [boolean, int32, float64, decimal, string, dateTime, object]

theorem mem_all (kind : Kind) : kind ∈ all := by
  cases kind <;> decide

def name : Kind → String
  | boolean => "Boolean"
  | int32 => "Int32"
  | float64 => "Float64"
  | decimal => "Decimal"
  | string => "String"
  | dateTime => "DateTime"
  | object => "Object"

def tag : Kind → String
  | boolean => "boolean"
  | int32 => "int32"
  | float64 => "float64"
  | decimal => "decimal"
  | string => "string"
  | dateTime => "datetime"
  | object => "object"

def ofTag? (tag : String) : Option Kind :=
  all.find? fun kind => kind.tag == tag

@[simp] theorem ofTag?_tag (kind : Kind) : ofTag? kind.tag = some kind := by
  cases kind <;> rfl

def aliases : Kind → List String
  | boolean => ["bool"]
  | int32 => ["int", "integer"]
  | float64 => ["float", "double"]
  | string => ["text"]
  | dateTime => ["timestamp", "date"]
  | decimal | object => []

def ofName? (name : String) : Option Kind :=
  let lower := name.map Char.toLower
  all.find? fun kind => kind.tag == lower || kind.aliases.contains lower

def isNumeric : Kind → Bool
  | int32 | float64 | decimal => true
  | _ => false

/-- The kind in which arithmetic on two kinds is carried out: the wider one. -/
def promote? : Kind → Kind → Option Kind
  | int32, int32 => some int32
  | float64, other | other, float64 => if other.isNumeric then some float64 else none
  | decimal, int32 | int32, decimal | decimal, decimal => some decimal
  | _, _ => none

example : promote? int32 decimal = some decimal := rfl
example : promote? float64 string = none := rfl
example : ofName? "Integer" = some int32 := by decide +kernel

theorem promote?_comm (left right : Kind) : promote? left right = promote? right left := by
  cases left <;> cases right <;> rfl

theorem promote?_isSome (left right : Kind) :
    (promote? left right).isSome = (left.isNumeric && right.isNumeric) := by
  cases left <;> cases right <;> rfl

end Kind

end GroupedReport
