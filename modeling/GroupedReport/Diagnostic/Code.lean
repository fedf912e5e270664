import GroupedReport.Text.Digits

/-!
# Diagnostic codes

Every problem has a code. The hundreds of its number say what part of the work it belongs to.
-/

namespace GroupedReport.Diagnostic

structure Code where
  number : UInt16
deriving DecidableEq, Repr

namespace Code

/-! ## The structure of a definition -/

def unknownElement : Code := ⟨1⟩
def duplicateName : Code := ⟨2⟩
def missingElement : Code := ⟨3⟩
def invalidBoolean : Code := ⟨4⟩
def unknownField : Code := ⟨5⟩
def unknownAggregate : Code := ⟨6⟩
def invalidLiteral : Code := ⟨7⟩
def unknownScope : Code := ⟨8⟩

/-! ## Kinds -/

def typeMismatch : Code := ⟨100⟩
def undefinedOperator : Code := ⟨101⟩
def unfoldedConstant : Code := ⟨102⟩

/-! ## Evaluation -/

def evaluationFailed : Code := ⟨200⟩
def divisionByZero : Code := ⟨201⟩
def overflow : Code := ⟨202⟩
def invalidConversion : Code := ⟨203⟩
def fieldNotFound : Code := ⟨204⟩
def notComparable : Code := ⟨205⟩

/-! ## The system -/

def internalError : Code := ⟨400⟩
def inputOutput : Code := ⟨401⟩
def invalidFormat : Code := ⟨402⟩

/-- What the problems with a code have in common, for all codes that have a description. -/
def descriptions : List (Code × String) :=
  [(unknownElement, "Unknown element"),
    (duplicateName, "Duplicate name"),
    (missingElement, "Missing required element"),
    (invalidBoolean, "Invalid boolean value"),
    (unknownField, "Unknown field reference"),
    (unknownAggregate, "Unknown aggregate function"),
    (invalidLiteral, "Invalid literal"),
    (unknownScope, "Unknown scope"),
    (typeMismatch, "Type mismatch"),
    (undefinedOperator, "Operator not defined for operand kinds"),
    (unfoldedConstant, "Constant expression could not be folded"),
    (evaluationFailed, "Evaluation failed"),
    (divisionByZero, "Division by zero"),
    (overflow, "Overflow error"),
    (invalidConversion, "Invalid conversion"),
    (fieldNotFound, "Field not found"),
    (notComparable, "Values not comparable"),
    (internalError, "Internal error"),
    (inputOutput, "I/O error"),
    (invalidFormat, "Invalid format")]

def description (code : Code) : String :=
  (descriptions.lookup code).getD "Unknown error"

def help? (code : Code) : Option String :=
  if code = duplicateName then
    some "Names must be unique within their collection, ignoring case"
  else none

inductive Category where
  | definition
  | type
  | evaluation
  | system
deriving DecidableEq, Repr

def category? (code : Code) : Option Category :=
  let number := code.number.toNat
  if 1 ≤ number ∧ number < 100 then some .definition
  else if 100 ≤ number ∧ number < 200 then some .type
  else if 200 ≤ number ∧ number < 300 then some .evaluation
  else if 400 ≤ number ∧ number < 500 then some .system
  else none

def text (code : Code) : String :=
  "RC" ++ .ofList (Text.Digits.padded 4 code.number.toNat)

example : category? divisionByZero = some .evaluation := by decide

end Code

end GroupedReport.Diagnostic
