import GroupedReport.Diagnostic.Basic
import GroupedReport.Text.Blank
import GroupedReport.Text.LetterCase

/-!
# Flags

A flag of a definition is a Boolean or its text. A text that is neither true nor false is reported
and read as false.
-/

namespace GroupedReport

inductive Flag where
  | bool (value : Bool)
  | text (text : String)
deriving DecidableEq, Repr

namespace Flag

def truth? (text : String) : Option Bool :=
  let word := Text.asciiLowercase (.ofList (Text.trim text.toList))
  if word = "true" then some true
  else if word = "false" then some false
  else none

def resolve : Flag → Bool × Diagnostic.Log
  | .bool value => (value, [])
  | .text spelling =>
      match truth? spelling with
      | some value => (value, [])
      | none =>
          (false, [.warning .invalidBoolean
            ("Unknown True/False value '" ++ spelling ++ "'.  False assumed.")])

end Flag

end GroupedReport
