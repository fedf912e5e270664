import GroupedReport.Diagnostic.Code
import GroupedReport.Text.Style

/-!
# Diagnostics

A diagnostic is one finding about a definition. It does not stop the work: a warning means that
something was ignored or replaced by a default, an error that an element is degraded.
-/

namespace GroupedReport

inductive Severity where
  | hint
  | info
  | warning
  | error
deriving DecidableEq, Repr

namespace Severity

def ofLevel (level : Nat) : Severity :=
  if level = 0 then hint
  else if level ≤ 3 then info
  else if level ≤ 7 then warning
  else error

def level : Severity → Nat
  | hint => 0
  | info => 1
  | warning => 4
  | error => 8

@[simp] theorem ofLevel_level (severity : Severity) : ofLevel severity.level = severity := by
  cases severity <;> rfl

def name : Severity → String
  | hint => "hint"
  | info => "info"
  | warning => "warning"
  | error => "error"

def tag : Severity → String
  | hint => "Hint"
  | info => "Info"
  | warning => "Warning"
  | error => "Error"

def ofTag? (tag : String) : Option Severity :=
  [hint, info, warning, error].find? fun severity => severity.tag == tag

def max (left right : Severity) : Severity :=
  if left.level ≤ right.level then right else left

def style : Severity → Text.Style
  | hint => .dimmed
  | info => .blue
  | warning => .boldYellow
  | error => .boldRed

end Severity

structure Diagnostic where
  severity : Severity
  code : Diagnostic.Code
  message : String
  item : Option String := none
  help : Option String := none
deriving DecidableEq, Repr

namespace Diagnostic

/-- A diagnostic on one line; severity and element are coloured if colours are on. -/
def display (colors : Bool) (diagnostic : Diagnostic) : String :=
  diagnostic.severity.style.paint colors diagnostic.severity.name ++ ": " ++
    diagnostic.code.text ++ " - " ++ diagnostic.message ++
    match diagnostic.item with
    | some item => " in " ++ Text.Style.cyan.paint colors item
    | none => ""

def warning (code : Code) (message : String) : Diagnostic :=
  { severity := .warning, code, message }

def error (code : Code) (message : String) : Diagnostic :=
  { severity := .error, code, message }

abbrev Log := List Diagnostic

namespace Log

def hasErrors (log : Log) : Bool :=
  log.any fun diagnostic => diagnostic.severity == .error

def maxSeverity? : Log → Option Severity
  | [] => none
  | diagnostic :: rest =>
      some (((maxSeverity? rest).map diagnostic.severity.max).getD diagnostic.severity)

end Log

end Diagnostic

end GroupedReport
