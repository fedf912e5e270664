import GroupedReport.CommandLine.Arguments
import GroupedReport.Options
import GroupedReport.Report.Format
import GroupedReport.Text.LetterCase

/-!
# Commands

There are two commands: one runs a report, the other checks report definitions. The settings that
they share are given before or behind the name of the command.
-/

namespace GroupedReport.CommandLine

inductive ColorMode where
  | always
  | never
  /-- Only on a terminal. -/
  | automatic
deriving DecidableEq, Repr

namespace ColorMode

def ofName (name : String) : ColorMode :=
  let lower := Text.lowercase name
  if lower == "always" then always
  else if lower == "never" then never
  else automatic

def isOn (mode : ColorMode) (terminal : Bool) : Bool :=
  match mode with
  | always => true
  | never => false
  | automatic => terminal

end ColorMode

structure Settings where
  verbose : Bool
  format : OutputFormat
  outputFile : Option String
  colorMode : ColorMode
  foldConstants : Bool
deriving DecidableEq, Repr

structure RunCommand where
  definition : String
  data : Option String
  cacheAggregates : Bool
  strict : Bool
deriving DecidableEq, Repr

structure CheckCommand where
  definitions : List String
  /-- Whether a warning lets a check fail. -/
  strict : Bool
  /-- Whether the expressions of all columns are shown. -/
  dump : Bool
deriving DecidableEq, Repr

inductive Command where
  | run (command : RunCommand)
  | check (command : CheckCommand)
deriving DecidableEq, Repr

structure Invocation where
  settings : Settings
  command : Command
deriving DecidableEq, Repr

namespace Settings

def forms : List OptionForm :=
  [⟨"verbose", some 'v', false⟩, ⟨"format", some 'f', true⟩, ⟨"output", some 'o', true⟩,
    ⟨"color", none, true⟩, ⟨"no-fold", none, false⟩]

/-- The settings given before and behind the name of a command. The value behind it wins. -/
def ofArguments (before behind : Arguments) : Settings :=
  let value? (name : String) := (behind.value? name).or (before.value? name)
  let has (name : String) := behind.has name || before.has name
  { verbose := has "verbose"
    format := ((value? "format").map OutputFormat.ofName).getD .prettyJson
    outputFile := value? "output"
    colorMode := ((value? "color").map ColorMode.ofName).getD .automatic
    foldConstants := !has "no-fold" }

end Settings

def pathOptions : List String := ["output", "data"]

def checkPaths (arguments : Arguments) : Except UsageError Unit := do
  match arguments.options.find? fun option => pathOptions.contains option.name &&
      option.value.isEmpty with
  | some option => .error (.missingValue option.name)
  | none => if arguments.operands.contains "" then .error (.missingOperand "FILE") else .ok ()

namespace RunCommand

def forms : List OptionForm :=
  [⟨"data", some 'd', true⟩, ⟨"no-cache", none, false⟩, ⟨"strict", some 's', false⟩]

def ofArguments (arguments : Arguments) : Except UsageError RunCommand :=
  match arguments.operands with
  | [definition] =>
      .ok { definition, data := arguments.value? "data",
            cacheAggregates := !arguments.has "no-cache", strict := arguments.has "strict" }
  | [] => .error (.missingOperand "FILE")
  | _ :: second :: _ => .error (.unexpectedOperand second)

end RunCommand

namespace CheckCommand

def forms : List OptionForm :=
  [⟨"strict", some 's', false⟩, ⟨"dump", none, false⟩]

def ofArguments (arguments : Arguments) : CheckCommand :=
  { definitions := arguments.operands, strict := arguments.has "strict",
    dump := arguments.has "dump" }

end CheckCommand

namespace Invocation

def readCommand (before : Arguments) (forms : List OptionForm)
    (build : Arguments → Except UsageError Command) (texts : List String) :
    Except UsageError Invocation := do
  let behind ← Arguments.read (Settings.forms ++ forms) false texts
  checkPaths behind
  let command ← build behind
  .ok { settings := .ofArguments before behind, command }

def read (texts : List String) : Except UsageError Invocation := do
  let before ← Arguments.read Settings.forms true texts
  match before.operands with
  | [] => .error .missingCommand
  | "run" :: rest => do
      checkPaths { before with operands := [] }
      readCommand before RunCommand.forms (fun behind => .run <$> RunCommand.ofArguments behind)
        rest
  | "check" :: rest => do
      checkPaths { before with operands := [] }
      readCommand before CheckCommand.forms (fun behind => .ok (.check (.ofArguments behind))) rest
  | name :: _ => .error (.unknownCommand name)

def inputs (invocation : Invocation) : List String :=
  match invocation.command with
  | .run command => command.definition :: command.data.toList
  | .check command => command.definitions

end Invocation

end GroupedReport.CommandLine
