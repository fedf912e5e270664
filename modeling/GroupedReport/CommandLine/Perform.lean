import GroupedReport.CommandLine.Command
import GroupedReport.CommandLine.Session
import GroupedReport.Report.Run

/-!
# Performing commands

What the commands do with the files they read. The content of the output file is the result of a
command; it is written when nothing has failed.
-/

namespace GroupedReport.CommandLine

open Text.Digits (numeral)

def loadDefinition (files : Files) (path : String) : Except Failure Definition.Report :=
  match files path with
  | .error error => .error (.definitionUnreadable path error)
  | .ok text =>
      match Definition.Report.read? text with
      | none => .error (.definitionInvalid path)
      | some definition => .ok definition

def loadData (files : Files) (path : String) : Except Failure (List Json) :=
  match files path with
  | .error error => .error (.dataUnreadable path error)
  | .ok text =>
      match (Json.Document.read? text).bind (Json.Document.list? Json.Canonical.ofDocument?) with
      | none => .error (.dataInvalid path)
      | some rows => .ok (rows.map Subtype.val)

def truth (value : Bool) : String := if value then "true" else "false"

def noteLog (colors : Bool) (log : Diagnostic.Log) : Session Unit :=
  log.forM fun diagnostic => Session.note (diagnostic.display colors)

def labelled (style : Text.Style) (label : String) (colors : Bool) (message : String) : String :=
  style.paint colors label ++ " " ++ message

namespace RunCommand

def options (command : RunCommand) (settings : Settings) (definition : Definition.Report) :
    Options :=
  { foldConstants := definition.options.foldConstants && settings.foldConstants
    cacheAggregates := definition.options.cacheAggregates && command.cacheAggregates }

def rows (command : RunCommand) (verbose : Bool) (files : Files) (report : Report) :
    Session (List Json) :=
  match command.data with
  | none => return report.rows
  | some path => do
      let rows ← loadData files path
      if verbose then
        Session.note ("Loaded " ++ numeral rows.length ++ " rows from " ++ path)
      return rows

def perform (command : RunCommand) (settings : Settings) (colors : Bool) (files : Files) :
    Session String := do
  let definition ← loadDefinition files command.definition
  let options := command.options settings definition
  if settings.verbose then
    Session.note ("Compiling '" ++ definition.name ++ "' (constant folding: " ++
      truth options.foldConstants ++ ", aggregate cache: " ++ truth options.cacheAggregates ++ ")")
  let report := Report.ofDefinition options definition
  noteLog colors report.log
  if command.strict && report.log.hasErrors then
    throw (.definitionFaulty report.log.length)
  let rows ← command.rows settings.verbose files report
  let output ← (report.run rows).mapError Failure.report
  if settings.verbose then
    let stats := output.stats
    Session.note ("Cache: " ++ numeral stats.hits ++ " hits, " ++ numeral stats.misses ++
      " misses, " ++ numeral stats.stores ++ " stores, " ++ numeral stats.invalidations ++
      " invalidations")
  return output.text settings.format colors

end RunCommand

namespace CheckCommand

def printColumn (colors : Bool) (dump : Expression.NodeId → String) (column : Column) :
    Session Unit := do
  Session.print (Text.Style.cyan.paint colors column.name ++ " " ++ dump column.value)
  column.footer.forM fun footer => Session.print ("  footer " ++ dump footer)
  column.hidden.forM fun hidden => Session.print ("  hidden " ++ dump hidden)

def verdict (strict colors : Bool) (path : String) (log : Diagnostic.Log) : String × Bool :=
  if log.hasErrors || (strict && !log.isEmpty) then
    (labelled .boldRed "Failed:" colors path, true)
  else if log.isEmpty then (labelled .boldGreen "Success:" colors path, false)
  else
    (labelled .boldYellow "Warning:" colors
      (path ++ " (" ++ numeral log.length ++ " diagnostics)"), false)

def performOne (command : CheckCommand) (settings : Settings) (colors : Bool) (files : Files)
    (path : String) : Session Bool := do
  let definition ← loadDefinition files path
  let report := Report.ofDefinition
    { definition.options with
      foldConstants := definition.options.foldConstants && settings.foldConstants } definition
  noteLog colors report.log
  if command.dump then
    report.columns.forM (printColumn colors fun id => (report.engine.program.tree id).dump)
  let (message, fails) := verdict command.strict colors path report.log
  Session.note message
  return fails

def perform (command : CheckCommand) (settings : Settings) (colors : Bool) (files : Files) :
    Session Unit := do
  if command.definitions.isEmpty then throw .nothingToCheck
  let verdicts ← command.definitions.mapM (command.performOne settings colors files)
  if verdicts.any id then
    throw (.checksFailed (verdicts.count true) command.definitions.length)

end CheckCommand

structure WrittenFile where
  path : String
  content : String
deriving DecidableEq, Repr

namespace Invocation

def perform (invocation : Invocation) (colors : Bool) (files : Files) :
    Session (Option WrittenFile) := do
  let settings := invocation.settings
  match invocation.command with
  | .check command => do
      command.perform settings colors files
      return none
  | .run command => do
      let content ← command.perform settings colors files
      match settings.outputFile with
      | some path => return some ⟨path, content⟩
      | none => do
          Session.print content
          return none

end Invocation

/-- What a command leaves: its lines, and a failure or the file that is to be written. -/
structure Outcome where
  colors : Bool
  transcript : Transcript
  result : Except Failure (Option WrittenFile)

namespace Outcome

def ofInvocation (terminal : Bool) (files : Files) (invocation : Invocation) : Outcome :=
  let colors := invocation.settings.colorMode.isOn terminal
  let (result, transcript) := (invocation.perform colors files).transcribe
  { colors, transcript, result }

def file? (outcome : Outcome) : Option WrittenFile :=
  match outcome.result with
  | .ok file? => file?
  | .error _ => none

/-- The last message of a command and whether it fails, given how the file was written. -/
def closing (outcome : Outcome) (writing : Except FileError Unit) : List String × Bool :=
  match outcome.result, writing with
  | .error failure, _ =>
      ([labelled .boldRed "Error:" outcome.colors failure.message], true)
  | .ok none, _ => ([], false)
  | .ok (some file), .ok () =>
      ([labelled .boldGreen "Success:" outcome.colors ("Output written to " ++ file.path)], false)
  | .ok (some file), .error error =>
      ([labelled .boldRed "Error:" outcome.colors
        (Failure.outputUnwritable file.path error).message], true)

end Outcome

structure Ending where
  output : String
  messages : String
  code : Nat
deriving DecidableEq, Repr

namespace Ending

def unlines (lines : List String) : String :=
  .ofList (lines.flatMap fun line => line.toList ++ ['\n'])

def ofOutcome (outcome : Outcome) (writing : Except FileError Unit) : Ending :=
  let (last, fails) := outcome.closing writing
  { output := unlines outcome.transcript.output
    messages := unlines (outcome.transcript.messages ++ last)
    code := if fails then 1 else 0 }

def ofUsageError (error : UsageError) : Ending :=
  { output := "", messages := unlines ["error: " ++ error.message], code := 2 }

end Ending

end GroupedReport.CommandLine
