import GroupedReport.Report.Error

/-!
# Sessions

While a command is at work it reads files and writes lines, to the output and to the messages. It
stops at the first failure; the lines that it has written stay.
-/

namespace GroupedReport.CommandLine

/-- Why the system does not read or write a file, in its own words. -/
structure FileError where
  reason : String
deriving DecidableEq, Repr

def FileError.notFound : FileError := ⟨"No such file or directory (os error 2)"⟩

abbrev Files := String → Except FileError String

inductive Failure where
  | definitionUnreadable (path : String) (error : FileError)
  | definitionInvalid (path : String)
  /-- A definition with findings is not run, because it contains errors. -/
  | definitionFaulty (findings : Nat)
  | dataUnreadable (path : String) (error : FileError)
  | dataInvalid (path : String)
  | report (error : ReportError)
  | nothingToCheck
  | checksFailed (failed total : Nat)
  | outputUnwritable (path : String) (error : FileError)

namespace Failure

open Text.Digits (numeral) in
def message : Failure → String
  | definitionUnreadable path error =>
      loading path ++ "Failed to read " ++ path ++ ": " ++ error.reason ++ ": " ++ error.reason
  | definitionInvalid path => loading path ++ "Invalid JSON: the text defines no report"
  | definitionFaulty findings => "Report definition has " ++ numeral findings ++ " diagnostics"
  | dataUnreadable path error => "Failed to read data file: " ++ path ++ ": " ++ error.reason
  | dataInvalid path => "Failed to parse data file: " ++ path ++ ": the text is no JSON array"
  | report error => error.detailedMessage
  | nothingToCheck => "No files specified for checking"
  | checksFailed failed total =>
      numeral failed ++ " of " ++ numeral total ++ " definitions failed"
  | outputUnwritable path error =>
      "Failed to create output file: " ++ path ++ ": " ++ error.reason
where
  loading (path : String) : String := "Failed to load report definition: " ++ path ++ ": "

end Failure

structure Transcript where
  output : List String := []
  messages : List String := []
deriving DecidableEq, Repr

abbrev Session := ExceptT Failure (StateM Transcript)

namespace Session

def print (line : String) : Session Unit :=
  modify fun transcript => { transcript with output := transcript.output ++ [line] }

def note (line : String) : Session Unit :=
  modify fun transcript => { transcript with messages := transcript.messages ++ [line] }

/-- What the work gives, and the lines it has written by then. -/
def transcribe {α : Type} (work : Session α) : Except Failure α × Transcript :=
  work.run.run {}

@[simp] theorem transcribe_print (line : String) :
    (print line).transcribe = (.ok (), { output := [line] }) := rfl

@[simp] theorem transcribe_note (line : String) :
    (note line).transcribe = (.ok (), { messages := [line] }) := rfl

end Session

end GroupedReport.CommandLine
