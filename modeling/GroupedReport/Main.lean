import GroupedReport.CommandLine.Perform

/-!
# The program

Reads the files that a command names, and writes what the command leaves.
-/

namespace GroupedReport.CommandLine

def reasonOf : IO.Error → String
  | .noFileOrDirectory _ _ _ => FileError.notFound.reason
  | .permissionDenied _ code details => coded details code
  | .inappropriateType _ code details => coded details code
  | .userError _ => "stream did not contain valid UTF-8"
  | error => toString error
where
  coded (details : String) (code : UInt32) : String :=
    details ++ " (os error " ++ Text.Digits.numeral code.toNat ++ ")"

def readFile (path : String) : IO (Except FileError String) := do
  try
    return .ok (← IO.FS.readFile path)
  catch error =>
    return .error ⟨reasonOf error⟩

/-- How writing a file ends. Nothing is written if there is no file. -/
def writeFile : Option WrittenFile → IO (Except FileError Unit)
  | none => return .ok ()
  | some file => do
      try
        return .ok (← IO.FS.writeFile file.path file.content)
      catch error =>
        return .error ⟨reasonOf error⟩

def runInvocation (invocation : Invocation) : IO Ending := do
  let contents ← invocation.inputs.mapM fun path => return (path, ← readFile path)
  let files : Files := fun path => (contents.lookup path).getD (.error .notFound)
  let terminal ← (← IO.getStdout).isTty
  let outcome := Outcome.ofInvocation terminal files invocation
  return Ending.ofOutcome outcome (← writeFile outcome.file?)

end GroupedReport.CommandLine

open GroupedReport.CommandLine in
def main (arguments : List String) : IO UInt32 := do
  let ending ← match Invocation.read arguments with
    | .error error => pure (Ending.ofUsageError error)
    | .ok invocation => runInvocation invocation
  IO.print ending.output
  IO.eprint ending.messages
  return UInt32.ofNat ending.code
