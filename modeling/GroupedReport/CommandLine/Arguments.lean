/-!
# Arguments

The arguments of a command are options and operands. An option is named in full behind two
hyphens, or by a letter behind one; letters can stand together. Its value stands in the same
argument, or it is the next one. Behind an argument of two hyphens only operands follow.
-/

namespace GroupedReport.CommandLine

structure OptionForm where
  name : String
  letter : Option Char := none
  takesValue : Bool := false
deriving DecidableEq, Repr

inductive UsageError where
  | missingCommand
  | unknownCommand (name : String)
  | unknownOption (text : String)
  | repeatedOption (name : String)
  | missingValue (option : String)
  | unexpectedValue (option : String)
  | missingOperand (name : String)
  | unexpectedOperand (text : String)
deriving DecidableEq, Repr

namespace UsageError

def message : UsageError → String
  | missingCommand => "a command is required: run or check"
  | unknownCommand name => "unknown command '" ++ name ++ "'"
  | unknownOption text => "unknown option '" ++ text ++ "'"
  | repeatedOption name => "option '--" ++ name ++ "' is given twice"
  | missingValue option => "option '--" ++ option ++ "' requires a value"
  | unexpectedValue option => "option '--" ++ option ++ "' takes no value"
  | missingOperand name => "an argument <" ++ name ++ "> is required"
  | unexpectedOperand text => "unexpected argument '" ++ text ++ "'"

end UsageError

/-- An option as it is given; one that takes no value has an empty one. -/
structure GivenOption where
  name : String
  value : String
deriving DecidableEq, Repr

inductive Argument where
  /-- Only operands follow. -/
  | endOfOptions
  | operand (text : String)
  /-- Options; the last of them may still wait for its value. -/
  | options (given : List GivenOption) (waiting : Option OptionForm)
deriving DecidableEq, Repr

namespace Argument

def ofLetters (forms : List OptionForm) :
    List Char → Except UsageError (List GivenOption × Option OptionForm)
  | [] => .ok ([], none)
  | letter :: rest =>
      match forms.find? (·.letter == some letter) with
      | none => .error (.unknownOption (.ofList ['-', letter]))
      | some form =>
          if form.takesValue then
            match rest with
            | [] => .ok ([], some form)
            | '=' :: value => .ok ([⟨form.name, .ofList value⟩], none)
            | value => .ok ([⟨form.name, .ofList value⟩], none)
          else do
            let (given, waiting) ← ofLetters forms rest
            .ok (⟨form.name, ""⟩ :: given, waiting)

def ofName (forms : List OptionForm) (text : List Char) :
    Except UsageError (List GivenOption × Option OptionForm) :=
  let name := String.ofList (text.takeWhile (· ≠ '='))
  match forms.find? (·.name == name), text.dropWhile (· ≠ '=') with
  | none, _ => .error (.unknownOption ("--" ++ name))
  | some form, [] => if form.takesValue then .ok ([], some form) else .ok ([⟨name, ""⟩], none)
  | some form, _ :: value =>
      if form.takesValue then .ok ([⟨name, .ofList value⟩], none)
      else .error (.unexpectedValue name)

def ofText (forms : List OptionForm) (text : String) : Except UsageError Argument :=
  match text.toList with
  | ['-', '-'] => .ok endOfOptions
  | '-' :: '-' :: name => do
      let (given, waiting) ← ofName forms name
      .ok (options given waiting)
  | '-' :: letter :: letters => do
      let (given, waiting) ← ofLetters forms (letter :: letters)
      .ok (options given waiting)
  | _ => .ok (operand text)

example : ofText [⟨"format", some 'f', true⟩] "-fjson" =
    .ok (options [⟨"format", "json"⟩] none) := by cbv
example : ofText [⟨"format", some 'f', true⟩] "--format" =
    .ok (options [] (some ⟨"format", some 'f', true⟩)) := by cbv

/-- Whether a text is not the value of an option that stands before it. -/
def beginsOption (text : String) : Bool :=
  match text.toList with
  | '-' :: _ :: _ => true
  | _ => false

end Argument

structure Arguments where
  options : List GivenOption := []
  operands : List String := []
deriving DecidableEq, Repr

namespace Arguments

/-- Read arguments, the first one perhaps as the value of an option. If the operands begin with
the name of a command, all that follows is left to that command. -/
def readFrom (forms : List OptionForm) (namesCommand : Bool) :
    Option OptionForm → List String → Except UsageError Arguments
  | none, [] => .ok {}
  | some form, [] => .error (.missingValue form.name)
  | some form, value :: rest =>
      if Argument.beginsOption value then .error (.missingValue form.name)
      else do
        let others ← readFrom forms namesCommand none rest
        .ok { others with options := ⟨form.name, value⟩ :: others.options }
  | none, text :: rest => do
      match ← Argument.ofText forms text with
      | .endOfOptions =>
          if namesCommand then .error .missingCommand else .ok { operands := rest }
      | .operand text =>
          if namesCommand then .ok { operands := text :: rest }
          else
            let others ← readFrom forms namesCommand none rest
            .ok { others with operands := text :: others.operands }
      | .options given waiting =>
          let others ← readFrom forms namesCommand waiting rest
          .ok { others with options := given ++ others.options }

def repeated? : List GivenOption → Option String
  | [] => none
  | option :: rest =>
      if rest.any (·.name == option.name) then some option.name else repeated? rest

def read (forms : List OptionForm) (namesCommand : Bool) (texts : List String) :
    Except UsageError Arguments := do
  let arguments ← readFrom forms namesCommand none texts
  match repeated? arguments.options with
  | some name => .error (.repeatedOption name)
  | none => .ok arguments

def has (arguments : Arguments) (name : String) : Bool :=
  arguments.options.any (·.name == name)

def value? (arguments : Arguments) (name : String) : Option String :=
  (arguments.options.find? (·.name == name)).map GivenOption.value

end Arguments

end GroupedReport.CommandLine
