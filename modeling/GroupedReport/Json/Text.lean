import GroupedReport.Json.Number

/-!
# The text of a JSON value

A value is written on one line without spaces, or over several lines with an indentation of two
spaces. Members keep the order in which they are held.
-/

namespace GroupedReport.Json

def hexDigit (number : Nat) : Char :=
  if number < 10 then Char.ofNat (48 + number) else Char.ofNat (87 + number)

/-- A character inside a string: quotes, backslashes and control characters are escaped. -/
def escape (character : Char) : List Char :=
  if character = '"' then ['\\', '"']
  else if character = '\\' then ['\\', '\\']
  else if character = '\x08' then ['\\', 'b']
  else if character = '\x0c' then ['\\', 'f']
  else if character = '\n' then ['\\', 'n']
  else if character = '\r' then ['\\', 'r']
  else if character = '\t' then ['\\', 't']
  else if character.toNat < 32 then
    ['\\', 'u', '0', '0', hexDigit (character.toNat / 16), hexDigit (character.toNat % 16)]
  else [character]

def quoted (text : String) : String :=
  .ofList ('"' :: text.toList.flatMap escape ++ ['"'])

def scalarText : Json → String
  | .bool value => if value then "true" else "false"
  | .integer value => .ofList (Text.Digits.writeInt value)
  | .float value => .ofList (floatText value)
  | .string value => quoted value
  | _ => "null"

mutual

def compact : Json → String
  | .array elements => "[" ++ compactElements elements ++ "]"
  | .object members => "\x7b" ++ compactMembers members ++ "\x7d"
  | value => scalarText value

def compactElements : List Json → String
  | [] => ""
  | [value] => compact value
  | value :: rest => compact value ++ "," ++ compactElements rest

def compactMembers : List (String × Json) → String
  | [] => ""
  | [(key, value)] => quoted key ++ ":" ++ compact value
  | (key, value) :: rest => quoted key ++ ":" ++ compact value ++ "," ++ compactMembers rest

end

def lineStart (depth : Nat) : String :=
  .ofList ('\n' :: List.replicate (2 * depth) ' ')

mutual

def pretty (depth : Nat) : Json → String
  | .array [] => "[]"
  | .object [] => "\x7b\x7d"
  | .array elements => "[" ++ prettyElements (depth + 1) elements ++ lineStart depth ++ "]"
  | .object members => "\x7b" ++ prettyMembers (depth + 1) members ++ lineStart depth ++ "\x7d"
  | value => scalarText value

def prettyElements (depth : Nat) : List Json → String
  | [] => ""
  | [value] => lineStart depth ++ pretty depth value
  | value :: rest => lineStart depth ++ pretty depth value ++ "," ++ prettyElements depth rest

def prettyMembers (depth : Nat) : List (String × Json) → String
  | [] => ""
  | [(key, value)] => lineStart depth ++ quoted key ++ ": " ++ pretty depth value
  | (key, value) :: rest =>
      lineStart depth ++ quoted key ++ ": " ++ pretty depth value ++ "," ++
        prettyMembers depth rest

end

end GroupedReport.Json
