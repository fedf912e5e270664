import GroupedReport.Json.Canonical

/-!
# Records in documents

A record is written as an object with its parts as members, or as an array with its parts in
their order. An object may have members that are no parts, but no part twice; an array may not be
longer than the record. A part may be missing if it is optional or has a default.
-/

namespace GroupedReport.Json

/-- The parts of a record that are present. `named` says that they come from an object. -/
structure Parts (α : Type) where
  named : Bool
  present : List (String × α)

namespace Parts

def ofMembers? (names : List String) (members : List (Option String × α)) :
    Option (Parts α) := do
  let entries ← members.mapM fun (key, part) => key.map (·, part)
  let known := entries.filter fun entry => names.contains entry.1
  if (known.map Prod.fst).Nodup then some ⟨true, known⟩ else none

def ofElements? (names : List String) (elements : List α) : Option (Parts α) :=
  if elements.length ≤ names.length then some ⟨false, names.zip elements⟩ else none

def find? (parts : Parts α) (name : String) : Option α :=
  parts.present.lookup name

def required (parts : Parts α) (name : String) (read : α → Option β) : Option β :=
  (parts.find? name).bind read

def optional (parts : Parts α) (name : String) (read : α → Option (Option β)) :
    Option (Option β) :=
  match parts.find? name with
  | some part => read part
  | none => if parts.named then some none else none

def defaulted (parts : Parts α) (name : String) (default : β) (read : α → Option β) :
    Option β :=
  match parts.find? name with
  | some part => read part
  | none => some default

end Parts

namespace Document

def parts? (names : List String) : Document → Option (Parts Document)
  | .array elements => Parts.ofElements? names elements
  | .object members => Parts.ofMembers? names members
  | _ => none

def isNull : Document → Bool
  | .null => true
  | _ => false

def nullable (read : Document → Option α) : Document → Option (Option α)
  | .null => some none
  | document => (read document).map some

def text? : Document → Option String
  | .string value => value
  | _ => none

def bool? : Document → Option Bool
  | .bool value => some value
  | _ => none

def float? : Document → Option Float
  | .number value => value.map Number.toFloat
  | _ => none

def integer? (least greatest : Int) : Document → Option Int
  | .number (some (.integer value)) =>
      if least ≤ value ∧ value ≤ greatest then some value else none
  | _ => none

def list? (read : Document → Option α) : Document → Option (List α)
  | .array elements => elements.mapM read
  | _ => none

/-- A name that stands alone: a string, or the only key of an object with null in it. -/
def name? : Document → Option String
  | .string value => value
  | .object [(key, .null)] => key
  | _ => none

end Document

def nullable (write : α → Json) : Option α → Json
  | some value => write value
  | none => .null

end GroupedReport.Json
