import GroupedReport.Json.Record

/-!
# Scopes

A scope says which rows an aggregate ranges over, as seen from the current row.
-/

namespace GroupedReport

inductive Scope where
  /-- The innermost group, or the whole data set outside of any group. -/
  | default
  /-- All rows of a data set. -/
  | dataSet (name : String)
  /-- The rows of a group that the current row belongs to. -/
  | group (name : String)
  /-- The rows that two groups have in common. -/
  | cell (rowGroup columnGroup : String)
deriving DecidableEq, Repr

namespace Scope

instance : Inhabited Scope := ⟨default⟩

def text : Scope → String
  | .default => "@default"
  | .dataSet name => "@dataset:" ++ name
  | .group name => "@group:" ++ name
  | .cell rowGroup columnGroup => "@cell:" ++ rowGroup ++ "/" ++ columnGroup

def toJson : Scope → Json
  | .default => .object [("type", .string "default")]
  | .dataSet name => .object [("type", .string "dataset"), ("name", .string name)]
  | .group name => .object [("type", .string "group"), ("name", .string name)]
  | .cell rowGroup columnGroup => .object
      [("type", .string "cell"), ("row_group", .string rowGroup),
        ("column_group", .string columnGroup)]

def partNames (type : String) : List String :=
  if type = "dataset" ∨ type = "group" then ["name"]
  else if type = "cell" then ["row_group", "column_group"]
  else []

def ofParts? (type : String) (parts : Json.Parts Json.Document) : Option Scope :=
  if type = "default" then some .default
  else if type = "dataset" then
    (parts.required "name" Json.Document.text?).map dataSet
  else if type = "group" then
    (parts.required "name" Json.Document.text?).map group
  else if type = "cell" then do
    let rowGroup ← parts.required "row_group" Json.Document.text?
    let columnGroup ← parts.required "column_group" Json.Document.text?
    some (cell rowGroup columnGroup)
  else none

def isType (member : Option String × Json.Document) : Bool :=
  member.1 == some "type"

def ofMembers? (members : List (Option String × Json.Document)) : Option Scope :=
  match members.filter isType with
  | [(_, type)] => do
      let type ← type.text?
      let others := members.filter fun member => !isType member
      ofParts? type (← Json.Parts.ofMembers? (partNames type) others)
  | _ => none

/-- Read a scope: an object, or an array with the type first. Nothing in it may lack a value,
used or not. -/
def ofDocument? (document : Json.Document) : Option Scope :=
  if document.json?.isNone then none
  else match document with
    | .object members => ofMembers? members
    | .array (type :: parts) => do
        let type ← type.text?
        ofParts? type (← Json.Parts.ofElements? (partNames type) parts)
    | _ => none

end Scope

end GroupedReport
