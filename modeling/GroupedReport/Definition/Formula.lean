import GroupedReport.Scope

/-!
# Formulas

A formula is an expression as a definition writes it: names are not resolved yet, and operands
may be missing. It is an object whose only key says what it is.
-/

namespace GroupedReport

inductive Formula where
  /-- A constant whose kind follows from its form. -/
  | literal (value : Json.Canonical)
  /-- A constant of a kind that is given by name. -/
  | typed (value : Json.Canonical) (typeName : String)
  | field (name : String)
  | unary (operator : String) (operand : Option Formula)
  | binary (operator : String) (left right : Option Formula)
  | aggregate (function : String) (inner : Option Formula) (scope : Scope)

namespace Formula

mutual

def toJson : Formula → Json
  | .literal value => .object [("literal", value.val)]
  | .typed value typeName => .object
      [("typed", .object [("value", value.val), ("type", .string typeName)])]
  | .field name => .object [("field", .string name)]
  | .unary operator operand => .object
      [("unary", .object [("op", .string operator), ("operand", operandJson operand)])]
  | .binary operator left right => .object
      [("binary", .object [("op", .string operator), ("lhs", operandJson left),
        ("rhs", operandJson right)])]
  | .aggregate function inner scope => .object
      [("aggregate", .object [("function", .string function), ("expr", operandJson inner),
        ("scope", scope.toJson)])]

def operandJson : Option Formula → Json
  | none => .null
  | some formula => toJson formula

end

/-- A part of a formula: its document, and the formula that it holds, if it holds one. -/
abbrev Part := Json.Document × Option Formula

def operand? (part : Part) : Option (Option Formula) :=
  if part.1.isNull then some none else part.2.map some

def text? (part : Part) : Option String :=
  part.1.text?

def partNames (key : String) : List String :=
  if key = "typed" then ["value", "type"]
  else if key = "unary" then ["op", "operand"]
  else if key = "binary" then ["op", "lhs", "rhs"]
  else ["function", "expr", "scope"]

def ofParts? (key : String) (parts : Json.Parts Part) : Option Formula :=
  if key = "typed" then do
    let value ← parts.required "value" fun part => Json.Canonical.ofDocument? part.1
    let typeName ← parts.required "type" text?
    some (.typed value typeName)
  else if key = "unary" then do
    let operator ← parts.required "op" text?
    let operand ← parts.optional "operand" operand?
    some (.unary operator operand)
  else if key = "binary" then do
    let operator ← parts.required "op" text?
    let left ← parts.optional "lhs" operand?
    let right ← parts.optional "rhs" operand?
    some (.binary operator left right)
  else if key = "aggregate" then do
    let function ← parts.required "function" text?
    let inner ← parts.optional "expr" operand?
    let scope ← parts.defaulted "scope" .default fun part => Scope.ofDocument? part.1
    some (.aggregate function inner scope)
  else none

mutual

def ofDocument? : Json.Document → Option Formula
  | .object [(some key, content)] =>
      if key = "literal" then (Json.Canonical.ofDocument? content).map .literal
      else if key = "field" then content.text?.map .field
      else ofContent? key content
  | _ => none

def ofContent? (key : String) : Json.Document → Option Formula
  | .object members =>
      (Json.Parts.ofMembers? (partNames key) (memberParts members)).bind (ofParts? key)
  | .array elements =>
      (Json.Parts.ofElements? (partNames key) (elementParts elements)).bind (ofParts? key)
  | _ => none

def memberParts : List (Option String × Json.Document) → List (Option String × Part)
  | [] => []
  | (key, document) :: rest => (key, document, ofDocument? document) :: memberParts rest

def elementParts : List Json.Document → List Part
  | [] => []
  | document :: rest => (document, ofDocument? document) :: elementParts rest

end

end Formula

end GroupedReport
