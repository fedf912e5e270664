import GroupedReport.Json.Token

/-!
# JSON documents

A document is parsed text with nothing thrown away: members stay in their order, repeated keys
stay apart, and numbers that are too large stay as they are spelled. Only what is used of a
document has to have a value. Reading keeps a stack of the arrays and objects that are open.
-/

namespace GroupedReport.Json

inductive Document where
  | null
  | bool (value : Bool)
  | number (value : Option Number)
  | string (value : Option String)
  | array (elements : List Document)
  | object (members : List (Option String × Document))

namespace Document

instance : Inhabited Document := ⟨null⟩

def depthLimit : Nat := 127

/-- An array or object that is open, with what it holds so far, last first. -/
inductive Frame where
  | array (elements : List Document)
  | member (members : List (Option String × Document)) (key : Option String)

/-- What may come next, inside of the given open frames. -/
inductive State where
  | awaitValue (frames : List Frame)
  /-- The first element of an array, or its end. -/
  | awaitElement (frames : List Frame)
  /-- The first key of an object, or its end. -/
  | awaitFirstKey (frames : List Frame)
  /-- A key behind other members. -/
  | awaitKey (members : List (Option String × Document)) (frames : List Frame)
  /-- The colon behind a key. -/
  | awaitColon (members : List (Option String × Document)) (key : Option String)
      (frames : List Frame)
  /-- A comma behind an element, or the end of the array. -/
  | awaitElementEnd (elements : List Document) (frames : List Frame)
  /-- A comma behind a member, or the end of the object. -/
  | awaitMemberEnd (members : List (Option String × Document)) (frames : List Frame)
  /-- Nothing more. -/
  | done (document : Document)

def State.after (document : Document) : List Frame → State
  | [] => .done document
  | .array elements :: frames => .awaitElementEnd (document :: elements) frames
  | .member members key :: frames => .awaitMemberEnd ((key, document) :: members) frames

def State.begin? (frames : List Frame) : Token → Option State
  | .openArray => if frames.length < depthLimit then some (.awaitElement frames) else none
  | .openObject => if frames.length < depthLimit then some (.awaitFirstKey frames) else none
  | .null => some (.after .null frames)
  | .bool value => some (.after (.bool value) frames)
  | .number spelling => some (.after (.number spelling.number?) frames)
  | .string value => some (.after (.string value) frames)
  | _ => none

def State.step? (state : State) (token : Token) : Option State :=
  match state, token with
  | .awaitValue frames, token => State.begin? frames token
  | .awaitElement frames, .closeArray => some (.after (.array []) frames)
  | .awaitElement frames, token => State.begin? (.array [] :: frames) token
  | .awaitFirstKey frames, .closeObject => some (.after (.object []) frames)
  | .awaitFirstKey frames, .string key => some (.awaitColon [] key frames)
  | .awaitKey members frames, .string key => some (.awaitColon members key frames)
  | .awaitColon members key frames, .colon => some (.awaitValue (.member members key :: frames))
  | .awaitElementEnd elements frames, .comma => some (.awaitValue (.array elements :: frames))
  | .awaitElementEnd elements frames, .closeArray => some (.after (.array elements.reverse) frames)
  | .awaitMemberEnd members frames, .comma => some (.awaitKey members frames)
  | .awaitMemberEnd members frames, .closeObject => some (.after (.object members.reverse) frames)
  | _, _ => none

def read? (text : String) : Option Document := do
  let tokens ← tokens? text.toList
  match ← tokens.foldlM State.step? (.awaitValue []) with
  | .done document => some document
  | _ => none

/-! ## Documents and values -/

mutual

def json? : Document → Option Json
  | .null => some .null
  | .bool value => some (.bool value)
  | .number value => value.map Number.json
  | .string value => value.map .string
  | .array elements => (elements? elements).map .array
  | .object members => (members? [] members).map .object

def elements? : List Document → Option (List Json)
  | [] => some []
  | document :: rest => do
      let value ← json? document
      let values ← elements? rest
      some (value :: values)

def members? (sorted : List (String × Json)) :
    List (Option String × Document) → Option (List (String × Json))
  | [] => some sorted
  | (key, document) :: rest => do
      let key ← key
      let value ← json? document
      members? (insert key value sorted) rest

end

end Document

mutual

def document : Json → Document
  | .null => .null
  | .bool value => .bool value
  | .integer value => .number (some (.integer value))
  | .float value => .number (some (.float value))
  | .string value => .string (some value)
  | .array elements => .array (elementDocuments elements)
  | .object members => .object (memberDocuments members)

def elementDocuments : List Json → List Document
  | [] => []
  | value :: rest => document value :: elementDocuments rest

def memberDocuments : List (String × Json) → List (Option String × Document)
  | [] => []
  | (key, value) :: rest => (some key, document value) :: memberDocuments rest

end

def read? (text : String) : Option Json :=
  (Document.read? text).bind Document.json?

end GroupedReport.Json
