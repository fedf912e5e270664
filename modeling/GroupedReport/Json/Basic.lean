/-!
# JSON values

A JSON value keeps whole numbers apart from floating ones. An object is canonical if its keys
increase strictly; two canonical objects with the same members are the same list.
-/

namespace GroupedReport

inductive Json where
  | null
  | bool (value : Bool)
  | integer (value : Int)
  | float (value : Float)
  | string (value : String)
  | array (elements : List Json)
  | object (members : List (String × Json))
deriving Repr

namespace Json

instance : Inhabited Json := ⟨null⟩

def lookup (key : String) : List (String × Json) → Option Json
  | [] => none
  | (other, value) :: rest => if other = key then some value else lookup key rest

def member? (key : String) : Json → Option Json
  | .object members => lookup key members
  | _ => none

/-- Put a member at its place among members with increasing keys; a member with the same key
gives way. -/
def insert (key : String) (value : Json) : List (String × Json) → List (String × Json)
  | [] => [(key, value)]
  | (other, old) :: rest =>
      if key < other then (key, value) :: (other, old) :: rest
      else if key = other then (key, value) :: rest
      else (other, old) :: insert key value rest

def precedes (key : String) : List (String × Json) → Bool
  | [] => true
  | (other, _) :: _ => decide (key < other)

mutual

def isCanonical : Json → Bool
  | .array elements => areCanonical elements
  | .object members => membersCanonical members
  | _ => true

def areCanonical : List Json → Bool
  | [] => true
  | value :: rest => isCanonical value && areCanonical rest

def membersCanonical : List (String × Json) → Bool
  | [] => true
  | (key, value) :: rest => precedes key rest && isCanonical value && membersCanonical rest

end

mutual

/-- Whether two values are equal. A whole number never equals a floating one, and the two
floating zeros are equal. -/
def same : Json → Json → Bool
  | .null, .null => true
  | .bool left, .bool right => left == right
  | .integer left, .integer right => left == right
  | .float left, .float right => left == right
  | .string left, .string right => left == right
  | .array left, .array right => sameElements left right
  | .object left, .object right => sameMembers left right
  | _, _ => false

def sameElements : List Json → List Json → Bool
  | [], [] => true
  | left :: lefts, right :: rights => same left right && sameElements lefts rights
  | _, _ => false

def sameMembers : List (String × Json) → List (String × Json) → Bool
  | [], [] => true
  | (leftKey, left) :: lefts, (rightKey, right) :: rights =>
      leftKey == rightKey && same left right && sameMembers lefts rights
  | _, _ => false

end

mutual

/-- The canonical form of a value. Of members with one key the last one stays. -/
def canonical : Json → Json
  | .array elements => .array (canonicalElements elements)
  | .object members => .object (canonicalMembers [] members)
  | value => value

def canonicalElements : List Json → List Json
  | [] => []
  | value :: rest => canonical value :: canonicalElements rest

def canonicalMembers (sorted : List (String × Json)) :
    List (String × Json) → List (String × Json)
  | [] => sorted
  | (key, value) :: rest => canonicalMembers (insert key (canonical value) sorted) rest

end

example : canonical (.object [("b", .null), ("a", .integer 1), ("b", .bool true)]) =
    .object [("a", .integer 1), ("b", .bool true)] := by cbv

end Json

end GroupedReport
