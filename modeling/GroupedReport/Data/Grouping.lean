import GroupedReport.Data.Source

/-!
# Groupings

A grouping parts rows into groups by the values of some columns. Its groups come in the order in
which their first rows appear. Every row is assigned to the first group with its key, and to a new
group if there is none.
-/

namespace GroupedReport

structure Group where
  key : List Value
  rows : List RowId

namespace Group

/-- Whether two keys are equal, value by value. A missing double equals nothing. -/
def sameKey : List Value → List Value → Bool
  | [], [] => true
  | left :: lefts, right :: rights => left.same right && sameKey lefts rights
  | _, _ => false

def add (row : RowId) (group : Group) : Group :=
  { group with rows := group.rows ++ [row] }

end Group

/-- The groups of the rows assigned so far, and for each row the index of its group. -/
structure Grouping where
  columns : List Nat
  groups : List Group := []
  assignment : List Nat := []

namespace Grouping

def key (grouping : Grouping) (values : List Value) : List Value :=
  grouping.columns.map fun column => values[column]?.getD .null

def index? (grouping : Grouping) (key : List Value) : Option Nat :=
  grouping.groups.findIdx? fun group => Group.sameKey group.key key

def assign (grouping : Grouping) (row : RowId) (values : List Value) : Grouping :=
  let key := grouping.key values
  match grouping.index? key with
  | some index =>
      { grouping with
        groups := grouping.groups.modify index (Group.add row)
        assignment := grouping.assignment ++ [index] }
  | none =>
      { grouping with
        groups := grouping.groups ++ [⟨key, [row]⟩]
        assignment := grouping.assignment ++ [grouping.groups.length] }

def assignFrom (grouping : Grouping) (row : RowId) : List (List Value) → Grouping
  | [] => grouping
  | values :: rest => assignFrom (grouping.assign row values) (row + 1) rest

def groupIndex? (grouping : Grouping) (row : RowId) : Option Nat :=
  grouping.assignment[row]?

def rowsOf? (grouping : Grouping) (row : RowId) : Option (List RowId) := do
  let index ← grouping.groupIndex? row
  let group ← grouping.groups[index]?
  some group.rows

end Grouping

end GroupedReport
