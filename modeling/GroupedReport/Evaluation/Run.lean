import GroupedReport.Data.Source
import GroupedReport.Evaluation.Cache

/-!
# Runs

A run is what changes while expressions are evaluated over some data. It keeps the values of the
aggregates of one program, the first whose aggregate it meets.
-/

namespace GroupedReport

open Expression

/-- The state of a run: its data, what it keeps, the program whose aggregates it keeps, and how
many values it has asked the data for. -/
structure Run where
  data : DataSource
  cache : Cache := {}
  program? : Option ProgramId := none
  reads : Nat := 0

/-- A step of evaluation. What it does to the run stays when it fails. -/
abbrev Evaluate := ExceptT EvaluationError (StateM Run)

namespace Run

def start (data : DataSource) : Run := { data }

def invalidate (run : Run) (key : AggregateKey) : Run :=
  { run with cache := run.cache.drop (.aggregate key) }

def reset (run : Run) : Run :=
  { run with cache := run.cache.clear, program? := none }

def workState? (run : Run) (owner name : String) : Option Value :=
  run.cache.peek? (.workState owner name)

def setWorkState (run : Run) (owner name : String) (value : Value) : Run :=
  { run with cache := run.cache.store (.workState owner name) value }

end Run

/-- Aggregates whose values hold within one instance of a scope only. -/
structure Boundary where
  name : String
  keys : List AggregateKey
deriving DecidableEq, Repr

namespace Boundary

def addKeys (known : List AggregateKey) : List AggregateKey → List AggregateKey
  | [] => known
  | key :: rest => addKeys (if known.contains key then known else known ++ [key]) rest

def ofRoots (name : String) (program : Program) (roots : List NodeId) : Boundary :=
  { name, keys := roots.foldl (fun keys root => addKeys keys (program.keysWithin root)) [] }

def whole (name : String) (program : Program) : Boundary :=
  { name, keys := program.aggregates.map Prod.fst }

end Boundary

def Run.cross (run : Run) (boundary : Boundary) : Run :=
  boundary.keys.foldl Run.invalidate run

end GroupedReport
