import GroupedReport.Evaluation.Cache
import GroupedReport.Json.Basic

/-!
# The output of a report

A run of a report gives one table for each group: the visible columns with their positions, a row
of cells for each row of data, and a footer.
-/

namespace GroupedReport

structure ColumnLayout where
  name : String
  position : Float
deriving DecidableEq, Repr

abbrev Cells := List (String × Json)

namespace Cells

/-- Put a cell behind the others, or in the place of the one with the same name. -/
def put (name : String) (cell : Json) : Cells → Cells
  | [] => [(name, cell)]
  | (other, old) :: rest =>
      if other = name then (name, cell) :: rest else (other, old) :: put name cell rest

end Cells

structure GroupOutput where
  columns : List ColumnLayout
  rows : List Cells
  footer : Cells

structure ReportOutput where
  name : String
  groups : List GroupOutput
  stats : CacheStats

namespace ReportOutput

def columnJson (column : ColumnLayout) : Json :=
  .object [("name", .string column.name), ("x", .float column.position)]

def groupJson (group : GroupOutput) : Json :=
  .object <|
    [("columns", .array (group.columns.map columnJson)),
      ("rows", .array (group.rows.map .object))] ++
    if group.footer.isEmpty then [] else [("footer", .object group.footer)]

def statsJson (stats : CacheStats) : Json :=
  .object [("hits", .integer stats.hits), ("misses", .integer stats.misses),
    ("stores", .integer stats.stores), ("invalidations", .integer stats.invalidations)]

def toJson (output : ReportOutput) : Json :=
  .object [("name", .string output.name), ("groups", .array (output.groups.map groupJson)),
    ("stats", statsJson output.stats)]

end ReportOutput

end GroupedReport
