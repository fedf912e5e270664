import GroupedReport.Definition.Formula
import GroupedReport.Flag
import GroupedReport.Options

/-!
# Report definitions

A definition describes a data set with its fields and groupings, and the columns of a table. It is
written in JSON. What is missing has a default; only names have to be there.
-/

namespace GroupedReport

namespace Flag

def toJson : Flag → Json
  | .bool value => .bool value
  | .text spelling => .string spelling

def ofDocument? : Json.Document → Option Flag
  | .bool value => some (.bool value)
  | .string value => value.map .text
  | _ => none

end Flag

namespace Definition

def text? (document : Json.Document) : Option String :=
  document.text?

def keep (value : Json.Canonical) : Json :=
  value.val

structure Grouping where
  name : String
  fields : List String
deriving DecidableEq, Repr

namespace Grouping

def toJson (grouping : Grouping) : Json :=
  .object [("name", .string grouping.name),
    ("fields", .array (grouping.fields.map .string))]

def ofDocument? (document : Json.Document) : Option Grouping := do
  let parts ← document.parts? ["name", "fields"]
  let name ← parts.required "name" text?
  let fields ← parts.required "fields" (Json.Document.list? text?)
  some { name, fields }

end Grouping

def defaultDataSetName : String := "DataSet1"

structure DataSet where
  name : String := defaultDataSetName
  fields : List Json.Canonical := []
  groupings : List Grouping := []

namespace DataSet

def toJson (dataSet : DataSet) : Json :=
  .object [("name", .string dataSet.name), ("fields", .array (dataSet.fields.map keep)),
    ("groupings", .array (dataSet.groupings.map Grouping.toJson))]

def ofDocument? (document : Json.Document) : Option DataSet := do
  let parts ← document.parts? ["name", "fields", "groupings"]
  let name ← parts.defaulted "name" defaultDataSetName text?
  let fields ← parts.defaulted "fields" [] (Json.Document.list? Json.Canonical.ofDocument?)
  let groupings ← parts.defaulted "groupings" [] (Json.Document.list? Grouping.ofDocument?)
  some { name, fields, groupings }

end DataSet

/-- A column of the table: what it shows for each row, what it shows once for a group, and when
it is hidden in a group. -/
structure Column where
  name : String
  width : Option Float := none
  value : Option Formula := none
  footer : Option Formula := none
  hidden : Option Formula := none
  fixedHeader : Option Flag := none

namespace Column

def toJson (column : Column) : Json :=
  .object [("name", .string column.name), ("width", Json.nullable .ofFloat column.width),
    ("value", Json.nullable Formula.toJson column.value),
    ("footer", Json.nullable Formula.toJson column.footer),
    ("hidden", Json.nullable Formula.toJson column.hidden),
    ("fixed_header", Json.nullable Flag.toJson column.fixedHeader)]

def ofDocument? (document : Json.Document) : Option Column := do
  let parts ← document.parts? ["name", "width", "value", "footer", "hidden", "fixed_header"]
  let name ← parts.required "name" text?
  let width ← parts.optional "width" (Json.Document.nullable Json.Document.float?)
  let value ← parts.optional "value" (Json.Document.nullable Formula.ofDocument?)
  let footer ← parts.optional "footer" (Json.Document.nullable Formula.ofDocument?)
  let hidden ← parts.optional "hidden" (Json.Document.nullable Formula.ofDocument?)
  let fixedHeader ← parts.optional "fixed_header" (Json.Document.nullable Flag.ofDocument?)
  some { name, width, value, footer, hidden, fixedHeader }

end Column

/-- A whole report. It is run once for each group of the given grouping, or once for the whole
data set, over its own rows unless others are given. -/
structure Report where
  name : String
  dataSet : DataSet := {}
  options : Options := {}
  group : Option String := none
  columns : List Column := []
  rows : List Json.Canonical := []

namespace Report

def toJson (report : Report) : Json :=
  .object [("name", .string report.name), ("dataset", report.dataSet.toJson),
    ("options", report.options.toJson), ("group", Json.nullable .string report.group),
    ("columns", .array (report.columns.map Column.toJson)),
    ("rows", .array (report.rows.map keep))]

def ofDocument? (document : Json.Document) : Option Report := do
  let parts ← document.parts? ["name", "dataset", "options", "group", "columns", "rows"]
  let name ← parts.required "name" text?
  let dataSet ← parts.defaulted "dataset" {} DataSet.ofDocument?
  let options ← parts.defaulted "options" {} Options.ofDocument?
  let group ← parts.defaulted "group" none (Json.Document.nullable text?)
  let columns ← parts.defaulted "columns" [] (Json.Document.list? Column.ofDocument?)
  let rows ← parts.defaulted "rows" [] (Json.Document.list? Json.Canonical.ofDocument?)
  some { name, dataSet, options, group, columns, rows }

def read? (text : String) : Option Report :=
  (Json.Document.read? text).bind ofDocument?

end Report

end Definition

end GroupedReport
