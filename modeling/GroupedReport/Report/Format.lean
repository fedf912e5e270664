import GroupedReport.Json.Canonical
import GroupedReport.Json.Text
import GroupedReport.Report.Output
import GroupedReport.Text.LetterCase
import GroupedReport.Text.Style
import GroupedReport.Text.Table

/-!
# Formats of the output

The output of a report as a text: JSON on one line or over several lines, or a boxed table for each
group.
-/

namespace GroupedReport

inductive OutputFormat where
  | json
  | prettyJson
  | table
deriving DecidableEq, Repr

namespace OutputFormat

/-- The format with a name, in any letter case. A name that means nothing stands for JSON over
several lines. -/
def ofName (name : String) : OutputFormat :=
  let lower := Text.lowercase name
  if lower == "json" then json
  else if lower == "table" then table
  else prettyJson

end OutputFormat

/-- The text of a cell in a table: strings as they are, nothing for null and for no cell. -/
def cellText : Option Json → String
  | none | some .null => ""
  | some (.string text) => text
  | some value => value.compact

namespace GroupOutput

def cellTexts (group : GroupOutput) (cells : Cells) : List String :=
  group.columns.map fun column => cellText (cells.lookup column.name)

def table (group : GroupOutput) : String :=
  let footer := if group.footer.isEmpty then [] else [group.footer]
  Text.Table.draw (group.columns.map ColumnLayout.name)
    ((group.rows ++ footer).map group.cellTexts)

end GroupOutput

namespace ReportOutput

def numberedTables (colors : Bool) (number : Nat) : List GroupOutput → List String
  | [] => []
  | group :: rest =>
      (Text.Style.bold.paint colors "Group" ++ " " ++ Text.Digits.numeral number ++ "\n" ++
        group.table) :: numberedTables colors (number + 1) rest

def tables (colors : Bool) (output : ReportOutput) : String :=
  if output.groups.isEmpty then "(no groups)"
  else "\n\n".intercalate (numberedTables colors 1 output.groups)

def text (format : OutputFormat) (colors : Bool) (output : ReportOutput) : String :=
  match format with
  | .json => output.toJson.canonical.compact
  | .prettyJson => output.toJson.canonical.pretty 0
  | .table => output.tables colors

end ReportOutput

end GroupedReport
