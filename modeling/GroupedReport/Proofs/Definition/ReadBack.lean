import GroupedReport.Definition.Basic
import GroupedReport.Proofs.Binary64.Finite
import GroupedReport.Proofs.Json.Record
import GroupedReport.Proofs.Value.Json

/-!
# Definitions are read back

The JSON value that a definition is written as is read as the same definition, whatever is inside
of it. A null stands for what is missing alone: no formula and no flag is written as null.
-/

namespace GroupedReport

open Json (ReadsBack document parts?_canonical)

/-! ## Parts of definitions -/

theorem Scope.readsBack (scope : Scope) : ReadsBack toJson ofDocument? scope := by
  have present : (document scope.toJson.canonical).json?.isNone = false := by
    rw [Json.json?_document]
    rfl
  rw [ReadsBack]
  unfold ofDocument?
  rw [present]
  cases scope <;> rfl

theorem Options.readsBack (options : Options) : ReadsBack toJson ofDocument? options := by
  rcases parts?_canonical (rfl : options.toJson = .object _)
      (rfl : _ = ["constant_folding", "cache_aggregates"]) (by decide) with ⟨parts, given, holds⟩
  have foldConstants : parts.defaulted "constant_folding" true Json.Document.bool? =
      some options.foldConstants := holds.defaulted rfl rfl
  have cacheAggregates : parts.defaulted "cache_aggregates" true Json.Document.bool? =
      some options.cacheAggregates := holds.defaulted rfl rfl
  rw [ReadsBack, ofDocument?, given]
  simp only [Option.bind_eq_bind, Option.bind_some, foldConstants, cacheAggregates]

theorem Flag.readsBack (flag : Flag) : ReadsBack toJson ofDocument? flag := by
  cases flag <;> rfl

/-! ## Formulas -/

namespace Formula

def part (value : Json) : Part :=
  (document value, ofDocument? (document value))

theorem memberParts_eq_map (members : List (Option String × Json.Document)) :
    memberParts members = members.map fun member => (member.1, member.2, ofDocument? member.2) := by
  induction members with
  | nil => rfl
  | cons member rest induction => rw [memberParts, induction, List.map_cons]

theorem ofDocument?_canonical {formula : Formula} {key : String} {members : List (String × Json)}
    (written : formula.toJson = .object [(key, .object members)])
    (keys : members.map Prod.fst = partNames key) (distinct : (partNames key).Nodup)
    (notLiteral : key ≠ "literal") (notField : key ≠ "field") :
    ∃ parts, ofDocument? (document formula.toJson.canonical) = ofParts? key parts ∧
      parts.Holds members part := by
  rcases Json.Parts.ofMembers?_canonicalMembers keys distinct part with ⟨parts, given, holds⟩
  refine ⟨parts, ?_, holds⟩
  rw [written]
  change ofDocument? (.object [(some key, document (.object (Json.canonicalMembers [] members)))])
    = _
  rw [ofDocument?, if_neg notLiteral, if_neg notField, document, ofContent?, memberParts_eq_map,
    Json.memberDocuments_eq_map, List.map_map]
  exact congrArg (Option.bind · (ofParts? key)) given

theorem canonical_toJson_ne_null (formula : Formula) : formula.toJson.canonical ≠ .null := by
  cases formula <;> nofun

mutual

theorem readsBack : (formula : Formula) → ReadsBack toJson ofDocument? formula
  | .literal value => by
      have content : Json.Canonical.ofDocument? (document value.val.canonical) = some value :=
        Json.readsBack_keep value
      rw [ReadsBack, toJson]
      change ofDocument? (.object [(some "literal", document value.val.canonical)]) = _
      rw [ofDocument?, if_pos rfl, content]
      rfl
  | .field name => rfl
  | .typed value typeName => by
      rcases ofDocument?_canonical (rfl : (typed value typeName).toJson = _) rfl
          (by decide) (by decide) (by decide) with ⟨parts, given, holds⟩
      have content : parts.required "value"
          (fun part => Json.Canonical.ofDocument? part.1) = some value :=
        holds.required rfl (Json.readsBack_keep value)
      have type : parts.required "type" text? = some typeName := holds.required rfl rfl
      rw [ReadsBack, given, ofParts?, if_pos rfl]
      simp only [Option.bind_eq_bind, Option.bind_some, content, type]
  | .unary operator operand => by
      rcases ofDocument?_canonical (rfl : (unary operator operand).toJson = _) rfl
          (by decide) (by decide) (by decide) with ⟨parts, given, holds⟩
      have symbol : parts.required "op" text? = some operator := holds.required rfl rfl
      have inner : parts.optional "operand" operand? = some operand :=
        holds.optional rfl (operand?_part operand)
      rw [ReadsBack, given, ofParts?, if_neg (by decide), if_pos rfl]
      simp only [Option.bind_eq_bind, Option.bind_some, symbol, inner]
  | .binary operator left right => by
      rcases ofDocument?_canonical (rfl : (binary operator left right).toJson = _) rfl
          (by decide) (by decide) (by decide) with ⟨parts, given, holds⟩
      have symbol : parts.required "op" text? = some operator := holds.required rfl rfl
      have leftInner : parts.optional "lhs" operand? = some left :=
        holds.optional rfl (operand?_part left)
      have rightInner : parts.optional "rhs" operand? = some right :=
        holds.optional rfl (operand?_part right)
      rw [ReadsBack, given, ofParts?, if_neg (by decide), if_neg (by decide), if_pos rfl]
      simp only [Option.bind_eq_bind, Option.bind_some, symbol, leftInner, rightInner]
  | .aggregate function inner scope => by
      rcases ofDocument?_canonical (rfl : (aggregate function inner scope).toJson = _) rfl
          (by decide) (by decide) (by decide) with ⟨parts, given, holds⟩
      have name : parts.required "function" text? = some function := holds.required rfl rfl
      have expression : parts.optional "expr" operand? = some inner :=
        holds.optional rfl (operand?_part inner)
      have rows : parts.defaulted "scope" .default (fun part => Scope.ofDocument? part.1) =
          some scope :=
        holds.defaulted rfl scope.readsBack
      rw [ReadsBack, given, ofParts?, if_neg (by decide), if_neg (by decide),
        if_neg (by decide), if_pos rfl]
      simp only [Option.bind_eq_bind, Option.bind_some, name, expression, rows]

theorem operand?_part : (operand : Option Formula) →
    operand? (part (operandJson operand).canonical) = some operand
  | none => rfl
  | some formula => by
      have inner : ofDocument? (document formula.toJson.canonical) = some formula :=
        readsBack formula
      have present : (document formula.toJson.canonical).isNull = false := by
        cases formula <;> rfl
      rw [operandJson, part, operand?, present, inner]
      rfl

end

end Formula

/-! ## Definitions -/

namespace Definition

theorem Grouping.readsBack (grouping : Grouping) : ReadsBack toJson ofDocument? grouping := by
  rcases parts?_canonical (rfl : grouping.toJson = .object _) (rfl : _ = ["name", "fields"])
      (by decide) with ⟨parts, given, holds⟩
  have name : parts.required "name" text? = some grouping.name := holds.required rfl rfl
  have fields : parts.required "fields" (Json.Document.list? text?) = some grouping.fields :=
    holds.required rfl (Json.readsBack_list fun name _ => Json.readsBack_text name)
  rw [ReadsBack, ofDocument?, given]
  simp only [Option.bind_eq_bind, Option.bind_some, name, fields]

theorem readsBack_kept (values : List Json.Canonical) :
    ReadsBack (fun values => .array (values.map keep))
      (Json.Document.list? Json.Canonical.ofDocument?) values :=
  Json.readsBack_list fun value _ => Json.readsBack_keep value

theorem DataSet.readsBack (dataSet : DataSet) : ReadsBack toJson ofDocument? dataSet := by
  rcases parts?_canonical (rfl : dataSet.toJson = .object _)
      (rfl : _ = ["name", "fields", "groupings"]) (by decide) with ⟨parts, given, holds⟩
  have name : parts.defaulted "name" defaultDataSetName text? = some dataSet.name :=
    holds.defaulted rfl rfl
  have fields : parts.defaulted "fields" [] (Json.Document.list? Json.Canonical.ofDocument?) =
      some dataSet.fields :=
    holds.defaulted rfl (readsBack_kept dataSet.fields)
  have groupings : parts.defaulted "groupings" [] (Json.Document.list? Grouping.ofDocument?) =
      some dataSet.groupings :=
    holds.defaulted rfl (Json.readsBack_list fun grouping _ => grouping.readsBack)
  rw [ReadsBack, ofDocument?, given]
  simp only [Option.bind_eq_bind, Option.bind_some, name, fields, groupings]

/-- Whether a column has no width but a finite one. -/
def Column.HasFiniteWidth (column : Column) : Prop :=
  ∀ width ∈ column.width, Binary64.isFinite width = true

theorem readsBack_width {width : Float} (finite : Binary64.isFinite width = true) :
    ReadsBack Json.ofFloat Json.Document.float? width ∧ (Json.ofFloat width).canonical ≠ .null := by
  have written : Json.ofFloat width = .float width := by
    rw [Json.ofFloat_eq, if_neg]
    rw [Binary64.isFinite] at finite
    simp_all
  rw [ReadsBack, written]
  exact ⟨rfl, Json.noConfusion⟩

theorem readsBack_formula? (formula? : Option Formula) :
    ReadsBack (Json.nullable Formula.toJson) (Json.Document.nullable Formula.ofDocument?)
      formula? :=
  Json.readsBack_nullable fun formula _ =>
    ⟨formula.readsBack, formula.canonical_toJson_ne_null⟩

theorem Column.readsBack {column : Column} (finite : column.HasFiniteWidth) :
    ReadsBack toJson ofDocument? column := by
  rcases parts?_canonical (rfl : column.toJson = .object _)
      (rfl : _ = ["name", "width", "value", "footer", "hidden", "fixed_header"]) (by decide) with
    ⟨parts, given, holds⟩
  have name : parts.required "name" text? = some column.name := holds.required rfl rfl
  have width : parts.optional "width" (Json.Document.nullable Json.Document.float?) =
      some column.width :=
    holds.optional rfl (Json.readsBack_nullable fun width isWidth =>
      readsBack_width (finite width isWidth))
  have formula {part : String} {formula? : Option Formula}
      (found : Json.lookup part _ = some (Json.nullable Formula.toJson formula?)) :
      parts.optional part (Json.Document.nullable Formula.ofDocument?) = some formula? :=
    holds.optional found (readsBack_formula? formula?)
  have value : parts.optional "value" (Json.Document.nullable Formula.ofDocument?) =
      some column.value := formula rfl
  have footer : parts.optional "footer" (Json.Document.nullable Formula.ofDocument?) =
      some column.footer := formula rfl
  have hidden : parts.optional "hidden" (Json.Document.nullable Formula.ofDocument?) =
      some column.hidden := formula rfl
  have fixedHeader : parts.optional "fixed_header" (Json.Document.nullable Flag.ofDocument?) =
      some column.fixedHeader :=
    holds.optional rfl (Json.readsBack_nullable fun flag _ =>
      ⟨flag.readsBack, by cases flag <;> nofun⟩)
  rw [ReadsBack, ofDocument?, given]
  simp only [Option.bind_eq_bind, Option.bind_some, name, width, value, footer, hidden,
    fixedHeader]

theorem Report.readsBack {report : Report}
    (finite : ∀ column ∈ report.columns, column.HasFiniteWidth) :
    ReadsBack toJson ofDocument? report := by
  rcases parts?_canonical (rfl : report.toJson = .object _)
      (rfl : _ = ["name", "dataset", "options", "group", "columns", "rows"]) (by decide) with
    ⟨parts, given, holds⟩
  have name : parts.required "name" text? = some report.name := holds.required rfl rfl
  have dataSet : parts.defaulted "dataset" {} DataSet.ofDocument? = some report.dataSet :=
    holds.defaulted rfl report.dataSet.readsBack
  have options : parts.defaulted "options" {} Options.ofDocument? = some report.options :=
    holds.defaulted rfl report.options.readsBack
  have group : parts.defaulted "group" none (Json.Document.nullable text?) = some report.group :=
    holds.defaulted rfl (Json.readsBack_nullable fun name _ =>
      ⟨Json.readsBack_text name, nofun⟩)
  have columns : parts.defaulted "columns" [] (Json.Document.list? Column.ofDocument?) =
      some report.columns :=
    holds.defaulted rfl (Json.readsBack_list fun column isColumn =>
      Column.readsBack (finite column isColumn))
  have rows : parts.defaulted "rows" [] (Json.Document.list? Json.Canonical.ofDocument?) =
      some report.rows :=
    holds.defaulted rfl (readsBack_kept report.rows)
  rw [ReadsBack, ofDocument?, given]
  simp only [Option.bind_eq_bind, Option.bind_some, name, dataSet, options, group, columns, rows]

end Definition

open Definition (Report)

/-- The JSON value that a definition is written as is read as the same definition if the widths of
its columns are finite, and so is that of every formula. -/
theorem definitions_are_read_back :
    (∀ report : Report, (∀ column ∈ report.columns, column.HasFiniteWidth) →
      Report.ofDocument? (document report.toJson.canonical) = some report) ∧
    ∀ formula : Formula, Formula.ofDocument? (document formula.toJson.canonical) = some formula :=
  ⟨fun _ finite => Report.readsBack finite, Formula.readsBack⟩

def Definition.Report.nested : Report where
  name := "Nested"
  options := { foldConstants := false }
  group := some "ByRegion"
  columns := [
    { name := "Spread"
      width := some (Binary64.ofNat 72)
      value := some (.aggregate "stdevp" (some (.binary "-" (some (.field "Amount")) none))
        (.cell "Rows" "Columns"))
      hidden := some (.unary "not" (some (.literal (.sort .null))))
      fixedHeader := some (.text "true") }]
  rows := [.sort (.object [("Region", .null), ("Amount", .bool true)])]

/-- The width of its only column is finite, so the nested report is read back. -/
theorem nested_report_is_read_back :
    (∀ column ∈ Report.nested.columns, column.HasFiniteWidth) ∧
      Report.ofDocument? (document Report.nested.toJson.canonical) = some Report.nested := by
  have finite : ∀ column ∈ Report.nested.columns, column.HasFiniteWidth := by
    intro column member width isWidth
    cases List.mem_singleton.mp member
    cases isWidth
    decide +kernel
  exact ⟨finite, definitions_are_read_back.1 Report.nested finite⟩

end GroupedReport
