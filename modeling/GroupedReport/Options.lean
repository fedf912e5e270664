import GroupedReport.Json.Record

/-!
# Options

How expressions are prepared and evaluated. The options never change what a report says.
-/

namespace GroupedReport

structure Options where
  foldConstants : Bool := true
  cacheAggregates : Bool := true
deriving DecidableEq, Repr

namespace Options

def toJson (options : Options) : Json :=
  .object [("constant_folding", .bool options.foldConstants),
    ("cache_aggregates", .bool options.cacheAggregates)]

/-- Read options; each of them is on unless it says otherwise. -/
def ofDocument? (document : Json.Document) : Option Options := do
  let parts ← document.parts? ["constant_folding", "cache_aggregates"]
  let foldConstants ← parts.defaulted "constant_folding" true Json.Document.bool?
  let cacheAggregates ← parts.defaulted "cache_aggregates" true Json.Document.bool?
  some { foldConstants, cacheAggregates }

end Options

end GroupedReport
