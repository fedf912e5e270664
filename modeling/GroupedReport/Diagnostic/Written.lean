import GroupedReport.Diagnostic.Basic
import GroupedReport.Json.Record

/-!
# Written diagnostics

Diagnostics are written in JSON with all their parts, and read back.
-/

namespace GroupedReport

namespace Severity

def toJson (severity : Severity) : Json :=
  .string severity.tag

def ofDocument? (document : Json.Document) : Option Severity :=
  document.name?.bind ofTag?

end Severity

namespace Diagnostic

namespace Code

def toJson (code : Code) : Json :=
  .integer code.number.toNat

def ofDocument? (document : Json.Document) : Option Code :=
  (document.integer? 0 65535).map fun number => ⟨UInt16.ofNat number.toNat⟩

end Code

def toJson (diagnostic : Diagnostic) : Json :=
  .object [("severity", diagnostic.severity.toJson), ("code", diagnostic.code.toJson),
    ("message", .string diagnostic.message), ("item", Json.nullable .string diagnostic.item),
    ("help", Json.nullable .string diagnostic.help)]

def ofDocument? (document : Json.Document) : Option Diagnostic := do
  let parts ← document.parts? ["severity", "code", "message", "item", "help"]
  let severity ← parts.required "severity" Severity.ofDocument?
  let code ← parts.required "code" Code.ofDocument?
  let message ← parts.required "message" Json.Document.text?
  let item ← parts.optional "item" (Json.Document.nullable Json.Document.text?)
  let help ← parts.optional "help" (Json.Document.nullable Json.Document.text?)
  some { severity, code, message, item, help }

end Diagnostic

end GroupedReport
