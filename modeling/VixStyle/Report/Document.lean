/-
Reports as JSON documents.
-/
import VixStyle.Json
import VixStyle.Report

namespace VixStyle

/-- a text that may be missing -/
def Json.ofText? : Option String → Json
  | some s => .text s
  | none => .null

/-- a diagnostic as a document -/
def Diagnostic.document (d : Diagnostic) : Json := .object [
  ("rule_id", .text d.ruleId), ("severity", .text d.severity.word), ("message", .text d.message),
  ("line", .int d.line), ("column", .int d.column), ("hint", .ofText? d.hint), ("category", .ofText? d.category)]

namespace Report

/-- the two counts of a report as a document -/
def countsDocument (r : Report) : Json := .object [("error", .int r.errorCount), ("warning", .int r.warningCount)]

/-- the members of the document of a report -/
def members (r : Report) : List (String × Json) :=
  [("diagnostics", .list (r.diagnostics.map Diagnostic.document)), ("summary", r.countsDocument)]

end Report

end VixStyle
