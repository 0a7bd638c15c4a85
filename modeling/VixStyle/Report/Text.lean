/-
Reports as text for a terminal: a head line with a marker, then one line for each diagnostic, its hint on a line below.
A severity without a marker cannot be shown; the two known severities always can.
-/
import VixStyle.Report
import VixStyle.Text.Quoted

namespace VixStyle

/-- why a diagnostic cannot be shown -/
inductive RenderError where
  | unmarkedSeverity (word : String)
  deriving DecidableEq, Repr

def RenderError.message : RenderError → String
  | .unmarkedSeverity word => Text.Quoted.quote word

/-- the marker of a source without problems -/
def passMarker : String := "✅"

def errorMarker : String := "❌"

def warningMarker : String := "⚠️"

def Severity.marker : Severity → Except RenderError String
  | .error => .ok errorMarker
  | .warning => .ok warningMarker
  | .other word => .error (.unmarkedSeverity word)

/-- the lines of a diagnostic -/
def Diagnostic.render (d : Diagnostic) (showHint : Bool) : Except RenderError String := do
  let marker ← d.severity.marker
  let head := s!"  {marker} {d.line}:{d.column} {d.ruleId}: {d.message}"
  match d.hint with
  | some hint => return if showHint && hint ≠ "" then s!"{head}\n      hint: {hint}" else head
  | none => return head

namespace Report

/-- the marker of a report as a whole -/
def marker (r : Report) : String :=
  if r.isClean then passMarker else if r.hasErrors then errorMarker else warningMarker

/-- the text of a report on the source of a given name -/
def render (r : Report) (sourceName : String) (showHints : Bool) : Except RenderError String := do
  if r.isClean then return s!"{passMarker} {sourceName}: no style issues"
  let body ← r.diagnostics.mapM fun d => d.render showHints
  return "\n".intercalate (s!"{r.marker} {sourceName}" :: body)

end Report

/-- the text for a source that could not be read -/
def renderFileError (sourceName fault : String) : String := s!"{errorMarker} {sourceName}: {fault}"

/-- a number with its noun -/
def counted (count : Int) (noun : String) : String :=
  if count = 1 then s!"{count} {noun}" else s!"{count} {noun}s"

/-- the last line of a report on several files -/
def renderSummary (files errors warnings failedFiles : Int) : String :=
  let parts := [counted errors "error", counted warnings "warning"] ++
    if failedFiles = 0 then [] else [counted failedFiles "unreadable file"]
  "Summary: " ++ ", ".intercalate parts ++ " in " ++ counted files "file"

end VixStyle
