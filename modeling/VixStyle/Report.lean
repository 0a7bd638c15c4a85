/-
The report on one source: its diagnostics in order, and how many of them are errors.
-/
import VixStyle.Diagnostic

namespace VixStyle

/-- whether an error is among some diagnostics -/
def hasErrors (diagnostics : List Diagnostic) : Bool := diagnostics.any Diagnostic.isError

/-- diagnostics in ascending order; those that no key tells apart keep their order -/
def sortDiagnostics (diagnostics : List Diagnostic) : List Diagnostic :=
  diagnostics.mergeSort fun a b => !b.before a

/-- the diagnostics of one source in order -/
structure Report where
  diagnostics : List Diagnostic
  deriving DecidableEq, Repr

namespace Report

/-- the report on diagnostics given in any order -/
def of (diagnostics : List Diagnostic) : Report := ⟨sortDiagnostics diagnostics⟩

def isClean (r : Report) : Bool := r.diagnostics.isEmpty

def errorCount (r : Report) : Nat := r.diagnostics.countP Diagnostic.isError

/-- all that is no error counts as a warning -/
def warningCount (r : Report) : Nat := r.diagnostics.length - r.errorCount

def hasErrors (r : Report) : Bool := 0 < r.errorCount

theorem errorCount_add_warningCount (r : Report) : r.errorCount + r.warningCount = r.diagnostics.length := by
  have : r.errorCount ≤ r.diagnostics.length := List.countP_le_length
  unfold warningCount
  omega

end Report

end VixStyle
