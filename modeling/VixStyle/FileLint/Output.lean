/-
What a run over files shows: a block of text for each file with a line of totals below, or one JSON document. The text
counts while it goes from file to file, the document sums up over the reports; both state the same totals.
-/
import VixStyle.FileLint
import VixStyle.Report.Document
import VixStyle.Report.Text

namespace VixStyle

/-- how many files there are, how many problems they have, and how many of them could not be read -/
structure Totals where
  files : Nat
  errors : Nat
  warnings : Nat
  failed : Nat
  deriving DecidableEq, Repr

/-- the reports on the files that could be read -/
def reports (results : List FileResult) : List Report := results.filterMap FileResult.report?

/-- a count summed up over reports -/
def sumOver (count : Report → Nat) (reports : List Report) : Nat := reports.foldr (fun r sum => count r + sum) 0

def Totals.of (results : List FileResult) : Totals where
  files := results.length
  errors := sumOver Report.errorCount (reports results)
  warnings := sumOver Report.warningCount (reports results)
  failed := results.countP FileResult.failed

/-! ## text -/

/-- the text for a fault that says nothing -/
def unnamedFault : String := "cannot read file"

/-- the block of a file -/
def FileResult.render (r : FileResult) (showHints : Bool) : Except RenderError String :=
  match r.outcome with
  | .linted _ report => report.render r.path.toText showHints
  | .unreadable fault =>
    .ok (renderFileError r.path.toText (match fault with
      | none | some "" => unnamedFault
      | some text => text))

/-- the line of totals -/
def Totals.render (t : Totals) : String := renderSummary t.files t.errors t.warnings t.failed

/-- totals with what came of one more file counted in; how many files there are is known before -/
def Totals.count (t : Totals) (r : FileResult) : Totals :=
  match r.outcome with
  | .linted _ report =>
    { t with errors := t.errors + report.errorCount, warnings := t.warnings + report.warningCount }
  | .unreadable _ => { t with failed := t.failed + 1 }

/-- the blocks of files, one after the other, and the totals counted on the way -/
def renderEach (showHints : Bool) (t : Totals) : List FileResult → Except RenderError (List String × Totals)
  | [] => .ok ([], t)
  | r :: more => do
    let block ← r.render showHints
    let (blocks, t) ← renderEach showHints (t.count r) more
    return (block :: blocks, t)

/-- the blocks of all files and the line of totals -/
def renderResults (results : List FileResult) (showHints : Bool) : Except RenderError (List String) := do
  let (blocks, t) ← renderEach showHints ⟨results.length, 0, 0, 0⟩ results
  return blocks ++ [t.render]

/-! ## document -/

/-- a file as a document -/
def FileResult.document (r : FileResult) : Json :=
  .object (("path", .text r.path.toText) :: match r.outcome with
    | .linted _ report => report.members
    | .unreadable fault => [("error", .ofText? fault)])

/-- totals as a document -/
def Totals.document (t : Totals) : Json := .object [
  ("files", .int t.files), ("error", .int t.errors), ("warning", .int t.warnings), ("failed_files", .int t.failed)]

/-- all files as one document -/
def resultsDocument (results : List FileResult) : Json := .object [
  ("files", .list (results.map FileResult.document)), ("summary", (Totals.of results).document)]

end VixStyle
