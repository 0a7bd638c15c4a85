/-
A file and its text.

Main statement, `lintFile_encodeUtf8`: checking a file that holds a text in UTF-8 is checking that text, although each line
terminator in the file is first read as a line feed; and what a text is found to hold depends on its lines only, whichever
terminators end them.

- `lintSource_congr`: a run is shown the lines of a source.
- `readText_of_read`: the text of a file is the one it was written from, up to its terminators.
-/
import VixStyle.Proofs.FileLint.Outcome
import VixStyle.Proofs.FileTree.Walk
import VixStyle.Proofs.Lint.Outcome
import VixStyle.Proofs.Text.Terminator

namespace VixStyle

variable {o : Options} {rules : List Rule}

/-! ## What a run is shown -/

theorem Rule.run_congr (r : Rule) {s s' : Source} (h : s.lines = s'.lines) : r.run s o = r.run s' o :=
  r.check_congr r.header s s' o h

/-- **Sources with the same lines** have the same diagnostics. -/
theorem diagnostics_congr {s s' : Source} (h : s.lines = s'.lines) : s.diagnostics o rules = s'.diagnostics o rules := by
  have hfaults : s.faults = s'.faults := by
    unfold Source.faults
    rw [h]
  have hfindings : s.findings = s'.findings := by
    unfold Source.findings
    rw [h]
  have hrules : ((selectRules rules o).flatMap fun r => r.run s o) = (selectRules rules o).flatMap fun r => r.run s' o :=
    List.flatMap_congr fun r _ => r.run_congr h
  unfold Source.diagnostics Source.faultDiagnostics Source.namelessDiagnostics Source.namelessDeclarations
  rw [hfaults, hfindings, hrules]

theorem lintSource_congr [Machine] {s s' : Source} (h : s.lines = s'.lines) :
    lintSource s o rules = lintSource s' o rules := by
  rw [lintSource_eq_refusal, lintSource_eq_refusal, Source.report, Source.report, diagnostics_congr h]

/-- a run over a text depends on its lines only -/
theorem lint_congr [Machine] {text text' : List Char} (h : Text.lines text = Text.lines text') :
    lint text o rules = lint text' o rules := by
  refine lintSource_congr ?_
  unfold Source.ofText
  rw [h]

/-! ## What a file is read as -/

theorem readText_of_read {t : FileTree} {p : Path} {text : List Char} (hpath : p.hasNul = false)
    (hread : t.read p = .ok (Text.encodeUtf8 text)) : t.readText p = .ok (Text.unifyTerminators text) := by
  unfold FileTree.readText
  rw [FileTree.readUtf8_of_read hpath hread]
  rfl

theorem ofText_unifyTerminators (text : List Char) : Source.ofText (Text.unifyTerminators text) =
    ⟨Text.unifyTerminators text, (Source.ofText text).lines⟩ := by
  unfold Source.ofText
  rw [Text.lines_unifyTerminators]

/--
**Checking a file is checking its text, whatever ends its lines.** The outcome of a file with the bytes of a text has the
lines of that text and the report on it, or there is none for the reason that the text has none. The report on a text depends
on its lines only: texts in which the same lines are ended in different ways have the same lines and the same report.
-/
theorem lintFile_encodeUtf8 [Machine] (o : Options) (rules : List Rule) :
    (∀ (t : FileTree) (p : Path) (text : List Char), p.hasNul = false → t.read p = .ok (Text.encodeUtf8 text) →
      (lintFile t o rules p).value = ((lint text o rules).mapError .lint).map fun report =>
        ⟨p, .linted ⟨Text.unifyTerminators text, (Source.ofText text).lines⟩ report⟩) ∧
      ∀ a b : Text.EndedLines, a.lines = b.lines →
        (Source.ofText a.text).lines = Line.readAll a.lines ∧ lint a.text o rules = lint b.text o rules := by
  refine ⟨fun t p text hpath hread => ?_, fun a b hlines => ⟨?_, ?_⟩⟩
  · have hunified : lint (Text.unifyTerminators text) o rules = lint text o rules :=
      lint_congr (Text.lines_unifyTerminators text)
    rw [value_lintFile (readText_of_read hpath hread), hunified, ofText_unifyTerminators]
  · unfold Source.ofText
    rw [a.lines_text]
  · refine lint_congr ?_
    rw [a.lines_text, b.lines_text, hlines]

/-- lines ended in different ways, one of them empty -/
def mixedEnds : Text.EndedLines where
  ended := [⟨"é ,b".toList, .both⟩, ⟨[], .carriageReturn⟩]
  last := some "c".toList
  free := by decide
  last_free := by decide
  apart := by decide

/-- the same lines, each ended by a line feed -/
def feedEnds : Text.EndedLines where
  ended := [⟨"é ,b".toList, .feed⟩, ⟨[], .feed⟩, ⟨"c".toList, .feed⟩]
  free := by decide
  last_free := by decide
  apart := by decide

/-- one file with lines ended in different ways -/
def mixedTree : FileTree := (FileTree.empty ["home"]).addFile ["a.vix"] (Text.encodeUtf8 mixedEnds.text)

theorem lintFile_encodeUtf8_mixed : mixedEnds.lines = feedEnds.lines ∧ (Path.ofString "a.vix").hasNul = false ∧
    mixedTree.read (.ofString "a.vix") = .ok (Text.encodeUtf8 mixedEnds.text) ∧
    ∃ source report, (lintFile mixedTree {} defaultRules (.ofString "a.vix")).value =
      .ok ⟨.ofString "a.vix", .linted source report⟩ ∧ source.text = "é ,b\n\nc".toList ∧
        lint feedEnds.text {} defaultRules = .ok report := by
  have hlines : mixedEnds.lines = feedEnds.lines := rfl
  have hpath : (Path.ofString "a.vix").hasNul = false := by decide +kernel
  have hread : mixedTree.read (.ofString "a.vix") = .ok (Text.encodeUtf8 mixedEnds.text) := by decide +kernel
  obtain ⟨hfile, hends⟩ := lintFile_encodeUtf8 {} defaultRules
  have hvalue := hfile mixedTree (.ofString "a.vix") mixedEnds.text hpath hread
  obtain ⟨report, hreport⟩ : ∃ report, lint mixedEnds.text {} defaultRules = .ok report :=
    ⟨_, lintDefault_eq_ok_iff.2 ⟨rfl, rfl⟩⟩
  rw [hreport] at hvalue
  refine ⟨hlines, hpath, hread, _, report, hvalue, by decide, ?_⟩
  rw [← (hends mixedEnds feedEnds hlines).2, hreport]

end VixStyle
