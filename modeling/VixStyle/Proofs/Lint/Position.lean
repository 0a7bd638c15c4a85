/-
Where reports stand.

Main statement, `lintDefault_stands`: a diagnostic of a report lies on a line of the text, in a column of that line. It
stands where a token of the code stands, but for the two reports on the blanks before a line as a whole: they stand in
column 1 of a line that has such blanks. So each diagnostic has a position.
-/
import VixStyle.Proofs.Lint.Selection
import VixStyle.Text.Position

namespace VixStyle

open Rule.Indentation (isWholeLineReport)
open Text

/-- the place of a diagnostic, if its line and column are numbers of lines and columns -/
def Diagnostic.position (d : Diagnostic) : Except PositionError Position := Position.of d.line d.column

/-- a diagnostic that stands on a line of some text -/
structure Diagnostic.StandsOn (d : Diagnostic) (line : List Char) : Prop where
  column_pos : 1 ≤ d.column
  column_le : d.column ≤ line.length
  token : isWholeLineReport d = false → ∃ t ∈ (Line.read d.line line).code, d.column = t.column
  wholeLine : isWholeLineReport d = true → d.column = 1 ∧ leadingBlanks line ≠ []

/-! ## Diagnostics on a line that was read -/

section WasRead

variable {l : Line} (h : l.WasRead) {d : Diagnostic} (hline : d.line = l.number)

include h hline

/-- a diagnostic at a token of the code stands on the line -/
theorem standsOn_of_token (hkind : isWholeLineReport d = false) {t : Token} (ht : t ∈ l.code) (hcolumn : d.column = t.column) :
    d.StandsOn l.text := by
  obtain ⟨hlow, hhigh⟩ := Line.column_within h (List.mem_of_mem_filter ht)
  have hread : Line.read d.line l.text = l := by
    rw [hline]
    exact h.symm
  refine ⟨by omega, by omega, fun _ => ⟨t, ?_, hcolumn⟩, fun hwhole => ?_⟩
  · rw [hread]
    exact ht
  · rw [hkind] at hwhole
    cases hwhole

omit h hline in
/-- a diagnostic on the blanks of a line as a whole stands on the line -/
theorem standsOn_of_wholeLine (hkind : isWholeLineReport d = true) (hcolumn : d.column = 1)
    (hblanks : l.indentation.blanks ≠ []) : d.StandsOn l.text := by
  have hlength : 0 < l.text.length := by
    have hprefix : (leadingBlanks l.text).length ≤ l.text.length := (List.takeWhile_prefix _).length_le
    have hpos : 0 < (leadingBlanks l.text).length := List.length_pos_iff.2 hblanks
    omega
  refine ⟨by omega, by omega, fun htoken => ?_, fun _ => ⟨hcolumn, hblanks⟩⟩
  rw [hkind] at htoken
  cases htoken

end WasRead

/-! ## What is found -/

/-- **What a check finds** stands on a line that was read. -/
theorem check_stands {o : Options} {check : String × (Source → List Diagnostic)} (h : check ∈ namedChecks o) {s : Source}
    (hread : ∀ l ∈ s.lines, l.WasRead) {d : Diagnostic} (hd : d ∈ check.2 s) :
    ∃ l ∈ s.lines, d.line = l.number ∧ d.StandsOn l.text := by
  rcases namedCheck_cases h with ⟨-, hcheck⟩ | ⟨find, hfind, hsited⟩
  · rw [hcheck] at hd
    obtain ⟨f, hf, rfl⟩ := List.mem_map.1 hd
    obtain ⟨l, hl, hsits⟩ := Rule.Indentation.findings_sited hread o f hf
    refine ⟨l, hl, hsits.line, ?_⟩
    rcases hsits.place with ⟨hkind, t, ht, hcolumn⟩ | ⟨hkind, hcolumn, hblanks⟩
    · rw [← Rule.Indentation.isWholeLineReport_diagnostic] at hkind
      exact standsOn_of_token (hread l hl) hsits.line hkind ht (congrArg Int.ofNat hcolumn)
    · rw [← Rule.Indentation.isWholeLineReport_diagnostic] at hkind
      exact standsOn_of_wholeLine hkind (congrArg Int.ofNat hcolumn) hblanks
  · rw [hfind.check_eq] at hd
    obtain ⟨l, hl, hd⟩ := List.mem_flatMap.1 hd
    have hnumber := hfind.line l (Line.numbered_of_wasRead (hread l hl)) d hd
    obtain ⟨t, ht, hcolumn⟩ := hsited.token l (hread l hl) d hd
    have hkind : isWholeLineReport d = false := by
      simp [isWholeLineReport, hfind.other l d hd]
    exact ⟨l, hl, hnumber, standsOn_of_token (hread l hl) hnumber hkind ht hcolumn⟩

/--
**Reports stand in the text.** A diagnostic lies on a line of the text, in a column of this line, and has a position there.
-/
theorem lintDefault_stands [Machine] {text : List Char} {o : Options} {r : Report} (h : lintDefault text o = .ok r) :
    ∀ d ∈ r.diagnostics, 1 ≤ d.line ∧ d.line ≤ (lines text).length ∧
      (∃ line, (lines text)[d.line.toNat - 1]? = some line ∧ d.StandsOn line) ∧
      ∃ p, d.position = .ok p ∧ p.line = d.line ∧ p.column = d.column := by
  obtain ⟨-, rfl⟩ := lintDefault_eq_ok_iff.1 h
  intro d hd
  have hfound : d ∈ (namedChecks o).flatMap fun check => check.2 (Source.ofText text) := by
    rw [← diagnostics_eq_namedChecks]
    exact mem_sortDiagnostics.1 hd
  obtain ⟨check, hcheck, hd⟩ := List.mem_flatMap.1 hfound
  obtain ⟨l, hl, hline, hstands⟩ := check_stands hcheck Line.wasRead_readAll hd
  obtain ⟨i, htext, hnumber, -⟩ := Line.getElem?_of_mem_readFrom hl
  have hi : i < (lines text).length := (List.getElem?_eq_some_iff.1 htext).1
  have hindex : d.line.toNat - 1 = i := by omega
  have hplace : 1 ≤ d.line ∧ 1 ≤ d.column := ⟨by omega, hstands.column_pos⟩
  refine ⟨hplace.1, by omega, ⟨l.text, ?_, hstands⟩, ⟨d.line, d.column, hplace.1, hplace.2⟩, dif_pos hplace, rfl, rfl⟩
  rw [hindex]
  exact htext

/-- the places of a report -/
def Report.places (r : Report) : List (Int × Int) := r.diagnostics.map fun d => (d.line, d.column)

/-- a tab behind a space, and a comma behind another, on the second line -/
theorem lintDefault_stands_mixed :
    lintDefault "if a\n \tb ,c\nend".toList {} =
        .ok ((Source.ofText "if a\n \tb ,c\nend".toList).report {} defaultRules) ∧
      ((Source.ofText "if a\n \tb ,c\nend".toList).report {} defaultRules).places = [(2, 1), (2, 5), (2, 5)] ∧
      ∀ d ∈ ((Source.ofText "if a\n \tb ,c\nend".toList).report {} defaultRules).diagnostics,
        1 ≤ d.line ∧ d.line ≤ (lines "if a\n \tb ,c\nend".toList).length ∧
          (∃ line, (lines "if a\n \tb ,c\nend".toList)[d.line.toNat - 1]? = some line ∧ d.StandsOn line) ∧
          ∃ p, d.position = .ok p ∧ p.line = d.line ∧ p.column = d.column := by
  have hreport : lintDefault "if a\n \tb ,c\nend".toList {} =
      .ok ((Source.ofText "if a\n \tb ,c\nend".toList).report {} defaultRules) := lintDefault_eq_ok_iff.2 ⟨rfl, rfl⟩
  refine ⟨hreport, ?_, lintDefault_stands hreport⟩
  rw [Report.places, diagnostics_report]
  decide +kernel

end VixStyle
