/-
Blanks at the end of a line.

Main statement, `Line.code_trailed`: a line that is read without a fault holds the same code, in the same places, with any
blanks behind it. Blanks are no closer to what stands before them than nothing (`noCloser_of_trailed`), so each lexeme is read
as before. Only a comment of two slashes takes the blanks in, and it is no code.
-/
import VixStyle.Proofs.Spacing.Gaps

namespace VixStyle

open Text Grammar

/-- **A text with blanks behind it is no closer** to what stands before it. -/
theorem Grammar.noCloser_of_trailed (s : List Char) {gap : List Char} (hgap : ∀ c ∈ gap, isBlank c = true) :
    NoCloser s (s ++ gap) := by
  have hlooser : Looser (s ++ []) (s ++ gap) := (looser_of_blank hgap).append s
  rw [List.append_nil] at hlooser
  exact hlooser.noCloser

/-- a comment that runs to the end of its line takes in what is put behind it -/
theorem next?_trailed_lineComment {leading : Bool} {c : Char} {rest after : List Char} {l : Lexeme}
    (hn : next? leading c rest = some (l, after)) (hl : l.isLineComment = true) (gap : List Char) :
    ∃ l', l'.isLineComment = true ∧ next? leading c (rest ++ gap) = some (l', []) := by
  obtain ⟨before, hbefore⟩ := exists_before leading
  obtain rfl := ((reads_iff hbefore).2 hn).after_lineComment hl
  obtain ⟨more, rfl⟩ := Lexeme.exists_of_isLineComment hl
  have htext := next?_append hn
  rw [List.append_nil, Lexeme.text] at htext
  obtain ⟨rfl, rfl⟩ := List.cons.inj htext
  exact ⟨_, rfl, next?_lineComment leading (more ++ gap)⟩

namespace Segmentation

/-- **With blanks behind it**, a text is read without a fault and has the same code, by induction along the scanner. -/
theorem ofFrom_trailed {leading : Bool} {s gap : List Char} (hgap : ∀ c ∈ gap, isBlank c = true)
    (hclosed : (ofFrom leading s).closed = true) (line : Int) (column : Nat) :
    (ofFrom leading (s ++ gap)).closed = true ∧
      ((placed line column (ofFrom leading (s ++ gap)).segments).filter fun t => t.lexeme.isCode) =
        (placed line column (ofFrom leading s).segments).filter fun t => t.lexeme.isCode := by
  induction leading, s using ofFrom.induct generalizing column with
  | case1 leading s hs =>
    have hblank : (s ++ gap).dropWhile isBlank = [] := by
      rw [List.dropWhile_append_of_pos (List.dropWhile_eq_nil_iff.1 hs), List.dropWhile_eq_nil_iff.2 hgap]
    rw [ofFrom_of_blank hs, ofFrom_of_blank hblank]
    exact ⟨rfl, rfl⟩
  | case2 leading s c rest hs hn =>
    rw [ofFrom_of_open hs hn] at hclosed
    cases hclosed
  | case3 leading s c rest hs l after hn ih =>
    have hfront : ∀ d ∈ s.takeWhile isBlank, isBlank d = true := fun _ => List.mem_takeWhile_imp
    have hc : isBlank c = false := isBlank_head_dropWhile hs
    have hwhole : s.takeWhile isBlank ++ c :: rest = s := by rw [← hs, List.takeWhile_append_dropWhile]
    have hsplit : s ++ gap = s.takeWhile isBlank ++ c :: (rest ++ gap) := by
      rw [← List.cons_append, ← List.append_assoc, hwhole]
    rw [ofFrom_of_lexeme hs hn] at hclosed ⊢
    rw [hsplit]
    by_cases hl : l.isLineComment = true
    · -- nothing but the comment is left, with and without the blanks
      obtain ⟨l', hl', hn'⟩ := next?_trailed_lineComment hn hl gap
      rw [ofFrom_behind hfront hc hn', ofFrom_of_lineComment hn hl, ofFrom_of_lineComment hn' hl']
      refine ⟨rfl, ?_⟩
      simp [placed, Lexeme.isCode_of_isLineComment hl, Lexeme.isCode_of_isLineComment hl']
    · obtain ⟨body, htext⟩ := next?_head hn
      have hrest : rest = body ++ after := by
        have happend := next?_append hn
        rw [htext] at happend
        exact (List.cons.inj happend).2.symm
      have hnext := next?_loosen hn htext (noCloser_of_trailed after hgap) fun h => absurd h hl
      rw [hrest, List.append_assoc, ofFrom_behind hfront hc hnext]
      obtain ⟨hmore, hcode⟩ := ih hclosed (column + (⟨s.takeWhile isBlank, l⟩ : Segment).text.length)
      refine ⟨hmore, ?_⟩
      rw [placed, placed, List.filter_cons, List.filter_cons, hcode]

end Segmentation

namespace Line

section Trailed

variable {number : Int} {text gap : List Char} (hread : (read number text).unclosed = none)

include hread

theorem closed_of_unclosed : (Segmentation.of text).closed = true := by
  by_contra hopen
  rw [unclosed_read, if_neg hopen] at hread
  cases hread

variable (hgap : ∀ c ∈ gap, Text.isBlank c = true)

include hgap

/-- with blanks behind it, the line is still read without a fault -/
theorem unclosed_trailed : (read number (text ++ gap)).unclosed = none := by
  obtain ⟨hclosed, -⟩ := Segmentation.ofFrom_trailed hgap (closed_of_unclosed hread) number 1
  rw [unclosed_read, Segmentation.of, if_pos hclosed]

/-- **The code of a line with blanks behind it** is the code of the line. -/
theorem code_trailed : (read number (text ++ gap)).code = (read number text).code := by
  obtain ⟨-, hcode⟩ := Segmentation.ofFrom_trailed hgap (closed_of_unclosed hread) number 1
  unfold code
  rw [tokens_read, tokens_read]
  exact hcode

end Trailed

end Line

end VixStyle
