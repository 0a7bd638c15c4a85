/-
A line without the comment at its end.

A comment of two slashes runs to the end of its line. Main statement, `Line.tokens_uncommented`: once such a comment is
deleted, the line holds the tokens before it, the same ones in the same places.

The lexemes before the comment are read with less behind them. But the end of a text is no closer to them than all of it
(`noCloser_of_front`), so they are read as before, one by one along the scanner (`Segmentation.ofFrom_uncommented`).
-/
import VixStyle.Proofs.Token.Replacing

namespace VixStyle

open Text Grammar

/-! ## The scanner -/

/-- **The front of a text is no closer** to what stands before it than the whole text. -/
theorem Grammar.noCloser_of_front (front back : List Char) : NoCloser (front ++ back) front where
  digit := by
    rintro d more rfl hd
    exact ⟨d, more ++ back, rfl, hd⟩
  fraction := by
    rintro d more rfl hd
    exact ⟨d, more ++ back, rfl, hd⟩
  word := by
    rintro d more rfl hd
    exact ⟨d, more ++ back, rfl, hd⟩
  second := by
    rintro d more rfl -
    exact ⟨more ++ back, rfl⟩
  slash := List.mem_append_left back

namespace Segmentation

/-- **Without the comment at its end**, a text is cut into the segments before the comment, by induction along the scanner. -/
theorem ofFrom_uncommented {leading : Bool} {s gap : List Char} {l : Lexeme} (hl : l.isLineComment = true)
    {front back : List Segment} (h : (ofFrom leading s).segments = front ++ ⟨gap, l⟩ :: back) :
    ofFrom leading s = ⟨front ++ [⟨gap, l⟩], [], true⟩ ∧
      ofFrom leading (front.flatMap Segment.text ++ gap) = ⟨front, gap, true⟩ := by
  induction leading, s using ofFrom.induct generalizing front with
  | case1 leading s hs =>
    rw [ofFrom_of_blank hs] at h
    simp at h
  | case2 leading s c rest hs hn =>
    rw [ofFrom_of_open hs hn] at h
    rcases front with _ | ⟨p, _ | ⟨q, front⟩⟩
    · obtain ⟨heq, -⟩ := List.cons.inj h
      obtain ⟨-, rfl⟩ := Segment.mk.inj heq
      cases hl
    · simp at h
    · simp at h
  | case3 leading s c rest hs l' after hn ih =>
    have hgap : ∀ d ∈ s.takeWhile isBlank, isBlank d = true := fun _ => List.mem_takeWhile_imp
    rw [ofFrom_of_lexeme hs hn] at h ⊢
    dsimp only at h ⊢
    cases front with
    | nil =>
      obtain ⟨heq, -⟩ := List.cons.inj h
      obtain ⟨rfl, rfl⟩ := Segment.mk.inj heq
      rw [ofFrom_of_lineComment hn hl]
      exact ⟨rfl, ofFrom_of_blank (List.dropWhile_eq_nil_iff.2 hgap)⟩
    | cons p front =>
      obtain ⟨rfl, hmore⟩ := List.cons.inj h
      obtain ⟨hwhole, hfront⟩ := ih hmore
      have hafter : front.flatMap Segment.text ++ gap ++ l.text = after := by
        conv_rhs => rw [← text_ofFrom false after, hwhole, Segmentation.text]
        simp [Segment.text]
      have hline : l'.isLineComment = true → front.flatMap Segment.text ++ gap = [] := by
        intro hl'
        rw [ofFrom_of_lineComment hn hl'] at hmore
        simp at hmore
      have hcloser : NoCloser after (front.flatMap Segment.text ++ gap) := hafter ▸ noCloser_of_front _ l.text
      obtain ⟨body, htext⟩ := next?_head hn
      refine ⟨by rw [hwhole]; rfl, ?_⟩
      rw [List.flatMap_cons, Segment.text, htext, List.append_assoc, List.append_assoc, List.cons_append,
        ofFrom_behind hgap (isBlank_head_dropWhile hs) (next?_loosen hn htext hcloser hline), hfront]

/-- behind a lexeme, a comment runs to the end of the line -/
theorem isLineComment_of_next? {c : Char} {rest after : List Char} {l : Lexeme} (hn : next? false c rest = some (l, after))
    (hl : l.isCode = false) : l.isLineComment = true := by
  obtain ⟨before, hbefore⟩ := exists_before false
  have hread := (reads_iff hbefore).2 hn
  generalize c :: rest = s at hread
  cases hread with
  | lineComment => rfl
  | closedComment hblank => exact absurd (hbefore.2 hblank) Bool.false_ne_true
  | _ => cases hl

/-- **Comments stand at the end**, where a lexeme stands before them: all segments but the last are code. -/
theorem isCode_of_mem_dropLast {s : List Char} : ∀ p ∈ (ofFrom false s).segments.dropLast, p.lexeme.isCode = true := by
  generalize hleading : false = leading
  induction leading, s using ofFrom.induct with
  | case1 leading s hs =>
    rw [ofFrom_of_blank hs]
    simp
  | case2 leading s c rest hs hn =>
    rw [ofFrom_of_open hs hn]
    simp
  | case3 leading s c rest hs l after hn ih =>
    subst hleading
    rw [ofFrom_of_lexeme hs hn]
    dsimp only
    cases hmore : (ofFrom false after).segments with
    | nil => simp
    | cons p more =>
      rw [hmore] at ih
      rw [List.dropLast_cons_of_ne_nil (List.cons_ne_nil p more)]
      refine List.forall_mem_cons.2 ⟨?_, ih rfl⟩
      by_contra hl
      rw [ofFrom_of_lineComment hn (isLineComment_of_next? hn (by simpa using hl))] at hmore
      cases hmore

/-- of the segments before a comment at the end of a line, only the first can be a comment -/
theorem isCode_of_mem_tail {leading : Bool} {s gap : List Char} {front : List Segment} {l : Lexeme}
    (h : (ofFrom leading s).segments = front ++ [⟨gap, l⟩]) : ∀ p ∈ front.tail, p.lexeme.isCode = true := by
  cases front with
  | nil => simp
  | cons q front =>
    cases hs : s.dropWhile isBlank with
    | nil =>
      rw [ofFrom_of_blank hs] at h
      cases h
    | cons c rest =>
      cases hn : next? leading c rest with
      | none =>
        rw [ofFrom_of_open hs hn] at h
        simp at h
      | some found =>
        rw [ofFrom_of_lexeme hs hn] at h
        have hmore : (ofFrom false found.2).segments = front ++ [⟨gap, l⟩] := (List.cons.inj h).2
        have hcode := isCode_of_mem_dropLast (s := found.2)
        rwa [hmore, List.dropLast_concat] at hcode

end Segmentation

/-! ## A line -/

open Rule.Spacing (textBefore)

namespace Line

section Uncommented

variable {number : Int} {text : List Char} {t : Token} (ht : t ∈ (read number text).tokens)
  (hcomment : t.lexeme.isLineComment = true)

include ht hcomment

/-- the segments before the comment at the end of a line, and the gap before it -/
theorem exists_uncommented : ∃ (front : List Segment) (gap : List Char),
    Segmentation.of text = ⟨front ++ [⟨gap, t.lexeme⟩], [], true⟩ ∧
      Segmentation.of (textBefore text t) = ⟨front, gap, true⟩ ∧ text = textBefore text t ++ t.text ∧
        t = ⟨t.lexeme, number, 1 + (front.flatMap Segment.text).length + gap.length⟩ := by
  obtain ⟨front, back, gap, hsegments, hplace, hcolumn, -⟩ := exists_segments ht
  obtain ⟨hwhole, hfront⟩ := Segmentation.ofFrom_uncommented hcomment hsegments
  have htext : text = front.flatMap Segment.text ++ gap ++ t.text := by
    conv_lhs => rw [← Segmentation.text_of text, Segmentation.of, hwhole, Segmentation.text]
    simp [Segment.text, Token.text]
  have hbefore : textBefore text t = front.flatMap Segment.text ++ gap := by
    rw [textBefore, hcolumn, Nat.add_sub_cancel]
    conv_lhs => rw [htext, List.take_left]
  refine ⟨front, gap, hwhole, ?_, ?_, hplace⟩
  · rw [hbefore]
    exact hfront
  · rw [hbefore]
    exact htext

/-- **The tokens of a line without the comment at its end** are the tokens before it. -/
theorem tokens_uncommented : (read number text).tokens = (read number (textBefore text t)).tokens ++ [t] := by
  obtain ⟨front, gap, hwhole, hfront, -, hplace⟩ := exists_uncommented ht hcomment
  rw [tokens_read, tokens_read, hwhole, hfront, placed_append]
  conv_rhs => rw [hplace]
  rfl

theorem code_uncommented : (read number (textBefore text t)).code = (read number text).code := by
  have hnot := Lexeme.isCode_of_isLineComment hcomment
  unfold code
  rw [tokens_uncommented ht hcomment, List.filter_append, List.filter_cons_of_neg (by simp [hnot]), List.filter_nil,
    List.append_nil]

/-- with or without the comment, every string of the line is closed -/
theorem unclosed_uncommented : (read number text).unclosed = none ∧ (read number (textBefore text t)).unclosed = none := by
  obtain ⟨front, gap, hwhole, hfront, -, -⟩ := exists_uncommented ht hcomment
  rw [unclosed_read, unclosed_read, hwhole, hfront]
  exact ⟨rfl, rfl⟩

/-- **The last token of the code** stands before nothing but blanks and the comment. -/
theorem last_uncommented {init : List Token} {u : Token} (hcode : (read number text).code = init ++ [u]) :
    ∃ before gap after, textBefore text t = before ++ gap ++ u.text ++ after ∧ (∀ c ∈ after, Text.isBlank c = true) ∧
      u = ⟨u.lexeme, number, (before ++ gap).length + 1⟩ := by
  obtain ⟨front, tail, hwhole, hfront, -, -⟩ := exists_uncommented ht hcomment
  have htokens : (read number (textBefore text t)).tokens = placed number 1 front := by rw [tokens_read, hfront]
  have htail : ∀ p ∈ front.tail, p.lexeme.isCode = true :=
    Segmentation.isCode_of_mem_tail (congrArg Segmentation.segments hwhole)
  -- the last segment is code, for else there is one segment only, and no code
  obtain ⟨front, s, rfl⟩ : ∃ before s, front = before ++ [s] := by
    rcases List.eq_nil_or_concat front with rfl | ⟨before, s, rfl⟩
    · rw [← code_uncommented ht hcomment, code, htokens] at hcode
      simp [placed] at hcode
    · exact ⟨before, s, List.concat_eq_append⟩
  have hlast : u = ⟨s.lexeme, number, 1 + (front.flatMap Segment.text).length + s.gap.length⟩ := by
    rw [← code_uncommented ht hcomment, code, htokens, placed_append, List.filter_append] at hcode
    have hs : s.lexeme.isCode = true := by
      by_contra hs
      cases front with
      | nil => simp [placed, hs] at hcode
      | cons p front => exact hs (htail s (by simp))
    have hsingle : (placed number (1 + (front.flatMap Segment.text).length) [s]).filter (fun t => t.lexeme.isCode) =
        [⟨s.lexeme, number, 1 + (front.flatMap Segment.text).length + s.gap.length⟩] :=
      List.filter_cons_of_pos hs
    rw [hsingle] at hcode
    exact (List.cons.inj (List.append_inj_right' hcode rfl)).1.symm
  have hblank : ∀ c ∈ tail, Text.isBlank c = true := by
    have hspaced := (Segmentation.spaced_ofFrom true (textBefore text t)).tail
    rwa [← Segmentation.of, hfront] at hspaced
  have htext := Segmentation.text_of (textBefore text t)
  rw [hfront, Segmentation.text] at htext
  refine ⟨front.flatMap Segment.text, s.gap, tail, ?_, hblank, ?_⟩
  · rw [← htext, hlast]
    simp [Segment.text, Token.text]
  · rw [hlast, List.length_append]
    congr 1
    omega

end Uncommented

end Line

end VixStyle
