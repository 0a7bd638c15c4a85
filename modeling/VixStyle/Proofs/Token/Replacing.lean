/-
A line with another lexeme in the place of a token.

One lexeme may stand in the place of another if it is read wherever the other one is, and what stands before is no nearer to it
(`Lexeme.Replaces`). Then the line is cut in the same places. The proof goes along the scanner up to the token
(`Segmentation.ofFrom_replaced`). Main statement, `Line.of_replaced`: the same said of a token of a line.
-/
import VixStyle.Proofs.Source.Indented
import VixStyle.Proofs.Spacing.Gaps

namespace VixStyle

open Text Grammar

/-- a lexeme that is read wherever `old` is, and that no lexeme before it takes in if it does not take in `old` -/
structure Lexeme.Replaces (new old : Lexeme) : Prop where
  read : ∀ {leading : Bool} {c : Char} {rest after : List Char}, next? leading c rest = some (old, after) →
    ∃ d body, new.text = d :: body ∧ isBlank d = false ∧ next? leading d (body ++ after) = some (new, after)
  nearer : ∀ after, NoNearer (old.text ++ after) (new.text ++ after)

/-! ## The scanner -/

namespace Segmentation

/-- a lexeme of a line is read where it stands, unless it is a literal that is not closed -/
theorem exists_reads {l : Lexeme} {leading : Bool} {s : List Char} {front back : List Segment} {gap : List Char}
    (hclosed : ∀ written, l = .stringLiteral written → back = [] → (ofFrom leading s).closed = true)
    (h : (ofFrom leading s).segments = front ++ ⟨gap, l⟩ :: back) : ∃ before rest after, Reads before rest l after := by
  induction leading, s using ofFrom.induct generalizing front with
  | case1 leading s hs =>
    rw [ofFrom_of_blank hs] at h
    simp at h
  | case2 leading s c rest hs hn =>
    rw [ofFrom_of_open hs hn] at h hclosed
    cases front with
    | nil =>
      obtain ⟨heq, rfl⟩ := List.cons.inj h
      cases hclosed _ (Segment.mk.inj heq).2.symm rfl
    | cons p front => simp at h
  | case3 leading s c rest hs l' after hn ih =>
    rw [ofFrom_of_lexeme hs hn] at h hclosed
    cases front with
    | nil =>
      obtain ⟨heq, -⟩ := List.cons.inj h
      obtain ⟨-, rfl⟩ := Segment.mk.inj heq
      obtain ⟨before, hbefore⟩ := exists_before leading
      exact ⟨before, _, _, (reads_iff hbefore).2 hn⟩
    | cons p front => exact ih hclosed (List.cons.inj h).2

/-- the scanner's step, if one lexeme behind it is replaced -/
theorem next?_replaced {old new l : Lexeme} (hnew : new.Replaces old) {leading : Bool} {c : Char}
    {rest front more : List Char} (hn : next? leading c rest = some (l, front ++ (old.text ++ more)))
    (hslash : c = '/' → leading = true → '/' ∈ new.text → '/' ∈ old.text) (hline : l.isLineComment = false) :
    ∃ body, l.text = c :: body ∧
      next? leading c (body ++ (front ++ (new.text ++ more))) = some (l, front ++ (new.text ++ more)) := by
  obtain ⟨body, htext⟩ := next?_head hn
  refine ⟨body, htext, next?_nearer hn htext ((hnew.nearer more).append front) ?_ (by simp [hline])⟩
  intro hc hleading hmem
  simp only [List.mem_append] at hmem ⊢
  exact hmem.imp_right (Or.imp_left (hslash hc hleading))

/-- **A line with another lexeme** is cut in the same places, by induction along the scanner up to the lexeme. -/
theorem ofFrom_replaced {old new : Lexeme} (hnew : new.Replaces old) {leading : Bool} {s : List Char}
    {front back : List Segment} {gap : List Char}
    (hslash : leading = true → (s.dropWhile isBlank).head? = some '/' → '/' ∈ new.text → '/' ∈ old.text)
    (hclosed : ∀ written, old = .stringLiteral written → back = [] → (ofFrom leading s).closed = true)
    (h : (ofFrom leading s).segments = front ++ ⟨gap, old⟩ :: back) :
    ofFrom leading (front.flatMap Segment.text ++ gap ++
        (new.text ++ (back.flatMap Segment.text ++ (ofFrom leading s).tail))) =
      ⟨front ++ ⟨gap, new⟩ :: back, (ofFrom leading s).tail, (ofFrom leading s).closed⟩ := by
  induction leading, s using ofFrom.induct generalizing front with
  | case1 leading s hs =>
    rw [ofFrom_of_blank hs] at h
    simp at h
  | case2 leading s c rest hs hn =>
    rw [ofFrom_of_open hs hn] at h hclosed
    -- the only segment is the literal that is not closed
    cases front with
    | nil =>
      obtain ⟨heq, rfl⟩ := List.cons.inj h
      cases hclosed _ (Segment.mk.inj heq).2.symm rfl
    | cons p front => simp at h
  | case3 leading s c rest hs l after hn ih =>
    have hgap : ∀ d ∈ s.takeWhile isBlank, isBlank d = true := fun _ => List.mem_takeWhile_imp
    have hafter := text_ofFrom false after
    rw [ofFrom_of_lexeme hs hn] at h hclosed ⊢
    dsimp only at h hclosed ⊢
    cases front with
    | nil =>
      obtain ⟨heq, rfl⟩ := List.cons.inj h
      obtain ⟨rfl, rfl⟩ := Segment.mk.inj heq
      obtain ⟨d, body, htext, hblank, hnext⟩ := hnew.read hn
      rw [Segmentation.text] at hafter
      rw [hafter, List.flatMap_nil, List.nil_append, htext, List.cons_append, ofFrom_behind hgap hblank hnext]
      rfl
    | cons p front =>
      obtain ⟨rfl, hmore⟩ := List.cons.inj h
      have hrest : front.flatMap Segment.text ++ gap ++
          (old.text ++ (back.flatMap Segment.text ++ (ofFrom false after).tail)) = after := by
        conv_rhs => rw [← hafter, Segmentation.text, hmore]
        simp [Segment.text]
      have hline : l.isLineComment = false := by
        by_contra hl
        rw [ofFrom_of_lineComment hn (by simpa using hl)] at hmore
        simp at hmore
      rw [hs] at hslash
      obtain ⟨body, htext, hnext⟩ := next?_replaced hnew (hrest.symm ▸ hn)
        (fun hc hleading => hslash hleading (congrArg some hc)) hline
      rw [List.flatMap_cons, Segment.text, htext, List.append_assoc, List.append_assoc, List.append_assoc, List.cons_append,
        ← List.append_assoc (front.flatMap Segment.text), ofFrom_behind hgap (isBlank_head_dropWhile hs) hnext,
        ih (fun hleading => absurd hleading Bool.false_ne_true) hclosed hmore]
      rfl

end Segmentation

/-! ## Another text in the place of a token -/

/-- the text of a token's line with other characters in the place of the token's -/
def Token.replaced (t : Token) (w text : List Char) : List Char :=
  text.take (t.column - 1) ++ w ++ text.drop (t.endColumn - 1)

/-- a token that is set down comes from a segment, and stands where the segments before it end -/
theorem exists_segment_of_mem_placed {line : Int} {column : Nat} {segments : List Segment} {t : Token}
    (ht : t ∈ placed line column segments) : ∃ front gap back, segments = front ++ ⟨gap, t.lexeme⟩ :: back ∧
      t = ⟨t.lexeme, line, column + (front.flatMap Segment.text).length + gap.length⟩ := by
  induction segments generalizing column with
  | nil => cases ht
  | cons s more ih =>
    rw [placed, List.mem_cons] at ht
    rcases ht with rfl | ht
    · exact ⟨[], s.gap, more, rfl, rfl⟩
    · obtain ⟨front, gap, back, rfl, heq⟩ := ih ht
      refine ⟨s :: front, gap, back, rfl, ?_⟩
      rw [List.flatMap_cons, List.length_append, ← Nat.add_assoc]
      exact heq

/-- the token between the tokens before it and those behind it -/
theorem placed_around (line : Int) (column : Nat) (front back : List Segment) (gap : List Char) (l : Lexeme) :
    placed line column (front ++ ⟨gap, l⟩ :: back) = placed line column front ++
      ⟨l, line, column + (front.flatMap Segment.text).length + gap.length⟩ ::
        (placed line (column + (front.flatMap Segment.text).length + gap.length) back).map (Token.right l.text.length) := by
  rw [placed_append, placed, ← placed_right, Segment.text, List.length_append, Nat.add_assoc _ gap.length]

/-- another text between the text before the token and the text behind it -/
theorem Token.replaced_around {t : Token} {before after : List Char} (w : List Char)
    (hcolumn : t.column = before.length + 1) : t.replaced w (before ++ t.text ++ after) = before ++ w ++ after := by
  have hend : t.endColumn - 1 = (before ++ t.text).length := by
    rw [endColumn, hcolumn, List.length_append]
    omega
  rw [replaced, hend, List.drop_left, List.append_assoc before, hcolumn, Nat.add_sub_cancel, List.take_left]

namespace Line

/-- if the line ends with a literal that is not closed, it is another token -/
theorem closed_of_last {number : Int} {text gap : List Char} {t : Token} {front back : List Segment}
    (hclosed : ∀ written, t.lexeme = .stringLiteral written → (read number text).unclosed ≠ some t.column)
    (hsegments : (Segmentation.of text).segments = front ++ ⟨gap, t.lexeme⟩ :: back)
    (hplace : t = ⟨t.lexeme, number, 1 + (front.flatMap Segment.text).length + gap.length⟩) :
    ∀ written, t.lexeme = .stringLiteral written → back = [] → (Segmentation.of text).closed = true := by
  rintro written hliteral rfl
  by_contra hopen
  apply hclosed written hliteral
  rw [unclosed_read, if_neg hopen, hsegments, placed_append, hplace]
  simp [placed]

section Replaced

variable {number : Int} {text : List Char} {t : Token} (ht : t ∈ (read number text).tokens)

include ht

/-- the segments of a line around a token -/
theorem exists_segments : ∃ (front back : List Segment) (gap : List Char),
    (Segmentation.of text).segments = front ++ ⟨gap, t.lexeme⟩ :: back ∧
      t = ⟨t.lexeme, number, 1 + (front.flatMap Segment.text).length + gap.length⟩ ∧
        t.column = (front.flatMap Segment.text ++ gap).length + 1 ∧
          text = front.flatMap Segment.text ++ gap ++ t.text ++
            (back.flatMap Segment.text ++ (Segmentation.of text).tail) := by
  rw [tokens_read] at ht
  obtain ⟨front, gap, back, hsegments, hplace⟩ := exists_segment_of_mem_placed ht
  refine ⟨front, back, gap, hsegments, hplace, ?_, ?_⟩
  · rw [hplace, List.length_append]
    dsimp only
    omega
  · conv_lhs => rw [← Segmentation.text_of text, Segmentation.text, hsegments]
    simp [Segment.text, Token.text]

/-- the text of a line around a token -/
theorem exists_sides : ∃ before after, text = before ++ t.text ++ after ∧ t.column = before.length + 1 := by
  obtain ⟨front, back, gap, -, -, hcolumn, htext⟩ := exists_segments ht
  exact ⟨_, _, htext, hcolumn⟩

variable (hclosed : ∀ written, t.lexeme = .stringLiteral written → (read number text).unclosed ≠ some t.column)

include hclosed

/-- a token is read where it stands, unless it is a literal that is not closed -/
theorem exists_reads : ∃ before rest after, Reads before rest t.lexeme after := by
  obtain ⟨front, back, gap, hsegments, hplace, -⟩ := exists_segments ht
  exact Segmentation.exists_reads (closed_of_last hclosed hsegments hplace) hsegments

/-- **A line with another lexeme in the place of a token** is cut in the same places. -/
theorem of_replaced {new : Lexeme} (hnew : new.Replaces t.lexeme)
    (hslash : (text.dropWhile Text.isBlank).head? = some '/' → '/' ∈ new.text → '/' ∈ t.text) :
    ∃ (front back : List Segment) (gap : List Char),
      (Segmentation.of text).segments = front ++ ⟨gap, t.lexeme⟩ :: back ∧
        t = ⟨t.lexeme, number, 1 + (front.flatMap Segment.text).length + gap.length⟩ ∧
          Segmentation.of (t.replaced new.text text) =
            ⟨front ++ ⟨gap, new⟩ :: back, (Segmentation.of text).tail, (Segmentation.of text).closed⟩ := by
  obtain ⟨front, back, gap, hsegments, hplace, hcolumn, htext⟩ := exists_segments ht
  refine ⟨front, back, gap, hsegments, hplace, ?_⟩
  have hreplaced : t.replaced new.text text = front.flatMap Segment.text ++ gap ++ new.text ++
      (back.flatMap Segment.text ++ (Segmentation.of text).tail) := by
    conv_lhs => rw [htext]
    exact Token.replaced_around new.text hcolumn
  rw [hreplaced, List.append_assoc]
  exact Segmentation.ofFrom_replaced hnew (fun _ => hslash) (closed_of_last hclosed hsegments hplace) hsegments

end Replaced

/-! ## Other lines -/

theorem readAll_around (above below : List (List Char)) (text : List Char) : readAll (above ++ text :: below) =
    readAll above ++ read (above.length + 1) text :: readFrom (above.length + 1 + 1) below := by
  rw [readAll, readFrom_append, readFrom, add_comm 1 (above.length : Int)]
  rfl

/-- all other lines have other numbers -/
theorem mem_around {above below : List (List Char)} {l : Line}
    (h : l ∈ readAll above ++ readFrom (above.length + 1 + 1) below) : l.Numbered ∧ l.number ≠ above.length + 1 := by
  rcases List.mem_append.1 h with h | h
  · obtain ⟨hnumbered, -, hhigh⟩ := mem_readAll h
    exact ⟨hnumbered, by omega⟩
  · obtain ⟨hnumbered, hlow, -⟩ := mem_readFrom h
    exact ⟨hnumbered, by omega⟩

end Line

end VixStyle
