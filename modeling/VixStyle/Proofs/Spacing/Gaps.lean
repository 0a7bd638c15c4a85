/-
What the rules on spacing read beside a token.

The rules read gaps from the text of a line. Here these are the gaps of its segments: `gap_of_gapBefore?` and
`gap_of_gapAfter?` say so of a token that is set down between two texts. Both rest on what stands at the edges of a gap
(`Solid`): every lexeme begins with a character that is not blank, and one that another lexeme follows ends with one; only
a comment that runs to the end of its line may end in blanks.
-/
import VixStyle.Proofs.Token.Respacing
import VixStyle.Rule.Spacing

namespace VixStyle

open Text

/-! ## Edges of lexemes -/

/-- a text whose last character is not blank -/
def EndsSolid (s : List Char) : Prop := ∃ front c, s = front ++ [c] ∧ isBlank c = false

theorem EndsSolid.append {s : List Char} (h : EndsSolid s) (before : List Char) : EndsSolid (before ++ s) := by
  obtain ⟨front, c, rfl, hc⟩ := h
  exact ⟨before ++ front, c, by rw [List.append_assoc], hc⟩

theorem endsSolid_of_forall {s : List Char} (hne : s ≠ []) (h : ∀ c ∈ s, isBlank c = false) : EndsSolid s :=
  ⟨s.dropLast, s.getLast hne, (List.dropLast_concat_getLast hne).symm, h _ (List.getLast_mem hne)⟩

namespace Grammar

theorem isBlank_of_joins {c : Char} (h : joins c = true) : isBlank c = false := by
  by_contra hblank
  rw [joins_of_isBlank (by simpa using hblank)] at h
  cases h

theorem Digits.endsSolid {s : List Char} (h : Digits s) : EndsSolid s :=
  endsSolid_of_forall h.1 fun c hc => isBlank_of_joins (joins_of_isDigit (h.2 c hc))

theorem Number.endsSolid {s : List Char} (h : Number s) : EndsSolid s := by
  rcases h with h | ⟨whole, fraction, -, hfraction, rfl⟩
  · exact h.endsSolid
  · rw [List.append_cons]
    exact hfraction.endsSolid.append (whole ++ ['.'])

/-- a word whose first character is not blank -/
theorem Word.endsSolid {s : List Char} (h : Word s) (hhead : ∀ c ∈ s.head?, isBlank c = false) : EndsSolid s := by
  obtain ⟨c, more, rfl, -, hmore⟩ := h
  refine endsSolid_of_forall (List.cons_ne_nil c more) fun d hd => ?_
  rcases List.mem_cons.1 hd with rfl | hd
  · exact hhead d rfl
  · exact isBlank_of_joins (joins_of_isWordChar (hmore d hd))

/-- **A lexeme ends in a character that is not blank**, unless it runs to the end of the line. -/
theorem Reads.endsSolid {before s after : List Char} {l : Lexeme} (h : Reads before s l after)
    (hhead : ∀ c ∈ l.text.head?, isBlank c = false) : l.isLineComment = true ∨ EndsSolid l.text := by
  cases h with
  | lineComment => exact .inl rfl
  | @closedComment inner => exact .inr ⟨'/' :: inner, '/', rfl, by decide⟩
  | @stringLiteral body => exact .inr ⟨'"' :: body, '"', rfl, by decide⟩
  | number hlong => exact .inr hlong.mem.endsSolid
  | keyword _ hlong => exact .inr (hlong.mem.endsSolid hhead)
  | identifier _ hlong => exact .inr (hlong.mem.endsSolid hhead)
  | @pair op c d _ _ hop => exact .inr ⟨[c], d, hop, isBlank_of_joins (joins_of_pair hop)⟩
  | @single op c _ _ _ hop => exact .inr ⟨[], c, hop, hhead c (by rw [Lexeme.text, hop]; rfl)⟩
  | @mark c => exact .inr ⟨[], c, rfl, hhead c rfl⟩

end Grammar

open Grammar

/-! ## Segments -/

/-- segments with blanks between lexemes and none at the edges of lexemes -/
inductive Solid : List Segment → Prop
  | nil : Solid []
  | cons {gap : List Char} {l : Lexeme} {more : List Segment} (hgap : ∀ c ∈ gap, isBlank c = true)
      (hne : l.text ≠ []) (hfirst : ∀ c ∈ l.text.head?, isBlank c = false) (hlast : more ≠ [] → EndsSolid l.text)
      (h : Solid more) : Solid (⟨gap, l⟩ :: more)

/-- no lexeme begins with a blank -/
theorem Solid.head {segments : List Segment} (h : Solid segments) :
    ∀ s ∈ segments, ∃ c body, s.lexeme.text = c :: body ∧ isBlank c = false := by
  induction h with
  | nil => simp
  | @cons gap l more hgap hne hfirst hlast h ih =>
    intro s hs
    rcases List.mem_cons.1 hs with rfl | hs
    · obtain ⟨c, body, htext⟩ := List.exists_cons_of_ne_nil hne
      exact ⟨c, body, htext, hfirst c (by rw [htext]; rfl)⟩
    · exact ih s hs

namespace Segmentation

/-- nothing is left behind a comment that runs to the end of the line -/
theorem ofFrom_of_lineComment {leading : Bool} {c : Char} {rest after : List Char} {l : Lexeme}
    (hn : next? leading c rest = some (l, after)) (hline : l.isLineComment = true) : ofFrom false after = ⟨[], [], true⟩ := by
  obtain ⟨before, hbefore⟩ := exists_before leading
  obtain rfl := ((reads_iff hbefore).2 hn).after_lineComment hline
  exact ofFrom_of_blank rfl

/-- **The segments of a text**, by induction along the scanner. -/
theorem solid_ofFrom (leading : Bool) (s : List Char) : Solid (ofFrom leading s).segments := by
  induction leading, s using ofFrom.induct with
  | case1 leading s hs =>
    rw [ofFrom_of_blank hs]
    exact .nil
  | case2 leading s c rest hs hn =>
    rw [ofFrom_of_open hs hn]
    have hc := isBlank_head_dropWhile hs
    exact .cons (fun _ => List.mem_takeWhile_imp) (List.cons_ne_nil c rest) (by simpa [Lexeme.text] using hc)
      (fun h => absurd rfl h) .nil
  | case3 leading s c rest hs l after hn ih =>
    rw [ofFrom_of_lexeme hs hn]
    have hne := next?_ne_nil hn
    have hfirst : ∀ d ∈ l.text.head?, isBlank d = false := by
      obtain ⟨body, htext⟩ := next?_head hn
      have hc := isBlank_head_dropWhile hs
      rw [htext]
      simpa using hc
    refine .cons (fun _ => List.mem_takeWhile_imp) hne hfirst (fun hmore => ?_) ih
    obtain ⟨before, hbefore⟩ := exists_before leading
    refine (((reads_iff hbefore).2 hn).endsSolid hfirst).resolve_left fun hline => ?_
    rw [ofFrom_of_lineComment hn hline] at hmore
    exact hmore rfl

/-- nothing stands behind a last comment that runs to the end of the line -/
theorem tail_of_lineComment {leading : Bool} {s : List Char} :
    ∀ p ∈ (ofFrom leading s).segments.getLast?, p.lexeme.isLineComment = true → (ofFrom leading s).tail = [] := by
  induction leading, s using ofFrom.induct with
  | case1 leading s hs =>
    rw [ofFrom_of_blank hs]
    rintro p hp
    cases hp
  | case2 leading s c rest hs hn =>
    rw [ofFrom_of_open hs hn]
    exact fun _ _ _ => rfl
  | case3 leading s c rest hs l after hn ih =>
    rw [ofFrom_of_lexeme hs hn]
    intro p hp hline
    rw [List.getLast?_cons] at hp
    cases hlast : (ofFrom false after).segments.getLast? with
    | some q =>
      rw [hlast] at hp
      obtain rfl : q = p := Option.some.inj hp
      exact ih q hlast hline
    | none =>
      rw [hlast] at hp
      obtain rfl : _ = p := Option.some.inj hp
      rw [ofFrom_of_lineComment hn hline]

end Segmentation

/-! ## Gaps -/

namespace Rule.Spacing

theorem trailingGap?_of_blank {s : List Char} (h : ∀ c ∈ s, isBlank c = true) : trailingGap? s = none :=
  if_pos (List.all_eq_true.2 h)

theorem trailingGap?_append {front gap : List Char} (hfront : EndsSolid front) (hgap : ∀ c ∈ gap, isBlank c = true) :
    trailingGap? (front ++ gap) = some gap := by
  obtain ⟨front, c, rfl, hc⟩ := hfront
  have hall : (front ++ [c] ++ gap).all isBlank = false := by simp [hc]
  have htake : (front ++ [c] ++ gap).reverse.takeWhile isBlank = gap.reverse := by
    rw [List.reverse_append, List.takeWhile_append_of_pos (by simpa using hgap), List.reverse_concat,
      List.takeWhile_cons_of_neg (by simp [hc]), List.append_nil]
  rw [trailingGap?, hall, htake, List.reverse_reverse]
  rfl

theorem leadingGap?_of_blank {s : List Char} (h : ∀ c ∈ s, isBlank c = true) : leadingGap? s = none :=
  if_pos (List.all_eq_true.2 h)

theorem leadingGap?_append {gap : List Char} {c : Char} (hgap : ∀ c ∈ gap, isBlank c = true) (hc : isBlank c = false)
    (more : List Char) : leadingGap? (gap ++ c :: more) = some gap := by
  have hall : (gap ++ c :: more).all isBlank = false := by simp [hc]
  rw [leadingGap?, hall, List.takeWhile_append_of_pos hgap, List.takeWhile_cons_of_neg (by simp [hc]), List.append_nil]
  rfl

section Behind

variable {line before gap after : List Char} {l : Lexeme} (h : line = before ++ gap ++ l.text ++ after) (n : Int)

include h

theorem textBefore_behind : textBefore line ⟨l, n, (before ++ gap).length + 1⟩ = before ++ gap := by
  rw [h, textBefore, Nat.add_sub_cancel, List.append_assoc, List.take_left]

theorem textAfter_behind : textAfter line ⟨l, n, (before ++ gap).length + 1⟩ = after := by
  rw [h, textAfter, endColumn_behind, Nat.add_sub_cancel, List.drop_left]

/-- **The gap before a token** that is set down behind a text: there is none behind no text. -/
theorem gap_of_gapBefore? (hgap : ∀ c ∈ gap, isBlank c = true) (hbefore : before = [] ∨ EndsSolid before) {g : List Char}
    (hg : g ∈ gapBefore? line ⟨l, n, (before ++ gap).length + 1⟩) : before ≠ [] ∧ g = gap := by
  unfold gapBefore? at hg
  rw [textBefore_behind h] at hg
  rcases hbefore with rfl | hbefore
  · rw [List.nil_append, trailingGap?_of_blank hgap] at hg
    cases hg
  · rw [trailingGap?_append hbefore hgap] at hg
    obtain rfl := Option.some.inj hg
    obtain ⟨front, c, rfl, -⟩ := hbefore
    exact ⟨by simp, rfl⟩

/-- **The gap after a token** that is set down before segments: there is none before no segment. -/
theorem gap_of_gapAfter? {segments : List Segment} {tail : List Char} (hafter : after = segments.flatMap Segment.text ++ tail)
    (hsolid : Solid segments) (htail : ∀ c ∈ tail, isBlank c = true) {g : List Char}
    (hg : g ∈ gapAfter? line ⟨l, n, (before ++ gap).length + 1⟩) : ∃ s more, segments = s :: more ∧ g = s.gap := by
  unfold gapAfter? at hg
  rw [textAfter_behind h, hafter] at hg
  cases hsolid with
  | nil =>
    rw [List.flatMap_nil, List.nil_append, leadingGap?_of_blank htail] at hg
    cases hg
  | @cons gap' l' more hgap' hne hfirst _ _ =>
    obtain ⟨c, body, htext⟩ := List.exists_cons_of_ne_nil hne
    have hc : isBlank c = false := hfirst c (by rw [htext]; rfl)
    have hsplit : (⟨gap', l'⟩ :: more : List Segment).flatMap Segment.text ++ tail =
        gap' ++ c :: (body ++ (more.flatMap Segment.text ++ tail)) := by
      simp [Segment.text, htext]
    rw [hsplit, leadingGap?_append hgap' hc] at hg
    obtain rfl := Option.some.inj hg
    exact ⟨_, more, rfl, rfl⟩

end Behind

end Rule.Spacing

end VixStyle
