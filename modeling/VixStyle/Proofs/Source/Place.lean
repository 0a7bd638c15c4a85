/-
Where the tokens of a source stand in its text.

A token stands behind some text, on the line and in the column that come next there (`Token.StandsBehind`), and each token of a
source does (`Source.exists_standsBehind`). To put other characters in its place in the text is to put them in its place on its
line (`Source.lines_around`).
-/
import VixStyle.Proofs.Text.Place
import VixStyle.Proofs.Token.Replacing

namespace VixStyle

open Text

/-- the text before a token: what is written behind it stands where the token does -/
structure Token.StandsBehind (t : Token) (before : List Char) : Prop where
  line : t.line = (Text.lines (before ++ ['"'])).length
  column : (Text.lines (before ++ ['"'])).getLast?.map List.length = some t.column

theorem Token.standsBehind_iff {t : Token} {above : List (List Char)} {x before : List Char}
    (h : EndsBehind above x before) : t.StandsBehind before ↔ t.line = above.length + 1 ∧ t.column = x.length + 1 := by
  have hlines : Text.lines (before ++ ['"']) = above ++ [x ++ ['"']] :=
    h ['"'] [] (by simp [Unbroken]) (List.cons_ne_nil _ _)
  have hcolumn : (Text.lines (before ++ ['"'])).getLast?.map List.length = some (x.length + 1) := by simp [hlines]
  have hline : ((Text.lines (before ++ ['"'])).length : Int) = above.length + 1 := by simp [hlines]
  constructor
  · rintro ⟨hl, hc⟩
    exact ⟨hl.trans hline, Option.some.inj (hc.symm.trans hcolumn)⟩
  · rintro ⟨hl, hc⟩
    exact ⟨hl.trans hline.symm, hcolumn.trans (congrArg some hc.symm)⟩

namespace Source

variable {text : List Char} {l : Line} {t : Token}

/-- a line of a source among its lines -/
theorem exists_around (hl : l ∈ (ofText text).lines) : ∃ above below, Text.lines text = above ++ l.text :: below ∧
    l = Line.read (above.length + 1) l.text := by
  obtain ⟨i, htext, hnumber, hread⟩ := Line.getElem?_of_mem_readFrom hl
  obtain ⟨hi, hget⟩ := List.getElem?_eq_some_iff.1 htext
  refine ⟨(Text.lines text).take i, (Text.lines text).drop (i + 1), ?_, ?_⟩
  · rw [← hget, List.getElem_cons_drop, List.take_append_drop]
  · rw [List.length_take_of_le hi.le, add_comm, ← hnumber]
    exact hread

/-- **Each token of a source** stands behind some text. -/
theorem exists_standsBehind (hl : l ∈ (ofText text).lines) (ht : t ∈ l.tokens) :
    ∃ before after, text = before ++ t.text ++ after ∧ t.StandsBehind before := by
  obtain ⟨above, below, hlines, hread⟩ := exists_around hl
  obtain ⟨x, y, hline, hcolumn⟩ := Line.exists_sides (hread ▸ ht)
  have hne := (Line.tiles_of_wasRead (Line.wasRead_readAll l hl)).nonempty t ht
  have hnumber : t.line = above.length + 1 := by rw [Line.numbered_readAll l hl t ht, hread, Line.number_read]
  rw [hline, List.append_assoc] at hlines
  obtain ⟨before, after, rfl, hends⟩ := exists_text_around hne hlines
  exact ⟨before, after, (List.append_assoc _ _ _).symm, (Token.standsBehind_iff hends).2 ⟨hnumber, hcolumn⟩⟩

/-- **To put other characters in the place of a token** is to put them in its place on its line. -/
theorem lines_around {before after : List Char} (hl : l ∈ (ofText (before ++ t.text ++ after)).lines) (ht : t ∈ l.tokens)
    (hstands : t.StandsBehind before) : ∃ above below, l = Line.read (above.length + 1) l.text ∧
      Text.lines (before ++ t.text ++ after) = above ++ l.text :: below ∧
        ∀ w, Unbroken w → w ≠ [] → Text.lines (before ++ w ++ after) = above ++ t.replaced w l.text :: below := by
  obtain ⟨above, x, hends⟩ := exists_endsBehind before
  obtain ⟨y, below, hbehind⟩ := exists_ontoFirst (Text.lines after)
  obtain ⟨hline, hcolumn⟩ := (Token.standsBehind_iff hends).1 hstands
  obtain ⟨above', below', hlines, hread⟩ := exists_around hl
  obtain ⟨x', y', hpiece, -⟩ := Line.exists_sides (hread ▸ ht)
  have hplaced : ∀ w, Unbroken w → w ≠ [] → Text.lines (before ++ w ++ after) = above ++ (x ++ w ++ y) :: below := by
    intro w hw hne
    rw [List.append_assoc, hends w after hw hne, hbehind]
  have hunbroken : Unbroken t.text := by
    have hmem : l.text ∈ Text.lines (before ++ t.text ++ after) := hlines ▸ List.mem_append_right _ List.mem_cons_self
    intro c hc
    refine unbroken_of_mem_lines hmem c ?_
    rw [hpiece]
    exact List.mem_append_left _ (List.mem_append_right _ hc)
  have hold := hplaced t.text hunbroken ((Line.tiles_of_wasRead (Line.wasRead_readAll l hl)).nonempty t ht)
  have hnumber : t.line = above'.length + 1 := by rw [Line.numbered_readAll l hl t ht, hread, Line.number_read]
  -- the token is on one line only
  obtain ⟨rfl, htail⟩ := List.append_inj (hlines.symm.trans hold) (by omega)
  obtain ⟨htext, rfl⟩ := List.cons.inj htail
  refine ⟨above', below', hread, hlines, fun w hw hne => ?_⟩
  rw [hplaced w hw hne, htext, Token.replaced_around w hcolumn]

end Source

end VixStyle
