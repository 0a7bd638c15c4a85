/-
A line with another name in the place of a name.

A text that may be a name (`Grammar.Name`) is put into a line where a name stands. Main statement, `Line.tokens_replaced`:
the line that comes out has the same tokens, but for the other name, and what stands behind the name is moved by the
difference of the lengths (`Renaming.at`).

One name may stand in the place of another (`Name.replaces`), for it is no nearer to the lexemes before it
(`noNearer_of_name`).
-/
import VixStyle.Proofs.Declaration.Renaming
import VixStyle.Proofs.Token.Replacing

namespace VixStyle

open Text

namespace Grammar

/-- a text that may be a name: a word that does not start with a digit and is not reserved -/
structure Name (w : List Char) : Prop where
  word : Word w
  head : ∀ c ∈ w.head?, isDigit c = false
  free : ∀ word : Keyword, word.text ≠ w

/-! ## Lexemes before a name -/

theorem isWordChar_of_isWordStart {c : Char} (h : isWordStart c = true) : isWordChar c = true := by
  rw [isWordStart, Bool.or_eq_true] at h
  rw [isWordChar, isAlphanumeric, Bool.or_eq_true, Bool.or_eq_true]
  exact h.imp_left Or.inl

theorem Word.forall {w : List Char} (h : Word w) : ∀ c ∈ w, isWordChar c = true := by
  obtain ⟨c, more, rfl, hc, hmore⟩ := h
  exact List.forall_mem_cons.2 ⟨isWordChar_of_isWordStart hc, hmore⟩

/-- **One name is no nearer than another** to what stands before it. -/
theorem noNearer_of_name {name w : List Char} (hname : Word name) (hw : Name w) (after : List Char) :
    NoNearer (name ++ after) (w ++ after) := by
  obtain ⟨c, body, rfl, hc, hbody⟩ := hw.word
  obtain ⟨c', body', rfl, hc', hbody'⟩ := hname
  have hdigit : isDigit c = false := hw.head c rfl
  have hmark : ∀ d, isWordChar d = false → c ≠ d := by
    rintro d hd rfl
    rw [isWordChar_of_isWordStart hc] at hd
    cases hd
  refine { digit := ?digit, fraction := ?fraction, word := ?word, second := ?second }
  case digit =>
    rintro d more heq hd
    obtain ⟨rfl, -⟩ := List.cons.inj heq
    rw [hdigit] at hd
    cases hd
  case fraction =>
    rintro d more heq -
    exact absurd (List.cons.inj heq).1 (hmark '.' (by decide))
  case word =>
    rintro d more - -
    exact ⟨c', body' ++ after, rfl, isWordChar_of_isWordStart hc'⟩
  case second =>
    rintro d more heq hd
    refine absurd (List.cons.inj heq).1 (hmark d ?_)
    rcases (by simpa [isSecond] using hd : d = '/' ∨ d = '=' ∨ d = '>' ∨ d = '&' ∨ d = '|') with
      rfl | rfl | rfl | rfl | rfl <;> decide

/-- what is read as a name may be a name, and what stands behind it does not go on with it -/
theorem Reads.name {before s name after : List Char} (h : Reads before s (.identifier name) after) :
    Name name ∧ ∀ d more, after = d :: more → isWordChar d = false := by
  cases h with
  | identifier hhead hlong hfree => exact ⟨⟨hlong.mem, hhead, hfree⟩, hlong.stop⟩

/-- **A name may stand in the place of another.** -/
theorem Name.replaces {name w : List Char} (hw : Name w) (hname : Name name) :
    (Lexeme.identifier w).Replaces (.identifier name) where
  read := by
    intro leading c rest after hn
    obtain ⟨before, hbefore⟩ := exists_before leading
    have hread := (reads_iff hbefore).2 hn
    obtain ⟨d, body, rfl, hd, hbody⟩ := hw.word
    have hnext : next? leading d (body ++ after) = some (.identifier (d :: body), after) :=
      (reads_iff hbefore).1 (.identifier hw.head (hw.word.longest hread.name.2) hw.free)
    exact ⟨d, body, rfl, isBlank_of_joins (joins_of_isWordChar (isWordChar_of_isWordStart hd)), hnext⟩
  nearer := noNearer_of_name hname.word hw

end Grammar

open Grammar

/-! ## Another name in the place of a token -/

/-- another name for one token; what stands behind it on its line moves by the difference -/
def Renaming.at (t : Token) (w : List Char) : Renaming where
  name line column name := if line = t.line ∧ column = t.column then w else name
  line := id
  column line column := if line = t.line ∧ t.column < column then column + w.length - t.text.length else column

namespace Renaming

variable {t : Token} {w : List Char}

theorem token_at_of_ne {u : Token} (hline : u.line ≠ t.line) : (Renaming.at t w).token u = u := by
  obtain ⟨l, line, column⟩ := u
  cases l <;> simp_all [token, lexeme, Renaming.at]

theorem token_at_before {u : Token} (hcolumn : u.column < t.column) : (Renaming.at t w).token u = u := by
  obtain ⟨l, line, column⟩ := u
  have hne : column ≠ t.column := Nat.ne_of_lt hcolumn
  have hnot : ¬ t.column < column := Nat.not_lt_of_lt hcolumn
  cases l <;> simp [token, lexeme, Renaming.at, hne, hnot]

theorem token_at_self {name : List Char} (hname : t.lexeme = .identifier name) :
    (Renaming.at t w).token t = ⟨.identifier w, t.line, t.column⟩ := by
  simp [token, lexeme, Renaming.at, hname]

theorem token_at_behind {u : Token} (hline : u.line = t.line) (hcolumn : t.column < u.column) :
    (Renaming.at t w).token u = { u with column := u.column + w.length - t.text.length } := by
  obtain ⟨l, line, column⟩ := u
  have hne : column ≠ t.column := Nat.ne_of_gt hcolumn
  obtain rfl : line = t.line := hline
  have hcolumn : t.column < column := hcolumn
  cases l <;> simp [token, lexeme, Renaming.at, hne, hcolumn]

end Renaming

/-- a comment stays a comment -/
theorem Renaming.isCode_token (r : Renaming) (u : Token) : (r.token u).lexeme.isCode = u.lexeme.isCode := by
  obtain ⟨l, line, column⟩ := u
  cases l <;> rfl

/-- the tokens before a name stay, and those behind it move by the difference of the lengths -/
theorem placed_renamed {line : Int} {column : Nat} {name gap : List Char} {front back : List Segment}
    (hnonempty : ∀ u ∈ placed line column (front ++ ⟨gap, .identifier name⟩ :: back), u.text ≠ []) (w : List Char) :
    placed line column (front ++ ⟨gap, .identifier w⟩ :: back) =
      (placed line column (front ++ ⟨gap, .identifier name⟩ :: back)).map
        (Renaming.at ⟨.identifier name, line, column + (front.flatMap Segment.text).length + gap.length⟩ w).token := by
  have hordered := ordered_placed line column (front ++ ⟨gap, .identifier name⟩ :: back)
  rw [placed_around] at hordered hnonempty ⊢
  rw [placed_around]
  generalize column + (front.flatMap Segment.text).length + gap.length = place at hordered hnonempty ⊢
  have hbefore : ∀ u ∈ placed line column front, (Renaming.at ⟨.identifier name, line, place⟩ w).token u = u := by
    intro u hu
    have hend : u.column + u.text.length ≤ place :=
      (List.pairwise_append.1 hordered).2.2 u hu _ List.mem_cons_self
    have hlong := List.length_pos_iff.2 (hnonempty u (List.mem_append_left _ hu))
    exact Renaming.token_at_before (by dsimp only; omega)
  have hbehind : ∀ u ∈ placed line place back,
      (Renaming.at ⟨.identifier name, line, place⟩ w).token (u.right name.length) = u.right w.length := by
    intro u hu
    obtain ⟨hline, hle, -⟩ := mem_placed hu
    have hpos : 0 < name.length := List.length_pos_iff.2 (hnonempty _ (List.mem_append_right _ List.mem_cons_self))
    have hcolumn : place < u.column + name.length := by omega
    have hmoved : u.column + name.length + w.length - name.length = u.column + w.length := by omega
    have hmove : (Renaming.at ⟨.identifier name, line, place⟩ w).token (u.right name.length) =
        ⟨u.lexeme, u.line, u.column + name.length + w.length - name.length⟩ := Renaming.token_at_behind hline hcolumn
    rw [hmove, hmoved]
    rfl
  rw [List.map_append, List.map_cons, List.map_map, Renaming.token_at_self rfl]
  refine congrArg₂ (· ++ ·) ?before (congrArg _ ?behind)
  case before => exact ((List.map_congr_left hbefore).trans (List.map_id _)).symm
  case behind => exact (List.map_congr_left hbehind).symm

namespace Line

/-- what a line has as a name may be a name -/
theorem name_of_mem_tokens {number : Int} {text name : List Char} {t : Token} (ht : t ∈ (read number text).tokens)
    (hname : t.lexeme = .identifier name) : Name name := by
  obtain ⟨before, rest, after, hread⟩ := exists_reads ht fun written h => by simp [hname] at h
  rw [hname] at hread
  exact hread.name.1

/-- **The tokens of a line with another name** in the place of a name are the tokens of the line, renamed. -/
theorem tokens_replaced {number : Int} {text name w : List Char} {t : Token} (ht : t ∈ (read number text).tokens)
    (hname : t.lexeme = .identifier name) (hw : Name w) :
    (read number (t.replaced w text)).tokens = (read number text).tokens.map (Renaming.at t w).token := by
  have hnew : (Lexeme.identifier w).Replaces t.lexeme := hname ▸ hw.replaces (name_of_mem_tokens ht hname)
  have hslash : '/' ∉ w := fun hmem => absurd (hw.word.forall '/' hmem) (by decide)
  obtain ⟨front, back, gap, hsegments, hplace, hcut⟩ := of_replaced ht (fun written h => by simp [hname] at h) hnew
    fun _ hmem => absurd hmem hslash
  have hnonempty := (tiles_placed number text).nonempty
  rw [hname] at hsegments hplace
  rw [Lexeme.text] at hcut
  rw [tokens_read, tokens_read, hcut, hplace]
  rw [hsegments] at hnonempty ⊢
  exact placed_renamed hnonempty w

theorem code_replaced {number : Int} {text name w : List Char} {t : Token} (ht : t ∈ (read number text).tokens)
    (hname : t.lexeme = .identifier name) (hw : Name w) :
    (read number (t.replaced w text)).code = (read number text).code.map (Renaming.at t w).token := by
  rw [code, tokens_replaced ht hname hw, List.filter_map]
  exact congrArg _ (List.filter_congr fun u _ => (Renaming.at t w).isCode_token u)

/-- nothing changes on other lines -/
theorem code_apart {l : Line} (hl : l.Numbered) {t : Token} (hne : l.number ≠ t.line) (w : List Char) :
    l.code.map (Renaming.at t w).token = l.code := by
  refine (List.map_congr_left fun u hu => ?_).trans (List.map_id _)
  exact Renaming.token_at_of_ne (by rwa [hl.code u hu])

/-- **The code of a source with another name** in the place of a name is its code, renamed line by line. -/
theorem codes_replaced {above below : List (List Char)} {text name w : List Char} {t : Token}
    (ht : t ∈ (read (above.length + 1) text).tokens) (hname : t.lexeme = .identifier name) (hw : Name w) :
    (readAll (above ++ t.replaced w text :: below)).map code =
      (readAll (above ++ text :: below)).map fun l => l.code.map (Renaming.at t w).token := by
  have hline : t.line = above.length + 1 := numbered_read _ _ t ht ▸ number_read _ text
  have hother : ∀ l ∈ readAll above ++ readFrom (above.length + 1 + 1) below,
      l.code = l.code.map (Renaming.at t w).token := by
    intro l hl
    obtain ⟨hnumbered, hne⟩ := mem_around hl
    exact (code_apart hnumbered (hline ▸ hne) w).symm
  obtain ⟨habove, hbelow⟩ := List.forall_mem_append.1 hother
  rw [readAll_around, readAll_around, List.map_append, List.map_append, List.map_cons, List.map_cons,
    code_replaced ht hname hw, List.map_congr_left habove, List.map_congr_left hbelow]

end Line

end VixStyle
