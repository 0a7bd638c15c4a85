/-
A line with other characters in a string literal.

The characters between the quotes of a closed string literal are replaced by as many others, none of them a quote or a
backslash. Main statement, `Line.tokens_requoted`: the line has the same tokens in the same places, but for what this literal
reads (`Token.swap`).

One closed literal may stand in the place of another (`Grammar.replaces_quote`), for it begins with a quote, which no lexeme
before it takes in (`noNearer_quote`). But a slash at the start of the line looks for a second one in the whole line, and that
may stand in the literal; so the first lexeme of the line must not begin with a slash.
-/
import VixStyle.Proofs.Source.Alike
import VixStyle.Proofs.Token.Replacing

namespace VixStyle

open Text

/-- characters between quotes -/
def quote (inner : List Char) : List Char := '"' :: (inner ++ ['"'])

namespace Grammar

theorem stringBody_of_forall {inner : List Char} (h : ∀ c ∈ inner, c ≠ '"' ∧ c ≠ '\\') : StringBody inner := by
  induction inner with
  | nil => exact .nil
  | cons c inner ih =>
    obtain ⟨⟨hquote, hbackslash⟩, hmore⟩ := List.forall_mem_cons.1 h
    exact .plain hquote hbackslash (ih hmore)

/-- **No lexeme takes in a quote** that stands behind it. -/
theorem noNearer_quote (s rest : List Char) : NoNearer s ('"' :: rest) where
  digit := by
    rintro d more heq hd
    obtain ⟨rfl, -⟩ := List.cons.inj heq
    exact absurd hd (by decide)
  fraction := by
    rintro d more heq
    exact absurd (List.cons.inj heq).1 (by decide)
  word := by
    rintro d more heq hd
    obtain ⟨rfl, -⟩ := List.cons.inj heq
    exact absurd hd (by decide)
  second := by
    rintro d more heq hd
    obtain ⟨rfl, -⟩ := List.cons.inj heq
    exact absurd hd (by decide)

/-- a literal that is closed stands between two quotes -/
theorem Reads.exists_quote {before s written after : List Char} (h : Reads before s (.stringLiteral written) after) :
    ∃ body, written = quote body := by
  cases h with
  | @stringLiteral body => exact ⟨body, rfl⟩

end Grammar

open Grammar

/-- **A closed literal may stand in the place of another literal.** -/
theorem replaces_quote {inner : List Char} (hinner : StringBody inner) (old : List Char) :
    (Lexeme.stringLiteral (quote inner)).Replaces (.stringLiteral old) where
  read := by
    intro leading c rest after hn
    obtain ⟨before, hbefore⟩ := exists_before leading
    have hnext : next? leading '"' (inner ++ '"' :: after) = some (.stringLiteral (quote inner), after) :=
      (reads_iff hbefore).1 (.stringLiteral hinner)
    refine ⟨'"', inner ++ ['"'], rfl, by decide, ?_⟩
    rwa [List.append_assoc]
  nearer after := noNearer_quote _ _

/-! ## Another literal in the place of a token -/

/-- one string literal reads `new` -/
def Token.swap (t : Token) (new : List Char) (u : Token) : Token := if u = t then { u with lexeme := .stringLiteral new } else u

theorem Token.swaps_swap {t : Token} {old : List Char} (ht : t.lexeme = .stringLiteral old) (new : List Char) :
    Token.Swaps old new (t.swap new) := by
  intro u
  unfold swap
  by_cases hu : u = t
  · rw [if_pos hu]
    exact Or.inr ⟨hu ▸ ht, rfl⟩
  · exact Or.inl (if_neg hu)

/-- a token that stands once among others is swapped once -/
theorem map_swap_around {t : Token} {before after : List Token} (hbefore : ∀ u ∈ before, u.column < t.column)
    (hafter : ∀ u ∈ after, t.column < u.column) (new : List Char) :
    (before ++ t :: after).map (t.swap new) = before ++ { t with lexeme := .stringLiteral new } :: after := by
  have hother : ∀ us : List Token, (∀ u ∈ us, u ≠ t) → us.map (t.swap new) = us := by
    intro us hus
    refine (List.map_congr_left fun u hu => ?_).trans (List.map_id _)
    exact if_neg (hus u hu)
  rw [List.map_append, List.map_cons, hother before fun u hu heq => (hbefore u hu).ne (heq ▸ rfl),
    hother after fun u hu heq => (hafter u hu).ne' (heq ▸ rfl)]
  exact congrArg (fun u => before ++ u :: after) (if_pos rfl)

namespace Line

section Requoted

variable {number : Int} {text old inner : List Char} {t : Token} (ht : t ∈ (read number text).tokens)
  (hold : t.lexeme = .stringLiteral old) (hclosed : (read number text).unclosed ≠ some t.column)

include ht hold hclosed

/-- a line around a literal that is closed -/
theorem exists_quoted : ∃ before body after, old = quote body ∧ text = before ++ old ++ after ∧
    t.column = before.length + 1 ∧ ∀ w, t.replaced w text = before ++ w ++ after := by
  obtain ⟨before, rest, after, hread⟩ := exists_reads ht fun _ _ => hclosed
  rw [hold] at hread
  obtain ⟨body, hbody⟩ := hread.exists_quote
  obtain ⟨front, back, htext, hcolumn⟩ := exists_sides ht
  have hreplaced : ∀ w, t.replaced w text = front ++ w ++ back := by
    intro w
    conv_lhs => rw [htext]
    exact Token.replaced_around w hcolumn
  rw [Token.text, hold, Lexeme.text] at htext
  exact ⟨front, body, back, hbody, htext, hcolumn, hreplaced⟩

variable (hfirst : (text.dropWhile Text.isBlank).head? ≠ some '/') (hinner : StringBody inner)
  (hlength : (quote inner).length = old.length)

include hfirst hinner

/-- a line with another closed literal is cut in the same places -/
theorem of_requoted : ∃ (front back : List Segment) (gap : List Char),
    (Segmentation.of text).segments = front ++ ⟨gap, .stringLiteral old⟩ :: back ∧
      t = ⟨.stringLiteral old, number, 1 + (front.flatMap Segment.text).length + gap.length⟩ ∧
        Segmentation.of (t.replaced (quote inner) text) = ⟨front ++ ⟨gap, .stringLiteral (quote inner)⟩ :: back,
          (Segmentation.of text).tail, (Segmentation.of text).closed⟩ := by
  have hcut := of_replaced ht (fun _ _ => hclosed) (hold ▸ replaces_quote hinner old) fun hslash => absurd hslash hfirst
  rwa [hold] at hcut

include hlength

/-- **The tokens of a line with another literal** are its tokens, and this literal reads otherwise. -/
theorem tokens_requoted :
    (read number (t.replaced (quote inner) text)).tokens = (read number text).tokens.map (t.swap (quote inner)) := by
  obtain ⟨front, back, gap, hsegments, hplace, hcut⟩ := of_requoted ht hold hclosed hfirst hinner
  have hordered := ordered_placed number 1 (Segmentation.of text).segments
  have hnonempty := (tiles_placed number text).nonempty
  rw [hsegments, placed_around, ← hplace] at hordered hnonempty
  have hbefore : ∀ u ∈ placed number 1 front, u.column < t.column := by
    intro u hu
    have hend : u.column + u.text.length ≤ t.column := (List.pairwise_append.1 hordered).2.2 u hu t List.mem_cons_self
    have hlong := List.length_pos_iff.2 (hnonempty u (List.mem_append_left _ hu))
    omega
  have hbehind := (List.pairwise_cons.1 (List.pairwise_append.1 hordered).2.1).1
  have hafter : ∀ u ∈ (placed number (1 + (front.flatMap Segment.text).length + gap.length) back).map
      (Token.right (Lexeme.stringLiteral old).text.length), t.column < u.column := by
    intro u hu
    have hend : t.column + t.text.length ≤ u.column := hbehind u hu
    have hlong := List.length_pos_iff.2 (hnonempty t (List.mem_append_right _ List.mem_cons_self))
    omega
  have hsame : (Lexeme.stringLiteral (quote inner)).text.length = (Lexeme.stringLiteral old).text.length := hlength
  rw [tokens_read, tokens_read, hcut, hsegments, placed_around, placed_around, ← hplace, map_swap_around hbefore hafter, hsame,
    hplace]

theorem code_requoted :
    (read number (t.replaced (quote inner) text)).code = (read number text).code.map (t.swap (quote inner)) := by
  have hcode : ∀ u : Token, (t.swap (quote inner) u).lexeme.isCode = u.lexeme.isCode := fun u =>
    ((Token.swaps_swap hold (quote inner)).alike u).congr Lexeme.isCode fun _ _ => rfl
  rw [code, code, tokens_requoted ht hold hclosed hfirst hinner hlength, List.filter_map]
  exact congrArg _ (List.filter_congr fun u _ => hcode u)

/-- the same literal is not closed, if one is not -/
theorem unclosed_requoted : (read number (t.replaced (quote inner) text)).unclosed = (read number text).unclosed := by
  obtain ⟨front, back, gap, hsegments, hplace, hcut⟩ := of_requoted ht hold hclosed hfirst hinner
  have htokens := tokens_requoted ht hold hclosed hfirst hinner hlength
  have hcolumn : ∀ u, (t.swap (quote inner) u).column = u.column := (Token.swaps_swap hold (quote inner)).column
  rw [tokens_read, tokens_read] at htokens
  rw [unclosed_read, unclosed_read, htokens, List.getLast?_map, Option.map_map]
  simp only [hcut, Function.comp_def, hcolumn]

end Requoted

end Line

end VixStyle
