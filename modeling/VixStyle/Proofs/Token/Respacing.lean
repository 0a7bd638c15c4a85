/-
Tokens do not depend on the width of the gaps between them.

A line may be spaced anew (`Respaced`): any blanks may stand before its first token and after its last one, more or fewer
blanks may stand where there are some, and blanks may come in where there are none; but tokens that were apart stay apart,
and nothing is added behind a comment that runs to the end of the line. Main statement, `LineLexer.run_respaced`: the line
that comes out has the same lexemes in the same order.

What a lexeme needs of the text after it is little (`NoCloser`): that it does not go on with something that the lexeme takes
in (`NoNearer`), and that no slash comes in where a comment between slashes could start. Spacing anew keeps more (`Looser`):
which character comes next, or which two, if a lexeme may take them in (`joins`). So a gap may even go before a mark that no
lexeme takes in (`Lexeme.Detached`).
- `Reads.loosen`: a lexeme is read before any text that is no nearer, one case for each form of the grammar.
- `looser_of_spread`: segments that are spread out are a looser text.
- `ofFrom_spread`: a whole line, by induction along the scanner.
-/
import VixStyle.Proofs.Token.Grammar
import VixStyle.Proofs.Token.Tiling

namespace VixStyle

open Text

/-! ## Lines spaced anew -/

/-- a comment that runs to the end of its line -/
def Lexeme.isLineComment : Lexeme → Bool
  | comment ('/' :: '/' :: _) => true
  | _ => false

/-- a comment that runs to the end of its line starts with two slashes -/
theorem Lexeme.exists_of_isLineComment {l : Lexeme} (h : l.isLineComment = true) :
    ∃ more, l = .comment ('/' :: '/' :: more) := by
  unfold isLineComment at h
  split at h
  · exact ⟨_, rfl⟩
  · cases h

/-- a comment is no code -/
theorem Lexeme.isCode_of_isLineComment {l : Lexeme} (h : l.isLineComment = true) : l.isCode = false := by
  obtain ⟨more, rfl⟩ := exists_of_isLineComment h
  rfl

/-- gaps that may stand in the place of other gaps before, between and after some tokens -/
structure Respaced (tokens : List Token) (old new : List (List Char)) : Prop where
  count : new.length = old.length
  blank : ∀ gap ∈ new, ∀ c ∈ gap, isBlank c = true
  apart : ∀ i < tokens.length, 0 < i → old[i]? ≠ some [] → new[i]? ≠ some []
  ending : ∀ t ∈ tokens.getLast?, t.lexeme.isLineComment = true → new.getLast? = some []

namespace Grammar

/-! ## Looser texts -/

/-- a character that a lexeme before it may take in -/
def joins (c : Char) : Bool := isDigit c || isWordChar c || ['.', '/', '=', '>', '&', '|'].contains c

theorem joins_of_isDigit {c : Char} (h : isDigit c = true) : joins c = true := by simp [joins, h]

theorem joins_of_isWordChar {c : Char} (h : isWordChar c = true) : joins c = true := by simp [joins, h]

/-- a character that a mark before it may take in, into an operator or a comment -/
def isSecond (c : Char) : Bool := ['/', '=', '>', '&', '|'].contains c

theorem isSecond_of_pair {op : Operator} {c d : Char} (h : op.text = [c, d]) : isSecond d = true := by
  cases op <;> simp only [Operator.text, List.cons.injEq, and_true, reduceCtorEq, and_false] at h <;>
    obtain ⟨rfl, rfl⟩ := h <;> decide

theorem joins_of_isSecond {c : Char} (h : isSecond c = true) : joins c = true := by
  rcases (by simpa [isSecond] using h : c = '/' ∨ c = '=' ∨ c = '>' ∨ c = '&' ∨ c = '|') with
    rfl | rfl | rfl | rfl | rfl <;> decide

/-- the second character of an operator -/
theorem joins_of_pair {op : Operator} {c d : Char} (h : op.text = [c, d]) : joins d = true :=
  joins_of_isSecond (isSecond_of_pair h)

theorem joins_of_isBlank {c : Char} (h : isBlank c = true) : joins c = false := by
  rcases (by simpa [isBlank] using h : c = ' ' ∨ c = '\t') with rfl | rfl <;> decide

/-- a text of which another is a looser version: what stands together in it stands together in the other -/
structure Looser (s t : List Char) : Prop where
  next : ∀ d more, t = d :: more → joins d = true → ∃ more', s = d :: more'
  nextTwo : ∀ d e more, t = d :: e :: more → joins d = true → joins e = true → ∃ more', s = d :: e :: more'
  slash : '/' ∈ t → '/' ∈ s

/-- a text that nothing before it can take in is looser than any other -/
theorem looser_of_apart {s t : List Char} (h : ∀ d more, t = d :: more → joins d = false) (hslash : '/' ∈ t → '/' ∈ s) :
    Looser s t where
  next := by
    intro d more ht hd
    rw [h d more ht] at hd
    cases hd
  nextTwo := by
    intro d e more ht hd
    rw [h d (e :: more) ht] at hd
    cases hd
  slash := hslash

theorem looser_of_blank {s t : List Char} (ht : ∀ c ∈ t, isBlank c = true) : Looser s t := by
  refine looser_of_apart ?_ fun h => absurd (ht _ h) (by decide)
  rintro d more rfl
  exact joins_of_isBlank (ht d List.mem_cons_self)

/-- one more character in front -/
theorem Looser.cons {s t : List Char} (h : Looser s t) (c : Char) : Looser (c :: s) (c :: t) where
  next := by
    rintro d more heq -
    obtain ⟨rfl, -⟩ := List.cons.inj heq
    exact ⟨s, rfl⟩
  nextTwo := by
    rintro d e more heq - he
    obtain ⟨rfl, htail⟩ := List.cons.inj heq
    obtain ⟨more', rfl⟩ := h.next e more htail he
    exact ⟨more', rfl⟩
  slash := by
    intro hmem
    rcases List.mem_cons.1 hmem with rfl | hmem
    · exact List.mem_cons_self
    · exact List.mem_cons_of_mem c (h.slash hmem)

theorem Looser.append {s t : List Char} (h : Looser s t) (front : List Char) : Looser (front ++ s) (front ++ t) := by
  induction front with
  | nil => exact h
  | cons c front ih => exact ih.cons c

/-- other blanks may stand before a text, also none if nothing before it can take it in -/
theorem Looser.gap {s t gap : List Char} (h : Looser s t) (old : List Char) (hgap : ∀ c ∈ gap, isBlank c = true)
    (hapart : gap = [] → ∀ d more, t = d :: more → joins d = false) : Looser (old ++ s) (gap ++ t) := by
  refine looser_of_apart ?_ fun hmem => ?_
  · intro d more heq
    cases gap with
    | nil => exact hapart rfl d more heq
    | cons b gap =>
      obtain ⟨rfl, -⟩ := List.cons.inj heq
      exact joins_of_isBlank (hgap b List.mem_cons_self)
  · rcases List.mem_append.1 hmem with hmem | hmem
    · exact absurd (hgap _ hmem) (by decide)
    · exact List.mem_append_right old (h.slash hmem)

/-! ## Texts that are no closer -/

/-- a text `t` that goes on with nothing a lexeme before it takes in, unless `s` does so, too -/
structure NoNearer (s t : List Char) : Prop where
  digit : ∀ d more, t = d :: more → isDigit d = true → ∃ d' more', s = d' :: more' ∧ isDigit d' = true
  fraction : ∀ d more, t = '.' :: d :: more → isDigit d = true → ∃ d' more', s = '.' :: d' :: more' ∧ isDigit d' = true
  word : ∀ d more, t = d :: more → isWordChar d = true → ∃ d' more', s = d' :: more' ∧ isWordChar d' = true
  second : ∀ d more, t = d :: more → isSecond d = true → ∃ more', s = d :: more'

/-- a text `t` that, besides, holds no slash that could end a comment, unless `s` does so, too -/
structure NoCloser (s t : List Char) : Prop extends NoNearer s t where
  slash : '/' ∈ t → '/' ∈ s

theorem Looser.noCloser {s t : List Char} (h : Looser s t) : NoCloser s t where
  digit := by
    intro d more ht hd
    obtain ⟨more', hs⟩ := h.next d more ht (joins_of_isDigit hd)
    exact ⟨d, more', hs, hd⟩
  fraction := by
    intro d more ht hd
    obtain ⟨more', hs⟩ := h.nextTwo '.' d more ht (by decide) (joins_of_isDigit hd)
    exact ⟨d, more', hs, hd⟩
  word := by
    intro d more ht hd
    obtain ⟨more', hs⟩ := h.next d more ht (joins_of_isWordChar hd)
    exact ⟨d, more', hs, hd⟩
  second := by
    intro d more ht hd
    exact h.next d more ht (joins_of_isSecond hd)
  slash := h.slash

/-- one more character in front -/
theorem NoNearer.cons {s t : List Char} (h : NoNearer s t) (c : Char) : NoNearer (c :: s) (c :: t) where
  digit := by
    rintro d more heq hd
    obtain ⟨rfl, -⟩ := List.cons.inj heq
    exact ⟨c, s, rfl, hd⟩
  fraction := by
    rintro d more heq hd
    obtain ⟨rfl, htail⟩ := List.cons.inj heq
    obtain ⟨d', more', rfl, hd'⟩ := h.digit d more htail hd
    exact ⟨d', more', rfl, hd'⟩
  word := by
    rintro d more heq hd
    obtain ⟨rfl, -⟩ := List.cons.inj heq
    exact ⟨c, s, rfl, hd⟩
  second := by
    rintro d more heq -
    obtain ⟨rfl, -⟩ := List.cons.inj heq
    exact ⟨s, rfl⟩

theorem NoNearer.append {s t : List Char} (h : NoNearer s t) (front : List Char) : NoNearer (front ++ s) (front ++ t) := by
  induction front with
  | nil => exact h
  | cons c front ih => exact ih.cons c

/-! ## A longest text stays the longest -/

/-- a class does not hold the text with one character more -/
theorem Longest.not_mem_append {P : List Char → Prop} {w : List Char} {d : Char} (more after : List Char)
    (h : Longest P (w ++ (d :: more ++ after)) w) : ¬ P (w ++ d :: more) := by
  intro hmem
  have hle := h.longest _ hmem ⟨after, by rw [List.append_assoc]⟩
  rw [List.length_append, List.length_cons] at hle
  omega

theorem Digits.snoc {w : List Char} {d : Char} (h : Digits w) (hd : isDigit d = true) : Digits (w ++ [d]) :=
  ⟨by simp, fun c hc => by
    rcases List.mem_append.1 hc with hc | hc
    · exact h.2 c hc
    · rw [List.mem_singleton.1 hc]
      exact hd⟩

theorem Number.snoc {w : List Char} {d : Char} (h : Number w) (hd : isDigit d = true) : Number (w ++ [d]) := by
  rcases h with h | ⟨whole, fraction, hwhole, hfraction, rfl⟩
  · exact Or.inl (h.snoc hd)
  · exact Or.inr ⟨whole, fraction ++ [d], hwhole, hfraction.snoc hd, by simp⟩

/-- a number in front of a text that goes on with neither a digit nor, if it has no fraction yet, a fraction -/
theorem takeNumber_stop {w after : List Char} (hw : Number w)
    (hdigit : ∀ d more, after = d :: more → isDigit d = false)
    (hfraction : Digits w → ∀ d more, after = '.' :: d :: more → isDigit d = false) :
    (takeNumber (w ++ after)).1 = w := by
  have hstop : after.takeWhile isDigit = [] ∧ after.dropWhile isDigit = after := by
    cases after with
    | nil => exact ⟨rfl, rfl⟩
    | cons d more => simp [hdigit d more rfl]
  rcases hw with hw | ⟨whole, fraction, hwhole, hfrac, rfl⟩
  · have hdrop : (w ++ after).dropWhile isDigit = after := by rw [List.dropWhile_append_of_pos hw.2, hstop.2]
    rw [takeNumber_of_no_fraction fun d more h => hfraction hw d more (hdrop.symm.trans h),
      List.takeWhile_append_of_pos hw.2, hstop.1, List.append_nil]
  · obtain ⟨d, more, rfl⟩ := List.exists_cons_of_ne_nil hfrac.1
    have hdrop : (whole ++ '.' :: d :: more ++ after).dropWhile isDigit = '.' :: d :: (more ++ after) := by
      rw [List.append_assoc, List.dropWhile_append_of_pos hwhole.2]
      simp [isDigit_point]
    have htake : (whole ++ '.' :: d :: more ++ after).takeWhile isDigit = whole := by
      rw [List.append_assoc, List.takeWhile_append_of_pos hwhole.2]
      simp [isDigit_point]
    rw [takeNumber_of_fraction hdrop (hfrac.2 d List.mem_cons_self), htake, ← List.cons_append,
      List.takeWhile_append_of_pos hfrac.2, hstop.1, List.append_nil]

theorem Longest.loosen_number {w after after' : List Char} (h : Longest Number (w ++ after) w)
    (hloose : NoNearer after after') : Longest Number (w ++ after') w := by
  have hdigit : ∀ d more, after' = d :: more → isDigit d = false := by
    intro d more hafter
    by_contra hd
    have hd : isDigit d = true := by simpa using hd
    obtain ⟨d', more', rfl, hd'⟩ := hloose.digit d more hafter hd
    exact Longest.not_mem_append [] more' h (h.mem.snoc hd')
  have hfraction : Digits w → ∀ d more, after' = '.' :: d :: more → isDigit d = false := by
    intro hw d more hafter
    by_contra hd
    have hd : isDigit d = true := by simpa using hd
    obtain ⟨d', more', rfl, hd'⟩ := hloose.fraction d more hafter hd
    refine Longest.not_mem_append [d'] more' h (Or.inr ⟨w, [d'], hw, ?_, rfl⟩)
    exact ⟨by simp, by simpa using hd'⟩
  have hstop := takeNumber_stop h.mem hdigit hfraction
  obtain ⟨d, more, rfl, hd⟩ := h.mem.head
  have hlong := longest_number (more ++ after') hd
  rwa [← List.cons_append, hstop] at hlong

/-- what stands behind a longest word is no part of a word -/
theorem Longest.stop {w after : List Char} (h : Longest Word (w ++ after) w) :
    ∀ d more, after = d :: more → isWordChar d = false := by
  rintro d more rfl
  obtain ⟨c, body, rfl, hc, hbody⟩ := h.mem
  by_contra hd
  have hd : isWordChar d = true := by simpa using hd
  refine Longest.not_mem_append [] more h ⟨c, body ++ [d], rfl, hc, fun e he => ?_⟩
  rcases List.mem_append.1 he with he | he
  · exact hbody e he
  · rw [List.mem_singleton.1 he]
    exact hd

/-- a word that nothing behind it goes on with is the longest -/
theorem Word.longest {w after : List Char} (hw : Word w) (hstop : ∀ d more, after = d :: more → isWordChar d = false) :
    Longest Word (w ++ after) w := by
  obtain ⟨c, more, rfl, hc, hmore⟩ := hw
  have hend : after.takeWhile isWordChar = [] := by
    cases after with
    | nil => rfl
    | cons d rest => simp [hstop d rest rfl]
  have hlong := longest_word (more ++ after) hc
  rwa [List.takeWhile_append_of_pos hmore, hend, List.append_nil] at hlong

theorem Longest.loosen_word {w after after' : List Char} (h : Longest Word (w ++ after) w)
    (hloose : NoNearer after after') : Longest Word (w ++ after') w := by
  refine h.mem.longest fun d more hafter => ?_
  by_contra hd
  obtain ⟨d', more', hbefore, hd'⟩ := hloose.word d more hafter (by simpa using hd)
  rw [h.stop d' more' hbefore] at hd'
  cases hd'

/-! ## One lexeme -/

theorem NoPair.loosen {c : Char} {after after' : List Char} (h : NoPair c after) (hloose : NoNearer after after') :
    NoPair c after' := by
  intro d more hafter op hop
  obtain ⟨more', rfl⟩ := hloose.second d more hafter (isSecond_of_pair hop)
  exact h d more' rfl op hop

theorem MarkStarts.loosen {before : List Char} {c : Char} {rest rest' : List Char} (h : MarkStarts before c rest)
    (hloose : NoNearer rest rest') (hslash : c = '/' → (∀ b ∈ before, isBlank b = true) → '/' ∈ rest' → '/' ∈ rest) :
    MarkStarts before c rest' where
  no_comment := by
    rintro (hline | ⟨hblank, more, heq, hmem⟩)
    · -- two slashes next to each other stood next to each other before
      obtain ⟨more, heq⟩ := hline
      obtain ⟨rfl, hrest⟩ := List.cons.inj heq
      obtain ⟨more', rfl⟩ := hloose.second '/' more hrest.symm (by decide)
      exact h.no_comment (Or.inl ⟨more', rfl⟩)
    · obtain ⟨rfl, rfl⟩ := List.cons.inj heq
      exact h.no_comment (Or.inr ⟨hblank, rest, rfl, hslash rfl hblank hmem⟩)
  no_string := h.no_string
  no_number := h.no_number
  no_word := h.no_word

/-- **A lexeme is read before any text that is no nearer**, unless it runs to the end of the line. If it is a slash that nothing
stands before, the text must not end a comment, either. -/
theorem Reads.loosen {before s after after' : List Char} {l : Lexeme} (h : Reads before s l after)
    (hloose : NoNearer after after')
    (hslash : s.head? = some '/' → (∀ b ∈ before, isBlank b = true) → '/' ∈ after' → '/' ∈ after)
    (hline : l.isLineComment = true → after' = []) : Reads before (l.text ++ after') l after' := by
  cases h with
  | lineComment =>
    obtain rfl := hline rfl
    rw [List.append_nil]
    exact .lineComment
  | @closedComment inner _ hblank hne hinner =>
    have hread : Reads before ('/' :: (inner ++ '/' :: after')) _ after' := .closedComment hblank hne hinner
    simpa [Lexeme.text] using hread
  | @stringLiteral body _ hbody =>
    have hread : Reads before ('"' :: (body ++ '"' :: after')) _ after' := .stringLiteral hbody
    simpa [Lexeme.text] using hread
  | number hlong => exact .number (hlong.loosen_number hloose)
  | keyword hd hlong => exact .keyword hd (hlong.loosen_word hloose)
  | identifier hd hlong hword => exact .identifier hd (hlong.loosen_word hloose) hword
  | @pair op c d _ hmark hop =>
    have hmark' : MarkStarts before c (d :: after') := by
      refine hmark.loosen (hloose.cons d) fun hc hblank hmem => ?_
      exact List.mem_cons.2 ((List.mem_cons.1 hmem).imp_right (hslash (congrArg some hc) hblank))
    rw [Lexeme.text, hop]
    exact .pair hmark' hop
  | single hmark hpair hop =>
    rw [Lexeme.text, hop]
    exact .single (hmark.loosen hloose fun hc => hslash (congrArg some hc)) (hpair.loosen hloose) hop
  | mark hmark hpair hop =>
    exact .mark (hmark.loosen hloose fun hc => hslash (congrArg some hc)) (hpair.loosen hloose) hop

/-- nothing stands behind a comment that runs to the end of the line -/
theorem Reads.after_lineComment {before s after : List Char} {l : Lexeme} (h : Reads before s l after)
    (hline : l.isLineComment = true) : after = [] := by
  cases h with
  | lineComment => rfl
  | @closedComment inner _ hblank hne hinner =>
    obtain ⟨c, more, rfl⟩ := List.exists_cons_of_ne_nil hne
    have hc : c ≠ '/' := fun e => hinner (e ▸ List.mem_cons_self)
    simp [Lexeme.isLineComment, hc] at hline
  | _ => cases hline

/-- some text before a lexeme, of which only blanks are leading -/
theorem exists_before (leading : Bool) : ∃ before : List Char, leading = true ↔ ∀ b ∈ before, isBlank b = true := by
  cases leading with
  | true => exact ⟨[], by simp⟩
  | false =>
    refine ⟨['x'], iff_of_false Bool.false_ne_true fun h => ?_⟩
    exact absurd (h 'x' List.mem_cons_self) (by decide)

section Next

variable {leading : Bool} {c : Char} {rest body after after' : List Char} {l : Lexeme}
  (h : next? leading c rest = some (l, after)) (htext : l.text = c :: body)

include h htext

/-- the scanner's step before a text that is no nearer -/
theorem next?_nearer (hloose : NoNearer after after') (hslash : c = '/' → leading = true → '/' ∈ after' → '/' ∈ after)
    (hline : l.isLineComment = true → after' = []) : next? leading c (body ++ after') = some (l, after') := by
  obtain ⟨before, hl⟩ := exists_before leading
  have hread := ((reads_iff hl).2 h).loosen hloose (fun hc hblank => hslash (Option.some.inj hc) (hl.2 hblank)) hline
  rw [htext] at hread
  exact (reads_iff hl).1 hread

/-- the scanner's step before a text that is no closer -/
theorem next?_loosen (hloose : NoCloser after after') (hline : l.isLineComment = true → after' = []) :
    next? leading c (body ++ after') = some (l, after') :=
  next?_nearer h htext hloose.toNoNearer (fun _ _ => hloose.slash) hline

end Next

end Grammar

/-! ## A line -/

open Grammar

/-- a lexeme that nothing before it can take in -/
def Lexeme.Detached (l : Lexeme) : Prop := ∀ c ∈ l.text.head?, joins c = false

theorem detached_mark {c : Char} (h : joins c = false) : (Lexeme.punctuation c).Detached := by
  intro d hd
  obtain rfl := Option.some.inj hd
  exact h

/-- segments with the same lexemes spread out anew; `free` says that no lexeme stands before -/
inductive Spread : Bool → List Segment → List Segment → Prop
  | nil {free : Bool} : Spread free [] []
  | cons {free : Bool} {old gap : List Char} {l : Lexeme} {segments new : List Segment}
      (hgap : ∀ c ∈ gap, isBlank c = true) (hapart : free = false → old ≠ [] → gap ≠ [] ∨ l.Detached)
      (h : Spread false segments new) : Spread free (⟨old, l⟩ :: segments) (⟨gap, l⟩ :: new)

theorem Spread.lexemes {free : Bool} {segments new : List Segment} (h : Spread free segments new) :
    new.map Segment.lexeme = segments.map Segment.lexeme := by
  induction h with
  | nil => rfl
  | cons _ _ _ ih => simp only [List.map_cons, ih]

/-- **Segments that are spread out make a looser text.** -/
theorem looser_of_spread {segments new : List Segment} (h : Spread false segments new)
    (hne : ∀ s ∈ segments, s.lexeme.text ≠ []) (oldTail : List Char) {tail : List Char}
    (htail : ∀ c ∈ tail, isBlank c = true) :
    Looser (segments.flatMap Segment.text ++ oldTail) (new.flatMap Segment.text ++ tail) := by
  generalize hfree : false = free at h
  induction h with
  | nil => exact looser_of_blank htail
  | @cons free old gap l segments new hgap hapart h ih =>
    have hlater := (ih (fun s hs => hne s (List.mem_cons_of_mem _ hs)) rfl).append l.text
    simp only [List.flatMap_cons, Segment.text, List.append_assoc] at hlater ⊢
    by_cases hnone : old = [] ∧ gap = []
    · obtain ⟨rfl, rfl⟩ := hnone
      exact hlater
    · refine hlater.gap old hgap fun hempty d more heq => ?_
      have hold : old ≠ [] := fun hold => hnone ⟨hold, hempty⟩
      obtain ⟨c, body, htext⟩ := List.exists_cons_of_ne_nil (hne _ List.mem_cons_self)
      rw [htext] at heq
      obtain ⟨rfl, -⟩ := List.cons.inj heq
      exact ((hapart hfree.symm hold).resolve_left (not_not.2 hempty)) c (by rw [htext]; rfl)

namespace Segmentation

/-- the scanner at a lexeme that stands behind blanks -/
theorem ofFrom_behind {leading : Bool} {gap rest after : List Char} {c : Char} {l : Lexeme}
    (hgap : ∀ b ∈ gap, isBlank b = true) (hc : isBlank c = false) (hn : next? leading c rest = some (l, after)) :
    ofFrom leading (gap ++ c :: rest) =
      ⟨⟨gap, l⟩ :: (ofFrom false after).segments, (ofFrom false after).tail, (ofFrom false after).closed⟩ := by
  have hdrop : (gap ++ c :: rest).dropWhile isBlank = c :: rest := by
    rw [List.dropWhile_append_of_pos hgap, List.dropWhile_cons_of_neg (by simp [hc])]
  have htake : (gap ++ c :: rest).takeWhile isBlank = gap := by
    rw [List.takeWhile_append_of_pos hgap, List.takeWhile_cons_of_neg (by simp [hc]), List.append_nil]
  rw [ofFrom_of_lexeme hdrop hn, htake]

/-- **A line that is spread out anew is cut into the same lexemes**, by induction along the scanner. -/
theorem ofFrom_spread {leading : Bool} {s : List Char} (hclosed : (ofFrom leading s).closed = true) {free : Bool}
    {new : List Segment} (h : Spread free (ofFrom leading s).segments new) {tail : List Char}
    (htail : ∀ c ∈ tail, isBlank c = true)
    (hend : ∀ p ∈ (ofFrom leading s).segments.getLast?, p.lexeme.isLineComment = true → tail = []) :
    ofFrom leading (new.flatMap Segment.text ++ tail) = ⟨new, tail, true⟩ := by
  induction leading, s using ofFrom.induct generalizing free new with
  | case1 leading s hs =>
    rw [ofFrom_of_blank hs] at h
    cases h
    exact ofFrom_of_blank (List.dropWhile_eq_nil_iff.2 htail)
  | case2 leading s c rest hs hn =>
    rw [ofFrom_of_open hs hn] at hclosed
    cases hclosed
  | case3 leading s c rest hs l after hn ih =>
    rw [ofFrom_of_lexeme hs hn] at hclosed h hend
    cases h with
    | @cons _ _ gap _ _ new hgap _ h =>
      obtain ⟨body, htext⟩ := next?_head hn
      have hline : l.isLineComment = true → new.flatMap Segment.text ++ tail = [] := by
        intro hl
        obtain ⟨before, hbefore⟩ := exists_before leading
        obtain rfl := ((reads_iff hbefore).2 hn).after_lineComment hl
        rw [ofFrom_of_blank rfl] at h hend
        cases h
        exact hend _ rfl hl
      have hloose : Looser after (new.flatMap Segment.text ++ tail) := by
        have hloose := looser_of_spread h (spaced_ofFrom false after).lexeme (ofFrom false after).tail htail
        rwa [← Segmentation.text, text_ofFrom] at hloose
      have hsplit : (⟨gap, l⟩ :: new : List Segment).flatMap Segment.text ++ tail =
          gap ++ c :: (body ++ (new.flatMap Segment.text ++ tail)) := by
        simp [Segment.text, htext]
      have hmore := ih hclosed h fun p hp hl => hend p (by rw [List.getLast?_cons, Option.mem_def.1 hp]; rfl) hl
      rw [hsplit, ofFrom_behind hgap (isBlank_head_dropWhile hs) (next?_loosen hn htext hloose.noCloser hline), hmore]

end Segmentation

/-! ## Gaps and segments -/

theorem placed_lexemes (line : Int) (column : Nat) (segments : List Segment) :
    (placed line column segments).map Token.lexeme = segments.map Segment.lexeme := by
  induction segments generalizing column with
  | nil => rfl
  | cons s more ih => simp only [placed, List.map_cons, ih]

theorem weave_lexemes {ts us : List Token} (h : ts.map Token.lexeme = us.map Token.lexeme) (gaps : List (List Char)) :
    weave gaps ts = weave gaps us := by
  induction ts generalizing us gaps with
  | nil =>
    obtain rfl := List.map_eq_nil_iff.1 h.symm
    rfl
  | cons t ts ih =>
    obtain ⟨u, us, rfl, hu, hus⟩ := List.map_eq_cons_iff.1 h.symm
    cases gaps with
    | nil => rfl
    | cons gap later => rw [weave, weave, ih hus.symm, Token.text, Token.text, hu]

/-- segments with other gaps -/
def respace (gaps : List (List Char)) (segments : List Segment) : List Segment :=
  List.zipWith (fun gap s => ⟨gap, s.lexeme⟩) gaps segments

theorem map_gap_respace {gaps : List (List Char)} {segments : List Segment} (hcount : gaps.length = segments.length) :
    (respace gaps segments).map Segment.gap = gaps := by
  induction segments generalizing gaps with
  | nil =>
    obtain rfl := List.length_eq_zero_iff.1 hcount
    rfl
  | cons s segments ih =>
    obtain ⟨gap, gaps, rfl⟩ := List.exists_cons_of_length_eq_add_one hcount
    exact congrArg (gap :: ·) (ih (Nat.succ.inj hcount))

theorem spread_respace {gaps : List (List Char)} {segments : List Segment} (hcount : gaps.length = segments.length)
    (hblank : ∀ gap ∈ gaps, ∀ c ∈ gap, isBlank c = true) (free : Bool)
    (hapart : ∀ i, (free = true → 0 < i) → i < segments.length → (segments.map Segment.gap)[i]? ≠ some [] →
      gaps[i]? ≠ some []) :
    Spread free segments (respace gaps segments) ∧ (respace gaps segments).map Segment.gap = gaps := by
  refine ⟨?_, map_gap_respace hcount⟩
  induction segments generalizing gaps free with
  | nil =>
    obtain rfl := List.length_eq_zero_iff.1 hcount
    exact .nil
  | cons s segments ih =>
    obtain ⟨gap, gaps, rfl⟩ := List.exists_cons_of_length_eq_add_one hcount
    have hspread := ih (Nat.succ.inj hcount) (fun g hg => hblank g (List.mem_cons_of_mem gap hg)) false
      fun i _ hi h => hapart (i + 1) (fun _ => Nat.succ_pos i) (Nat.succ_lt_succ hi) h
    refine .cons (hblank gap List.mem_cons_self) (fun hfree hold => .inl ?_) hspread
    simpa using hapart 0 (fun h => by simp [hfree] at h) (Nat.succ_pos _) (by simpa using hold)

/-- **Lexemes with other gaps** that keep them apart are the segmentation of the text they make. -/
theorem Segmentation.of_weave {n : Int} {text : List Char} (hclosed : (of text).closed = true) {inner : List (List Char)}
    (hcount : inner.length = (of text).segments.length)
    (hspread : Spread true (of text).segments (respace inner (of text).segments)) {tail : List Char}
    (htail : ∀ c ∈ tail, isBlank c = true)
    (hend : ∀ p ∈ (of text).segments.getLast?, p.lexeme.isLineComment = true → tail = []) :
    of (weave (inner ++ [tail]) (placed n 1 (of text).segments)) = ⟨respace inner (of text).segments, tail, true⟩ := by
  have hsame : (placed n 1 (of text).segments).map Token.lexeme =
      (placed n 1 (respace inner (of text).segments)).map Token.lexeme := by
    rw [placed_lexemes, placed_lexemes, hspread.lexemes]
  have hline : weave (inner ++ [tail]) (placed n 1 (of text).segments) =
      (respace inner (of text).segments).flatMap Segment.text ++ tail := by
    rw [weave_lexemes hsame, ← weave_placed n 1, map_gap_respace hcount]
  rw [hline]
  exact ofFrom_spread hclosed hspread htail hend

/-- the tokens of a line that is read without a fault come from its segments -/
theorem lex_eq_ok {line : Int} {text : List Char} {ts : List Token} (h : lex line text = .ok ts) :
    (Segmentation.of text).closed = true ∧ ts = placed line 1 (Segmentation.of text).segments := by
  simp only [lex] at h
  split at h
  · exact ⟨‹_›, (Except.ok.inj h).symm⟩
  · cases h

theorem getLast?_placed (line : Int) (column : Nat) {segments : List Segment} {s : Segment}
    (h : segments.getLast? = some s) : ∃ t, (placed line column segments).getLast? = some t ∧ t.lexeme = s.lexeme := by
  have hlast := congrArg List.getLast? (placed_lexemes line column segments)
  rw [List.getLast?_map, List.getLast?_map, h] at hlast
  exact Option.map_eq_some_iff.1 hlast

namespace LineLexer

/-- **Tokens do not depend on the width of gaps.** A line that is spaced anew has the same lexemes in the same order. -/
theorem run_respaced {l new : LineLexer} {ts : List Token} (h : l.run.1 = .ok ts) {newGaps : List (List Char)}
    (hgaps : Respaced ts (gaps l.text ts) newGaps) (htext : new.text = weave newGaps ts) :
    ∃ us, new.run.1 = .ok us ∧ us.map Token.lexeme = ts.map Token.lexeme := by
  obtain ⟨hclosed, rfl⟩ := lex_eq_ok h
  generalize hcut : Segmentation.of l.text = cut at *
  have hlength := congrArg List.length (placed_lexemes l.line 1 cut.segments)
  rw [List.length_map, List.length_map] at hlength
  have hold : gaps l.text (placed l.line 1 cut.segments) = cut.segments.map Segment.gap ++ [cut.tail] := by
    have htext : l.text = [] ++ cut.segments.flatMap Segment.text ++ cut.tail := by
      rw [← hcut]
      exact (Segmentation.text_of l.text).symm
    exact gapsFrom_placed l.line htext
  -- the last gap is the new tail, the others stand before the segments
  have hcount := hgaps.count
  rw [hold, List.length_append, List.length_map, List.length_singleton] at hcount
  obtain ⟨inner, tail, rfl⟩ : ∃ inner tail, newGaps = inner ++ [tail] := by
    have hne : newGaps ≠ [] := List.ne_nil_of_length_eq_add_one hcount
    exact ⟨newGaps.dropLast, newGaps.getLast hne, (List.dropLast_concat_getLast hne).symm⟩
  have hinner : inner.length = cut.segments.length := by simpa using hcount
  have hblank : ∀ gap ∈ inner, ∀ c ∈ gap, isBlank c = true :=
    fun gap hgap => hgaps.blank gap (List.mem_append_left _ hgap)
  have htail : ∀ c ∈ tail, isBlank c = true := hgaps.blank tail (List.mem_append_right _ (List.mem_singleton_self tail))
  have hapart : ∀ i, (true = true → 0 < i) → i < cut.segments.length → (cut.segments.map Segment.gap)[i]? ≠ some [] →
      inner[i]? ≠ some [] := by
    intro i hpos hi hne
    have happart := hgaps.apart i (by rwa [hlength]) (hpos rfl)
    rw [hold, List.getElem?_append_left (by simpa using hi), List.getElem?_append_left (by rwa [hinner])] at happart
    exact happart hne
  obtain ⟨hspread, hgap⟩ := spread_respace hinner hblank true hapart
  have hend : ∀ s ∈ cut.segments.getLast?, s.lexeme.isLineComment = true → tail = [] := by
    intro s hs hcomment
    obtain ⟨t, ht, hlexeme⟩ := getLast?_placed l.line 1 hs
    simpa using hgaps.ending t ht (by rwa [hlexeme])
  -- the new line is the segments spread out, so the scanner gives them back
  have hline : new.text = (respace inner cut.segments).flatMap Segment.text ++ tail := by
    have hsame : (placed l.line 1 cut.segments).map Token.lexeme =
        (placed new.line 1 (respace inner cut.segments)).map Token.lexeme := by
      rw [placed_lexemes, placed_lexemes, hspread.lexemes]
    have hweave := weave_placed new.line 1 tail (respace inner cut.segments)
    rw [htext, weave_lexemes hsame, ← hweave, hgap]
  have hread : Segmentation.of new.text = ⟨respace inner cut.segments, tail, true⟩ := by
    rw [hline]
    subst hcut
    exact Segmentation.ofFrom_spread hclosed hspread htail hend
  refine ⟨placed new.line 1 (respace inner cut.segments), ?_, ?_⟩
  · simp [run, lex, hread]
  · rw [placed_lexemes, placed_lexemes, hspread.lexemes]

/-- a comment between slashes stays one where its line starts later, and so does a division with blanks about its sign -/
theorem run_respaced_slashes :
    ∃ us, (LineLexer.mk "\t / a / x  / 2.5 != b //c".toList 7 0).run.1 = .ok us ∧
      us.map Token.lexeme = [.comment "/ a /".toList, .identifier "x".toList, .operator .div, .number "2.5".toList,
        .operator .unequal, .identifier "b".toList, .comment "//c".toList] := by
  let ts : List Token := [⟨.comment "/ a /".toList, 1, 1⟩, ⟨.identifier "x".toList, 1, 7⟩, ⟨.operator .div, 1, 9⟩,
    ⟨.number "2.5".toList, 1, 10⟩, ⟨.operator .unequal, 1, 13⟩, ⟨.identifier "b".toList, 1, 15⟩,
    ⟨.comment "//c".toList, 1, 16⟩]
  let new : List (List Char) := ["\t ", " ", "  ", " ", " ", " ", " ", ""].map String.toList
  have hread : (LineLexer.mk "/ a / x /2.5!=b//c".toList 1 0).run.1 = .ok ts := by decide +kernel
  have hblank : new.all (fun gap => gap.all isBlank) = true := by decide +kernel
  have hgaps : Respaced ts (gaps "/ a / x /2.5!=b//c".toList ts) new := by
    refine ⟨by decide +kernel, ?_, by decide +kernel, by decide +kernel⟩
    intro gap hgap c hc
    exact List.all_eq_true.1 (List.all_eq_true.1 hblank gap hgap) c hc
  exact run_respaced hread hgaps (by decide +kernel)

end LineLexer

end VixStyle
