/-
The grammar of a line, apart from the scanner: which texts each class of lexeme holds, which lexeme stands at the front
of a text, and how a line is cut.

- `StringBody`, `Digits`, `Number`, `Word`: the texts of a class, said of the whole text.
- `Longest`: the longest text of a class at the front of another.
- `Reads`: a lexeme at the front of a text. The forms are tried in a fixed order; a form that comes later says which
  earlier ones do not apply. What stands before on the line matters to one form only, the comment between two slashes.
- `Cut`: a line read from left to right. It ends at the end of the line, or at a quote that no later quote closes.

Main statement, `LineLexer.run_iff_cut`: running the lexer gives exactly what the grammar allows. It rests on
`reads_iff` (the scanner's step is `Reads`), `cut_of` (the scanner's segmentation is a cut) and `Cut.unique`.
-/
import Mathlib.Data.List.TakeWhile
import VixStyle.Token.Lexer

namespace VixStyle.Grammar

open Text

/-! ## Classes of texts -/

/-- what may stand between two quotes: a backslash takes the next character with it -/
inductive StringBody : List Char → Prop where
  | nil : StringBody []
  | plain {c : Char} {more : List Char} : c ≠ '"' → c ≠ '\\' → StringBody more → StringBody (c :: more)
  | escaped {c : Char} {more : List Char} : StringBody more → StringBody ('\\' :: c :: more)

/-- a run of digits -/
def Digits (s : List Char) : Prop := s ≠ [] ∧ ∀ c ∈ s, isDigit c = true

/-- digits, or digits with a fraction -/
def Number (s : List Char) : Prop :=
  Digits s ∨ ∃ whole fraction, Digits whole ∧ Digits fraction ∧ s = whole ++ '.' :: fraction

/-- a letter or an underscore, and letters, numerals and underscores -/
def Word (s : List Char) : Prop := ∃ c more, s = c :: more ∧ isWordStart c = true ∧ ∀ d ∈ more, isWordChar d = true

/-- `w` is the longest text of a class at the front of `s` -/
structure Longest (P : List Char → Prop) (s w : List Char) : Prop where
  mem : P w
  front : w <+: s
  longest : ∀ v, P v → v <+: s → v.length ≤ w.length

/-! ## One lexeme -/

/-- a comment starts at the front of `s`: two slashes, or a first slash on the line that another one follows -/
def CommentStarts (before s : List Char) : Prop :=
  ['/', '/'] <+: s ∨ (∀ b ∈ before, isBlank b = true) ∧ ∃ rest, s = '/' :: rest ∧ '/' ∈ rest

/-- nothing longer than an operator starts at the front of `c :: rest` -/
structure MarkStarts (before : List Char) (c : Char) (rest : List Char) : Prop where
  no_comment : ¬ CommentStarts before (c :: rest)
  no_string : c ≠ '"'
  no_number : isDigit c = false
  no_word : isWordStart c = false

/-- no operator is written with `c` and the character after it -/
def NoPair (c : Char) (after : List Char) : Prop := ∀ d more, after = d :: more → ∀ op : Operator, op.text ≠ [c, d]

/--
the lexeme at the front of a text and the text after it, where `before` is what stands before on the line
-/
inductive Reads (before : List Char) : List Char → Lexeme → List Char → Prop where
  | lineComment {rest : List Char} : Reads before ('/' :: '/' :: rest) (.comment ('/' :: '/' :: rest)) []
  | closedComment {inner after : List Char} : (∀ b ∈ before, isBlank b = true) → inner ≠ [] → '/' ∉ inner →
      Reads before ('/' :: (inner ++ '/' :: after)) (.comment ('/' :: (inner ++ ['/']))) after
  | stringLiteral {body after : List Char} : StringBody body →
      Reads before ('"' :: (body ++ '"' :: after)) (.stringLiteral ('"' :: (body ++ ['"']))) after
  | number {written after : List Char} : Longest Number (written ++ after) written →
      Reads before (written ++ after) (.number written) after
  | keyword {word : Keyword} {after : List Char} : (∀ c ∈ word.text.head?, isDigit c = false) →
      Longest Word (word.text ++ after) word.text → Reads before (word.text ++ after) (.keyword word) after
  | identifier {name after : List Char} : (∀ c ∈ name.head?, isDigit c = false) →
      Longest Word (name ++ after) name → (∀ word : Keyword, word.text ≠ name) →
      Reads before (name ++ after) (.identifier name) after
  | pair {op : Operator} {c d : Char} {after : List Char} : MarkStarts before c (d :: after) → op.text = [c, d] →
      Reads before (c :: d :: after) (.operator op) after
  | single {op : Operator} {c : Char} {after : List Char} : MarkStarts before c after → NoPair c after →
      op.text = [c] → Reads before (c :: after) (.operator op) after
  | mark {c : Char} {after : List Char} : MarkStarts before c after → NoPair c after →
      (∀ op : Operator, op.text ≠ [c]) → Reads before (c :: after) (.punctuation c) after

/-- a string literal that starts before `rest` is closed -/
def Closes (rest : List Char) : Prop := ∃ body after, StringBody body ∧ rest = body ++ '"' :: after

/-! ## A line -/

/--
a line cut into tokens from left to right, `before` being what has been read; the last argument is the column of the
quote that is not closed, if the line ends with such a literal
-/
inductive Cut (line : Int) : List Char → List Char → List Token → Option Nat → Prop where
  | done {before : List Char} : Cut line before [] [] none
  | blank {before rest : List Char} {b : Char} {ts : List Token} {fault : Option Nat} : isBlank b = true →
      Cut line (before ++ [b]) rest ts fault → Cut line before (b :: rest) ts fault
  | lexeme {before rest after : List Char} {c : Char} {l : Lexeme} {ts : List Token} {fault : Option Nat} :
      isBlank c = false → Reads before (c :: rest) l after → Cut line (before ++ l.text) after ts fault →
      Cut line before (c :: rest) (⟨l, line, before.length + 1⟩ :: ts) fault
  | unclosed {before rest : List Char} : ¬ Closes rest →
      Cut line before ('"' :: rest) [⟨.stringLiteral ('"' :: rest), line, before.length + 1⟩] (some (before.length + 1))

/-! ## The classes and the scanner's readers -/

theorem closeString_body {body : List Char} (h : StringBody body) (after : List Char) :
    closeString (body ++ '"' :: after) = some (body ++ ['"'], after) := by
  induction h with
  | nil => rfl
  | @plain c more hq hb _ ih =>
    rw [List.cons_append, closeString.eq_5 c _ hq (fun hc _ => hb hc) (fun _ _ hc _ => hb hc), ih]
    rfl
  | @escaped c more _ ih =>
    rw [List.cons_append, List.cons_append, closeString.eq_4, ih]
    rfl

theorem body_of_closeString {s written after : List Char} (h : closeString s = some (written, after)) :
    ∃ body, StringBody body ∧ written = body ++ ['"'] ∧ s = body ++ '"' :: after := by
  fun_induction closeString s generalizing written after with
  | case1 => simp at h
  | case2 rest =>
    simp only [Option.some.injEq, Prod.mk.injEq] at h
    obtain ⟨rfl, rfl⟩ := h
    exact ⟨[], .nil, rfl, rfl⟩
  | case3 => simp at h
  | case4 c rest ih =>
    obtain ⟨⟨w, a⟩, hw, heq⟩ := Option.map_eq_some_iff.1 h
    simp only [Prod.mk.injEq] at heq
    obtain ⟨rfl, rfl⟩ := heq
    obtain ⟨body, hbody, rfl, rfl⟩ := ih hw
    exact ⟨'\\' :: c :: body, .escaped hbody, rfl, rfl⟩
  | case5 c rest hq h1 h2 ih =>
    obtain ⟨⟨w, a⟩, hw, heq⟩ := Option.map_eq_some_iff.1 h
    simp only [Prod.mk.injEq] at heq
    obtain ⟨rfl, rfl⟩ := heq
    obtain ⟨body, hbody, rfl, rfl⟩ := ih hw
    have hb : c ≠ '\\' := by
      rintro rfl
      cases body with
      | nil => exact h2 _ _ rfl rfl
      | cons d more => exact h2 _ _ rfl rfl
    exact ⟨c :: body, .plain hq hb hbody, rfl, rfl⟩

/-- the reader of string literals fails exactly where no quote closes -/
theorem closeString_eq_none_iff {s : List Char} : closeString s = none ↔ ¬ Closes s := by
  constructor
  · rintro h ⟨body, after, hbody, rfl⟩
    rw [closeString_body hbody] at h
    cases h
  · intro h
    cases hs : closeString s with
    | none => rfl
    | some p =>
      obtain ⟨body, hbody, -, rfl⟩ := body_of_closeString hs
      exact absurd ⟨body, p.2, hbody, rfl⟩ h

theorem closeComment_inner {inner : List Char} (h : '/' ∉ inner) (after : List Char) :
    closeComment (inner ++ '/' :: after) = some (inner ++ ['/'], after) := by
  have hall : ∀ c ∈ inner, (c != '/') = true := fun c hc => by
    have : c ≠ '/' := fun e => h (e ▸ hc)
    simpa using this
  simp [closeComment, List.dropWhile_append_of_pos hall, List.takeWhile_append_of_pos hall]

theorem inner_of_closeComment {s written after : List Char} (h : closeComment s = some (written, after)) :
    ∃ inner, '/' ∉ inner ∧ written = inner ++ ['/'] ∧ s = inner ++ '/' :: after := by
  unfold closeComment at h
  split at h
  · simp at h
  · rename_i slash rest hd
    simp only [Option.some.injEq, Prod.mk.injEq] at h
    obtain ⟨rfl, rfl⟩ := h
    have hslash : slash = '/' := by
      have := List.head_dropWhile_not (· != '/') (l := s) (by rw [hd]; simp)
      simpa [hd] using this
    subst hslash
    refine ⟨s.takeWhile (· != '/'), fun hmem => ?_, rfl, ?_⟩
    · simpa using List.mem_takeWhile_imp hmem
    · rw [← hd, List.takeWhile_append_dropWhile]

/-- the longest text of a class is one text -/
theorem Longest.unique {P : List Char → Prop} {s v w : List Char} (hv : Longest P s v) (hw : Longest P s w) :
    v = w := by
  have hle := hw.longest v hv.mem hv.front
  have hge := hv.longest w hw.mem hw.front
  exact (List.prefix_of_prefix_length_le hv.front hw.front hle).eq_of_length (le_antisymm hle hge)

/-- what a run of one kind of character takes from a text in front is not longer than the whole run -/
theorem length_le_takeWhile {p : Char → Bool} {v s : List Char} (hv : v <+: s) (hp : ∀ c ∈ v, p c = true) :
    v.length ≤ (s.takeWhile p).length := by
  obtain ⟨t, rfl⟩ := hv
  rw [List.takeWhile_append_of_pos hp, List.length_append]
  exact Nat.le_add_right _ _

theorem longest_word {c : Char} (rest : List Char) (hc : isWordStart c = true) :
    Longest Word (c :: rest) (c :: rest.takeWhile isWordChar) where
  mem := ⟨c, _, rfl, hc, fun _ hd => List.mem_takeWhile_imp hd⟩
  front := (List.cons_prefix_cons).2 ⟨rfl, List.takeWhile_prefix _⟩
  longest := by
    rintro v ⟨d, more, rfl, -, hmore⟩ hfront
    have hfront := ((List.cons_prefix_cons).1 hfront).2
    simpa using length_le_takeWhile hfront hmore

theorem digits_takeWhile {c : Char} (rest : List Char) (hc : isDigit c = true) :
    Digits ((c :: rest).takeWhile isDigit) :=
  ⟨by simp [hc], fun _ hd => List.mem_takeWhile_imp hd⟩

theorem isDigit_point : isDigit '.' = false := by decide

/-- a fraction of a number at the front starts right after the digits at the front -/
theorem dropWhile_of_fraction {whole fraction s : List Char} (hw : Digits whole)
    (h : whole ++ '.' :: fraction <+: s) :
    s.takeWhile isDigit = whole ∧ ∃ t, s.dropWhile isDigit = '.' :: (fraction ++ t) := by
  obtain ⟨t, rfl⟩ := h
  rw [List.append_assoc, List.takeWhile_append_of_pos hw.2, List.dropWhile_append_of_pos hw.2]
  simp [isDigit_point]

theorem takeNumber_of_fraction {d : Char} {s more : List Char} (hs : s.dropWhile isDigit = '.' :: d :: more)
    (hd : isDigit d = true) :
    (takeNumber s).1 = s.takeWhile isDigit ++ '.' :: (d :: more).takeWhile isDigit := by
  simp [takeNumber, hs, hd]

theorem takeNumber_of_no_fraction {s : List Char}
    (h : ∀ d more, s.dropWhile isDigit = '.' :: d :: more → isDigit d = false) :
    (takeNumber s).1 = s.takeWhile isDigit := by
  unfold takeNumber
  split
  · rename_i d more hs
    simp [h d more hs]
  · rfl

theorem longest_number {c : Char} (rest : List Char) (hc : isDigit c = true) :
    Longest Number (c :: rest) (takeNumber (c :: rest)).1 := by
  have hdigits := digits_takeWhile rest hc
  have hfront : (takeNumber (c :: rest)).1 <+: c :: rest := ⟨_, takeNumber_append _⟩
  generalize c :: rest = s at hdigits hfront
  by_cases h : ∃ d more, s.dropWhile isDigit = '.' :: d :: more ∧ isDigit d = true
  · obtain ⟨d, more, hs, hd⟩ := h
    have htake := takeNumber_of_fraction hs hd
    refine ⟨Or.inr ⟨_, _, hdigits, digits_takeWhile more hd, htake⟩, hfront, ?_⟩
    rintro v (hv | ⟨whole, fraction, hw, hf, rfl⟩) hv'
    · have := length_le_takeWhile hv' hv.2
      rw [htake, List.length_append]
      omega
    · obtain ⟨hwhole, t, hdrop⟩ := dropWhile_of_fraction hw hv'
      rw [hs, List.cons.injEq] at hdrop
      have := length_le_takeWhile ⟨t, hdrop.2.symm⟩ hf.2
      rw [htake, hwhole, List.length_append, List.length_append, List.length_cons, List.length_cons]
      omega
  · have htake : (takeNumber s).1 = s.takeWhile isDigit :=
      takeNumber_of_no_fraction fun d more hs => by simpa using fun hd => h ⟨d, more, hs, hd⟩
    refine ⟨Or.inl (htake ▸ hdigits), hfront, ?_⟩
    rintro v (hv | ⟨whole, fraction, hw, hf, rfl⟩) hv'
    · rw [htake]
      exact length_le_takeWhile hv' hv.2
    · obtain ⟨-, t, hdrop⟩ := dropWhile_of_fraction hw hv'
      obtain ⟨d, more, rfl⟩ := List.exists_cons_of_ne_nil hf.1
      exact absurd ⟨d, more ++ t, hdrop, hf.2 d List.mem_cons_self⟩ h

/-! ## The scanner's step, form by form -/

theorem closeComment_eq_none_iff {s : List Char} : closeComment s = none ↔ '/' ∉ s := by
  unfold closeComment
  split
  · rename_i hd
    have := List.dropWhile_eq_nil_iff.1 hd
    simp only [true_iff]
    exact fun hmem => by simpa using this _ hmem
  · rename_i slash rest hd
    simp only [reduceCtorEq, false_iff, not_not]
    by_contra hmem
    have hall : ∀ c ∈ s, (c != '/') = true := fun c hc => by
      have : c ≠ '/' := fun e => hmem (e ▸ hc)
      simpa using this
    rw [List.dropWhile_eq_nil_iff.2 hall] at hd
    cases hd

/-- where no comment starts, the scanner goes on to the other forms -/
theorem not_commentStarts_iff {leading : Bool} {before : List Char}
    (hl : leading = true ↔ ∀ b ∈ before, isBlank b = true) (c : Char) (rest : List Char) :
    ¬ CommentStarts before (c :: rest) ↔
      ¬ (c = '/' ∧ rest.head? = some '/') ∧ (if c = '/' ∧ leading then closeComment rest else none) = none := by
  have hline : ['/', '/'] <+: c :: rest ↔ c = '/' ∧ rest.head? = some '/' := by
    cases rest with
    | nil => simp
    | cons d more => simp [eq_comm]
  unfold CommentStarts
  rw [not_or, hline]
  refine and_congr_right fun _ => ?_
  by_cases hc : c = '/'
  · subst hc
    cases leading with
    | true => simpa [← hl] using closeComment_eq_none_iff.symm
    | false => simpa using fun hblank => absurd (hl.2 hblank) Bool.false_ne_true
  · simp [hc]

theorem next?_lineComment (leading : Bool) (rest : List Char) :
    next? leading '/' ('/' :: rest) = some (.comment ('/' :: '/' :: rest), []) := by
  simp [next?]

theorem next?_closedComment {inner after : List Char} (hne : inner ≠ []) (h : '/' ∉ inner) :
    next? true '/' (inner ++ '/' :: after) = some (.comment ('/' :: (inner ++ ['/'])), after) := by
  obtain ⟨c, more, rfl⟩ := List.exists_cons_of_ne_nil hne
  have hc : c ≠ '/' := fun e => h (e ▸ List.mem_cons_self)
  have hclose := closeComment_inner h after
  simp only [List.cons_append] at hclose ⊢
  simp [next?, hc, hclose]

section Forms

variable {leading : Bool} {before : List Char} {c : Char} {rest : List Char}

theorem CommentStarts.eq_slash (h : CommentStarts before (c :: rest)) : c = '/' := by
  rcases h with h | ⟨-, more, h, -⟩
  · exact ((List.cons_prefix_cons).1 h).1.symm
  · exact (List.cons.inj h).1

theorem next?_string : next? leading '"' rest =
    (closeString rest).map fun (body, after) => (.stringLiteral ('"' :: body), after) := by
  simp [next?]

theorem next?_digit (hc : isDigit c = true) :
    next? leading c rest = some (.number (takeNumber (c :: rest)).1, (takeNumber (c :: rest)).2) := by
  have hslash : c ≠ '/' := by rintro rfl; exact absurd hc (by decide)
  have hquote : c ≠ '"' := by rintro rfl; exact absurd hc (by decide)
  simp [next?, hslash, hquote, hc]

theorem next?_word (hd : isDigit c = false) (hc : isWordStart c = true) :
    next? leading c rest = some (wordLexeme (c :: rest.takeWhile isWordChar), rest.dropWhile isWordChar) := by
  have hslash : c ≠ '/' := by rintro rfl; exact absurd hc (by decide)
  have hquote : c ≠ '"' := by rintro rfl; exact absurd hc (by decide)
  simp [next?, hslash, hquote, hd, hc]

theorem next?_mark (hl : leading = true ↔ ∀ b ∈ before, isBlank b = true) (h : MarkStarts before c rest) :
    next? leading c rest = some (takeMark c rest) := by
  obtain ⟨hline, hclosed⟩ := (not_commentStarts_iff hl c rest).1 h.no_comment
  unfold next?
  rw [if_neg hline, hclosed]
  simp [h.no_string, h.no_number, h.no_word]

/-- the forms are all there are -/
theorem form_cases (before : List Char) (c : Char) (rest : List Char) :
    CommentStarts before (c :: rest) ∨ c = '"' ∨ isDigit c = true ∨ (isDigit c = false ∧ isWordStart c = true) ∨
      MarkStarts before c rest := by
  by_cases hcomment : CommentStarts before (c :: rest)
  · exact Or.inl hcomment
  by_cases hquote : c = '"'
  · exact Or.inr (Or.inl hquote)
  cases hdigit : isDigit c with
  | true => exact Or.inr (Or.inr (Or.inl rfl))
  | false =>
    cases hword : isWordStart c with
    | true => exact Or.inr (Or.inr (Or.inr (Or.inl ⟨rfl, rfl⟩)))
    | false => exact Or.inr (Or.inr (Or.inr (Or.inr ⟨hcomment, hquote, hdigit, hword⟩)))

/-! ## The scanner's step is the grammar's -/

theorem Number.head {written : List Char} (h : Number written) : ∃ d more, written = d :: more ∧ isDigit d = true := by
  rcases h with h | ⟨whole, fraction, h, -, rfl⟩
  · obtain ⟨d, more, rfl⟩ := List.exists_cons_of_ne_nil h.1
    exact ⟨d, more, rfl, h.2 d List.mem_cons_self⟩
  · obtain ⟨d, more, rfl⟩ := List.exists_cons_of_ne_nil h.1
    exact ⟨d, more ++ '.' :: fraction, rfl, h.2 d List.mem_cons_self⟩

theorem takeMark_eq_of_pair {op : Operator} {d : Char} {after : List Char} (h : op.text = [c, d]) :
    takeMark c (d :: after) = (.operator op, after) := by
  simp [takeMark, Operator.ofPair?_eq_some_iff.2 h]

theorem noPair_iff : NoPair c rest ↔ rest.head?.bind (Operator.ofPair? c) = none := by
  cases rest with
  | nil => simp [NoPair]
  | cons d more =>
    rw [List.head?_cons, Option.bind_some, Option.eq_none_iff_forall_not_mem]
    constructor
    · exact fun h op hop => h d more rfl op (Operator.ofPair?_eq_some_iff.1 hop)
    · rintro h d' more' heq op hop
      obtain ⟨rfl, rfl⟩ := List.cons.inj heq
      exact h op (Operator.ofPair?_eq_some_iff.2 hop)

theorem takeMark_eq_of_single {op : Operator} (hpair : NoPair c rest) (h : op.text = [c]) :
    takeMark c rest = (.operator op, rest) := by
  simp [takeMark, noPair_iff.1 hpair, Operator.ofChar?_eq_some_iff.2 h]

theorem takeMark_eq_of_mark (hpair : NoPair c rest) (h : ∀ op : Operator, op.text ≠ [c]) :
    takeMark c rest = (.punctuation c, rest) := by
  have hchar : Operator.ofChar? c = none :=
    Option.eq_none_iff_forall_not_mem.2 fun op hop => h op (Operator.ofChar?_eq_some_iff.1 hop)
  simp [takeMark, noPair_iff.1 hpair, hchar]

theorem reads_number (hc : isDigit c = true) :
    Reads before (c :: rest) (.number (takeNumber (c :: rest)).1) (takeNumber (c :: rest)).2 := by
  have happ := takeNumber_append (c :: rest)
  have hlong := longest_number rest hc
  generalize takeNumber (c :: rest) = p at happ hlong
  obtain ⟨written, after⟩ := p
  rw [← happ] at hlong ⊢
  exact .number hlong

theorem reads_word (hd : isDigit c = false) (hc : isWordStart c = true) :
    Reads before (c :: rest) (wordLexeme (c :: rest.takeWhile isWordChar)) (rest.dropWhile isWordChar) := by
  have hlong := longest_word rest hc
  have happ : c :: rest = (c :: rest.takeWhile isWordChar) ++ rest.dropWhile isWordChar := by
    rw [List.cons_append, List.takeWhile_append_dropWhile]
  have hhead : ∀ d ∈ (c :: rest.takeWhile isWordChar).head?, isDigit d = false := by simpa using hd
  generalize c :: rest.takeWhile isWordChar = name at hlong happ hhead
  rw [happ] at hlong ⊢
  unfold wordLexeme
  split
  · rename_i word hword
    obtain rfl := Keyword.ofText?_eq_some_iff.1 hword
    exact .keyword hhead hlong
  · rename_i hword
    refine .identifier hhead hlong fun word htext => ?_
    rw [Keyword.ofText?_eq_some_iff.2 htext] at hword
    cases hword

theorem reads_mark (h : MarkStarts before c rest) :
    Reads before (c :: rest) (takeMark c rest).1 (takeMark c rest).2 := by
  by_cases hpair : NoPair c rest
  · by_cases hop : ∃ op : Operator, op.text = [c]
    · obtain ⟨op, hop⟩ := hop
      rw [takeMark_eq_of_single hpair hop]
      exact .single h hpair hop
    · have hop : ∀ op : Operator, op.text ≠ [c] := fun op e => hop ⟨op, e⟩
      rw [takeMark_eq_of_mark hpair hop]
      exact .mark h hpair hop
  · simp only [NoPair, ne_eq, not_forall, not_not] at hpair
    obtain ⟨d, more, rfl, op, hop⟩ := hpair
    rw [takeMark_eq_of_pair hop]
    exact .pair h hop

theorem reads_comment (hl : leading = true ↔ ∀ b ∈ before, isBlank b = true) {l : Lexeme} {after : List Char}
    (hc : CommentStarts before (c :: rest)) (h : next? leading c rest = some (l, after)) :
    Reads before (c :: rest) l after := by
  obtain rfl := hc.eq_slash
  by_cases hline : rest.head? = some '/'
  · obtain ⟨more, rfl⟩ : ∃ more, rest = '/' :: more := by
      cases rest with
      | nil => simp at hline
      | cons d more => simp only [List.head?_cons, Option.some.injEq] at hline; exact ⟨more, by rw [hline]⟩
    rw [next?_lineComment] at h
    obtain ⟨rfl, rfl⟩ := Prod.mk.inj (Option.some.inj h)
    exact .lineComment
  · rcases hc with hc | ⟨hblank, more, hmore, hmem⟩
    · have := ((List.cons_prefix_cons).1 hc).2
      cases rest with
      | nil => simp at this
      | cons d more => exact absurd (by simpa [eq_comm] using this) hline
    · obtain rfl : rest = more := (List.cons.inj hmore).2
      obtain rfl := hl.2 hblank
      cases hclose : closeComment rest with
      | none => exact absurd hmem (closeComment_eq_none_iff.1 hclose)
      | some p =>
        obtain ⟨written, left⟩ := p
        obtain ⟨inner, hinner, rfl, rfl⟩ := inner_of_closeComment hclose
        have hne : inner ≠ [] := by rintro rfl; simp at hline
        rw [next?_closedComment hne hinner] at h
        obtain ⟨rfl, rfl⟩ := Prod.mk.inj (Option.some.inj h)
        exact .closedComment hblank hne hinner

/-- what the scanner reads, the grammar allows -/
theorem reads_of_next? (hl : leading = true ↔ ∀ b ∈ before, isBlank b = true) {l : Lexeme} {after : List Char}
    (h : next? leading c rest = some (l, after)) : Reads before (c :: rest) l after := by
  rcases form_cases before c rest with hc | rfl | hc | ⟨hd, hc⟩ | hc
  · exact reads_comment hl hc h
  · rw [next?_string] at h
    obtain ⟨⟨written, left⟩, hclose, heq⟩ := Option.map_eq_some_iff.1 h
    obtain ⟨rfl, rfl⟩ := Prod.mk.inj heq
    obtain ⟨body, hbody, rfl, rfl⟩ := body_of_closeString hclose
    exact .stringLiteral hbody
  · rw [next?_digit hc] at h
    obtain ⟨rfl, rfl⟩ := Prod.mk.inj (Option.some.inj h)
    exact reads_number hc
  · rw [next?_word hd hc] at h
    obtain ⟨rfl, rfl⟩ := Prod.mk.inj (Option.some.inj h)
    exact reads_word hd hc
  · rw [next?_mark hl hc] at h
    obtain ⟨rfl, rfl⟩ := Prod.mk.inj (Option.some.inj h)
    exact reads_mark hc

/-- the longest text of a class and what is left are those that a reader finds -/
theorem Longest.split {P : List Char → Prop} {s written after w left : List Char} (hs : s = written ++ after)
    (h : Longest P (written ++ after) written) (hw : Longest P s w) (happ : w ++ left = s) :
    w = written ∧ left = after := by
  subst hs
  obtain rfl := hw.unique h
  exact ⟨rfl, List.append_cancel_left happ⟩

theorem next?_of_longest_word {name after : List Char} (hs : c :: rest = name ++ after)
    (hd : ∀ d ∈ name.head?, isDigit d = false) (h : Longest Word (name ++ after) name) :
    next? leading c rest = some (wordLexeme name, after) := by
  obtain ⟨d, more, rfl, hstart, -⟩ := h.mem
  obtain ⟨rfl, hrest⟩ := List.cons.inj hs
  have happ : (c :: rest.takeWhile isWordChar) ++ rest.dropWhile isWordChar = c :: rest := by
    rw [List.cons_append, List.takeWhile_append_dropWhile]
  obtain ⟨hname, hafter⟩ := Longest.split hs h (longest_word _ hstart) happ
  rw [next?_word (by simpa using hd) hstart, hname, hafter]

/-- what the grammar allows, the scanner reads -/
theorem next?_of_reads (hl : leading = true ↔ ∀ b ∈ before, isBlank b = true) {l : Lexeme} {after : List Char}
    (h : Reads before (c :: rest) l after) : next? leading c rest = some (l, after) := by
  generalize hs : c :: rest = s at h
  cases h with
  | lineComment =>
    obtain ⟨rfl, rfl⟩ := List.cons.inj hs
    exact next?_lineComment leading _
  | closedComment hblank hne hinner =>
    obtain ⟨rfl, rfl⟩ := List.cons.inj hs
    obtain rfl := hl.2 hblank
    exact next?_closedComment hne hinner
  | stringLiteral hbody =>
    obtain ⟨rfl, rfl⟩ := List.cons.inj hs
    rw [next?_string, closeString_body hbody]
    rfl
  | number hlong =>
    obtain ⟨d, more, rfl, hd⟩ := hlong.mem.head
    obtain ⟨rfl, -⟩ := List.cons.inj hs
    obtain ⟨hwritten, hafter⟩ := Longest.split hs hlong (longest_number _ hd) (takeNumber_append _)
    rw [next?_digit hd, hwritten, hafter]
  | @keyword word _ hd hlong =>
    rw [next?_of_longest_word hs hd hlong]
    simp [wordLexeme, Keyword.ofText?_text]
  | @identifier name _ hd hlong hword =>
    rw [next?_of_longest_word hs hd hlong]
    have hnone : Keyword.ofText? name = none :=
      Option.eq_none_iff_forall_not_mem.2 fun word hmem => hword word (Keyword.ofText?_eq_some_iff.1 hmem)
    simp [wordLexeme, hnone]
  | pair hmark hop =>
    obtain ⟨rfl, rfl⟩ := List.cons.inj hs
    rw [next?_mark hl hmark, takeMark_eq_of_pair hop]
  | single hmark hpair hop =>
    obtain ⟨rfl, rfl⟩ := List.cons.inj hs
    rw [next?_mark hl hmark, takeMark_eq_of_single hpair hop]
  | mark hmark hpair hop =>
    obtain ⟨rfl, rfl⟩ := List.cons.inj hs
    rw [next?_mark hl hmark, takeMark_eq_of_mark hpair hop]

/-- **One step.** The scanner reads a lexeme exactly where the grammar has it. -/
theorem reads_iff (hl : leading = true ↔ ∀ b ∈ before, isBlank b = true) {l : Lexeme} {after : List Char} :
    Reads before (c :: rest) l after ↔ next? leading c rest = some (l, after) :=
  ⟨next?_of_reads hl, reads_of_next? hl⟩

/-- the scanner stops exactly at a quote that nothing closes -/
theorem next?_eq_none_iff : next? leading c rest = none ↔ c = '"' ∧ ¬ Closes rest := by
  rw [← closeString_eq_none_iff]
  constructor
  · intro h
    unfold next? at h
    split at h
    · cases h
    split at h
    · cases h
    split at h
    · rename_i hc
      exact ⟨hc, by simpa using h⟩
    split at h
    · cases h
    split at h
    · cases h
    · cases h
  · rintro ⟨rfl, h⟩
    rw [next?_string, h]
    rfl

end Forms

/-! ## The scanner's segmentation is a cut -/

theorem Cut.gap {line : Int} {before gap rest : List Char} {ts : List Token} {fault : Option Nat}
    (hgap : ∀ b ∈ gap, isBlank b = true) (h : Cut line (before ++ gap) rest ts fault) :
    Cut line before (gap ++ rest) ts fault := by
  induction gap generalizing before with
  | nil => simpa using h
  | cons b gap ih =>
    refine .blank (hgap b List.mem_cons_self) (ih (fun c hc => hgap c (List.mem_cons_of_mem b hc)) ?_)
    simpa using h

theorem Cut.blanks {line : Int} {before s : List Char} {ts : List Token} {fault : Option Nat}
    (h : Cut line (before ++ s.takeWhile isBlank) (s.dropWhile isBlank) ts fault) : Cut line before s ts fault := by
  have := Cut.gap (fun _ => List.mem_takeWhile_imp) h
  rwa [List.takeWhile_append_dropWhile] at this

/-- the fault that a segmentation stands for: the column of its last token, if that is not closed -/
def faultOf (closed : Bool) (ts : List Token) : Option Nat :=
  if closed then none else some ((ts.getLast?.map Token.column).getD 1)

theorem faultOf_cons (closed : Bool) (t : Token) {ts : List Token} (h : closed = false → ts ≠ []) :
    faultOf closed (t :: ts) = faultOf closed ts := by
  cases closed with
  | true => rfl
  | false =>
    obtain ⟨u, us, rfl⟩ := List.exists_cons_of_ne_nil (h rfl)
    simp [faultOf, List.getLast?_cons]

theorem segments_ne_nil_of_open {leading : Bool} {s : List Char}
    (h : (Segmentation.ofFrom leading s).closed = false) : (Segmentation.ofFrom leading s).segments ≠ [] := by
  cases hs : s.dropWhile isBlank with
  | nil => rw [Segmentation.ofFrom_of_blank hs] at h; cases h
  | cons c rest =>
    cases hn : next? leading c rest with
    | none => rw [Segmentation.ofFrom_of_open hs hn]; simp
    | some p => rw [Segmentation.ofFrom_of_lexeme hs hn]; simp

theorem isBlank_head_dropWhile {s rest : List Char} {c : Char} (h : s.dropWhile isBlank = c :: rest) :
    isBlank c = false := by
  have := List.head_dropWhile_not isBlank (l := s) (by rw [h]; simp)
  simpa [h] using this

theorem leading_gap {leading : Bool} {before gap : List Char} (hl : leading = true ↔ ∀ b ∈ before, isBlank b = true)
    (hgap : ∀ b ∈ gap, isBlank b = true) : leading = true ↔ ∀ b ∈ before ++ gap, isBlank b = true := by
  rw [hl]
  constructor
  · intro h b hb
    rcases List.mem_append.1 hb with hb | hb
    · exact h b hb
    · exact hgap b hb
  · exact fun h b hb => h b (List.mem_append_left _ hb)

/-- nothing leads after a lexeme -/
theorem leading_lexeme (before : List Char) {rest after : List Char} {c : Char} {l : Lexeme} (hc : isBlank c = false)
    (h : l.text ++ after = c :: rest) (hne : l.text ≠ []) :
    false = true ↔ ∀ b ∈ before ++ l.text, isBlank b = true := by
  obtain ⟨d, more, htext⟩ := List.exists_cons_of_ne_nil hne
  rw [htext] at h ⊢
  obtain ⟨rfl, -⟩ := List.cons.inj h
  simp only [Bool.false_eq_true, false_iff, not_forall]
  exact ⟨d, by simp, by simp [hc]⟩

/-- the segmentation of a text is a cut of it, wherever the text stands on its line -/
theorem cut_of (line : Int) {leading : Bool} {before : List Char} (s : List Char)
    (hl : leading = true ↔ ∀ b ∈ before, isBlank b = true) :
    Cut line before s (placed line (before.length + 1) (Segmentation.ofFrom leading s).segments)
      (faultOf (Segmentation.ofFrom leading s).closed
        (placed line (before.length + 1) (Segmentation.ofFrom leading s).segments)) := by
  induction leading, s using Segmentation.ofFrom.induct generalizing before with
  | case1 leading s hs =>
    rw [Segmentation.ofFrom_of_blank hs]
    refine .blanks ?_
    rw [hs]
    exact .done
  | case2 leading s c rest hs hn =>
    obtain ⟨rfl, hopen⟩ := next?_eq_none_iff.1 hn
    rw [Segmentation.ofFrom_of_open hs hn, placed_cons_behind]
    refine .blanks ?_
    rw [hs]
    exact .unclosed hopen
  | case3 leading s c rest hs l after hn ih =>
    have hc := isBlank_head_dropWhile hs
    have hgap : ∀ b ∈ s.takeWhile isBlank, isBlank b = true := fun _ => List.mem_takeWhile_imp
    have hread := reads_of_next? (leading_gap hl hgap) hn
    have hrest := ih (leading_lexeme (before ++ s.takeWhile isBlank) hc (next?_append hn) (next?_ne_nil hn))
    rw [Segmentation.ofFrom_of_lexeme hs hn, placed_cons_behind,
      faultOf_cons _ _ fun hopen => placed_ne_nil (segments_ne_nil_of_open hopen)]
    refine .blanks ?_
    rw [hs]
    exact .lexeme hc hread hrest

/-! ## There is one cut -/

theorem not_reads_of_open {before rest after : List Char} {l : Lexeme} (h : ¬ Closes rest) :
    ¬ Reads before ('"' :: rest) l after := by
  intro hread
  have hl : decide (∀ b ∈ before, isBlank b = true) = true ↔ ∀ b ∈ before, isBlank b = true := by simp
  rw [reads_iff hl, next?_eq_none_iff.2 ⟨rfl, h⟩] at hread
  cases hread

theorem Reads.unique {before rest after after' : List Char} {c : Char} {l l' : Lexeme}
    (h : Reads before (c :: rest) l after) (h' : Reads before (c :: rest) l' after') : l = l' ∧ after = after' := by
  have hl : decide (∀ b ∈ before, isBlank b = true) = true ↔ ∀ b ∈ before, isBlank b = true := by simp
  rw [reads_iff hl] at h h'
  exact Prod.mk.inj (Option.some.inj (h.symm.trans h'))

/-- a line is cut in one way -/
theorem Cut.unique {line : Int} {before s : List Char} {ts ts' : List Token} {fault fault' : Option Nat}
    (h : Cut line before s ts fault) (h' : Cut line before s ts' fault') : ts = ts' ∧ fault = fault' := by
  induction h generalizing ts' fault' with
  | done => cases h'; exact ⟨rfl, rfl⟩
  | blank hb _ ih =>
    cases h' with
    | blank _ h' => exact ih h'
    | lexeme hc => rw [hb] at hc; cases hc
    | unclosed => exact absurd hb (by decide)
  | lexeme hc hread _ ih =>
    cases h' with
    | blank hb => rw [hb] at hc; cases hc
    | lexeme _ hread' h' =>
      obtain ⟨rfl, rfl⟩ := hread.unique hread'
      obtain ⟨rfl, rfl⟩ := ih h'
      exact ⟨rfl, rfl⟩
    | unclosed hopen => exact absurd hread (not_reads_of_open hopen)
  | unclosed hopen =>
    cases h' with
    | blank hb => exact absurd hb (by decide)
    | lexeme _ hread => exact absurd hread (not_reads_of_open hopen)
    | unclosed => exact ⟨rfl, rfl⟩

/-! ## Main result -/

/-- the cut of a whole line -/
theorem cut_line (line : Int) (text : List Char) :
    Cut line [] text (placed line 1 (Segmentation.of text).segments)
      (faultOf (Segmentation.of text).closed (placed line 1 (Segmentation.of text).segments)) :=
  cut_of line text (by simp)

/-- what a lexer answers for a cut of its line -/
def answer (line : Int) (ts : List Token) : Option Nat → Except UnclosedString (List Token)
  | none => .ok ts
  | some column => .error ⟨line, column, ts⟩

theorem lex_of_cut {line : Int} {text : List Char} {ts : List Token} {fault : Option Nat}
    (h : Cut line [] text ts fault) : lex line text = answer line ts fault := by
  obtain ⟨rfl, rfl⟩ := h.unique (cut_line line text)
  cases hclosed : (Segmentation.of text).closed <;> simp [lex, faultOf, answer, hclosed]

end VixStyle.Grammar

namespace VixStyle.LineLexer

open Grammar

/-- **The lexer accepts exactly the grammar.** A run gives tokens exactly if they are the cut of its line, and fails
exactly if the cut ends at a quote that is not closed: then it names that quote's column and gives the tokens up to and
with the literal, which takes the rest of the line. -/
theorem run_iff_cut (l : LineLexer) :
    (∀ ts, l.run.1 = .ok ts ↔ Cut l.line [] l.text ts none) ∧
    (∀ e, l.run.1 = .error e ↔ e.line = l.line ∧ Cut l.line [] l.text e.tokens (some e.column)) := by
  obtain ⟨ts, fault, hcut⟩ : ∃ ts fault, Cut l.line [] l.text ts fault := ⟨_, _, cut_line l.line l.text⟩
  have hrun : l.run.1 = answer l.line ts fault := lex_of_cut hcut
  rw [hrun]
  cases fault with
  | none =>
    refine ⟨fun ts' => ⟨fun h => ?_, fun h => ?_⟩, fun e => ⟨fun h => ?_, fun h => ?_⟩⟩
    · cases h; exact hcut
    · obtain ⟨rfl, -⟩ := hcut.unique h; rfl
    · cases h
    · cases (hcut.unique h.2).2
  | some column =>
    refine ⟨fun ts' => ⟨fun h => ?_, fun h => ?_⟩, fun e => ⟨fun h => ?_, fun h => ?_⟩⟩
    · cases h
    · cases (hcut.unique h).2
    · cases h; exact ⟨rfl, hcut⟩
    · obtain ⟨hline, hcut'⟩ := h
      obtain ⟨rfl, hcolumn⟩ := hcut.unique hcut'
      rw [hcolumn, ← hline]
      rfl

/-- two slashes at the start hold a comment; a point without a digit after it is no fraction -/
example : (run { text := "/ a/2.".toList, line := 1 }).1.toOption =
    some [⟨.comment "/ a/".toList, 1, 1⟩, ⟨.number ['2'], 1, 5⟩, ⟨.punctuation '.', 1, 6⟩] := by
  decide +kernel

end VixStyle.LineLexer
