/-
Cutting a line into lexemes.

`next?` reads the lexeme at the front of a text: the longest of its class, classes tried in a fixed order. It fails only
at a string literal that is not closed. `Segmentation.of` cuts a whole line: each segment is a lexeme with the blanks
before it, and what stands after the last lexeme is blanks too. A segmentation knows nothing of columns, so it can be
compared between lines; `placed` counts the columns. The scanner loses nothing: `Segmentation.text_of` puts every line
together again from its segments.
-/
import VixStyle.Text.Letter
import VixStyle.Text.Line
import VixStyle.Token

namespace VixStyle

open Text

/-! ## one lexeme -/

/-- a string literal after its opening quote, up to and with the closing one; a backslash takes the next character -/
def closeString : List Char → Option (List Char × List Char)
  | [] => none
  | '"' :: rest => some (['"'], rest)
  | ['\\'] => none
  | '\\' :: c :: rest => (closeString rest).map fun (body, after) => ('\\' :: c :: body, after)
  | c :: rest => (closeString rest).map fun (body, after) => (c :: body, after)

/-- a comment between two slashes, after the first -/
def closeComment (s : List Char) : Option (List Char × List Char) :=
  match s.dropWhile (· != '/') with
  | [] => none
  | slash :: after => some (s.takeWhile (· != '/') ++ [slash], after)

/-- digits, and a fraction when a point is followed by a digit -/
def takeNumber (s : List Char) : List Char × List Char :=
  match s.dropWhile isDigit with
  | '.' :: d :: rest =>
    if isDigit d then
      (s.takeWhile isDigit ++ '.' :: (d :: rest).takeWhile isDigit, (d :: rest).dropWhile isDigit)
    else (s.takeWhile isDigit, '.' :: d :: rest)
  | after => (s.takeWhile isDigit, after)

/-- a name is a reserved word if it is spelled like one -/
def wordLexeme (name : List Char) : Lexeme :=
  match Keyword.ofText? name with
  | some word => .keyword word
  | none => .identifier name

/-- an operator of two characters, else of one, else a single mark -/
def takeMark (c : Char) (rest : List Char) : Lexeme × List Char :=
  match rest.head?.bind (Operator.ofPair? c) with
  | some op => (.operator op, rest.tail)
  | none =>
    match Operator.ofChar? c with
    | some op => (.operator op, rest)
    | none => (.punctuation c, rest)

/--
the lexeme at the front of `c :: rest`, where `c` is no blank, and the text after it; `leading` says that only blanks
stand before it on the line; none when a string literal starts here and is not closed
-/
def next? (leading : Bool) (c : Char) (rest : List Char) : Option (Lexeme × List Char) :=
  if c = '/' ∧ rest.head? = some '/' then some (.comment (c :: rest), [])
  else match (if c = '/' ∧ leading then closeComment rest else none) with
    | some (body, after) => some (.comment (c :: body), after)
    | none =>
      if c = '"' then (closeString rest).map fun (body, after) => (.stringLiteral (c :: body), after)
      else if isDigit c then
        let (written, after) := takeNumber (c :: rest)
        some (.number written, after)
      else if isWordStart c then some (wordLexeme (c :: rest.takeWhile isWordChar), rest.dropWhile isWordChar)
      else some (takeMark c rest)

/-! ## nothing is lost -/

theorem closeString_append {s body after : List Char} (h : closeString s = some (body, after)) :
    body ++ after = s := by
  fun_induction closeString s generalizing body after with
  | case1 => simp at h
  | case2 rest => simp only [Option.some.injEq, Prod.mk.injEq] at h; simp [← h.1, ← h.2]
  | case3 => simp at h
  | case4 c rest ih =>
    obtain ⟨⟨b, a⟩, hb, heq⟩ := Option.map_eq_some_iff.1 h
    simp only [Prod.mk.injEq] at heq
    simp [← heq.1, ← heq.2, ih hb]
  | case5 c rest _ _ _ ih =>
    obtain ⟨⟨b, a⟩, hb, heq⟩ := Option.map_eq_some_iff.1 h
    simp only [Prod.mk.injEq] at heq
    simp [← heq.1, ← heq.2, ih hb]

theorem closeComment_append {s body after : List Char} (h : closeComment s = some (body, after)) :
    body ++ after = s := by
  unfold closeComment at h
  split at h
  · simp at h
  · rename_i slash rest hd
    simp only [Option.some.injEq, Prod.mk.injEq] at h
    rw [← h.1, ← h.2, List.append_assoc, List.singleton_append, ← hd, List.takeWhile_append_dropWhile]

theorem takeNumber_append (s : List Char) : (takeNumber s).1 ++ (takeNumber s).2 = s := by
  unfold takeNumber
  split
  · rename_i d rest hd
    split
    · rw [List.append_assoc, List.cons_append, List.takeWhile_append_dropWhile, ← hd,
        List.takeWhile_append_dropWhile]
    · rw [← hd, List.takeWhile_append_dropWhile]
  · exact List.takeWhile_append_dropWhile

theorem text_wordLexeme (name : List Char) : (wordLexeme name).text = name := by
  unfold wordLexeme
  split
  · rename_i word h
    have := List.find?_some h
    simpa [Lexeme.text] using this
  · rfl

theorem takeMark_append (c : Char) (rest : List Char) :
    (takeMark c rest).1.text ++ (takeMark c rest).2 = c :: rest := by
  unfold takeMark
  split
  · rename_i op h
    obtain ⟨d, hd, hop⟩ := Option.bind_eq_some_iff.1 h
    obtain ⟨r, rfl⟩ : ∃ r, rest = d :: r := by
      cases rest with
      | nil => simp at hd
      | cons x r => simp only [List.head?_cons, Option.some.injEq] at hd; exact ⟨r, by rw [hd]⟩
    simp [Lexeme.text, Operator.text_of_ofPair? hop]
  · split
    · rename_i op h
      simp [Lexeme.text, Operator.text_of_ofChar? h]
    · rfl

/-- a lexeme and the text after it are the text it was read from -/
theorem next?_append {leading : Bool} {c : Char} {rest after : List Char} {l : Lexeme}
    (h : next? leading c rest = some (l, after)) : l.text ++ after = c :: rest := by
  unfold next? at h
  split at h
  · simp only [Option.some.injEq, Prod.mk.injEq] at h; simp [← h.1, ← h.2, Lexeme.text]
  split at h
  · rename_i body rem hc
    simp only [Option.some.injEq, Prod.mk.injEq] at h
    have hc : closeComment rest = some (body, rem) := by
      split at hc
      · exact hc
      · simp at hc
    simp [← h.1, ← h.2, Lexeme.text, closeComment_append hc]
  split at h
  · obtain ⟨⟨body, rem⟩, hs, heq⟩ := Option.map_eq_some_iff.1 h
    simp only [Prod.mk.injEq] at heq
    simp [← heq.1, ← heq.2, Lexeme.text, closeString_append hs]
  split at h
  · simp only [Option.some.injEq, Prod.mk.injEq] at h
    rw [← h.1, ← h.2]
    exact takeNumber_append (c :: rest)
  split at h
  · simp only [Option.some.injEq, Prod.mk.injEq] at h
    simp [← h.1, ← h.2, text_wordLexeme, List.takeWhile_append_dropWhile]
  · simp only [Option.some.injEq] at h
    have := takeMark_append c rest
    rw [h] at this
    exact this

/-- a lexeme is never empty -/
theorem next?_ne_nil {leading : Bool} {c : Char} {rest after : List Char} {l : Lexeme}
    (h : next? leading c rest = some (l, after)) : l.text ≠ [] := by
  unfold next? at h
  split at h
  · simp only [Option.some.injEq, Prod.mk.injEq] at h; simp [← h.1, Lexeme.text]
  split at h
  · simp only [Option.some.injEq, Prod.mk.injEq] at h; simp [← h.1, Lexeme.text]
  split at h
  · obtain ⟨⟨body, rem⟩, hs, heq⟩ := Option.map_eq_some_iff.1 h
    simp only [Prod.mk.injEq] at heq
    simp [← heq.1, Lexeme.text]
  split at h
  · rename_i hd
    simp only [Option.some.injEq, Prod.mk.injEq] at h
    rw [← h.1]
    unfold takeNumber
    split
    · split <;> simp [Lexeme.text, hd]
    · simp [Lexeme.text, hd]
  split at h
  · simp only [Option.some.injEq, Prod.mk.injEq] at h
    simp [← h.1, text_wordLexeme]
  · simp only [Option.some.injEq] at h
    have hl : l = (takeMark c rest).1 := by rw [h]
    rw [hl]
    unfold takeMark
    split
    · rename_i op hop
      obtain ⟨d, _, hop⟩ := Option.bind_eq_some_iff.1 hop
      simp [Lexeme.text, Operator.text_of_ofPair? hop]
    · split
      · rename_i op hop
        simp [Lexeme.text, Operator.text_of_ofChar? hop]
      · simp [Lexeme.text]

/-- a lexeme starts with the character it is read at -/
theorem next?_head {leading : Bool} {c : Char} {rest after : List Char} {l : Lexeme}
    (h : next? leading c rest = some (l, after)) : ∃ body, l.text = c :: body := by
  obtain ⟨d, body, htext⟩ := List.exists_cons_of_ne_nil (next?_ne_nil h)
  have happ := next?_append h
  rw [htext] at happ
  obtain ⟨rfl, -⟩ := List.cons.inj happ
  exact ⟨body, htext⟩

theorem next?_length_lt {leading : Bool} {c : Char} {rest after : List Char} {l : Lexeme}
    (h : next? leading c rest = some (l, after)) : after.length < (c :: rest).length := by
  have happ := congrArg List.length (next?_append h)
  have hne := List.length_pos_iff.2 (next?_ne_nil h)
  rw [List.length_append] at happ
  omega

/-! ## a whole line -/

/-- a lexeme and the blanks before it -/
structure Segment where
  gap : List Char
  lexeme : Lexeme
  deriving DecidableEq, Repr

def Segment.text (s : Segment) : List Char := s.gap ++ s.lexeme.text

/--
a line cut into segments, the blanks after the last one, and whether every string literal is closed; if not, the last
segment is the unclosed literal and takes the rest of the line
-/
structure Segmentation where
  segments : List Segment
  tail : List Char
  closed : Bool
  deriving DecidableEq, Repr

namespace Segmentation

/-- the segmentation of a text; `leading` says that no lexeme stands before it on the line -/
def ofFrom (leading : Bool) (s : List Char) : Segmentation :=
  match _hs : s.dropWhile isBlank with
  | [] => ⟨[], s, true⟩
  | c :: rest =>
    match _hn : next? leading c rest with
    | none => ⟨[⟨s.takeWhile isBlank, .stringLiteral (c :: rest)⟩], [], false⟩
    | some (lexeme, after) =>
      let more := ofFrom false after
      ⟨⟨s.takeWhile isBlank, lexeme⟩ :: more.segments, more.tail, more.closed⟩
termination_by s.length
decreasing_by
  have h1 := next?_length_lt _hn
  have h2 := (List.dropWhile_sublist (l := s) isBlank).length_le
  rw [_hs] at h2
  omega

section Equations

variable {leading : Bool} {s rest : List Char} {c : Char}

theorem ofFrom_of_blank (hs : s.dropWhile isBlank = []) : ofFrom leading s = ⟨[], s, true⟩ := by
  rw [ofFrom]
  split
  · rfl
  · rename_i hs'
    rw [hs] at hs'
    cases hs'

theorem ofFrom_of_open (hs : s.dropWhile isBlank = c :: rest) (hn : next? leading c rest = none) :
    ofFrom leading s = ⟨[⟨s.takeWhile isBlank, .stringLiteral (c :: rest)⟩], [], false⟩ := by
  rw [ofFrom]
  split
  · rename_i hs'
    rw [hs] at hs'
    cases hs'
  · rename_i c' rest' hs'
    obtain ⟨rfl, rfl⟩ := List.cons.inj (hs.symm.trans hs')
    split
    · rfl
    · rename_i hn'
      rw [hn] at hn'
      cases hn'

theorem ofFrom_of_lexeme {l : Lexeme} {after : List Char} (hs : s.dropWhile isBlank = c :: rest)
    (hn : next? leading c rest = some (l, after)) :
    ofFrom leading s = ⟨⟨s.takeWhile isBlank, l⟩ :: (ofFrom false after).segments, (ofFrom false after).tail,
      (ofFrom false after).closed⟩ := by
  rw [ofFrom]
  split
  · rename_i hs'
    rw [hs] at hs'
    cases hs'
  · rename_i c' rest' hs'
    obtain ⟨rfl, rfl⟩ := List.cons.inj (hs.symm.trans hs')
    split
    · rename_i hn'
      rw [hn] at hn'
      cases hn'
    · rename_i l' after' hn'
      obtain ⟨rfl, rfl⟩ := Prod.mk.inj (Option.some.inj (hn.symm.trans hn'))
      rfl

end Equations

/-- the segmentation of a line -/
def of (line : List Char) : Segmentation := ofFrom true line

/-- the line that a segmentation came from -/
def text (s : Segmentation) : List Char := s.segments.flatMap Segment.text ++ s.tail

theorem text_ofFrom (leading : Bool) (s : List Char) : (ofFrom leading s).text = s := by
  fun_induction ofFrom leading s with
  | case1 => simp [text]
  | case2 leading s c rest hs hn =>
    simp only [text, List.flatMap_cons, List.flatMap_nil, Segment.text, Lexeme.text, List.append_nil]
    rw [← hs, List.takeWhile_append_dropWhile]
  | case3 leading s c rest hs lexeme after hn more ih =>
    simp only [text, List.flatMap_cons, Segment.text, List.append_assoc] at ih ⊢
    rw [ih, next?_append hn, ← hs, List.takeWhile_append_dropWhile]

/-- the segments and the tail make up the line -/
theorem text_of (line : List Char) : (of line).text = line := text_ofFrom true line

end Segmentation

/-- segments set down on a line from a column on -/
def placed (line : Int) : Nat → List Segment → List Token
  | _, [] => []
  | column, s :: more =>
    ⟨s.lexeme, line, column + s.gap.length⟩ :: placed line (column + s.text.length) more

theorem placed_ne_nil {line : Int} {column : Nat} {segments : List Segment} (h : segments ≠ []) :
    placed line column segments ≠ [] := by
  obtain ⟨s, more, rfl⟩ := List.exists_cons_of_ne_nil h
  simp [placed]

/-- the columns of a segment set down behind a text -/
theorem placed_cons_behind (line : Int) (before gap : List Char) (l : Lexeme) (more : List Segment) :
    placed line (before.length + 1) (⟨gap, l⟩ :: more) =
      ⟨l, line, (before ++ gap).length + 1⟩ :: placed line ((before ++ gap ++ l.text).length + 1) more := by
  have h1 : before.length + 1 + gap.length = (before ++ gap).length + 1 := by
    rw [List.length_append]
    omega
  have h2 : before.length + 1 + (gap ++ l.text).length = (before ++ gap ++ l.text).length + 1 := by
    simp only [List.length_append]
    omega
  simp only [placed, Segment.text, h1, h2]

end VixStyle
