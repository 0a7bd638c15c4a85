/-
Reading lines with a cursor.

In this reading, and in those of `Row` and `Walk`, nothing has a value by default: to look behind the end of a line or of a
row of tokens, at the top of an empty stack, or to divide by zero is a `Failure`, and so is a loop that does not end in
time. Here a line is read character by character, with a cursor that some steps move by more than one place.

Main statements: `lex_eq` and `lines_eq`. Reading never fails, and it gives the tokens of the line, the place of an unclosed
string literal, and the lines of a text.
-/
import VixStyle.Options
import VixStyle.Proofs.Token.Tiling

namespace VixStyle.Strict

open Text

/-- how a reading fails -/
inductive Failure where
  | noElement
  | emptyStack
  | zeroDivision
  | endless
  | unit (fault : UnitFault)
  deriving DecidableEq, Repr

/-! ## Elements -/

section Elements

variable {α : Type}

/-- the element at an index, which has to be one of the list -/
def item (xs : List α) (i : Nat) : Except Failure α :=
  match xs[i]? with
  | some x => .ok x
  | none => .error .noElement

/-- the last element, which has to exist -/
def last (xs : List α) : Except Failure α :=
  match xs.getLast? with
  | some x => .ok x
  | none => .error .noElement

theorem item_append (front : List α) (x : α) (back : List α) : item (front ++ x :: back) front.length = .ok x := by
  simp [item]

theorem item_append_succ (front : List α) (x y : α) (back : List α) :
    item (front ++ x :: y :: back) (front.length + 1) = .ok y := by
  have hitem := item_append (front ++ [x]) y back
  rwa [List.append_assoc, List.singleton_append, List.length_append, List.length_singleton] at hitem

theorem last_of_ne_nil {xs : List α} (h : xs ≠ []) : last xs = .ok (xs.getLast h) := by
  rw [last, List.getLast?_eq_some_getLast h]

theorem ok_bind {β : Type} (x : α) (f : α → Except Failure β) : (Except.ok x >>= f) = f x := rfl

end Elements

/-! ## Runs of characters -/

/-- the cursor behind the characters that pass a test -/
def skip (p : Char → Bool) (text : List Char) (cursor : Nat) : Except Failure Nat :=
  if h : text.length ≤ cursor then .ok cursor
  else do
    let c ← item text cursor
    if p c then skip p text (cursor + 1) else .ok cursor
termination_by text.length - cursor

/-- the character behind the one at the cursor, or a zero character at the end of the line -/
def peek (text : List Char) (cursor : Nat) : Except Failure Char :=
  if text.length ≤ cursor + 1 then .ok '\x00' else item text (cursor + 1)

/-- the cursor behind the string literal that it is in; none at the end of the line -/
def closing (text : List Char) (cursor : Nat) : Except Failure (Option Nat) :=
  if h : text.length ≤ cursor then .ok none
  else do
    let c ← item text cursor
    if c = '"' then .ok (some (cursor + 1))
    else if c = '\\' then closing text (cursor + 2)
    else closing text (cursor + 1)
termination_by text.length - cursor

/-- the cursor behind the number that it is in; a number has one point at most, with a digit behind it -/
def number (pointed : Bool) (text : List Char) (cursor : Nat) : Except Failure Nat :=
  if h : text.length ≤ cursor then .ok cursor
  else do
    let c ← item text cursor
    if isDigit c then number pointed text (cursor + 1)
    else if c = '.' ∧ !pointed then do
      let next ← peek text cursor
      if isDigit next then number true text (cursor + 1) else .ok cursor
    else .ok cursor
termination_by text.length - cursor

section Runs

theorem isDigit_zero : isDigit '\x00' = false := by decide

variable (front : List Char)

theorem not_length_le (c : Char) (back : List Char) : ¬ (front ++ c :: back).length ≤ front.length := by
  rw [List.length_append, List.length_cons]
  omega

theorem length_le_self : (front ++ ([] : List Char)).length ≤ front.length := by
  rw [List.append_nil]

theorem skip_append (p : Char → Bool) (s : List Char) :
    skip p (front ++ s) front.length = .ok (front ++ s.takeWhile p).length := by
  induction s generalizing front with
  | nil => rw [skip, dif_pos (length_le_self front), List.takeWhile_nil, List.append_nil]
  | cons c s ih =>
    rw [skip, dif_neg (not_length_le front c s), item_append, ok_bind]
    cases hc : p c with
    | true =>
      have hnext := ih (front ++ [c])
      rw [List.append_assoc, List.append_assoc, List.length_append] at hnext
      rw [if_pos rfl, List.takeWhile_cons_of_pos hc]
      exact hnext
    | false => rw [if_neg (by simp), List.takeWhile_cons_of_neg (by simp [hc]), List.append_nil]

theorem peek_append (c : Char) (s : List Char) : peek (front ++ c :: s) front.length = .ok (s.head?.getD '\x00') := by
  unfold peek
  cases s with
  | nil => simp
  | cons d s =>
    have hitem := item_append (front ++ [c]) d s
    rw [List.append_assoc, List.length_append] at hitem
    rw [if_neg (by simp)]
    exact hitem

theorem closing_append (s : List Char) : closing (front ++ s) front.length =
    .ok ((closeString s).map fun literal => (front ++ literal.1).length) := by
  induction s using closeString.induct generalizing front with
  | case1 =>
    rw [closing, dif_pos (length_le_self front)]
    rfl
  | case2 s =>
    rw [closing, dif_neg (not_length_le front _ s), item_append, ok_bind, if_pos rfl, closeString, Option.map_some,
      List.length_append]
    rfl
  | case3 =>
    rw [closing, dif_neg (not_length_le front _ []), item_append, ok_bind, if_neg (by decide), if_pos rfl, closing,
      dif_pos (by simp)]
    rfl
  | case4 c s ih =>
    have hnext := ih (front ++ ['\\', c])
    rw [List.append_assoc, List.length_append] at hnext
    rw [closing, dif_neg (not_length_le front _ _), item_append, ok_bind, if_neg (by decide), if_pos rfl, closeString,
      Option.map_map]
    simpa [Function.comp_def] using hnext
  | case5 c s hquote hlast hslash ih =>
    have hnext := ih (front ++ [c])
    rw [List.append_assoc, List.length_append] at hnext
    have hplain : c ≠ '\\' := by
      rintro rfl
      cases s with
      | nil => exact hlast rfl rfl
      | cons d s => exact hslash d s rfl rfl
    have hclose : closeString (c :: s) = (closeString s).map fun literal => (c :: literal.1, literal.2) := by
      rw [closeString] <;> assumption
    rw [closing, dif_neg (not_length_le front _ _), item_append, ok_bind, if_neg hquote, if_neg hplain, hclose,
      Option.map_map]
    simpa [Function.comp_def] using hnext

theorem number_digit {c : Char} (hc : isDigit c = true) (pointed : Bool) (s : List Char) :
    number pointed (front ++ c :: s) front.length = number pointed ((front ++ [c]) ++ s) (front ++ [c]).length := by
  rw [number, dif_neg (not_length_le front c s), item_append, ok_bind, if_pos hc, List.append_assoc, List.length_append]
  rfl

theorem number_pointed (s : List Char) :
    number true (front ++ s) front.length = .ok (front ++ s.takeWhile isDigit).length := by
  induction s generalizing front with
  | nil => rw [number, dif_pos (length_le_self front), List.takeWhile_nil, List.append_nil]
  | cons c s ih =>
    cases hc : isDigit c with
    | true =>
      rw [number_digit front hc, ih, List.takeWhile_cons_of_pos hc, List.append_assoc]
      rfl
    | false =>
      rw [number, dif_neg (not_length_le front c s), item_append, ok_bind, if_neg (by simp [hc]), if_neg (by simp),
        List.takeWhile_cons_of_neg (by simp [hc]), List.append_nil]

theorem takeNumber_digit {c : Char} (hc : isDigit c = true) (s : List Char) :
    (takeNumber (c :: s)).1 = c :: (takeNumber s).1 := by
  unfold takeNumber
  rw [List.dropWhile_cons_of_pos hc, List.takeWhile_cons_of_pos hc]
  split
  · split <;> rfl
  · rfl

theorem number_append (s : List Char) :
    number false (front ++ s) front.length = .ok (front ++ (takeNumber s).1).length := by
  induction s generalizing front with
  | nil =>
    rw [number, dif_pos (length_le_self front)]
    simp [takeNumber]
  | cons c s ih =>
    cases hc : isDigit c with
    | true =>
      rw [number_digit front hc, ih, takeNumber_digit hc, List.append_assoc]
      rfl
    | false =>
      rw [number, dif_neg (not_length_le front c s), item_append, ok_bind, if_neg (by simp [hc])]
      have hdrop : (c :: s).dropWhile isDigit = c :: s := List.dropWhile_cons_of_neg (by simp [hc])
      have htake : (c :: s).takeWhile isDigit = [] := List.takeWhile_cons_of_neg (by simp [hc])
      unfold takeNumber
      rw [hdrop, htake]
      by_cases hpoint : c = '.'
      · subst hpoint
        rw [if_pos (by simp), peek_append, ok_bind]
        cases s with
        | nil => simp [isDigit_zero]
        | cons d s =>
          have hnext := number_pointed (front ++ ['.']) (d :: s)
          rw [List.append_assoc, List.append_assoc, List.length_append] at hnext
          cases hd : isDigit d with
          | true => simpa [hd] using hnext
          | false => simp [hd]
      · rw [if_neg (by simp [hpoint])]
        simp [hpoint]

end Runs

/-! ## Lexemes -/

/-- the cursor behind the second slash of a comment between two slashes, which only blanks may stand before -/
def commentStop? (text : List Char) (cursor : Nat) : Option Nat :=
  if (text.take cursor).all isBlank then
    match (text.drop (cursor + 1)).findIdx? (· == '/') with
    | some i => if 0 < i then some (cursor + 1 + i + 1) else none
    | none => none
  else none

/-- an operator of two characters, else of one, else a single mark, and the cursor behind it -/
def mark (c next : Char) (cursor : Nat) : (List Char → Lexeme) × Nat :=
  match Operator.ofPair? c next with
  | some op => (fun _ => .operator op, cursor + 2)
  | none =>
    match Operator.ofChar? c with
    | some op => (fun _ => .operator op, cursor + 1)
    | none => (fun _ => .punctuation c, cursor + 1)

/-- how the lexeme at the cursor is made of its characters, and the cursor behind it; none at an unclosed string literal -/
def lexeme (text : List Char) (cursor : Nat) : Except Failure (Option ((List Char → Lexeme) × Nat)) := do
  let c ← item text cursor
  let next ← peek text cursor
  if c = '/' ∧ next = '/' then .ok (some (.comment, text.length))
  else match (if c = '/' then commentStop? text cursor else none) with
    | some stop => .ok (some (.comment, stop))
    | none =>
      if c = '"' then do
        let stop ← closing text (cursor + 1)
        .ok (stop.map fun stop => (.stringLiteral, stop))
      else if isDigit c then do
        let stop ← number false text cursor
        .ok (some (.number, stop))
      else if isWordStart c then do
        let stop ← skip isWordChar text (cursor + 1)
        .ok (some (wordLexeme, stop))
      else .ok (some (mark c next cursor))

theorem closeComment_cons {c : Char} (hc : c ≠ '/') (s : List Char) :
    closeComment (c :: s) = (closeComment s).map fun comment => (c :: comment.1, comment.2) := by
  have hne : (c != '/') = true := by simp [hc]
  unfold closeComment
  rw [List.dropWhile_cons, if_pos hne, List.takeWhile_cons, if_pos hne]
  split <;> rfl

theorem length_closeComment {s : List Char} {comment : List Char × List Char} (h : closeComment s = some comment) :
    0 < comment.1.length := by
  unfold closeComment at h
  split at h
  · cases h
  · obtain rfl := Option.some.inj h
    simp

theorem findIdx?_slash (s : List Char) :
    s.findIdx? (· == '/') = (closeComment s).map fun comment => comment.1.length - 1 := by
  induction s with
  | nil => rfl
  | cons c s ih =>
    by_cases hc : c = '/'
    · subst hc
      rfl
    · rw [List.findIdx?_cons, if_neg (by simp [hc]), ih, closeComment_cons hc, Option.map_map, Option.map_map]
      cases hclose : closeComment s with
      | none => rfl
      | some comment =>
        have hpos := length_closeComment hclose
        simp only [Option.map_some, Function.comp_apply, List.length_cons]
        congr 1
        omega

/-- a comment between two slashes has something between them, as two slashes in a row are something else -/
theorem commentStop?_append (front : List Char) (c : Char) {s : List Char} (hs : s.head? ≠ some '/') :
    commentStop? (front ++ c :: s) front.length =
      (if front.all isBlank then closeComment s else none).map fun comment => (front ++ c :: comment.1).length := by
  have hbehind : (front ++ c :: s).drop (front.length + 1) = s := by
    rw [← List.drop_drop, List.drop_left]
    rfl
  unfold commentStop?
  rw [List.take_left, hbehind, findIdx?_slash]
  split
  · cases s with
    | nil => rfl
    | cons d s =>
      have hd : d ≠ '/' := fun h => hs (congrArg some h)
      rw [closeComment_cons hd]
      cases hclose : closeComment s with
      | none => rfl
      | some comment =>
        have hpos := length_closeComment hclose
        simp only [Option.map_some, List.length_cons, List.length_append]
        rw [if_pos (by omega)]
        congr 1
        omega
  · rfl

theorem ofPair?_zero (c : Char) : Operator.ofPair? c '\x00' = none := by
  unfold Operator.ofPair?
  split <;> first | rfl | simp_all

theorem mark_append (front : List Char) (c : Char) (s : List Char) :
    ∃ make, mark c (s.head?.getD '\x00') front.length = (make, (front ++ (takeMark c s).1.text).length) ∧
      make (takeMark c s).1.text = (takeMark c s).1 := by
  have hpair : Operator.ofPair? c (s.head?.getD '\x00') = s.head?.bind (Operator.ofPair? c) := by
    cases s with
    | nil => exact ofPair?_zero c
    | cons d s => rfl
  unfold takeMark mark
  rw [hpair]
  cases hop : s.head?.bind (Operator.ofPair? c) with
  | some op =>
    obtain ⟨d, -, hd⟩ := Option.bind_eq_some_iff.1 hop
    refine ⟨fun _ => .operator op, ?_, rfl⟩
    simp [Lexeme.text, Operator.text_of_ofPair? hd]
  | none =>
    cases hone : Operator.ofChar? c with
    | some op =>
      refine ⟨fun _ => .operator op, ?_, rfl⟩
      simp [Lexeme.text, Operator.text_of_ofChar? hone]
    | none =>
      refine ⟨fun _ => .punctuation c, ?_, rfl⟩
      simp [Lexeme.text]

/-- **The lexeme at a cursor** is the one at the front of what stands there. -/
theorem lexeme_append (front : List Char) (c : Char) (s : List Char) :
    match next? (front.all isBlank) c s with
    | none => lexeme (front ++ c :: s) front.length = .ok none
    | some (l, _) => ∃ make, lexeme (front ++ c :: s) front.length = .ok (some (make, (front ++ l.text).length)) ∧
        make l.text = l := by
  have hbehind : (front ++ [c]).length = front.length + 1 := List.length_append
  have hcons : front ++ c :: s = (front ++ [c]) ++ s := by simp
  have hslash : s.head?.getD '\x00' = '/' ↔ s.head? = some '/' := by
    cases s with
    | nil => simp
    | cons d s => simp
  unfold next? lexeme
  rw [item_append, ok_bind, peek_append, ok_bind]
  simp only [hslash]
  by_cases hline : c = '/' ∧ s.head? = some '/'
  · rw [if_pos hline, if_pos hline]
    exact ⟨.comment, rfl, rfl⟩
  rw [if_neg hline, if_neg hline]
  have hcomment : (if c = '/' then commentStop? (front ++ c :: s) front.length else none) =
      (if c = '/' ∧ front.all isBlank then closeComment s else none).map
        fun comment => (front ++ c :: comment.1).length := by
    by_cases hc : c = '/'
    · rw [if_pos hc, commentStop?_append front c fun h => hline ⟨hc, h⟩]
      simp [hc]
    · simp [hc]
  rw [hcomment]
  cases (if c = '/' ∧ front.all isBlank then closeComment s else none) with
  | some comment => exact ⟨.comment, rfl, rfl⟩
  | none =>
    dsimp only [Option.map_none]
    by_cases hquote : c = '"'
    · rw [if_pos hquote, if_pos hquote, hcons, ← hbehind, closing_append, ok_bind]
      cases closeString s with
      | none => rfl
      | some literal =>
        refine ⟨.stringLiteral, ?_, rfl⟩
        simp [Lexeme.text]
    rw [if_neg hquote, if_neg hquote]
    by_cases hdigit : isDigit c = true
    · rw [if_pos hdigit, if_pos hdigit, number_append, ok_bind]
      exact ⟨.number, rfl, rfl⟩
    rw [if_neg hdigit, if_neg hdigit]
    by_cases hword : isWordStart c = true
    · rw [if_pos hword, if_pos hword, hcons, ← hbehind, skip_append, ok_bind]
      refine ⟨wordLexeme, ?_, ?_⟩
      · simp [text_wordLexeme]
      · rw [text_wordLexeme]
    rw [if_neg hword, if_neg hword]
    obtain ⟨make, hmark, hmake⟩ := mark_append front c s
    exact ⟨make, congrArg (fun found => Except.ok (some found)) hmark, hmake⟩

/-! ## Lines -/

/-- the tokens from the cursor on, behind some that were read; each round reads one token -/
def rounds (text : List Char) (line : Int) : Nat → Nat → List Token →
    Except Failure (Except UnclosedString (List Token))
  | 0, _, _ => .error .endless
  | more + 1, cursor, tokens => do
    let start ← skip isBlank text cursor
    if text.length ≤ start then .ok (.ok tokens)
    else do
      let found ← lexeme text start
      match found with
      | none => .ok (.error ⟨line, start + 1, tokens ++ [⟨.stringLiteral (text.drop start), line, start + 1⟩]⟩)
      | some (make, stop) =>
        rounds text line more stop (tokens ++ [⟨make ((text.take stop).drop start), line, start + 1⟩])

/-- the tokens of a line; a round for each character of it has to suffice -/
def lex (line : Int) (text : List Char) : Except Failure (Except UnclosedString (List Token)) :=
  rounds text line (text.length + 1) 0 []

/-- what becomes of a segmentation behind a text whose tokens were read -/
def outcome (line : Int) (front : List Char) (tokens : List Token) (cut : Segmentation) :
    Except UnclosedString (List Token) :=
  if cut.closed then .ok (tokens ++ placed line (front.length + 1) cut.segments)
  else .error ⟨line, ((tokens ++ placed line (front.length + 1) cut.segments).getLast?.map Token.column).getD 1,
    tokens ++ placed line (front.length + 1) cut.segments⟩

/-- behind a lexeme something else than blanks stands before the cursor -/
theorem not_blank_behind (front : List Char) {leading : Bool} {c : Char} {rest after : List Char} {l : Lexeme}
    (hc : isBlank c = false) (hnext : next? leading c rest = some (l, after)) : (front ++ l.text).all isBlank = false := by
  obtain ⟨more, hl⟩ := next?_head hnext
  rw [hl]
  simp [hc]

/-- **Rounds read the segments** of what stands at the cursor. -/
theorem rounds_append (line : Int) (front s : List Char) {n : Nat} (hn : s.length < n) (tokens : List Token) :
    rounds (front ++ s) line n front.length tokens =
      .ok (outcome line front tokens (.ofFrom (front.all isBlank) s)) := by
  induction n generalizing front s tokens with
  | zero => cases hn
  | succ n ih =>
    have hgap : s = s.takeWhile isBlank ++ s.dropWhile isBlank := List.takeWhile_append_dropWhile.symm
    rw [rounds, skip_append, ok_bind]
    cases hs : s.dropWhile isBlank with
    | nil =>
      rw [hs, List.append_nil] at hgap
      rw [if_pos (by rw [← hgap]), Segmentation.ofFrom_of_blank hs]
      simp [outcome, placed]
    | cons c rest =>
      rw [hs] at hgap
      have hblank : (front ++ s.takeWhile isBlank).all isBlank = front.all isBlank := by
        rw [List.all_append, List.all_takeWhile, Bool.and_true]
      have hc : isBlank c = false := by
        have hhead := List.head?_dropWhile_not isBlank s
        rw [hs] at hhead
        simpa using hhead
      have htext : front ++ s = (front ++ s.takeWhile isBlank) ++ c :: rest := by
        rw [List.append_assoc, ← hgap]
      generalize hgapOf : s.takeWhile isBlank = gap at *
      have hfound := lexeme_append (front ++ gap) c rest
      rw [hblank] at hfound
      rw [htext, if_neg (not_length_le (front ++ gap) c rest)]
      cases hnext : next? (front.all isBlank) c rest with
      | none =>
        rw [hnext] at hfound
        rw [hfound, ok_bind, Segmentation.ofFrom_of_open hs hnext, hgapOf, outcome, placed_cons_behind, List.drop_left]
        simp [placed]
      | some found =>
        obtain ⟨l, after⟩ := found
        rw [hnext] at hfound
        obtain ⟨make, hlexeme, hmake⟩ := hfound
        have hrest : l.text ++ after = c :: rest := next?_append hnext
        have hshort : after.length < n := by
          have hlength := next?_length_lt hnext
          have hsplit := congrArg List.length hgap
          rw [List.length_append] at hsplit
          omega
        have hbehind : ((front ++ gap) ++ l.text).all isBlank = false := not_blank_behind (front ++ gap) hc hnext
        have hwhole : (front ++ gap) ++ c :: rest = ((front ++ gap) ++ l.text) ++ after := by
          rw [List.append_assoc _ _ after, hrest]
        have hwritten : (((front ++ gap) ++ c :: rest).take ((front ++ gap) ++ l.text).length).drop (front ++ gap).length =
            l.text := by
          rw [hwhole, List.take_left, List.drop_left]
        rw [hlexeme, ok_bind]
        dsimp only
        rw [hwritten, hmake, hwhole, ih _ _ hshort, hbehind, Segmentation.ofFrom_of_lexeme hs hnext, hgapOf]
        unfold outcome
        rw [placed_cons_behind, List.append_assoc tokens]
        rfl

/-- **Reading a line with a cursor never fails** and gives its tokens or its unclosed string literal. -/
theorem lex_eq (line : Int) (text : List Char) : lex line text = .ok (VixStyle.lex line text) := by
  have hrounds := rounds_append line [] text (Nat.lt_succ_self text.length) []
  rw [List.nil_append] at hrounds
  exact hrounds

/-! ## Texts -/

/-- the lines of a text: the pieces between terminators, without the last one if it is empty -/
def lines (text : List Char) : Except Failure (List (List Char)) :=
  if text.isEmpty then .ok []
  else do
    let pieces := (unifyTerminators text).splitOn '\n'
    let final ← last pieces
    .ok (if final.isEmpty then pieces.dropLast else pieces)

/-- pieces without the last one if it is empty -/
def trimmed (pieces : List (List Char)) : List (List Char) :=
  if pieces.getLast? = some [] then pieces.dropLast else pieces

theorem trimmed_cons (x p : List Char) (ps : List (List Char)) : trimmed (x :: p :: ps) = x :: trimmed (p :: ps) := by
  unfold trimmed
  rw [List.getLast?_cons_cons, List.dropLast_cons_cons]
  split <;> rfl

theorem splitLines_eq (s : List Char) : splitLines s = trimmed (s.splitOn '\n') := by
  induction s with
  | nil => rfl
  | cons c s ih =>
    obtain ⟨p, ps, hpieces⟩ := List.exists_cons_of_ne_nil (List.splitOnP_ne_nil (· == '\n') s)
    have hsplit : (c :: s).splitOn '\n' = if c = '\n' then [] :: p :: ps else (c :: p) :: ps := by
      rw [List.splitOn, List.splitOnP_cons_eq_if_modifyHead, hpieces]
      simp
    rw [splitLines, ih, hsplit, List.splitOn, hpieces]
    split
    · exact (trimmed_cons [] p ps).symm
    · cases ps with
      | nil => cases p <;> rfl
      | cons q qs => rw [trimmed_cons, trimmed_cons]

/-- **Cutting a text into lines never fails.** -/
theorem lines_eq (text : List Char) : lines text = .ok (Text.lines text) := by
  unfold lines Text.lines
  cases text with
  | nil => rfl
  | cons c text =>
    have hne : (unifyTerminators (c :: text)).splitOn '\n' ≠ [] := List.splitOnP_ne_nil _ _
    rw [if_neg (by simp)]
    dsimp only
    rw [last_of_ne_nil hne, ok_bind, splitLines_eq, trimmed, List.getLast?_eq_some_getLast hne]
    simp only [List.isEmpty_iff, Option.some.injEq]

end VixStyle.Strict
