/-
Lines that the wording of a fault cites.

A wording cites a line if it says ` on line ` and its number. `recite` reads the number out of a text and increases it;
`Diagnostic.later` does so with what the indentation rule reports, and moves a diagnostic of any rule down by as many
lines. Main statement, `Finding.diagnostic_later`: to move a finding down and then to put it into words is the same as to
put it into words first.

A wording holds the mark once or not at all. The mark has neither a digit, a backtick nor a bracket in it, so it does not
stand across one of these (`occursIn_split`), and what is left between them are a few fixed texts.
-/
import Mathlib.Tactic
import VixStyle.Proofs.Indentation.Matching
import VixStyle.Text.Search

namespace VixStyle

/-! ## Numbers in texts -/

namespace Text

/-- what stands before the number of a line that a text cites -/
def citeMark : List Char := " on line ".toList

/-- a text with the number at its start increased -/
def increase (n : Nat) (s : List Char) : List Char :=
  match s.takeWhile Char.isDigit with
  | [] => s
  | digits => Nat.toDigits 10 (Nat.ofDigitChars 10 digits 0 + n) ++ s.dropWhile Char.isDigit

/-- a text with the number of the line that it cites increased -/
def recite (n : Nat) : List Char → List Char
  | [] => []
  | c :: rest =>
    if citeMark.isPrefixOf (c :: rest) then citeMark ++ increase n ((c :: rest).drop citeMark.length)
    else c :: recite n rest

theorem increase_toDigits (n k : Nat) {after : List Char} (h : ∀ c ∈ after.head?, c.isDigit = false) :
    increase n (Nat.toDigits 10 k ++ after) = Nat.toDigits 10 (k + n) ++ after := by
  have hdigits : ∀ c ∈ Nat.toDigits 10 k, c.isDigit = true := fun c hc =>
    Nat.isDigit_of_mem_toDigits (by decide) (by decide) hc
  have hafter : after.takeWhile Char.isDigit = [] ∧ after.dropWhile Char.isDigit = after := by
    cases after with
    | nil => exact ⟨rfl, rfl⟩
    | cons c after => simp [h c rfl]
  unfold increase
  rw [List.takeWhile_append_of_pos hdigits, List.dropWhile_append_of_pos hdigits, hafter.1, hafter.2, List.append_nil]
  split
  · exact absurd ‹_› Nat.toDigits_ne_nil
  · rw [Nat.ofDigitChars_ten_toDigits]

theorem recite_of_no_mark {n : Nat} {s : List Char} (h : occursIn citeMark s = false) : recite n s = s := by
  induction s with
  | nil => rfl
  | cons c rest ih =>
    rw [occursIn, Bool.or_eq_false_iff] at h
    rw [recite, h.1, if_neg Bool.false_ne_true, ih h.2]

/-- a mark without some character does not stand across it -/
theorem isPrefixOf_split {mark : List Char} {c : Char} (hc : c ∉ mark) (x y : List Char) :
    mark.isPrefixOf (x ++ c :: y) = mark.isPrefixOf x := by
  induction mark generalizing x with
  | nil => simp
  | cons m mark ih =>
    cases x with
    | nil =>
      have hm : m ≠ c := fun e => hc (e ▸ List.mem_cons_self)
      simp [List.isPrefixOf, hm]
    | cons b x => simp [List.isPrefixOf, ih (fun hmem => hc (List.mem_cons_of_mem m hmem))]

theorem occursIn_split {mark : List Char} {c : Char} (hc : c ∉ mark) (x y : List Char) :
    occursIn mark (x ++ c :: y) = (occursIn mark x || occursIn mark y) := by
  induction x with
  | nil =>
    have hempty : mark.isPrefixOf [] = mark.isEmpty := by cases mark <;> rfl
    have hhere := isPrefixOf_split hc [] y
    rw [List.nil_append] at hhere
    change (mark.isPrefixOf (c :: y) || occursIn mark y) = (mark.isEmpty || occursIn mark y)
    rw [hhere, hempty]
  | cons b x ih => rw [List.cons_append, occursIn, ih, ← List.cons_append, isPrefixOf_split hc, occursIn, Bool.or_assoc]

/-- nor does it stand across a number -/
theorem occursIn_digits (k : Nat) (x y : List Char) :
    occursIn citeMark (x ++ (Nat.toDigits 10 k ++ y)) = (occursIn citeMark x || occursIn citeMark y) := by
  have hnot : ∀ c : Char, c.isDigit = true → c ∉ citeMark := by
    intro c hc hmem
    have hmark : citeMark.all (fun d => !d.isDigit) = true := by decide
    have hother := List.all_eq_true.1 hmark c hmem
    rw [hc] at hother
    cases hother
  have hall : ∀ digits : List Char, (∀ c ∈ digits, c.isDigit = true) → ∀ x, digits ≠ [] ∨ x = [] →
      occursIn citeMark (x ++ (digits ++ y)) = (occursIn citeMark x || occursIn citeMark y) := by
    intro digits hdigits
    induction digits with
    | nil =>
      rintro x (h | rfl)
      · exact absurd rfl h
      · rfl
    | cons d digits ih =>
      intro x _
      have hrest := ih (fun c hc => hdigits c (List.mem_cons_of_mem d hc)) [] (Or.inr rfl)
      rw [List.cons_append, occursIn_split (hnot d (hdigits d List.mem_cons_self)), ← List.nil_append (digits ++ y),
        hrest]
      rfl
  exact hall _ (fun c hc => Nat.isDigit_of_mem_toDigits (by decide) (by decide) hc) x (Or.inl Nat.toDigits_ne_nil)

theorem recite_mark (n : Nat) (rest : List Char) : recite n (citeMark ++ rest) = citeMark ++ increase n rest := by
  have hmark : citeMark = ' ' :: "on line ".toList := by decide
  have hprefix : citeMark.isPrefixOf (' ' :: ("on line ".toList ++ rest)) = true := by
    rw [← List.cons_append, ← hmark]
    exact List.isPrefixOf_iff_prefix.2 (List.prefix_append _ _)
  have hdrop : (' ' :: ("on line ".toList ++ rest)).drop citeMark.length = rest := by
    rw [← List.cons_append, ← hmark, List.drop_left]
  calc recite n (citeMark ++ rest) = recite n (' ' :: ("on line ".toList ++ rest)) := by rw [← List.cons_append, ← hmark]
    _ = citeMark ++ increase n rest := by rw [recite, if_pos hprefix, hdrop]

/-- a mark behind a backtick is found if none stands before it -/
theorem recite_behind {n : Nat} {front : List Char} (h : occursIn citeMark front = false) (rest : List Char) :
    recite n (front ++ '`' :: (citeMark ++ rest)) = front ++ '`' :: (citeMark ++ increase n rest) := by
  have hback : '`' ∉ citeMark := by decide
  induction front with
  | nil =>
    have hhere := isPrefixOf_split hback [] (citeMark ++ rest)
    rw [List.nil_append] at hhere ⊢
    rw [recite, hhere, if_neg (by decide), recite_mark]
    rfl
  | cons c front ih =>
    rw [occursIn, Bool.or_eq_false_iff] at h
    have hhere := isPrefixOf_split hback (c :: front) (citeMark ++ rest)
    rw [h.1, List.cons_append] at hhere
    rw [List.cons_append, recite, hhere, if_neg Bool.false_ne_true, ih h.2]
    rfl

end Text

/-! ## Faults further down -/

namespace Rule.Indentation

open Text

namespace Fault

/-- the line that the wording of a fault cites -/
def cited? : Fault → Option Int
  | misaligned _ _ line => some line
  | wrongDepth _ _ _ anchor => anchor.map Prod.snd
  | _ => none

/-- a fault whose lines lie further down -/
def later (n : Nat) : Fault → Fault
  | misaligned word anchorWord line => misaligned word anchorWord (line + n)
  | wrongDepth unit expected actual anchor => wrongDepth unit expected actual (anchor.map fun (word, line) => (word, line + n))
  | fault => fault

/-! ### Wordings without a mark -/

theorem occursIn_of_notMem {mark s : List Char} {c : Char} (hc : c ∈ mark) (hs : c ∉ s) : occursIn mark s = false := by
  rw [← Bool.not_eq_true, occursIn_iff]
  exact fun hin => hs (hin.subset hc)

theorem toList_toString (k : Nat) : (toString k).toList = Nat.toDigits 10 k := Nat.toList_repr

theorem toList_shown_append (word : Keyword) (s : String) :
    (shown word ++ s).toList = '`' :: (word.text ++ '`' :: s.toList) := by
  rw [String.toList_append, shown_toList, List.cons_append, List.append_assoc]
  rfl

theorem toList_number_append (k : Nat) (s : String) : (toString k ++ s).toList = Nat.toDigits 10 k ++ s.toList := by
  rw [String.toList_append, toList_toString]

theorem occursIn_number (a b : String) (k : Nat) :
    occursIn citeMark (a ++ (toString k ++ b)).toList = (occursIn citeMark a.toList || occursIn citeMark b.toList) := by
  rw [String.toList_append, toList_number_append, occursIn_digits]

theorem occursIn_text (word : Keyword) : occursIn citeMark word.text = false := by cases word <;> decide

theorem occursIn_shown (a b : String) (word : Keyword) :
    occursIn citeMark (a ++ (shown word ++ b)).toList = (occursIn citeMark a.toList || occursIn citeMark b.toList) := by
  have hback : '`' ∉ citeMark := by decide
  rw [String.toList_append, toList_shown_append, occursIn_split hback, occursIn_split hback, occursIn_text, Bool.false_or]

/-- the wording of a wrong depth up to the line that it cites -/
def depthFront (unit : IndentUnit) (expected actual : Nat) : String :=
  "expected indentation of " ++ unit.describe expected ++ " but found " ++
    (if actual = 0 then "no indentation" else unit.describe actual)

/-- the wording of a wrong depth does without this letter of the mark -/
theorem l_notMem_fixed : ∀ s ∈ ["1 tab", " tabs", "1 space", " spaces", "no indentation", "expected indentation of ",
    " but found ", " (inside "], 'l' ∉ s.toList := by
  decide +kernel

theorem l_notMem_toString (k : Nat) : 'l' ∉ (toString k).toList := by
  rw [toList_toString]
  intro hmem
  have hdigit : 'l'.isDigit = true := Nat.isDigit_of_mem_toDigits (by decide) (by decide) hmem
  cases hdigit

theorem l_notMem_append {a b : String} (ha : 'l' ∉ a.toList) (hb : 'l' ∉ b.toList) : 'l' ∉ (a ++ b).toList := by
  rw [String.toList_append, List.mem_append]
  exact fun h => h.elim ha hb

theorem l_notMem_describe (unit : IndentUnit) (levels : Nat) : 'l' ∉ (unit.describe levels).toList := by
  cases unit with
  | tab =>
    unfold IndentUnit.describe
    dsimp only
    split_ifs
    · exact l_notMem_fixed _ (by simp)
    · exact l_notMem_append (l_notMem_toString levels) (l_notMem_fixed " tabs" (by simp))
  | spaces count =>
    unfold IndentUnit.describe
    dsimp only
    split_ifs
    · exact l_notMem_fixed _ (by simp)
    · exact l_notMem_append (l_notMem_toString (levels * count)) (l_notMem_fixed " spaces" (by simp))

theorem l_notMem_depthFront (unit : IndentUnit) (expected actual : Nat) :
    'l' ∉ (depthFront unit expected actual).toList := by
  have hexpected : 'l' ∉ ("expected indentation of " ++ unit.describe expected).toList :=
    l_notMem_append (l_notMem_fixed _ (by simp)) (l_notMem_describe unit expected)
  have hfound : 'l' ∉ (if actual = 0 then "no indentation" else unit.describe actual).toList := by
    split_ifs
    · exact l_notMem_fixed _ (by simp)
    · exact l_notMem_describe unit actual
  unfold depthFront
  exact l_notMem_append (l_notMem_append hexpected (l_notMem_fixed _ (by simp))) hfound

/-- what the other wordings are made of holds no mark -/
theorem no_mark_fixed : ∀ s ∈ ["", " block is never closed with `end`", " does not align with ", "indentation of ",
    " spaces is not a multiple of the ", "-space unit", strayEnd.message, mixedBlanks.message, (wrongBlanks true).message,
    (wrongBlanks false).message, unindentedBody.message], occursIn citeMark s.toList = false := by
  decide +kernel

/-- the wording of a fault that cites no line holds no mark -/
theorem no_mark_of_not_cited {fault : Fault} (h : fault.cited? = none) : occursIn citeMark fault.message.toList = false := by
  cases fault with
  | strayEnd => exact no_mark_fixed _ (by simp)
  | unclosed word =>
    have hmessage : (unclosed word).message = "" ++ (shown word ++ " block is never closed with `end`") :=
      String.empty_append.symm
    rw [hmessage, occursIn_shown, no_mark_fixed _ (by simp), no_mark_fixed _ (by simp)]
    rfl
  | mixedBlanks => exact no_mark_fixed _ (by simp)
  | wrongBlanks foundTabs => cases foundTabs <;> exact no_mark_fixed _ (by simp)
  | uneven width unitWidth =>
    have hmessage : (uneven width unitWidth).message = "indentation of " ++ (toString width ++
        (" spaces is not a multiple of the " ++ (toString unitWidth ++ "-space unit"))) := by
      rw [← String.append_assoc, ← String.append_assoc, ← String.append_assoc]
      rfl
    rw [hmessage, occursIn_number, occursIn_number, no_mark_fixed _ (by simp), no_mark_fixed _ (by simp),
      no_mark_fixed _ (by simp)]
    rfl
  | misaligned word v line => cases h
  | unindentedBody => exact no_mark_fixed _ (by simp)
  | wrongDepth unit expected actual anchor =>
    cases anchor with
    | some anchor => cases h
    | none =>
      have hmessage : (wrongDepth unit expected actual none).message = depthFront unit expected actual := String.append_empty
      rw [hmessage]
      exact occursIn_of_notMem (by decide) (l_notMem_depthFront unit expected actual)

/-! ### Wordings with a mark -/

theorem toList_mark (s : String) : (" on line " ++ s).toList = citeMark ++ s.toList := String.toList_append

theorem toList_cited (a b : String) (word : Keyword) (k : Nat) :
    (a ++ (shown word ++ (" on line " ++ (toString k ++ b)))).toList =
      (a.toList ++ '`' :: word.text) ++ '`' :: (citeMark ++ (Nat.toDigits 10 k ++ b.toList)) := by
  rw [String.toList_append, toList_shown_append, toList_mark, toList_number_append, List.append_assoc]
  rfl

theorem recite_shown {n k : Nat} {a b : String} (ha : occursIn citeMark a.toList = false)
    (hb : ∀ c ∈ b.toList.head?, c.isDigit = false) (word : Keyword) :
    recite n (a ++ (shown word ++ (" on line " ++ (toString k ++ b)))).toList =
      (a ++ (shown word ++ (" on line " ++ (toString (k + n) ++ b)))).toList := by
  have hfront : occursIn citeMark (a.toList ++ '`' :: word.text) = false := by
    rw [occursIn_split (by decide), ha, occursIn_text, Bool.or_false]
  rw [toList_cited, toList_cited, recite_behind hfront, increase_toDigits n k hb]

theorem message_misaligned_split (word anchorWord : Keyword) (line : Int) :
    (misaligned word anchorWord line).message =
      (shown word ++ " does not align with ") ++ (shown anchorWord ++ (" on line " ++ (toString line ++ ""))) := by
  rw [message_misaligned, ← String.append_assoc, String.append_empty]
  rfl

theorem message_wrongDepth_split (unit : IndentUnit) (expected actual : Nat) (word : Keyword) (line : Int) :
    (wrongDepth unit expected actual (some (word, line))).message =
      (depthFront unit expected actual ++ " (inside ") ++ (shown word ++ (" on line " ++ (toString line ++ ")"))) := by
  have hparts : (wrongDepth unit expected actual (some (word, line))).message =
      depthFront unit expected actual ++ ((" (inside " ++ shown word) ++ ((" on line " ++ toString line) ++ ")")) := by
    unfold message depthFront
    rfl
  rw [hparts]
  simp only [String.append_assoc]

/-- a wording that cites a line has it behind a word in backticks and behind no other mark -/
theorem message_cited {fault : Fault} {line : Int} (h : fault.cited? = some line) :
    ∃ a word b, occursIn citeMark a.toList = false ∧ (∀ c ∈ b.toList.head?, c.isDigit = false) ∧
      fault.message = a ++ (shown word ++ (" on line " ++ (toString line ++ b))) ∧
      ∀ n : Nat, (fault.later n).message = a ++ (shown word ++ (" on line " ++ (toString (line + n) ++ b))) := by
  cases fault with
  | misaligned word anchorWord line =>
    obtain rfl := Option.some.inj h
    refine ⟨shown word ++ " does not align with ", anchorWord, "", ?_, by simp, message_misaligned_split _ _ _,
      fun n => message_misaligned_split _ _ _⟩
    have hshown := occursIn_shown "" " does not align with " word
    rw [String.empty_append] at hshown
    rw [hshown, no_mark_fixed _ (by simp), no_mark_fixed _ (by simp)]
    rfl
  | wrongDepth unit expected actual anchor =>
    obtain ⟨⟨word, line⟩, rfl, rfl⟩ := Option.map_eq_some_iff.1 h
    refine ⟨depthFront unit expected actual ++ " (inside ", word, ")", ?_, by simp, message_wrongDepth_split _ _ _ _ _,
      fun n => message_wrongDepth_split _ _ _ _ _⟩
    have hinside : 'l' ∉ " (inside ".toList := l_notMem_fixed _ (by simp)
    exact occursIn_of_notMem (by decide) (l_notMem_append (l_notMem_depthFront unit expected actual) hinside)
  | _ => cases h

theorem later_of_not_cited {fault : Fault} (h : fault.cited? = none) (n : Nat) : fault.later n = fault := by
  cases fault with
  | misaligned _ _ _ => cases h
  | wrongDepth _ _ _ anchor =>
    cases anchor with
    | none => rfl
    | some _ => cases h
  | _ => rfl

/-- **A wording is recited** for the fault further down. -/
theorem message_later {fault : Fault} (h : ∀ line ∈ fault.cited?, 0 ≤ line) (n : Nat) :
    (fault.later n).message = String.ofList (recite n fault.message.toList) := by
  cases hcited : fault.cited? with
  | none => rw [later_of_not_cited hcited, recite_of_no_mark (no_mark_of_not_cited hcited), String.ofList_toList]
  | some line =>
    obtain ⟨k, rfl⟩ := Int.eq_ofNat_of_zero_le (h line hcited)
    obtain ⟨a, word, b, ha, hb, hmessage, hlater⟩ := message_cited hcited
    have hrecite : recite n fault.message.toList = (fault.later n).message.toList := by
      rw [hmessage, hlater]
      exact recite_shown ha hb word
    rw [hrecite, String.ofList_toList]

theorem hint_later (fault : Fault) (n : Nat) : (fault.later n).hint = fault.hint := by
  cases fault <;> rfl

end Fault

/-- a finding further down -/
def Finding.later (n : Nat) (f : Finding) : Finding := ⟨f.line + n, f.column, f.fault.later n⟩

end Rule.Indentation

/-! ## Diagnostics further down -/

/-- a diagnostic further down: on a later line, and with the line that an indentation message cites a later one too -/
def Diagnostic.later (n : Nat) (d : Diagnostic) : Diagnostic :=
  { d with
    line := d.line + n
    message :=
      if d.ruleId = Problem.indentationConsistency.ruleId then String.ofList (Text.recite n d.message.toList)
      else d.message }

namespace Rule.Indentation

/-- **A finding further down is put into words** as the diagnostic further down. -/
theorem Finding.diagnostic_later {f : Finding} (h : ∀ line ∈ f.fault.cited?, 0 ≤ line) (n : Nat) :
    (f.later n).diagnostic = f.diagnostic.later n := by
  have hmessage := f.fault.message_later h n
  simp only [Finding.later, Finding.diagnostic, Problem.found, Diagnostic.later, hmessage, f.fault.hint_later, if_pos]

end Rule.Indentation

end VixStyle
