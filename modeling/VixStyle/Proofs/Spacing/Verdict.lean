/-
Which gaps the rules on spacing report.

A gap is a run of blanks beside a token that reaches to a character that is not blank (`LeftGap`, `RightGap`). Main
statement, `spacing_told`: on every source the rule on operators reports an operator between two operands once, if one of
its gaps is not a single space, and says which gap is at fault in which way; the rule on commas reports a gap before a comma
and a gap behind it that is not a single space, unless a bracket closes there. Nothing else is reported, and nothing inside a
string or a comment.

- `gapBefore?_eq_some_iff`, `gapAfter?_eq_some_iff`: what the rules read beside a token are its gaps.
- `operatorMessage?_eq_some_iff`: the words on an operator name the sides at fault (`Words`).
- `isCheckedOperator_iff`: which operators are looked at, by the tokens of their line (`Checked`).
- `mem_commaFaults_iff`: what is said of a comma.
-/
import VixStyle.Proofs.Lint.Sites
import VixStyle.Proofs.Source.Standing
import VixStyle.Proofs.Spacing.Gaps

namespace VixStyle

open Text

namespace Rule.Spacing

/-! ## Gaps -/

/-- the blanks to the left of a token, behind a character that is not blank -/
def LeftGap (line : List Char) (t : Token) (gap : List Char) : Prop :=
  ∃ front c, textBefore line t = front ++ c :: gap ∧ isBlank c = false ∧ ∀ d ∈ gap, isBlank d = true

/-- the blanks to the right of a token, before a character that is not blank -/
def RightGap (line : List Char) (t : Token) (gap : List Char) : Prop :=
  ∃ c rest, textAfter line t = gap ++ c :: rest ∧ isBlank c = false ∧ ∀ d ∈ gap, isBlank d = true

theorem leadingGap?_eq_some_iff {s gap : List Char} : leadingGap? s = some gap ↔
    ∃ c rest, s = gap ++ c :: rest ∧ isBlank c = false ∧ ∀ d ∈ gap, isBlank d = true := by
  constructor
  · intro h
    unfold leadingGap? at h
    split_ifs at h with hall
    obtain rfl := Option.some.inj h
    have hne : s.dropWhile isBlank ≠ [] := fun hnil => hall (List.all_eq_true.2 (List.dropWhile_eq_nil_iff.1 hnil))
    obtain ⟨c, rest, hrest⟩ := List.exists_cons_of_ne_nil hne
    have hc := List.head?_dropWhile_not isBlank s
    rw [hrest] at hc
    exact ⟨c, rest, by rw [← hrest, List.takeWhile_append_dropWhile], hc, fun d => List.mem_takeWhile_imp⟩
  · rintro ⟨c, rest, rfl, hc, hgap⟩
    exact leadingGap?_append hgap hc rest

/-- the blanks at the end of a text are those at the start of the text read backwards -/
theorem trailingGap?_eq (s : List Char) : trailingGap? s = (leadingGap? s.reverse).map List.reverse := by
  simp only [trailingGap?, leadingGap?, List.all_reverse]
  split_ifs <;> rfl

theorem gapAfter?_eq_some_iff {line : List Char} {t : Token} {gap : List Char} :
    gapAfter? line t = some gap ↔ RightGap line t gap := leadingGap?_eq_some_iff

theorem gapBefore?_eq_some_iff {line : List Char} {t : Token} {gap : List Char} :
    gapBefore? line t = some gap ↔ LeftGap line t gap := by
  rw [gapBefore?, trailingGap?_eq, Option.map_eq_some_iff]
  constructor
  · rintro ⟨gap, hgap, rfl⟩
    obtain ⟨c, rest, htext, hc, hblank⟩ := leadingGap?_eq_some_iff.1 hgap
    refine ⟨rest.reverse, c, ?_, hc, by simpa using hblank⟩
    rw [← List.reverse_reverse (textBefore line t), htext]
    simp
  · rintro ⟨front, c, htext, hc, hblank⟩
    refine ⟨gap.reverse, leadingGap?_eq_some_iff.2 ⟨c, front.reverse, ?_, hc, by simpa using hblank⟩, List.reverse_reverse gap⟩
    rw [htext]
    simp

/-- how a side of a token is at fault that has the given gap, if any -/
def SideFault (gaps : List Char → Prop) : Option GapFault → Prop
  | none => ∀ gap, gaps gap → gap = [' ']
  | some .missing => gaps []
  | some .extra => ∃ gap, gaps gap ∧ gap ≠ [] ∧ gap ≠ [' ']

/-- what is wrong with the gap that is read on a side -/
theorem bind_gapFault?_eq_iff {read : Option (List Char)} {gaps : List Char → Prop}
    (h : ∀ gap, read = some gap ↔ gaps gap) {fault : Option GapFault} :
    read.bind gapFault? = fault ↔ SideFault gaps fault := by
  obtain rfl : (fun gap => read = some gap) = gaps := funext fun gap => propext (h gap)
  cases read with
  | none => rcases fault with _ | _ | _ <;> simp [SideFault]
  | some gap =>
    rw [Option.bind_some, gapFault?]
    rcases fault with _ | _ | _ <;> split_ifs <;> simp_all [SideFault]

/-- a side is at fault exactly if it has a gap that is not one space -/
theorem exists_sideFault_iff {gaps : List Char → Prop} :
    (∃ fault, SideFault gaps (some fault)) ↔ ∃ gap, gaps gap ∧ gap ≠ [' '] := by
  constructor
  · rintro ⟨_ | _, hfault⟩
    · exact ⟨[], hfault, by decide⟩
    · obtain ⟨gap, hgap, -, hone⟩ := hfault
      exact ⟨gap, hgap, hone⟩
  · rintro ⟨gap, hgap, hone⟩
    by_cases hnil : gap = []
    · exact ⟨.missing, show gaps [] from hnil ▸ hgap⟩
    · exact ⟨.extra, gap, hgap, hnil, hone⟩

theorem exists_sideFault (gaps : List Char → Prop) : ∃ fault, SideFault gaps fault := by
  by_cases h : ∃ gap, gaps gap ∧ gap ≠ [' ']
  · obtain ⟨fault, hfault⟩ := exists_sideFault_iff.2 h
    exact ⟨some fault, hfault⟩
  · exact ⟨none, fun gap hgap => not_not.1 fun hone => h ⟨gap, hgap, hone⟩⟩

/-! ## Operators -/

/-- the words on an operator with the given faults to its left and right: they name each side at fault -/
inductive Words (operator : String) : Option GapFault → Option GapFault → String → Prop
  | around : Words operator (some .missing) (some .missing) ("missing spaces around \"" ++ operator ++ "\"")
  | before (fault : GapFault) : Words operator (some fault) none (sideMessage operator "before" fault)
  | after (fault : GapFault) : Words operator none (some fault) (sideMessage operator "after" fault)
  | both (left right : GapFault) (h : ¬ (left = .missing ∧ right = .missing)) :
    Words operator (some left) (some right)
      (sideMessage operator "before" left ++ " and " ++ sideMessage operator "after" right)

theorem operatorMessage?_eq_some_iff {operator : String} {left right : Option GapFault} {message : String} :
    operatorMessage? operator left right = some message ↔ Words operator left right message := by
  constructor
  · intro h
    rcases left with _ | _ | _ <;> rcases right with _ | _ | _ <;> cases h
    · exact .after .missing
    · exact .after .extra
    · exact .before .missing
    · exact .around
    · exact .both .missing .extra (by decide)
    · exact .before .extra
    · exact .both .extra .missing (by decide)
    · exact .both .extra .extra (by decide)
  · rintro (_ | _ | _ | ⟨_ | _, _ | _, h⟩)
    · rfl
    · rename_i fault
      cases fault <;> rfl
    · rfl
    · exact absurd ⟨rfl, rfl⟩ h
    all_goals rfl

theorem operatorMessage?_eq_none_iff (operator : String) {left right : Option GapFault} :
    operatorMessage? operator left right = none ↔ left = none ∧ right = none := by
  rcases left with _ | _ | _ <;> rcases right with _ | _ | _ <;> simp [operatorMessage?]

/-- there is something to say exactly if a gap is not one space -/
theorem exists_words_iff (operator : String) {lefts rights : List Char → Prop} :
    (∃ message left right, SideFault lefts left ∧ SideFault rights right ∧ Words operator left right message) ↔
      ∃ gap, (lefts gap ∨ rights gap) ∧ gap ≠ [' '] := by
  have hsaid : ∀ left right, ¬ (left = none ∧ right = none) → ∃ message, Words operator left right message := by
    intro left right hnot
    rw [← operatorMessage?_eq_none_iff operator, ← ne_eq, Option.ne_none_iff_exists'] at hnot
    obtain ⟨message, hmessage⟩ := hnot
    exact ⟨message, operatorMessage?_eq_some_iff.1 hmessage⟩
  constructor
  · rintro ⟨message, left, right, hleft, hright, hwords⟩
    have hgap : (∃ gap, lefts gap ∧ gap ≠ [' ']) ∨ ∃ gap, rights gap ∧ gap ≠ [' '] := by
      rw [← exists_sideFault_iff, ← exists_sideFault_iff]
      cases hwords with
      | around => exact Or.inl ⟨_, hleft⟩
      | before fault => exact Or.inl ⟨_, hleft⟩
      | after fault => exact Or.inr ⟨_, hright⟩
      | both => exact Or.inl ⟨_, hleft⟩
    obtain ⟨gap, hgap, hone⟩ | ⟨gap, hgap, hone⟩ := hgap
    · exact ⟨gap, Or.inl hgap, hone⟩
    · exact ⟨gap, Or.inr hgap, hone⟩
  · rintro ⟨gap, hgap | hgap, hone⟩
    · obtain ⟨fault, hleft⟩ := exists_sideFault_iff.2 ⟨gap, hgap, hone⟩
      obtain ⟨right, hright⟩ := exists_sideFault rights
      obtain ⟨message, hwords⟩ := hsaid (some fault) right (by simp)
      exact ⟨message, _, _, hleft, hright, hwords⟩
    · obtain ⟨fault, hright⟩ := exists_sideFault_iff.2 ⟨gap, hgap, hone⟩
      obtain ⟨left, hleft⟩ := exists_sideFault lefts
      obtain ⟨message, hwords⟩ := hsaid left (some fault) (by simp)
      exact ⟨message, _, _, hleft, hright, hwords⟩

/-- the operator at `i` takes spaces, and it stands behind an operand or first on its line without being a sign -/
structure Checked (ts : List Token) (i : Nat) (t : Token) : Prop where
  spaced : ∃ op, t.lexeme = .operator op ∧ op.isSpaced = true
  between : (∃ k u, i = k + 1 ∧ ts[k]? = some u ∧ u.lexeme.endsOperand = true) ∨
    (i = 0 ∧ ∀ op ∈ [Operator.add, .sub, .mul], t.lexeme ≠ .operator op)

/-- of the operators that take spaces three can be signs -/
theorem isSign_iff_of_isSpaced {op : Operator} (h : op.isSpaced = true) :
    op.isSign = true ↔ op ∈ [Operator.add, .sub, .mul] := by
  cases op <;> simp [Operator.isSpaced, Operator.isSign] at h ⊢

theorem isCheckedOperator_of_lexeme {before : Option Token} {t : Token} :
    isCheckedOperator before t = true ↔
      ∃ op, t.lexeme = .operator op ∧ op.isSpaced = true ∧ isBinaryAfter before t = true := by
  unfold isCheckedOperator
  cases t.lexeme <;> simp

theorem isCheckedOperator_iff {ts : List Token} {i : Nat} {t : Token} (ht : ts[i]? = some t) :
    isCheckedOperator (if i = 0 then none else ts[i - 1]?) t = true ↔ Checked ts i t := by
  rw [isCheckedOperator_of_lexeme]
  cases i with
  | zero =>
    constructor
    · rintro ⟨op, hop, hspaced, hbinary⟩
      refine ⟨⟨op, hop, hspaced⟩, Or.inr ⟨rfl, fun sign hsign heq => ?_⟩⟩
      obtain rfl := Lexeme.operator.inj (hop.symm.trans heq)
      simp [isBinaryAfter, hop, Lexeme.isSign, (isSign_iff_of_isSpaced hspaced).2 hsign] at hbinary
    · rintro ⟨⟨op, hop, hspaced⟩, hplace⟩
      refine ⟨op, hop, hspaced, ?_⟩
      obtain ⟨k, u, hk, -⟩ | ⟨-, hsign⟩ := hplace
      · cases hk
      · have hnot : ¬ op.isSign = true := fun h => hsign op ((isSign_iff_of_isSpaced hspaced).1 h) hop
        simpa [isBinaryAfter, hop, Lexeme.isSign] using hnot
  | succ i =>
    obtain ⟨u, hu⟩ : ∃ u, ts[i]? = some u := by
      have hlt := (List.getElem?_eq_some_iff.1 ht).1
      exact ⟨ts[i], List.getElem?_eq_getElem (by omega)⟩
    have hbinary : isBinaryAfter (if i + 1 = 0 then none else ts[i + 1 - 1]?) t = u.lexeme.endsOperand := by
      simp [hu, isBinaryAfter, endsOperand]
    rw [hbinary]
    constructor
    · rintro ⟨op, hop, hspaced, hends⟩
      exact ⟨⟨op, hop, hspaced⟩, Or.inl ⟨i, u, rfl, hu, hends⟩⟩
    · rintro ⟨⟨op, hop, hspaced⟩, hplace⟩
      refine ⟨op, hop, hspaced, ?_⟩
      obtain ⟨k, v, hk, hv, hends⟩ | ⟨hzero, -⟩ := hplace
      · obtain rfl := Nat.succ.inj hk
        rwa [Option.some.inj (hu.symm.trans hv)]
      · cases hzero

/-- **What is found on the operators of a line**, one by one. -/
theorem mem_operatorFindings_iff {id : String} {severity : Severity} {l : Line} {e : Diagnostic} :
    e ∈ operatorFindings id severity l ↔ ∃ i t message left right, l.code[i]? = some t ∧ Checked l.code i t ∧
      SideFault (LeftGap l.text t) left ∧ SideFault (RightGap l.text t) right ∧ Words t.display left right message ∧
        misspaced .operatorSpacing id severity t message = e := by
  unfold operatorFindings
  rw [List.mem_filterMap]
  constructor
  · rintro ⟨⟨before, t⟩, hmem, he⟩
    obtain ⟨i, hi⟩ := List.mem_iff_getElem?.1 hmem
    rw [getElem?_withPrevious, Option.map_eq_some_iff] at hi
    obtain ⟨u, ht, hpair⟩ := hi
    obtain ⟨rfl, rfl⟩ := Prod.mk.inj hpair
    obtain ⟨message, hmessage, rfl⟩ := Option.map_eq_some_iff.1 he
    rw [operatorFault?, Option.ite_none_right_eq_some] at hmessage
    obtain ⟨hchecked, hmessage⟩ := hmessage
    exact ⟨i, u, message, _, _, ht, (isCheckedOperator_iff ht).1 hchecked,
      (bind_gapFault?_eq_iff fun gap => gapBefore?_eq_some_iff).1 rfl,
      (bind_gapFault?_eq_iff fun gap => gapAfter?_eq_some_iff).1 rfl, operatorMessage?_eq_some_iff.1 hmessage, rfl⟩
  · rintro ⟨i, t, message, left, right, ht, hchecked, hleft, hright, hwords, rfl⟩
    refine ⟨(if i = 0 then none else l.code[i - 1]?, t), ?_, ?_⟩
    · exact List.mem_iff_getElem?.2 ⟨i, by rw [getElem?_withPrevious, ht]; rfl⟩
    · dsimp only
      rw [operatorFault?, if_pos ((isCheckedOperator_iff ht).2 hchecked),
        (bind_gapFault?_eq_iff fun gap => gapBefore?_eq_some_iff).2 hleft,
        (bind_gapFault?_eq_iff fun gap => gapAfter?_eq_some_iff).2 hright, operatorMessage?_eq_some_iff.2 hwords]
      rfl

/-! ## Commas -/

/-- a bracket closes right behind a token -/
def ClosesBehind (line : List Char) (t : Token) : Prop := ∃ c rest, textAfter line t = c :: rest ∧ isClosingMark c = true

theorem closesBehind_iff {line : List Char} {t : Token} :
    (textAfter line t).head?.any isClosingMark = true ↔ ClosesBehind line t := by
  unfold ClosesBehind
  cases textAfter line t <;> simp

/-- the words on a gap before a comma -/
def commaBefore : String := "unexpected space before \",\""

/-- the words on a gap behind a comma -/
def commaAfter : GapFault → String
  | .missing => "missing space after \",\""
  | .extra => "expected exactly one space after \",\""

theorem mem_commaFaults_iff {line : List Char} {t : Token} {message : String} : message ∈ commaFaults line t ↔
    (message = commaBefore ∧ ∃ gap, LeftGap line t gap ∧ gap ≠ []) ∨
      ∃ fault, message = commaAfter fault ∧ SideFault (RightGap line t) (some fault) ∧ ¬ ClosesBehind line t := by
  have hright : ∀ fault, SideFault (RightGap line t) (some fault) ↔ (gapAfter? line t).bind gapFault? = some fault :=
    fun fault => (bind_gapFault?_eq_iff fun gap => gapAfter?_eq_some_iff).symm
  simp only [hright, ← closesBehind_iff, ← gapBefore?_eq_some_iff]
  unfold commaFaults
  rw [List.mem_append]
  refine or_congr ?before ?behind
  case before => rcases gapBefore? line t with _ | _ | _ <;> simp [commaBefore]
  case behind =>
    by_cases hcloses : (textAfter line t).head?.any isClosingMark = true
    · simp [hcloses]
    · rw [if_neg hcloses]
      generalize (gapAfter? line t).bind gapFault? = fault
      rcases fault with _ | _ | _
      · simp
      · simp [hcloses, commaAfter]
      · simp [hcloses, commaAfter]

/-- at most one thing is said of each side, the left one first -/
theorem commaFaults_ordered (line : List Char) (t : Token) :
    (commaFaults line t).Pairwise fun m n => m = commaBefore ∧ n ≠ commaBefore := by
  unfold commaFaults
  split <;> (try split) <;> (try split) <;> decide

/-- **What is found on the commas of a line**, one by one. -/
theorem mem_commaFindings_iff {id : String} {severity : Severity} {l : Line} {e : Diagnostic} :
    e ∈ commaFindings id severity l ↔ ∃ t ∈ l.code, t.lexeme = .punctuation ',' ∧
      ∃ message ∈ commaFaults l.text t, misspaced .commaSpacing id severity t message = e := by
  simp [commaFindings, List.mem_flatMap, and_assoc]

/-! ## The rules on a source -/

/-- what the rule on operators finds on a line -/
def lineOperatorFindings (l : Line) : List Diagnostic :=
  operatorFindings Problem.operatorSpacing.ruleId Problem.operatorSpacing.severity l

/-- what the rule on commas finds on a line -/
def lineCommaFindings (l : Line) : List Diagnostic :=
  commaFindings Problem.commaSpacing.ruleId Problem.commaSpacing.severity l

theorem operators_lineByLine (o : Options) :
    LineByLine (fun s => Rule.operatorSpacing.run s o) lineOperatorFindings :=
  checkOperators_lineByLine (by decide) _

theorem commas_lineByLine (o : Options) : LineByLine (fun s => Rule.commaSpacing.run s o) lineCommaFindings :=
  checkCommas_lineByLine (by decide) _

theorem operatorFindings_ordered {l : Line} (hread : l.WasRead) :
    (lineOperatorFindings l).Pairwise fun d e => d.column < e.column := by
  have hordered := Line.ordered_code hread
  rw [← map_snd_withPrevious none l.code, List.pairwise_map] at hordered
  refine List.Pairwise.filterMap _ ?_ hordered
  rintro ⟨_, t⟩ ⟨_, u⟩ hlt d hd e he
  obtain ⟨-, -, rfl⟩ := Option.map_eq_some_iff.1 hd
  obtain ⟨-, -, rfl⟩ := Option.map_eq_some_iff.1 he
  exact Int.ofNat_lt.2 hlt

/-- how two reports on commas follow each other: of one comma the gap before it comes first -/
def CommaOrder (d e : Diagnostic) : Prop :=
  d.place < e.place ∨ (d.place = e.place ∧ d.message = commaBefore ∧ e.message ≠ commaBefore)

theorem commaFindings_ordered {l : Line} (hread : l.WasRead) : (lineCommaFindings l).Pairwise CommaOrder := by
  have hline : ∀ t ∈ l.code, t.line = l.number := (Line.numbered_of_wasRead hread).code
  refine List.pairwise_flatMap.2 ⟨fun t ht => List.pairwise_map.2 ?_, ?_⟩
  · exact (commaFaults_ordered l.text t).imp fun hmn => Or.inr ⟨rfl, hmn⟩
  · refine ((Line.ordered_code hread).filter _).imp_of_mem fun {t u} ht hu hlt d hd e he => ?_
    obtain ⟨m, -, rfl⟩ := List.mem_map.1 hd
    obtain ⟨n, -, rfl⟩ := List.mem_map.1 he
    have hsame : t.line = u.line := by
      rw [hline t (List.mem_of_mem_filter ht), hline u (List.mem_of_mem_filter hu)]
    exact Or.inl (Prod.Lex.toLex_lt_toLex.2 (Or.inr ⟨hsame, Int.ofNat_lt.2 hlt⟩))

section Lines

variable {text : List Char} {texts : List (List Char)} {o : Options} {l : Line} {i : Nat} {t : Token}

/-- **One operator of a source**: what is reported of it -/
theorem operator_told_iff (hl : l ∈ Line.readAll texts) (ht : l.code[i]? = some t) {message : String} :
    (∃ e ∈ Rule.operatorSpacing.run ⟨text, Line.readAll texts⟩ o, e.At t ∧ e.message = message) ↔
      Checked l.code i t ∧ ∃ left right, SideFault (LeftGap l.text t) left ∧ SideFault (RightGap l.text t) right ∧
        Words t.display left right message := by
  have hline : ∀ e : Diagnostic, e.At t →
      (e ∈ Rule.operatorSpacing.run ⟨text, Line.readAll texts⟩ o ↔ e ∈ lineOperatorFindings l) :=
    fun e hat => (operators_lineByLine o).mem_at_iff hl (List.mem_of_getElem? ht) hat
  constructor
  · rintro ⟨e, he, hat, rfl⟩
    obtain ⟨j, u, message, left, right, hu, hchecked, hleft, hright, hwords, rfl⟩ :=
      mem_operatorFindings_iff.1 ((hline e hat).1 he)
    obtain rfl := Line.index_eq (Line.wasRead_readAll l hl) hu ht (Int.ofNat_inj.1 hat.column)
    obtain rfl := Option.some.inj (hu.symm.trans ht)
    exact ⟨hchecked, left, right, hleft, hright, hwords⟩
  · rintro ⟨hchecked, left, right, hleft, hright, hwords⟩
    refine ⟨_, (hline _ ⟨rfl, rfl⟩).2 (mem_operatorFindings_iff.2 ⟨i, t, message, left, right, ht, hchecked, hleft,
      hright, hwords, rfl⟩), ⟨rfl, rfl⟩, rfl⟩

/-- **One comma of a source**: what is reported of it -/
theorem comma_told_iff (hl : l ∈ Line.readAll texts) (ht : t ∈ l.code) (hcomma : t.lexeme = .punctuation ',')
    {message : String} :
    (∃ e ∈ Rule.commaSpacing.run ⟨text, Line.readAll texts⟩ o, e.At t ∧ e.message = message) ↔
      message ∈ commaFaults l.text t := by
  have hline : ∀ e : Diagnostic, e.At t →
      (e ∈ Rule.commaSpacing.run ⟨text, Line.readAll texts⟩ o ↔ e ∈ lineCommaFindings l) :=
    fun e hat => (commas_lineByLine o).mem_at_iff hl ht hat
  constructor
  · rintro ⟨e, he, hat, rfl⟩
    obtain ⟨u, hu, -, message, hmessage, rfl⟩ := mem_commaFindings_iff.1 ((hline e hat).1 he)
    obtain rfl : u = t := Line.token_eq_of_at hl hl hu ht ⟨rfl, rfl⟩ hat
    exact hmessage
  · intro hmessage
    exact ⟨_, (hline _ ⟨rfl, rfl⟩).2 (mem_commaFindings_iff.2 ⟨t, ht, hcomma, message, hmessage, rfl⟩), ⟨rfl, rfl⟩, rfl⟩

end Lines

end Rule.Spacing

/-! ## Main result -/

/-- a token that stands for its own text: a comment or a string -/
def Token.IsVerbatim (u : Token) : Prop :=
  (∃ written, u.lexeme = .comment written) ∨ ∃ written, u.lexeme = .stringLiteral written

open Rule.Spacing

/-- nothing is reported within a comment or a string of a source -/
def Source.SparesVerbatim (s : Source) (found : List Diagnostic) : Prop :=
  ∀ e ∈ found, ∀ l ∈ s.lines, e.line = l.number → ∀ u ∈ l.tokens, u.IsVerbatim →
    ¬ ((u.column : Int) ≤ e.column ∧ e.column < u.endColumn)

/-- what is reported on the operators of a source -/
structure Source.OperatorsTold (s : Source) (found : List Diagnostic) : Prop where
  /-- each report stands at a token of the code -/
  only : ∀ e ∈ found, e.ruleId = Problem.operatorSpacing.ruleId ∧ ∃ l ∈ s.lines, ∃ t ∈ l.code, e.At t
  /-- reports stand one behind the other, so there is at most one for a token -/
  once : found.Pairwise fun d e => d.place < e.place
  /-- a token is reported exactly if it is looked at and a gap beside it is not one space -/
  reported : ∀ l ∈ s.lines, ∀ i t, l.code[i]? = some t → ((∃ e ∈ found, e.At t) ↔
    Checked l.code i t ∧ ∃ gap, (LeftGap l.text t gap ∨ RightGap l.text t gap) ∧ gap ≠ [' '])
  /-- the message names the sides at fault -/
  words : ∀ l ∈ s.lines, ∀ t ∈ l.code, ∀ e ∈ found, e.At t → ∃ left right,
    SideFault (LeftGap l.text t) left ∧ SideFault (RightGap l.text t) right ∧ Words t.display left right e.message
  verbatim : s.SparesVerbatim found

/-- what is reported on the commas of a source -/
structure Source.CommasTold (s : Source) (found : List Diagnostic) : Prop where
  /-- each report stands at a comma -/
  only : ∀ e ∈ found, e.ruleId = Problem.commaSpacing.ruleId ∧
    ∃ l ∈ s.lines, ∃ t ∈ l.code, t.lexeme = .punctuation ',' ∧ e.At t
  /-- of a comma at most the gap before it and then the gap behind it are reported -/
  once : found.Pairwise CommaOrder
  /-- a gap before a comma is reported if it is there -/
  before : ∀ l ∈ s.lines, ∀ t ∈ l.code, t.lexeme = .punctuation ',' →
    ((∃ e ∈ found, e.At t ∧ e.message = commaBefore) ↔ ∃ gap, LeftGap l.text t gap ∧ gap ≠ [])
  /-- a gap behind a comma is reported if it is not one space, unless a bracket closes right behind the comma -/
  after : ∀ l ∈ s.lines, ∀ t ∈ l.code, t.lexeme = .punctuation ',' → ∀ fault,
    ((∃ e ∈ found, e.At t ∧ e.message = commaAfter fault) ↔
      SideFault (RightGap l.text t) (some fault) ∧ ¬ ClosesBehind l.text t)
  /-- nothing else is said of a comma -/
  words : ∀ e ∈ found, e.message = commaBefore ∨ ∃ fault, e.message = commaAfter fault
  verbatim : s.SparesVerbatim found

/-- a token of the code that is no string has no column in common with a comment or a string -/
theorem sparesVerbatim_of_at {texts : List (List Char)} {text : List Char} {found : List Diagnostic}
    (h : ∀ e ∈ found, ∃ l ∈ Line.readAll texts, ∃ t ∈ l.code, ¬ t.IsVerbatim ∧ e.At t) :
    Source.SparesVerbatim ⟨text, Line.readAll texts⟩ found := by
  rintro e he l hl hline u hu hverbatim ⟨hlow, hhigh⟩
  obtain ⟨m, hm, t, ht, hnot, hat⟩ := h e he
  have hnumber : m.number = l.number := by
    rw [← hline, hat.line, (Line.numbered_readAll m hm).code t ht]
  obtain rfl := Line.eq_of_number hm hl hnumber
  have hread := Line.wasRead_readAll m hm
  have htoken := List.mem_of_mem_filter ht
  have hne : t ≠ u := fun heq => hnot (heq ▸ hverbatim)
  have hpos : 0 < t.text.length := List.length_pos_iff.2 ((Line.tiles_of_wasRead hread).nonempty t htoken)
  have hend : t.endColumn = t.column + t.text.length := rfl
  rw [hat.column] at hlow hhigh
  rcases Line.apart_of_ne hread htoken hu hne with hbefore | hbehind <;> omega

theorem Rule.Spacing.Checked.not_isVerbatim {ts : List Token} {i : Nat} {t : Token} (h : Checked ts i t) :
    ¬ t.IsVerbatim := by
  obtain ⟨op, hop, -⟩ := h.spaced
  simp [Token.IsVerbatim, hop]

theorem operators_told (text : List Char) (texts : List (List Char)) (o : Options) :
    Source.OperatorsTold ⟨text, Line.readAll texts⟩ (Rule.operatorSpacing.run ⟨text, Line.readAll texts⟩ o) := by
  have hfound : ∀ e ∈ Rule.operatorSpacing.run ⟨text, Line.readAll texts⟩ o, e.ruleId = Problem.operatorSpacing.ruleId ∧
      ∃ l ∈ Line.readAll texts, ∃ t ∈ l.code, ¬ t.IsVerbatim ∧ e.At t := by
    intro e he
    obtain ⟨l, hl, he⟩ := List.mem_flatMap.1 he
    obtain ⟨i, t, message, left, right, ht, hchecked, -, -, -, rfl⟩ := mem_operatorFindings_iff.1 he
    exact ⟨rfl, l, hl, t, List.mem_of_getElem? ht, hchecked.not_isVerbatim, rfl, rfl⟩
  refine { only := fun e he => ?only, once := ?once, reported := fun l hl i t ht => ?reported,
           words := fun l hl t ht e he hat => ?words, verbatim := ?verbatim }
  case only =>
    obtain ⟨hrule, l, hl, t, ht, -, hat⟩ := hfound e he
    exact ⟨hrule, l, hl, t, ht, hat⟩
  case once =>
    exact (operators_lineByLine o).ordered fun l hl => operatorFindings_ordered (Line.wasRead_readAll l hl)
  case reported =>
    rw [← exists_words_iff t.display]
    constructor
    · rintro ⟨e, he, hat⟩
      obtain ⟨hchecked, htold⟩ := (operator_told_iff hl ht).1 ⟨e, he, hat, rfl⟩
      exact ⟨hchecked, e.message, htold⟩
    · rintro ⟨hchecked, message, htold⟩
      obtain ⟨e, he, hat, -⟩ := (operator_told_iff hl ht).2 ⟨hchecked, htold⟩
      exact ⟨e, he, hat⟩
  case words =>
    obtain ⟨i, hi⟩ := List.mem_iff_getElem?.1 ht
    exact ((operator_told_iff hl hi).1 ⟨e, he, hat, rfl⟩).2
  case verbatim => exact sparesVerbatim_of_at fun e he => (hfound e he).2

theorem commas_told (text : List Char) (texts : List (List Char)) (o : Options) :
    Source.CommasTold ⟨text, Line.readAll texts⟩ (Rule.commaSpacing.run ⟨text, Line.readAll texts⟩ o) := by
  have hfound : ∀ e ∈ Rule.commaSpacing.run ⟨text, Line.readAll texts⟩ o, e.ruleId = Problem.commaSpacing.ruleId ∧
      ∃ l ∈ Line.readAll texts, ∃ t ∈ l.code, t.lexeme = .punctuation ',' ∧ e.At t ∧ e.message ∈ commaFaults l.text t := by
    intro e he
    obtain ⟨l, hl, he⟩ := List.mem_flatMap.1 he
    obtain ⟨t, ht, hcomma, message, hmessage, rfl⟩ := mem_commaFindings_iff.1 he
    exact ⟨rfl, l, hl, t, ht, hcomma, ⟨rfl, rfl⟩, hmessage⟩
  have hwords : ∀ fault, commaAfter fault ≠ commaBefore := by rintro (_ | _) <;> decide
  have hfaults : ∀ fault fault', commaAfter fault = commaAfter fault' → fault = fault' := by
    rintro (_ | _) (_ | _) <;> decide
  refine { only := fun e he => ?only, once := ?once, before := fun l hl t ht hcomma => ?before,
           after := fun l hl t ht hcomma fault => ?after, words := fun e he => ?words, verbatim := ?verbatim }
  case only =>
    obtain ⟨hrule, l, hl, t, ht, hcomma, hat, -⟩ := hfound e he
    exact ⟨hrule, l, hl, t, ht, hcomma, hat⟩
  case once =>
    refine (commas_lineByLine o).pairwise (fun d e hlt => Or.inl (Prod.Lex.toLex_lt_toLex.2 (Or.inl hlt))) fun l hl => ?_
    exact commaFindings_ordered (Line.wasRead_readAll l hl)
  case before =>
    rw [comma_told_iff hl ht hcomma, mem_commaFaults_iff]
    constructor
    · rintro (⟨-, hgap⟩ | ⟨fault, heq, -⟩)
      · exact hgap
      · exact absurd heq.symm (hwords fault)
    · exact fun hgap => Or.inl ⟨rfl, hgap⟩
  case after =>
    rw [comma_told_iff hl ht hcomma, mem_commaFaults_iff]
    constructor
    · rintro (⟨heq, -⟩ | ⟨fault', heq, hfault⟩)
      · exact absurd heq (hwords fault)
      · rwa [hfaults fault fault' heq]
    · exact fun hfault => Or.inr ⟨fault, rfl, hfault⟩
  case words =>
    obtain ⟨-, l, -, t, -, -, -, hmessage⟩ := hfound e he
    rcases mem_commaFaults_iff.1 hmessage with ⟨hbefore, -⟩ | ⟨fault, hafter, -⟩
    · exact Or.inl hbefore
    · exact Or.inr ⟨fault, hafter⟩
  case verbatim =>
    refine sparesVerbatim_of_at fun e he => ?_
    obtain ⟨-, l, hl, t, ht, hcomma, hat, -⟩ := hfound e he
    exact ⟨l, hl, t, ht, by simp [Token.IsVerbatim, hcomma], hat⟩

/--
**The rules on spacing report exactly the gaps at fault**: beside operators between operands and beside commas, in the source
with any lines.
-/
theorem spacing_told (text : List Char) (texts : List (List Char)) (o : Options) :
    Source.OperatorsTold ⟨text, Line.readAll texts⟩ (Rule.operatorSpacing.run ⟨text, Line.readAll texts⟩ o) ∧
      Source.CommasTold ⟨text, Line.readAll texts⟩ (Rule.commaSpacing.run ⟨text, Line.readAll texts⟩ o) :=
  ⟨operators_told text texts o, commas_told text texts o⟩

/-- a sign is not looked at, a comment beside an operator counts, and a bracket may close right behind a comma -/
example : let s := Source.ofText "a =- b\t+//,c\n= f(\" ,\" ,d,) ,".toList
    ((Rule.operatorSpacing.run s {}).map fun e => (e.line, e.column, e.message),
      (Rule.commaSpacing.run s {}).map fun e => (e.line, e.column, e.message)) =
        ([(1, 3, "missing space after \"=\""),
          (1, 8, "expected exactly one space before \"+\" and missing space after \"+\"")],
          [(2, 10, "unexpected space before \",\""), (2, 10, "missing space after \",\""),
            (2, 15, "unexpected space before \",\"")]) := by
  decide +kernel

end VixStyle
