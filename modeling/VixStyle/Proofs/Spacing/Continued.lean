/-
The right side of the last token of a line that goes on.

Where the code of a line ends in a comma or in an operator that takes spaces, the expression goes on on the next line. A comment
behind this token is no code, so for the layout nothing stands there. The rules on spacing read the text of the line, and to them
the comment is what stands to the right of the token. Main statement, `right_side_told`: they find fault with the right side
exactly if a comment follows behind a gap that is not one space; without a comment they never do.

- `rightGap_last_iff`: the last token of the code has a gap to its right exactly before a comment of two slashes.
- `Words.right_eq_none_iff`: the words on an operator tell whether its right side is at fault.
- `not_right_side_spared`: the right side is not spared on every line that goes on.
-/
import VixStyle.Proofs.Spacing.Verdict
import VixStyle.Proofs.Token.Trailing
import VixStyle.Proofs.Token.Uncommented

namespace VixStyle

open Rule.Spacing

/-! ## Behind the last token of the code -/

namespace Segmentation

/-- what the scanner reads behind a segment -/
theorem exists_behind {leading : Bool} {s : List Char} {front back : List Segment} {p : Segment}
    (h : (ofFrom leading s).segments = front ++ p :: back) :
    (back = [] ∧ (ofFrom leading s).closed = false) ∨ ∃ after, (ofFrom false after).segments = back := by
  induction leading, s using ofFrom.induct generalizing front with
  | case1 leading s hs =>
    rw [ofFrom_of_blank hs] at h
    simp at h
  | case2 leading s c rest hs hn =>
    rw [ofFrom_of_open hs hn] at h ⊢
    cases front with
    | nil => exact Or.inl ⟨(List.cons.inj h).2.symm, rfl⟩
    | cons q front => simp at h
  | case3 leading s c rest hs l after hn ih =>
    rw [ofFrom_of_lexeme hs hn] at h ⊢
    cases front with
    | nil => exact Or.inr ⟨after, (List.cons.inj h).2⟩
    | cons q front => exact ih (List.cons.inj h).2

/-- behind a lexeme stands code, or a comment that runs to the end of the line -/
theorem isCode_or_isLineComment {s : List Char} {p : Segment} {more : List Segment}
    (h : (ofFrom false s).segments = p :: more) : p.lexeme.isCode = true ∨ p.lexeme.isLineComment = true := by
  cases hs : s.dropWhile Text.isBlank with
  | nil =>
    rw [ofFrom_of_blank hs] at h
    cases h
  | cons c rest =>
    cases hn : next? false c rest with
    | none =>
      rw [ofFrom_of_open hs hn] at h
      obtain ⟨rfl, -⟩ := List.cons.inj h
      exact Or.inl rfl
    | some found =>
      rw [ofFrom_of_lexeme hs hn] at h
      obtain ⟨rfl, -⟩ := List.cons.inj h
      by_cases hcode : found.1.isCode = true
      · exact Or.inl hcode
      · exact Or.inr (isLineComment_of_next? hn (by simpa using hcode))

end Segmentation

namespace Line

/-- behind the token of a segment stands the token of the next one -/
theorem exists_token_behind {number : Int} {text gap : List Char} {t : Token} {front back : List Segment} {p : Segment}
    (hsegments : (Segmentation.of text).segments = front ++ ⟨gap, t.lexeme⟩ :: p :: back)
    (hplace : t = ⟨t.lexeme, number, 1 + (front.flatMap Segment.text).length + gap.length⟩) :
    ∃ u ∈ (read number text).tokens, u.lexeme = p.lexeme ∧ t.column < u.column := by
  let upto : List Segment := front ++ [⟨gap, t.lexeme⟩]
  let column := 1 + (upto.flatMap Segment.text).length + p.gap.length
  have htokens : (read number text).tokens =
      placed number 1 upto ++ placed number (1 + (upto.flatMap Segment.text).length) (p :: back) := by
    rw [tokens_read, hsegments, ← List.singleton_append, ← List.append_assoc, placed_append]
  have htoken : t ∈ (read number text).tokens := by
    rw [htokens, placed_append, hplace]
    exact List.mem_append_left _ (List.mem_append_right _ List.mem_cons_self)
  have hpos := List.length_pos_iff.2 ((tiles_of_wasRead (wasRead_read number text)).nonempty t htoken)
  refine ⟨⟨p.lexeme, number, column⟩, htokens ▸ List.mem_append_right _ List.mem_cons_self, rfl, ?_⟩
  have hlexeme : t.lexeme.text.length = t.text.length := rfl
  have hcolumn := congrArg Token.column hplace
  simp only [column, upto, List.flatMap_append, List.flatMap_cons, List.flatMap_nil, Segment.text, List.length_append,
    List.length_nil] at hcolumn ⊢
  omega

section Last

variable {number : Int} {text : List Char} {init : List Token} {t : Token}
  (hcode : (read number text).code = init ++ [t])

include hcode

/-- no code stands behind the last token of the code -/
theorem not_isCode_behind_last {u : Token} (hu : u ∈ (read number text).tokens) (hlt : t.column < u.column) :
    u.lexeme.isCode = false := by
  by_contra hnot
  have hmem : u ∈ (read number text).code := List.mem_filter.2 ⟨hu, by simpa using hnot⟩
  have hordered := ordered_code (wasRead_read number text)
  rw [hcode] at hordered hmem
  rcases List.mem_append.1 hmem with hinit | hlast
  · have := (List.pairwise_append.1 hordered).2.2 u hinit t List.mem_cons_self
    omega
  · rw [List.mem_singleton.1 hlast] at hlt
    omega

/-- **Without a comment**, only blanks stand behind the last token of the code. -/
theorem behind_last_of_no_comment (hnone : ∀ u ∈ (read number text).tokens, ¬ u.lexeme.isLineComment = true) :
    ∀ c ∈ textAfter text t, Text.isBlank c = true := by
  have hmem : t ∈ (read number text).tokens := by
    have ht : t ∈ (read number text).code := hcode ▸ List.mem_append_right init List.mem_cons_self
    exact List.mem_of_mem_filter ht
  obtain ⟨front, back, gap, hsegments, hplace, -, htext⟩ := exists_segments hmem
  have hback : back = [] := by
    cases back with
    | nil => rfl
    | cons p more =>
      -- the token of the next segment would be code behind the last one, or a comment
      obtain ⟨u, hu, hlexeme, hlt⟩ := exists_token_behind hsegments hplace
      have hbehind := not_isCode_behind_last hcode hu hlt
      rw [hlexeme] at hbehind
      rcases Segmentation.exists_behind hsegments with ⟨hnil, -⟩ | ⟨after, hafter⟩
      · cases hnil
      rcases Segmentation.isCode_or_isLineComment hafter with hp | hp
      · exact absurd hp (by simpa using hbehind)
      · exact absurd (hlexeme ▸ hp) (hnone u hu)
  subst hback
  have hafter : textAfter text t = (Segmentation.of text).tail := by
    rw [hplace, Nat.add_comm 1, Nat.add_right_comm, ← List.length_append]
    exact textAfter_behind htext number
  rw [hafter]
  exact (Segmentation.spaced_ofFrom true text).tail

/-- **Before a comment**, only blanks stand behind the last token of the code. -/
theorem behind_last_of_comment {comment : Token} (hmem : comment ∈ (read number text).tokens)
    (hcomment : comment.lexeme.isLineComment = true) :
    textAfter text t = between text t.endColumn comment.column ++ comment.text ∧
      ∀ c ∈ between text t.endColumn comment.column, Text.isBlank c = true := by
  obtain ⟨before, gap, after, hbefore, hblank, hplace⟩ := last_uncommented hmem hcomment hcode
  obtain ⟨-, -, -, -, htext, -⟩ := exists_uncommented hmem hcomment
  have hgap : between text t.endColumn comment.column = after := by
    have hfront : between text t.endColumn comment.column = textAfter (textBefore text comment) t := rfl
    rw [hfront, hplace]
    exact textAfter_behind hbefore number
  have hwhole : text = before ++ gap ++ t.text ++ (after ++ comment.text) := by
    rw [← List.append_assoc, ← hbefore]
    exact htext
  rw [hgap]
  refine ⟨?_, hblank⟩
  rw [hplace]
  exact textAfter_behind hwhole number

end Last

end Line

/-! ## What is said of the right side -/

namespace Rule.Spacing

/-- the words on one side end in the side and the operator -/
theorem exists_sideMessage (operator side : String) (fault : GapFault) :
    ∃ stem : String, sideMessage operator side fault = stem ++ side ++ (" \"" ++ operator ++ "\"") := by
  cases fault with
  | missing =>
    refine ⟨"missing space ", ?_⟩
    rw [← String.append_assoc, ← String.append_assoc]
    rfl
  | extra =>
    refine ⟨"expected exactly one space ", ?_⟩
    rw [← String.append_assoc, ← String.append_assoc]
    rfl

/-- **The last side that words on an operator name**: the left one exactly if the right one is not at fault. -/
theorem Words.exists_side {operator : String} {left right : Option GapFault} {message : String}
    (h : Words operator left right message) : ∃ stem side : String, side ∈ ["around", "before", "after"] ∧
      (side = "before" ↔ right = none) ∧ message = stem ++ side ++ (" \"" ++ operator ++ "\"") := by
  cases h with
  | around =>
    refine ⟨"missing spaces ", "around", by simp, by simp, ?_⟩
    rw [← String.append_assoc, ← String.append_assoc, (by decide : "missing spaces " ++ "around" ++ " \"" = "missing spaces around \"")]
  | before fault =>
    obtain ⟨stem, hstem⟩ := exists_sideMessage operator "before" fault
    exact ⟨stem, "before", by simp, by simp, hstem⟩
  | after fault =>
    obtain ⟨stem, hstem⟩ := exists_sideMessage operator "after" fault
    exact ⟨stem, "after", by simp, by simp, hstem⟩
  | both left fault _ =>
    obtain ⟨stem, hstem⟩ := exists_sideMessage operator "after" fault
    exact ⟨sideMessage operator "before" left ++ " and " ++ stem, "after", by simp, by simp,
      by rw [hstem]; simp only [String.append_assoc]⟩

/-- **The words on an operator tell** whether its right side is at fault. -/
theorem Words.right_eq_none_iff {operator : String} {left right left' right' : Option GapFault} {message : String}
    (h : Words operator left right message) (h' : Words operator left' right' message) : right = none ↔ right' = none := by
  obtain ⟨stem, side, hside, hnone, hstem⟩ := h.exists_side
  obtain ⟨stem', side', hside', hnone', hstem'⟩ := h'.exists_side
  have hsame := congrArg String.toList (hstem.symm.trans hstem')
  simp only [String.toList_append, List.append_cancel_right_eq] at hsame
  -- the sides end in different letters
  have hlast := congrArg List.getLast? hsame
  rw [← hnone, ← hnone']
  simp only [List.mem_cons, List.not_mem_nil, or_false] at hside hside'
  rcases hside with rfl | rfl | rfl <;> rcases hside' with rfl | rfl | rfl <;> simp at hlast ⊢

end Rule.Spacing

/-- a report of a rule on spacing that finds fault with the right side of a token -/
inductive Diagnostic.BlamesRight (t : Token) (d : Diagnostic) : Prop
  | operator {left : Option GapFault} {fault : GapFault} (hrule : d.ruleId = Problem.operatorSpacing.ruleId) (hat : d.At t)
      (hwords : Words t.display left (some fault) d.message)
  | comma {fault : GapFault} (hrule : d.ruleId = Problem.commaSpacing.ruleId) (hat : d.At t)
      (hwords : d.message = commaAfter fault)

/-- a token that leaves an expression unfinished: a comma, or an operator that takes spaces -/
def Token.IsUnfinished (t : Token) : Prop :=
  t.lexeme = .punctuation ',' ∨ ∃ op, t.lexeme = .operator op ∧ op.isSpaced = true

/-- what the two rules on spacing report of a source -/
def Source.spacingReports (s : Source) (o : Options) : List Diagnostic :=
  Rule.operatorSpacing.run s o ++ Rule.commaSpacing.run s o

/-- a line whose code ends in an unfinished token goes on -/
theorem continues_of_isUnfinished {init : List Token} {t : Token} (h : t.IsUnfinished) :
    continuesOnNextLine (init ++ [t]) = true := by
  unfold continuesOnNextLine
  rw [List.getLast?_concat, Option.map_some]
  rcases h with hcomma | ⟨op, hop, hspaced⟩
  · rw [hcomma]
    rfl
  · rw [hop]
    cases op <;> simp [Operator.isSpaced] at hspaced ⊢

section Told

variable {text : List Char} {texts : List (List Char)} {o : Options} {l : Line} {t : Token}

/-- **An operator is blamed for its right side** exactly if it is looked at and has a gap there that is not one space. -/
theorem operator_blamed_iff (hl : l ∈ Line.readAll texts) {i : Nat} (ht : l.code[i]? = some t) :
    (∃ e ∈ Rule.operatorSpacing.run ⟨text, Line.readAll texts⟩ o, e.BlamesRight t) ↔
      Checked l.code i t ∧ ∃ gap, RightGap l.text t gap ∧ gap ≠ [' '] := by
  have hrule : ∀ e ∈ Rule.operatorSpacing.run ⟨text, Line.readAll texts⟩ o, e.ruleId = Problem.operatorSpacing.ruleId :=
    fun e he => ((operators_told text texts o).only e he).1
  rw [← exists_sideFault_iff]
  constructor
  · rintro ⟨e, he, hblames⟩
    cases hblames with
    | operator _ hat hwords =>
      obtain ⟨hchecked, left, right, -, hright, hsaid⟩ := (operator_told_iff hl ht).1 ⟨e, he, hat, rfl⟩
      cases right with
      | some fault => exact ⟨hchecked, fault, hright⟩
      | none => cases (hsaid.right_eq_none_iff hwords).1 rfl
    | comma hcomma => exact absurd ((hrule e he).symm.trans hcomma) (by decide)
  · rintro ⟨hchecked, fault, hfault⟩
    obtain ⟨left, hleft⟩ := exists_sideFault (LeftGap l.text t)
    obtain ⟨message, hmessage⟩ : ∃ message, operatorMessage? t.display left (some fault) = some message := by
      rw [← Option.ne_none_iff_exists', ne_eq, operatorMessage?_eq_none_iff]
      simp
    have hwords := operatorMessage?_eq_some_iff.1 hmessage
    obtain ⟨e, he, hat, rfl⟩ := (operator_told_iff hl ht).2 ⟨hchecked, left, some fault, hleft, hfault, hwords⟩
    exact ⟨e, he, .operator (hrule e he) hat hwords⟩

/-- **A comma is blamed for its right side** exactly if it has a gap there that is not one space and no bracket closes. -/
theorem comma_blamed_iff (hl : l ∈ Line.readAll texts) (ht : t ∈ l.code) :
    (∃ e ∈ Rule.commaSpacing.run ⟨text, Line.readAll texts⟩ o, e.BlamesRight t) ↔
      t.lexeme = .punctuation ',' ∧ (∃ gap, RightGap l.text t gap ∧ gap ≠ [' ']) ∧ ¬ ClosesBehind l.text t := by
  have htold := commas_told text texts o
  rw [← exists_sideFault_iff]
  constructor
  · rintro ⟨e, he, hblames⟩
    obtain ⟨hrule, m, hm, u, hu, hcomma, hat⟩ := htold.only e he
    cases hblames with
    | operator hoperator => exact absurd (hrule.symm.trans hoperator) (by decide)
    | comma _ hat' hwords =>
      obtain rfl : u = t := Line.token_eq_of_at hm hl hu ht hat hat'
      obtain ⟨hfault, hcloses⟩ := (htold.after l hl u ht hcomma _).1 ⟨e, he, hat, hwords⟩
      exact ⟨hcomma, ⟨_, hfault⟩, hcloses⟩
  · rintro ⟨hcomma, ⟨fault, hfault⟩, hcloses⟩
    obtain ⟨e, he, hat, hwords⟩ := (htold.after l hl t ht hcomma fault).2 ⟨hfault, hcloses⟩
    exact ⟨e, he, .comma (htold.only e he).1 hat hwords⟩

end Told

/-! ## Main result -/

/-- a comment that runs to the end of its line starts with a slash -/
theorem Token.exists_slash {comment : Token} (h : comment.lexeme.isLineComment = true) : ∃ more, comment.text = '/' :: more := by
  obtain ⟨more, hmore⟩ := Lexeme.exists_of_isLineComment h
  exact ⟨'/' :: more, congrArg Lexeme.text hmore⟩

section Last

variable {l : Line} (hread : l.WasRead) {init : List Token} {t : Token} (hcode : l.code = init ++ [t])

include hread hcode

/-- **The gap behind the last token of the code** is the one before a comment; without a comment there is none. -/
theorem rightGap_last_iff {gap : List Char} : RightGap l.text t gap ↔
    ∃ comment ∈ l.tokens, comment.lexeme.isLineComment = true ∧ gap = between l.text t.endColumn comment.column := by
  rw [hread] at hcode ⊢
  rw [Line.text_read]
  have hbefore : ∀ comment ∈ (Line.read l.number l.text).tokens, comment.lexeme.isLineComment = true →
      (RightGap l.text t gap ↔ gap = between l.text t.endColumn comment.column) := by
    intro comment hmem hcomment
    obtain ⟨htext, hblank⟩ := Line.behind_last_of_comment hcode hmem hcomment
    obtain ⟨more, hslash⟩ := Token.exists_slash hcomment
    rw [← gapAfter?_eq_some_iff, gapAfter?, htext, hslash, leadingGap?_append hblank (by decide), Option.some.injEq, eq_comm]
  constructor
  · intro hgap
    by_contra hnone
    push Not at hnone
    have hblank := Line.behind_last_of_no_comment hcode fun comment hmem hcomment =>
      hnone comment hmem hcomment ((hbefore comment hmem hcomment).1 hgap)
    obtain ⟨c, rest, htext, hc, -⟩ := hgap
    exact absurd (hblank c (by simp [htext])) (by simp [hc])
  · rintro ⟨comment, hmem, hcomment, hgap⟩
    exact (hbefore comment hmem hcomment).2 hgap

/-- no bracket closes behind the last token of the code -/
theorem not_closesBehind_last : ¬ ClosesBehind l.text t := by
  rintro ⟨c, rest, htext, hcloses⟩
  have hsolid : Text.isBlank c = false := by
    simp only [isClosingMark, Bool.or_eq_true, beq_iff_eq] at hcloses
    rcases hcloses with (rfl | rfl) | rfl <;> decide
  -- it would leave no gap, so it would be the first slash of a comment
  have hgap : RightGap l.text t [] := ⟨c, rest, htext, hsolid, List.forall_mem_nil _⟩
  obtain ⟨comment, hmem, hcomment, hnil⟩ := (rightGap_last_iff hread hcode).1 hgap
  rw [hread] at hcode hmem htext hnil
  rw [Line.text_read] at htext hnil
  obtain ⟨more, hslash⟩ := Token.exists_slash hcomment
  have hafter := (Line.behind_last_of_comment hcode hmem hcomment).1
  rw [htext, ← hnil, hslash] at hafter
  rw [(List.cons.inj hafter).1] at hcloses
  exact absurd hcloses (by decide)

end Last

section Main

variable (text : List Char) (texts : List (List Char)) (o : Options)

/--
**The right side of the last token of a line that goes on**: it is reported exactly if a comment follows behind a gap that is
not one space, unless the token is a sign that is not looked at.
-/
theorem right_side_told {l : Line} (hl : l ∈ Line.readAll texts) {init : List Token} {t : Token}
    (hcode : l.code = init ++ [t]) (hopen : t.IsUnfinished) :
    continuesOnNextLine l.code = true ∧
      ((∃ e ∈ Source.spacingReports ⟨text, Line.readAll texts⟩ o, e.BlamesRight t) ↔
        (t.lexeme = .punctuation ',' ∨ Checked l.code init.length t) ∧
          ∃ comment ∈ l.tokens, comment.lexeme.isLineComment = true ∧
            between l.text t.endColumn comment.column ≠ [' ']) := by
  refine ⟨hcode ▸ continues_of_isUnfinished hopen, ?_⟩
  have ht : l.code[init.length]? = some t := by simp [hcode]
  have hgap : (∃ gap, RightGap l.text t gap ∧ gap ≠ [' ']) ↔ ∃ comment ∈ l.tokens,
      comment.lexeme.isLineComment = true ∧ between l.text t.endColumn comment.column ≠ [' '] := by
    simp only [rightGap_last_iff (Line.wasRead_readAll l hl) hcode]
    constructor
    · rintro ⟨gap, ⟨comment, hmem, hcomment, rfl⟩, hone⟩
      exact ⟨comment, hmem, hcomment, hone⟩
    · rintro ⟨comment, hmem, hcomment, hone⟩
      exact ⟨_, ⟨comment, hmem, hcomment, rfl⟩, hone⟩
  rw [← hgap]
  calc (∃ e ∈ Source.spacingReports ⟨text, Line.readAll texts⟩ o, e.BlamesRight t)
      ↔ (∃ e ∈ Rule.operatorSpacing.run ⟨text, Line.readAll texts⟩ o, e.BlamesRight t) ∨
          ∃ e ∈ Rule.commaSpacing.run ⟨text, Line.readAll texts⟩ o, e.BlamesRight t := by
        simp only [Source.spacingReports, List.mem_append, or_and_right, exists_or]
    _ ↔ (Checked l.code init.length t ∧ ∃ gap, RightGap l.text t gap ∧ gap ≠ [' ']) ∨
          (t.lexeme = .punctuation ',' ∧ ∃ gap, RightGap l.text t gap ∧ gap ≠ [' ']) := by
        rw [operator_blamed_iff hl ht, comma_blamed_iff hl (List.mem_of_getElem? ht)]
        refine or_congr_right (and_congr_right fun _ => and_iff_left_of_imp ?_)
        exact fun _ => not_closesBehind_last (Line.wasRead_readAll l hl) hcode
    _ ↔ _ := by rw [← or_and_right, or_comm]

end Main

/-- two spaces between an operator and a comment are reported -/
theorem right_side_told_commented :
    let l := Line.read 1 "x = a +  // b".toList
    let t : Token := ⟨.operator .add, 1, 7⟩
    l ∈ Line.readAll [l.text] ∧ l.code = l.code.dropLast ++ [t] ∧ t.IsUnfinished ∧ continuesOnNextLine l.code = true ∧
      ∃ e ∈ Source.spacingReports ⟨[], Line.readAll [l.text]⟩ {}, e.BlamesRight t := by
  intro l t
  have hl : l ∈ Line.readAll [l.text] := by decide +kernel
  have hcode : l.code = l.code.dropLast ++ [t] := by decide +kernel
  have hopen : t.IsUnfinished := Or.inr ⟨.add, rfl, rfl⟩
  obtain ⟨hcontinues, htold⟩ := right_side_told [] [l.text] {} hl hcode hopen
  have hchecked : Checked l.code l.code.dropLast.length t :=
    ⟨⟨.add, rfl, rfl⟩, Or.inl ⟨2, ⟨.identifier "a".toList, 1, 5⟩, by decide +kernel, by decide +kernel, rfl⟩⟩
  refine ⟨hl, hcode, hopen, hcontinues, htold.2 ⟨Or.inr hchecked, ⟨.comment "// b".toList, 1, 10⟩, ?_, rfl, ?_⟩⟩ <;>
    decide +kernel

/-- **The right side is not spared** on every line that goes on: three spaces before a comment are reported. -/
theorem not_right_side_spared : ¬ ∀ (text : List Char) (o : Options) (l : Line) (init : List Token) (t : Token),
    l ∈ (Source.ofText text).lines → l.code = init ++ [t] → t.IsUnfinished →
      ∀ e ∈ Source.spacingReports (Source.ofText text) o, ¬ e.BlamesRight t := by
  intro h
  let t : Token := ⟨.operator .add, 1, 7⟩
  let e : Diagnostic := misspaced .operatorSpacing Problem.operatorSpacing.ruleId Problem.operatorSpacing.severity t
    (sideMessage "+" "after" .extra)
  have hspared := h "x = a +   // c\n    b".toList {} (Line.read 1 "x = a +   // c".toList)
    [⟨.identifier "x".toList, 1, 1⟩, ⟨.operator .assign, 1, 3⟩, ⟨.identifier "a".toList, 1, 5⟩] t
    (by decide +kernel) (by decide +kernel) (Or.inr ⟨.add, rfl, rfl⟩) e (by decide +kernel)
  exact hspared (.operator rfl ⟨rfl, rfl⟩ (.after .extra))

end VixStyle
