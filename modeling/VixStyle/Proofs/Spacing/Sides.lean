/-
What the rules on spacing read of a line.

Both rules go along the code of a line and say something of each token, given the token before it and the text on its two sides
(`TokenByToken`). So what they say of a token stays the same where the text on its sides looks the same (`SameBeside`), whatever
string literals read (`TokenByToken.find_swapped`). And where nothing but blanks is left behind the last token, nothing is said
of its right side any more (`operatorReport_open`, `commaReport_open`).
-/
import VixStyle.Proofs.Source.Alike
import VixStyle.Proofs.Spacing.Verdict

namespace VixStyle

open Text

/-- a token of a line begins with a character that is not blank -/
theorem Line.head_solid {l : Line} (hread : l.WasRead) {t : Token} (ht : t ∈ l.tokens) :
    ∃ c ∈ t.text, Text.isBlank c = false := by
  rw [hread, Line.tokens_read] at ht
  obtain ⟨-, -, s, hs, hlexeme⟩ := mem_placed ht
  obtain ⟨c, body, htext, hc⟩ := (Segmentation.solid_ofFrom true l.text).head s hs
  refine ⟨c, ?_, hc⟩
  rw [Token.text, hlexeme, htext]
  exact List.mem_cons_self

namespace Rule.Spacing

/-! ## The sides of a token -/

/-- two lines of text that look the same on both sides of a token -/
structure SameBeside (text text' : List Char) (t : Token) : Prop where
  before : gapBefore? text' t = gapBefore? text t
  after : gapAfter? text' t = gapAfter? text t
  next : (textAfter text' t).head? = (textAfter text t).head?

theorem SameBeside.of_eq {text text' : List Char} {t : Token} (hbefore : textBefore text' t = textBefore text t)
    (hafter : textAfter text' t = textAfter text t) : SameBeside text text' t :=
  ⟨by rw [gapBefore?, gapBefore?, hbefore], by rw [gapAfter?, gapAfter?, hafter], by rw [hafter]⟩

theorem SameBeside.trans_symm {text text' front : List Char} {t : Token} (h : SameBeside text front t)
    (h' : SameBeside text' front t) : SameBeside text text' t :=
  ⟨h'.before.symm.trans h.before, h'.after.symm.trans h.after, h'.next.symm.trans h.next⟩

section Gaps

variable {s : List Char} (h : ∃ c ∈ s, isBlank c = false)

include h

theorem not_all_blank : s.all isBlank = false := by
  obtain ⟨c, hc, hsolid⟩ := h
  apply Bool.eq_false_iff.2
  intro hall
  rw [List.all_eq_true.1 hall c hc] at hsolid
  cases hsolid

theorem takeWhile_front (back : List Char) : (s ++ back).takeWhile isBlank = s.takeWhile isBlank := by
  rw [List.takeWhile_append, if_neg]
  intro hlength
  have hwhole : s.takeWhile isBlank = s := (List.takeWhile_prefix isBlank).eq_of_length hlength
  obtain ⟨c, hc, hsolid⟩ := h
  rw [← hwhole] at hc
  rw [List.mem_takeWhile_imp hc] at hsolid
  cases hsolid

/-- the gap at the start of a text is not changed behind a character that is not blank -/
theorem leadingGap?_front (back : List Char) : leadingGap? (s ++ back) = leadingGap? s := by
  have hmore : ∃ c ∈ s ++ back, isBlank c = false := by
    obtain ⟨c, hc, hsolid⟩ := h
    exact ⟨c, List.mem_append_left back hc, hsolid⟩
  rw [leadingGap?, leadingGap?, not_all_blank h, not_all_blank hmore, takeWhile_front h]

/-- the gap at the end of a text is not changed before a character that is not blank -/
theorem trailingGap?_back (front : List Char) : trailingGap? (front ++ s) = trailingGap? s := by
  have hreverse : ∃ c ∈ s.reverse, isBlank c = false := by
    obtain ⟨c, hc, hsolid⟩ := h
    exact ⟨c, List.mem_reverse.2 hc, hsolid⟩
  rw [trailingGap?_eq, trailingGap?_eq, List.reverse_append, leadingGap?_front hreverse]

end Gaps

/-- behind a token, there is a character that is not blank if another token stands there -/
theorem solid_behind {l : Line} (hread : l.WasRead) {t u : Token} (hu : u ∈ l.tokens) (h : t.endColumn ≤ u.column) :
    ∃ c ∈ textAfter l.text t, isBlank c = false := by
  have hpiece := ((Line.tiles_of_wasRead hread).standing u hu).2
  obtain ⟨c, hc, hsolid⟩ := Line.head_solid hread hu
  unfold between at hpiece
  rw [← hpiece, List.drop_take] at hc
  refine ⟨c, ?_, hsolid⟩
  exact (List.drop_sublist_drop_left l.text (Nat.sub_le_sub_right h 1)).subset (List.mem_of_mem_take hc)

/-- **The text before a comment** looks as with the comment beside each token that another one follows. -/
theorem SameBeside.of_front {front back : List Char} {t : Token} (hend : t.endColumn - 1 ≤ front.length)
    (hsolid : ∃ c ∈ textAfter front t, isBlank c = false) : SameBeside (front ++ back) front t := by
  have hcolumn : t.column - 1 ≤ front.length := by
    have : t.endColumn = t.column + t.text.length := rfl
    omega
  have hbefore : textBefore (front ++ back) t = textBefore front t := List.take_append_of_le_length hcolumn
  have hafter : textAfter (front ++ back) t = textAfter front t ++ back := List.drop_append_of_le_length hend
  refine ⟨?_, ?_, ?_⟩
  · rw [gapBefore?, gapBefore?, hbefore]
  · rw [gapAfter?, gapAfter?, hafter, leadingGap?_front hsolid]
  · rw [hafter]
    obtain ⟨c, hc, -⟩ := hsolid
    obtain ⟨d, rest, hrest⟩ := List.exists_cons_of_ne_nil (List.ne_nil_of_mem hc)
    rw [hrest]
    rfl

/-- beside a token that stands before the first difference of two texts, they look the same, if a character that is not
blank lies between -/
theorem SameBeside.of_before {x a b : List Char} {c : Char} {t : Token} (hend : t.endColumn - 1 ≤ x.length)
    (hc : isBlank c = false) : SameBeside (x ++ c :: a) (x ++ c :: b) t := by
  have hafter : textAfter (x ++ [c]) t = textAfter x t ++ [c] := List.drop_append_of_le_length hend
  have hsolid : ∃ d ∈ textAfter (x ++ [c]) t, isBlank d = false := by
    rw [hafter]
    exact ⟨c, List.mem_append_right _ List.mem_cons_self, hc⟩
  have hlong : t.endColumn - 1 ≤ (x ++ [c]).length := hend.trans (List.prefix_append x [c]).length_le
  have hfront : ∀ back, SameBeside (x ++ c :: back) (x ++ [c]) t := by
    intro back
    rw [List.append_cons x c back]
    exact .of_front hlong hsolid
  exact (hfront a).trans_symm (hfront b)

/-- beside a token that stands behind the last difference of two texts, they look the same, if a character that is not
blank lies between -/
theorem SameBeside.of_behind {y a b : List Char} {c : Char} {t : Token} (hlength : a.length = b.length)
    (hcolumn : a.length < t.column - 1) (hc : isBlank c = false) : SameBeside (a ++ c :: y) (b ++ c :: y) t := by
  obtain ⟨k, hk⟩ : ∃ k, t.column - 1 = a.length + (k + 1) := ⟨t.column - 1 - a.length - 1, by omega⟩
  have hbefore : ∀ x : List Char, x.length = a.length → textBefore (x ++ c :: y) t = x ++ c :: y.take k := by
    intro x hx
    rw [textBefore, hk, ← hx, List.take_length_add_append]
    rfl
  have hsolid : ∃ d ∈ c :: y.take k, isBlank d = false := ⟨c, List.mem_cons_self, hc⟩
  have hend : t.endColumn - 1 = a.length + (k + 1 + t.text.length) := by
    have : t.endColumn = t.column + t.text.length := rfl
    omega
  have hafter : ∀ x : List Char, x.length = a.length → textAfter (x ++ c :: y) t = (c :: y).drop (k + 1 + t.text.length) := by
    intro x hx
    rw [textAfter, hend, ← hx, List.drop_length_add_append]
  refine ⟨?_, ?_, ?_⟩
  · rw [gapBefore?, gapBefore?, hbefore a rfl, hbefore b hlength.symm, trailingGap?_back hsolid, trailingGap?_back hsolid]
  · rw [gapAfter?, gapAfter?, hafter a rfl, hafter b hlength.symm]
  · rw [hafter a rfl, hafter b hlength.symm]

/-! ## Token by token -/

/-- findings on a line, token by token: what is said of each on the text of the line, behind the token before it -/
structure TokenByToken (find : Line → List Diagnostic) (say : List Char → Option Token → Token → List Diagnostic) : Prop where
  find_eq : ∀ l, find l = (withPrevious none l.code).flatMap fun p => say l.text p.1 p.2
  place : ∀ text before t, ∀ d ∈ say text before t, d.At t
  swapped : ∀ {old new f}, Token.Swaps old new f → ∀ {text text' t}, SameBeside text text' t → ∀ before : Option Token,
    say text' (before.map f) (f t) = say text before t

/-- what is said of an operator with the given faults on its two sides -/
def operatorReport (t : Token) (left right : Option GapFault) : List Diagnostic :=
  ((operatorMessage? t.display left right).map
    (misspaced .operatorSpacing Problem.operatorSpacing.ruleId Problem.operatorSpacing.severity t)).toList

/-- what is said of a comma with a gap before it or not, and with the given fault behind it -/
def commaReport (t : Token) (before : Bool) (right : Option GapFault) : List Diagnostic :=
  ((if before then [commaBefore] else []) ++ (right.map commaAfter).toList).map
    (misspaced .commaSpacing Problem.commaSpacing.ruleId Problem.commaSpacing.severity t)

/-- what the rule on operators says of a token -/
def sayOperator (text : List Char) (before : Option Token) (t : Token) : List Diagnostic :=
  if isCheckedOperator before t then
    operatorReport t ((gapBefore? text t).bind gapFault?) ((gapAfter? text t).bind gapFault?)
  else []

/-- what is wrong with the gap behind a comma: nothing, if a bracket closes there -/
def commaFault? (text : List Char) (t : Token) : Option GapFault :=
  if (textAfter text t).head?.any isClosingMark then none else (gapAfter? text t).bind gapFault?

/-- what the rule on commas says of a token -/
def sayComma (text : List Char) (_before : Option Token) (t : Token) : List Diagnostic :=
  if t.lexeme = .punctuation ',' then
    commaReport t ((gapBefore? text t).any fun gap => !gap.isEmpty) (commaFault? text t)
  else []

section Swaps

variable {old new : List Char} {f : Token → Token} (hf : Token.Swaps old new f)

include hf

theorem isBinaryAfter_swapped (before : Option Token) (t : Token) :
    isBinaryAfter (before.map f) (f t) = isBinaryAfter before t := by
  cases before with
  | none => exact congrArg not ((hf.alike t).congr Lexeme.isSign fun _ _ => rfl)
  | some b => exact endsOperand_map hf.alike b

theorem isCheckedOperator_swapped (before : Option Token) (t : Token) :
    isCheckedOperator (before.map f) (f t) = isCheckedOperator before t := by
  unfold isCheckedOperator
  rw [isBinaryAfter_swapped hf]
  rcases (hf.alike t).eq_or_strings with h | ⟨written, written', h, h'⟩
  · rw [h]
  · rw [h, h']

end Swaps

theorem operators_tokenByToken : TokenByToken lineOperatorFindings sayOperator where
  find_eq l := by
    unfold lineOperatorFindings operatorFindings
    rw [List.filterMap_eq_flatMap_toList]
    apply List.flatMap_congr
    rintro ⟨before, t⟩ -
    dsimp only
    unfold operatorFault? sayOperator operatorReport
    by_cases hchecked : isCheckedOperator before t = true
    · rw [if_pos hchecked, if_pos hchecked]
    · rw [if_neg hchecked, if_neg hchecked]
      rfl
  place text before t d hd := by
    unfold sayOperator at hd
    split at hd
    · obtain ⟨message, -, rfl⟩ := Option.map_eq_some_iff.1 (Option.mem_toList.1 hd)
      exact ⟨rfl, rfl⟩
    · cases hd
  swapped {old new f} hf {text text' t} h before := by
    unfold sayOperator
    rw [isCheckedOperator_swapped hf]
    cases hchecked : isCheckedOperator before t with
    | false => rfl
    | true =>
      obtain ⟨op, hop, -⟩ := isCheckedOperator_of_lexeme.1 hchecked
      rw [hf.eq_of_not_string (fun written heq => by simp [heq] at hop), h.before, h.after]

theorem commas_tokenByToken : TokenByToken lineCommaFindings sayComma where
  find_eq l := by
    have hfaults : ∀ t, commaFaults l.text t =
        (if (gapBefore? l.text t).any fun gap => !gap.isEmpty then [commaBefore] else []) ++
          ((commaFault? l.text t).map commaAfter).toList := by
      intro t
      unfold commaFaults commaFault?
      dsimp only
      refine congrArg₂ (· ++ ·) ?left ?right
      case left => rcases gapBefore? l.text t with _ | _ | _ <;> rfl
      case right =>
        by_cases hcloses : (textAfter l.text t).head?.any isClosingMark = true
        · rw [if_pos hcloses, if_pos hcloses]
          rfl
        · rw [if_neg hcloses, if_neg hcloses]
          rcases (gapAfter? l.text t).bind gapFault? with _ | _ | _ <;> rfl
    unfold lineCommaFindings commaFindings
    rw [← map_snd_withPrevious none l.code, List.filter_map, List.flatMap_map, map_snd_withPrevious]
    induction withPrevious none l.code with
    | nil => rfl
    | cons p ps ih =>
      rw [List.flatMap_cons, ← ih, sayComma]
      by_cases hcomma : p.2.lexeme = .punctuation ','
      · rw [List.filter_cons_of_pos (by simp [hcomma]), List.flatMap_cons, if_pos hcomma, commaReport, hfaults]
      · rw [List.filter_cons_of_neg (by simp [hcomma]), if_neg hcomma, List.nil_append]
  place text before t d hd := by
    unfold sayComma at hd
    split at hd
    · obtain ⟨message, -, rfl⟩ := List.mem_map.1 hd
      exact ⟨rfl, rfl⟩
    · cases hd
  swapped {old new f} hf {text text' t} h before := by
    unfold sayComma
    by_cases hcomma : t.lexeme = .punctuation ','
    · have hsame : f t = t := hf.eq_of_not_string fun written heq => by simp [heq] at hcomma
      rw [hsame, if_pos hcomma, if_pos hcomma, commaFault?, commaFault?, h.before, h.after, h.next]
    · have hcomma' : ¬ (f t).lexeme = .punctuation ',' := fun heq =>
        hcomma (((hf.alike t).eq_iff (m := .punctuation ',') nofun).1 heq)
      rw [if_neg hcomma, if_neg hcomma']

/-! ## Lines -/

theorem withPrevious_concat {α : Type} (before : Option α) (xs : List α) (x : α) :
    withPrevious before (xs ++ [x]) = withPrevious before xs ++ [(xs.getLast?.or before, x)] := by
  induction xs generalizing before with
  | nil => rfl
  | cons y xs ih =>
    rw [List.cons_append, withPrevious, ih, withPrevious, List.getLast?_cons, List.cons_append]
    cases xs.getLast? <;> rfl

namespace TokenByToken

variable {find : Line → List Diagnostic} {say : List Char → Option Token → Token → List Diagnostic}
  (h : TokenByToken find say)

include h

/-- **Other string literals** do not change what is found, if the text looks the same beside each token. -/
theorem find_swapped {old new : List Char} {f : Token → Token} (hf : Token.Swaps old new f) {l l' : Line}
    (hcode : l'.code = l.code.map f) (hbeside : ∀ t ∈ l.code, SameBeside l.text l'.text t) : find l' = find l := by
  have hwith := withPrevious_map f none l.code
  rw [Option.map_none] at hwith
  rw [h.find_eq, h.find_eq, hcode, hwith, List.flatMap_map]
  apply List.flatMap_congr
  rintro ⟨before, t⟩ hp
  exact h.swapped hf (hbeside t (mem_withPrevious hp)) before

/-- what is found on a line, up to its last token and of that token -/
theorem find_concat {l : Line} {init : List Token} {t : Token} (hcode : l.code = init ++ [t]) :
    find l = ((withPrevious none init).flatMap fun p => say l.text p.1 p.2) ++ say l.text init.getLast? t := by
  rw [h.find_eq, hcode, withPrevious_concat, List.flatMap_append, List.flatMap_singleton, Option.or_none]

end TokenByToken

/-! ## The last token of a line -/

section Open

variable {text text' : List Char} {t : Token} (hbefore : gapBefore? text' t = gapBefore? text t)
  (hafter : gapAfter? text' t = none) (before : Option Token)

include hbefore hafter

/-- **Where nothing but blanks stands behind an operator**, nothing is said of its right side. -/
theorem operatorReport_open : ∃ left right,
    sayOperator text before t = operatorReport t left right ∧ sayOperator text' before t = operatorReport t left none := by
  unfold sayOperator
  by_cases hchecked : isCheckedOperator before t = true
  · refine ⟨(gapBefore? text t).bind gapFault?, (gapAfter? text t).bind gapFault?, if_pos hchecked, ?_⟩
    rw [if_pos hchecked, hbefore, hafter]
    rfl
  · exact ⟨none, none, if_neg hchecked, if_neg hchecked⟩

/-- **Where nothing but blanks stands behind a comma**, nothing is said of its right side. -/
theorem commaReport_open : ∃ left right,
    sayComma text before t = commaReport t left right ∧ sayComma text' before t = commaReport t left none := by
  have hnone : commaFault? text' t = none := by
    unfold commaFault?
    rw [hafter, Option.bind_none, ite_self]
  unfold sayComma
  by_cases hcomma : t.lexeme = .punctuation ','
  · refine ⟨(gapBefore? text t).any fun gap => !gap.isEmpty, commaFault? text t, if_pos hcomma, ?_⟩
    rw [if_pos hcomma, hbefore, hnone]
  · exact ⟨false, none, if_neg hcomma, if_neg hcomma⟩

end Open

end Rule.Spacing

/-- **A token of the code ends the blanks** at the start of its line, so what is put behind the line does not change them. -/
theorem Line.indentation_append {number : Int} {text : List Char} (hne : (read number text).code ≠ []) (more : List Char) :
    (read number (text ++ more)).indentation = (read number text).indentation := by
  obtain ⟨t, ht⟩ := List.exists_mem_of_ne_nil _ hne
  have hread := wasRead_read number text
  obtain ⟨c, hc, hsolid⟩ := head_solid hread (List.mem_of_mem_filter ht)
  have hpiece := ((tiles_of_wasRead hread).standing t (List.mem_of_mem_filter ht)).2
  rw [← hpiece, text_read] at hc
  have hmem : c ∈ text := List.mem_of_mem_take (List.mem_of_mem_drop hc)
  unfold indentation Indentation.of leadingBlanks
  rw [text_read, text_read, Rule.Spacing.takeWhile_front ⟨c, hmem, hsolid⟩]

end VixStyle
