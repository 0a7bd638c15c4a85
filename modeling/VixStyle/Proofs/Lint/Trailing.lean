/-
Reports on a source with blanks at the end of its lines.

A line that is read without a fault has the same code with blanks behind it (`Line.code_trailed`), and what the rules on spacing
read beside a token is the same as well: blanks behind the last token are no gap, and no bracket closes there
(`sameGaps_trailed`). So no check tells the two lines apart (`Line.Indistinct`), and checks find the same in sources whose lines
they do not tell apart (`check_indistinct`). Main statement, `lintSource_trailed`: the report stays the same, whichever lines are
given blanks at their ends.
-/
import VixStyle.Proofs.Lint.Alike
import VixStyle.Proofs.Lint.Composition
import VixStyle.Proofs.Token.Replacing
import VixStyle.Proofs.Token.Trailing

namespace VixStyle

open Rule.Spacing

/-! ## Lines that no check tells apart -/

namespace Rule.Spacing

/-- two lines of text in which the rules on spacing read the same beside a token -/
structure SameGaps (text text' : List Char) (t : Token) : Prop where
  before : gapBefore? text' t = gapBefore? text t
  after : gapAfter? text' t = gapAfter? text t
  closes : (textAfter text' t).head?.any isClosingMark = (textAfter text t).head?.any isClosingMark

theorem SameGaps.refl (text : List Char) (t : Token) : SameGaps text text t := ⟨rfl, rfl, rfl⟩

section SameGaps

variable {text text' : List Char} {t : Token} (h : SameGaps text text' t) (before : Option Token)

include h

theorem sayOperator_congr : sayOperator text' before t = sayOperator text before t := by
  unfold sayOperator
  rw [h.before, h.after]

theorem sayComma_congr : sayComma text' before t = sayComma text before t := by
  unfold sayComma commaFault?
  rw [h.before, h.after, h.closes]

end SameGaps

end Rule.Spacing

/-- two lines that no check tells apart: they are alike, with the same gaps beside each token of the code -/
structure Line.Indistinct (l l' : Line) : Prop where
  alike : Line.Alike id l l'
  gaps : ∀ t ∈ l.code, SameGaps l.text l'.text t

theorem Line.Indistinct.refl (l : Line) : Line.Indistinct l l where
  alike := ⟨rfl, rfl, (List.map_id _).symm, fun _ => rfl⟩
  gaps t _ := .refl l.text t

/-- what is found token by token is found on both lines -/
theorem Rule.Spacing.TokenByToken.find_indistinct {find : Line → List Diagnostic}
    {say : List Char → Option Token → Token → List Diagnostic} (htoken : TokenByToken find say)
    (hsay : ∀ {text text' t}, SameGaps text text' t → ∀ before, say text' before t = say text before t) {l l' : Line}
    (h : Line.Indistinct l l') : find l' = find l := by
  have hcode : l'.code = l.code := h.alike.code.trans (List.map_id _)
  rw [htoken.find_eq, htoken.find_eq, hcode]
  apply List.flatMap_congr
  rintro ⟨before, t⟩ hp
  exact hsay (h.gaps t (mem_withPrevious hp)) before

section Indistinct

variable {s s' : Source} (h : List.Forall₂ Line.Indistinct s.lines s'.lines) {options : Options}

include h

/-- what is found line by line is found in both sources -/
theorem LineByLine.check_indistinct {check : Source → List Diagnostic} {find : Line → List Diagnostic}
    (hcheck : LineByLine check find) (hfind : ∀ {l l'}, Line.Indistinct l l' → find l' = find l) : check s' = check s :=
  Diagnostic.Refound.list_eq_of_same (w := [])
    (hcheck.alike (fun _ _ hl => Diagnostic.Refound.of_eq (hfind hl)) h)

/-- **Checks find the same** in sources whose lines they do not tell apart. -/
theorem check_indistinct {check : String × (Source → List Diagnostic)} (hcheck : check ∈ namedChecks options) :
    check.2 s' = check.2 s := by
  by_cases hoperator : check.1 = Problem.operatorSpacing.ruleId
  · rw [run_of_namedCheck hcheck (r := .operatorSpacing) (by simp [defaultRules]) hoperator]
    exact (operators_lineByLine options).check_indistinct h (operators_tokenByToken.find_indistinct sayOperator_congr)
  by_cases hcomma : check.1 = Problem.commaSpacing.ruleId
  · rw [run_of_namedCheck hcheck (r := .commaSpacing) (by simp [defaultRules]) hcomma]
    exact (commas_lineByLine options).check_indistinct h (commas_tokenByToken.find_indistinct sayComma_congr)
  have halike := h.imp fun _ _ hl => hl.alike
  exact Diagnostic.Refound.list_eq_of_same (w := []) (check_alike (Token.swaps_id [] []) halike hcheck hoperator hcomma)

theorem lintSource_indistinct [Machine] : lintSource s' options defaultRules = lintSource s options defaultRules := by
  have hdiagnostics : s'.diagnostics options defaultRules = s.diagnostics options defaultRules := by
    rw [diagnostics_eq_namedChecks, diagnostics_eq_namedChecks]
    exact List.flatMap_congr fun check hcheck => check_indistinct h hcheck
  rw [lintSource_eq, lintSource_eq, Source.report, Source.report, hdiagnostics]

end Indistinct

/-! ## Blanks at the end of a line -/

/-- the text of a line, or what it is with blanks at its end if it is read without a fault -/
inductive Trailed : List Char → List Char → Prop
  | same (text : List Char) : Trailed text text
  | blanks {text gap : List Char} {number : Int} {ts : List Token} (hread : lex number text = .ok ts)
      (hgap : ∀ c ∈ gap, Text.isBlank c = true) : Trailed text (text ++ gap)

namespace Rule.Spacing

variable {gap : List Char} (hgap : ∀ c ∈ gap, Text.isBlank c = true)

include hgap

/-- blanks at the end of a text do not change the gap at its start -/
theorem leadingGap?_trailed (s : List Char) : leadingGap? (s ++ gap) = leadingGap? s := by
  by_cases hsolid : ∃ c ∈ s, Text.isBlank c = false
  · exact leadingGap?_front hsolid gap
  · have hblank : ∀ c ∈ s, Text.isBlank c = true := by simpa using hsolid
    rw [leadingGap?_of_blank hblank, leadingGap?_of_blank (List.forall_mem_append.2 ⟨hblank, hgap⟩)]

/-- a blank closes no bracket -/
theorem closes_trailed (s : List Char) : (s ++ gap).head?.any isClosingMark = s.head?.any isClosingMark := by
  cases s with
  | cons c s => rfl
  | nil =>
    cases gap with
    | nil => rfl
    | cons c gap =>
      rcases (by simpa [Text.isBlank] using hgap c List.mem_cons_self : c = ' ' ∨ c = '\t') with rfl | rfl <;> rfl

/-- **Blanks at the end of a line** are no gap of any token. -/
theorem sameGaps_trailed {number : Int} {text : List Char} {t : Token} (ht : t ∈ (Line.read number text).tokens) :
    SameGaps text (text ++ gap) t := by
  obtain ⟨before, after, htext, hcolumn⟩ := Line.exists_sides ht
  have hend : t.endColumn - 1 ≤ text.length := by
    have hlength := congrArg List.length htext
    simp only [List.length_append] at hlength
    have : t.endColumn = t.column + t.text.length := rfl
    omega
  have hstart : t.column - 1 ≤ text.length := by
    have : t.endColumn = t.column + t.text.length := rfl
    omega
  have hbefore : textBefore (text ++ gap) t = textBefore text t := List.take_append_of_le_length hstart
  have hafter : textAfter (text ++ gap) t = textAfter text t ++ gap := List.drop_append_of_le_length hend
  refine ⟨?_, ?_, ?_⟩
  · rw [gapBefore?, gapBefore?, hbefore]
  · rw [gapAfter?, gapAfter?, hafter, leadingGap?_trailed hgap]
  · rw [hafter, closes_trailed hgap]

end Rule.Spacing

namespace Line

/-- **No check tells a line from the line with blanks at its end.** -/
theorem indistinct_trailed {text text' : List Char} (h : Trailed text text') (number : Int) :
    Indistinct (read number text) (read number text') := by
  cases h with
  | same => exact .refl _
  | @blanks gap n ts hread hgap =>
    have hclosed : (read number text).unclosed = none := by
      rw [unclosed_read, if_pos (lex_eq_ok hread).1]
    refine ⟨⟨by rw [number_read, number_read], ?_, ?_, fun hne => ?_⟩, fun t ht => ?_⟩
    · rw [unclosed_trailed hclosed hgap, hclosed]
    · rw [code_trailed hclosed hgap, List.map_id]
    · exact indentation_append hne gap
    · rw [text_read, text_read]
      exact sameGaps_trailed hgap (List.mem_of_mem_filter ht)

theorem readFrom_trailed {texts texts' : List (List Char)} (h : List.Forall₂ Trailed texts texts') (number : Int) :
    List.Forall₂ Indistinct (readFrom number texts) (readFrom number texts') := by
  induction h generalizing number with
  | nil => exact .nil
  | cons htext _ ih => exact .cons (indistinct_trailed htext number) (ih (number + 1))

end Line

/-- **Blanks at the ends of lines do not matter.** To put any blanks behind any lines that are read without a fault leaves the
report as it is, for all options; a run that fails fails with the same error. -/
theorem lintSource_trailed [Machine] {texts texts' : List (List Char)} (h : List.Forall₂ Trailed texts texts')
    (text text' : List Char) (options : Options) :
    lintSource (.ofLines text' texts') options defaultRules = lintSource (.ofLines text texts) options defaultRules :=
  lintSource_indistinct (Line.readFrom_trailed h 1)

/-- a line without code, lines that end in an operator, a comma and a comment, and a line that is not read to its end -/
theorem lintSource_trailed_open :
    lintSource (.ofLines [] ["\t \t".toList, "x = y+ ".toList, "  f(a ,\t".toList, "b) // and \t".toList, "c(\"".toList]) {}
        defaultRules =
      lintSource (.ofLines [] ["".toList, "x = y+".toList, "  f(a ,".toList, "b) // and".toList, "c(\"".toList]) {}
        defaultRules ∧
    ((Source.ofLines [] ["".toList, "x = y+".toList, "  f(a ,".toList, "b) // and".toList, "c(\"".toList]).report {}
      defaultRules).lineMessages = [(2, "missing space before \"+\""), (3, "unexpected space before \",\""),
        (5, "Unterminated string literal.")] := by
  have hread : ∀ text gap : String, lex 1 text.toList = .ok (Line.read 1 text.toList).tokens →
      gap.toList.all Text.isBlank = true → Trailed text.toList (text.toList ++ gap.toList) :=
    fun text gap hread hgap => .blanks hread (List.all_eq_true.1 hgap)
  refine ⟨lintSource_trailed ?_ [] [] {}, ?_⟩
  · exact .cons (hread "" "\t \t" (by decide +kernel) (by decide +kernel))
      (.cons (hread "x = y+" " " (by decide +kernel) (by decide +kernel))
        (.cons (hread "  f(a ," "\t" (by decide +kernel) (by decide +kernel))
          (.cons (hread "b) // and" " \t" (by decide +kernel) (by decide +kernel)) (.cons (.same _) .nil))))
  · rw [Report.lineMessages, diagnostics_report]
    decide +kernel

end VixStyle
