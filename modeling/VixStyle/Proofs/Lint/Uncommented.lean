/-
Reports on a source without the comment at the end of a line.

A comment of two slashes runs to the end of its line. Once it is deleted, the line has the same code in the same places
(`Line.alike_uncommented`), so all checks but those on spacing find the same. The rules on spacing look at the text beside a
token, and that is the same as well, but for the right side of the last token: nothing stands there any more. Main statement,
`lintSource_uncommented`: the report stays the same, but that nothing is said of the right side of this token
(`Report.SameButRight`).
-/
import VixStyle.Proofs.Lint.Alike
import VixStyle.Proofs.Lint.Composition
import VixStyle.Proofs.Token.Uncommented

namespace VixStyle

open Rule.Spacing

/-! ## Reports of one token -/

instance (d : Diagnostic) (t : Token) : Decidable (d.At t) :=
  decidable_of_iff (d.line = t.line ∧ d.column = t.column) ⟨fun h => ⟨h.1, h.2⟩, fun h => ⟨h.line, h.column⟩⟩

/-- a diagnostic of one problem at a token -/
def Diagnostic.IsOf (p : Problem) (t : Token) (d : Diagnostic) : Prop := d.ruleId = p.ruleId ∧ d.At t

instance (p : Problem) (t : Token) (d : Diagnostic) : Decidable (d.IsOf p t) :=
  inferInstanceAs (Decidable (d.ruleId = p.ruleId ∧ d.At t))

/-- a diagnostic on the spacing of a token -/
def Diagnostic.IsSpacingOf (t : Token) (d : Diagnostic) : Prop := d.IsOf .operatorSpacing t ∨ d.IsOf .commaSpacing t

instance (t : Token) (d : Diagnostic) : Decidable (d.IsSpacingOf t) :=
  inferInstanceAs (Decidable (d.IsOf .operatorSpacing t ∨ d.IsOf .commaSpacing t))

/--
a report `r'` that differs from another at one token only: of its left side the rules on spacing say the same, and of its right
side, of which `r` may say something, `r'` says nothing
-/
structure Report.SameButRight (t : Token) (r r' : Report) : Prop where
  others : (r'.diagnostics.filter fun d => ¬ d.IsSpacingOf t) = r.diagnostics.filter fun d => ¬ d.IsSpacingOf t
  operator : ∃ left right, (r.diagnostics.filter fun d => d.IsOf .operatorSpacing t) = operatorReport t left right ∧
    (r'.diagnostics.filter fun d => d.IsOf .operatorSpacing t) = operatorReport t left none
  comma : ∃ left right, (r.diagnostics.filter fun d => d.IsOf .commaSpacing t) = sortDiagnostics (commaReport t left right) ∧
    (r'.diagnostics.filter fun d => d.IsOf .commaSpacing t) = sortDiagnostics (commaReport t left none)

theorem sortDiagnostics_operatorReport (t : Token) (left right : Option GapFault) :
    sortDiagnostics (operatorReport t left right) = operatorReport t left right := by
  unfold operatorReport
  cases operatorMessage? t.display left right <;> simp [sortDiagnostics]

/-! ## The line -/

section Line

variable {number : Int} {text : List Char} {comment : Token} (hmem : comment ∈ (Line.read number text).tokens)
  (hcomment : comment.lexeme.isLineComment = true)

include hmem hcomment

/-- **Without the comment at its end**, a line is alike. -/
theorem Line.alike_uncommented : Line.Alike id (read number text) (read number (textBefore text comment)) := by
  obtain ⟨hwith, hwithout⟩ := unclosed_uncommented hmem hcomment
  have hcode := code_uncommented hmem hcomment
  refine ⟨by rw [number_read, number_read], hwithout.trans hwith.symm, by rw [hcode, List.map_id], fun hne => ?_⟩
  obtain ⟨-, -, -, -, htext, -⟩ := exists_uncommented hmem hcomment
  have hindentation := indentation_append (hcode ▸ hne) comment.text
  rwa [← htext, eq_comm] at hindentation

/-- the two lines look the same beside each token that another one follows -/
theorem sameBeside_uncommented {t u : Token} (hu : u ∈ (Line.read number text).code) (h : t.endColumn ≤ u.column) :
    SameBeside text (textBefore text comment) t := by
  rw [← Line.code_uncommented hmem hcomment] at hu
  have hread := Line.wasRead_read number (textBefore text comment)
  have hcolumn := (Line.column_within hread (List.mem_of_mem_filter hu)).2
  have hsolid := solid_behind hread (List.mem_of_mem_filter hu) h
  rw [Line.text_read] at hcolumn hsolid
  obtain ⟨-, -, -, -, htext, -⟩ := Line.exists_uncommented hmem hcomment
  have hsame : SameBeside (textBefore text comment ++ comment.text) (textBefore text comment) t :=
    .of_front (by omega) hsolid
  rwa [← htext] at hsame

/-- the last token of the code has the same left side, and nothing to its right -/
theorem sides_uncommented {init : List Token} {t : Token} (hcode : (Line.read number text).code = init ++ [t]) :
    gapBefore? (textBefore text comment) t = gapBefore? text t ∧ gapAfter? (textBefore text comment) t = none := by
  obtain ⟨before, gap, after, hbefore, hblank, hplace⟩ := Line.last_uncommented hmem hcomment hcode
  obtain ⟨-, -, -, -, htext, -⟩ := Line.exists_uncommented hmem hcomment
  have hfront : textBefore (textBefore text comment) t = before ++ gap := by
    rw [hplace]
    exact textBefore_behind hbefore number
  have hsplit : text = before ++ gap ++ t.text ++ (after ++ comment.text) := by
    rw [← List.append_assoc, ← hbefore]
    exact htext
  have hwhole : textBefore text t = before ++ gap := by
    rw [hplace]
    exact textBefore_behind hsplit number
  have hafter : textAfter (textBefore text comment) t = after := by
    rw [hplace]
    exact textAfter_behind hbefore number
  refine ⟨?_, ?_⟩
  · rw [gapBefore?, gapBefore?, hfront, hwhole]
  · rw [gapAfter?, hafter, leadingGap?_of_blank hblank]

/-- **What is found token by token** is the same up to the last token of the code. -/
theorem find_uncommented {find : Line → List Diagnostic} {say : List Char → Option Token → Token → List Diagnostic}
    (h : TokenByToken find say) {init : List Token} {t : Token} (hcode : (Line.read number text).code = init ++ [t]) :
    ∃ found, find (Line.read number text) = found ++ say text init.getLast? t ∧
      find (Line.read number (textBefore text comment)) = found ++ say (textBefore text comment) init.getLast? t ∧
        ∀ d ∈ found, ∃ u ∈ init, d.At u := by
  have hcode' := (Line.code_uncommented hmem hcomment).trans hcode
  have hordered := (Line.tiles_of_wasRead (Line.wasRead_read number text)).ordered.filter fun t => t.lexeme.isCode
  have hinit : ∀ u ∈ init, u.endColumn ≤ t.column := by
    intro u hu
    have hsplit : ((Line.read number text).tokens.filter fun t => t.lexeme.isCode) = init ++ [t] := hcode
    rw [hsplit] at hordered
    exact (List.pairwise_append.1 hordered).2.2 u hu t List.mem_cons_self
  have hlast : t ∈ (Line.read number text).code := hcode ▸ List.mem_append_right init List.mem_cons_self
  refine ⟨(withPrevious none init).flatMap fun p => say text p.1 p.2, ?_, ?_, ?_⟩
  · rw [h.find_concat hcode, Line.text_read]
  · rw [h.find_concat hcode', Line.text_read]
    refine congrArg (· ++ _) (List.flatMap_congr ?_)
    rintro ⟨before, u⟩ hp
    have hbeside := sameBeside_uncommented hmem hcomment hlast (hinit u (mem_withPrevious hp))
    have hsame := h.swapped (Token.swaps_id [] []) hbeside before
    rwa [Option.map_id] at hsame
  · intro d hd
    obtain ⟨p, hp, hd⟩ := List.mem_flatMap.1 hd
    exact ⟨p.2, mem_withPrevious hp, h.place _ _ _ d hd⟩

/-- at the last token of the code, what is found is what is said of it, and what is found elsewhere is the same -/
theorem filter_find_uncommented {find : Line → List Diagnostic} {say : List Char → Option Token → Token → List Diagnostic}
    (h : TokenByToken find say) {init : List Token} {t : Token} (hcode : (Line.read number text).code = init ++ [t]) :
    (find (Line.read number text)).filter (fun d => d.At t) = say text init.getLast? t ∧
      (find (Line.read number (textBefore text comment))).filter (fun d => d.At t) =
        say (textBefore text comment) init.getLast? t ∧
      (find (Line.read number (textBefore text comment))).filter (fun d => ¬ d.At t) =
        (find (Line.read number text)).filter fun d => ¬ d.At t := by
  obtain ⟨found, hfind, hfind', hfound⟩ := find_uncommented hmem hcomment h hcode
  have hinit : ∀ d ∈ found, ¬ d.At t := by
    intro d hd hat
    obtain ⟨u, hu, hat'⟩ := hfound d hd
    have hordered := Line.ordered_code (Line.wasRead_read number text)
    rw [hcode] at hordered
    have hlt := (List.pairwise_append.1 hordered).2.2 u hu t List.mem_cons_self
    exact hlt.ne (Int.ofNat_inj.1 (hat'.column.symm.trans hat.column))
  have hsaid : ∀ text, ∀ d ∈ say text init.getLast? t, d.At t := fun text => h.place text _ t
  have hat : ∀ text, (found ++ say text init.getLast? t).filter (fun d => d.At t) = say text init.getLast? t := by
    intro text
    rw [List.filter_append, List.filter_eq_nil_iff.2 (by simpa using hinit), List.nil_append]
    exact List.filter_eq_self.2 fun d hd => decide_eq_true (hsaid text d hd)
  have hnot : ∀ text, (found ++ say text init.getLast? t).filter (fun d => ¬ d.At t) = found := by
    intro text
    rw [List.filter_append, List.filter_eq_self.2 (by simpa using hinit), List.filter_eq_nil_iff.2, List.append_nil]
    intro d hd
    simp [hsaid text d hd]
  rw [hfind, hfind', hat, hat, hnot, hnot]
  exact ⟨rfl, rfl, rfl⟩

end Line

/-! ## The report -/

/-- what is asked of one line only is found on that line -/
theorem LineByLine.filter_around {check : Source → List Diagnostic} {find : Line → List Diagnostic}
    (h : LineByLine check find) {above below : List Line} {l : Line} {p : Diagnostic → Bool}
    (hother : ∀ m ∈ above ++ below, ∀ d ∈ find m, p d = false) {s : Source}
    (hs : s.lines = above ++ l :: below) : (check s).filter p = (find l).filter p := by
  have hnil : ∀ lines : List Line, (∀ m ∈ lines, ∀ d ∈ find m, p d = false) → (lines.flatMap find).filter p = [] := by
    intro lines hlines
    apply List.filter_eq_nil_iff.2
    intro d hd
    obtain ⟨m, hm, hd⟩ := List.mem_flatMap.1 hd
    simp [hlines m hm d hd]
  obtain ⟨habove, hbelow⟩ := List.forall_mem_append.1 hother
  rw [h.check_eq, hs, List.flatMap_append, List.flatMap_cons, List.filter_append, List.filter_append, hnil above habove,
    hnil below hbelow, List.nil_append, List.append_nil]

section Uncommented

variable (above below : List (List Char)) {line : List Char} {comment : Token}
  (hmem : comment ∈ (Line.read (above.length + 1) line).tokens) (hcomment : comment.lexeme.isLineComment = true)
  (text text' : List Char) {options : Options}

include hmem hcomment

/-- **All checks but those on spacing** find the same without the comment. -/
theorem check_uncommented {check : String × (Source → List Diagnostic)} (hcheck : check ∈ namedChecks options)
    (hoperator : check.1 ≠ Problem.operatorSpacing.ruleId) (hcomma : check.1 ≠ Problem.commaSpacing.ruleId) :
    check.2 (.ofLines text' (above ++ textBefore line comment :: below)) =
      check.2 (.ofLines text (above ++ line :: below)) := by
  refine Diagnostic.Refound.list_eq_of_same (w := []) (check_alike (Token.swaps_id [] []) ?_ hcheck hoperator hcomma)
  unfold Source.ofLines
  rw [Line.readAll_around, Line.readAll_around]
  exact Line.alike_around (fun l _ => List.map_id _) (Line.alike_uncommented hmem hcomment)

section Spacing

variable {check : Source → List Diagnostic} {find : Line → List Diagnostic}
  {say : List Char → Option Token → Token → List Diagnostic} (hline : LineByLine check find) (htoken : TokenByToken find say)

include hline htoken

/-- a check on spacing finds nothing on a line without code -/
theorem spacing_uncommented_nil (hcode : (Line.read (above.length + 1) line).code = []) :
    check (.ofLines text' (above ++ textBefore line comment :: below)) = check (.ofLines text (above ++ line :: below)) := by
  have hfind : find (Line.read (above.length + 1) (textBefore line comment)) = find (Line.read (above.length + 1) line) := by
    rw [htoken.find_eq, htoken.find_eq, Line.code_uncommented hmem hcomment, hcode]
    rfl
  exact hline.congr_around hfind (Line.readAll_around above below line) (Line.readAll_around above below _)

variable {init : List Token} {t : Token} (hcode : (Line.read (above.length + 1) line).code = init ++ [t])

include hcode

/-- **A check on spacing** finds the same but at the last token of the code, and there it finds what it says of this token. -/
theorem spacing_uncommented :
    ((check (.ofLines text' (above ++ textBefore line comment :: below))).filter fun d => ¬ d.At t) =
        ((check (.ofLines text (above ++ line :: below))).filter fun d => ¬ d.At t) ∧
      ((check (.ofLines text (above ++ line :: below))).filter fun d => d.At t) = say line init.getLast? t ∧
      ((check (.ofLines text' (above ++ textBefore line comment :: below))).filter fun d => d.At t) =
        say (textBefore line comment) init.getLast? t := by
  obtain ⟨hfind, hfind', hsame⟩ := filter_find_uncommented hmem hcomment htoken hcode
  have hlast : t.line = above.length + 1 := by
    have hmem : t ∈ (Line.read (above.length + 1) line).code := hcode ▸ List.mem_append_right init List.mem_cons_self
    rw [(Line.numbered_read _ line).code t hmem, Line.number_read]
  have hother : ∀ m ∈ Line.readAll above ++ Line.readFrom (above.length + 1 + 1) below, ∀ d ∈ find m,
      decide (d.At t) = false := by
    intro m hm d hd
    apply decide_eq_false
    intro hat
    obtain ⟨hnumbered, hne⟩ := Line.mem_around hm
    have hnumber := hline.line m hnumbered d hd
    rw [hat.line, hlast] at hnumber
    exact hne hnumber.symm
  have hwith := Line.readAll_around above below line
  have hwithout := Line.readAll_around above below (textBefore line comment)
  refine ⟨hline.filter_congr hsame hwith hwithout, ?_, ?_⟩
  · rw [hline.filter_around hother hwith, hfind]
  · rw [hline.filter_around hother hwithout, hfind']

end Spacing

/-- the diagnostics but those on the spacing of one token -/
theorem others_uncommented {init : List Token} {t : Token} (hcode : (Line.read (above.length + 1) line).code = init ++ [t]) :
    (((Source.ofLines text' (above ++ textBefore line comment :: below)).diagnostics options defaultRules).filter
        fun d => ¬ d.IsSpacingOf t) =
      ((Source.ofLines text (above ++ line :: below)).diagnostics options defaultRules).filter fun d => ¬ d.IsSpacingOf t := by
  rw [diagnostics_eq_namedChecks, diagnostics_eq_namedChecks, List.filter_flatMap, List.filter_flatMap]
  apply List.flatMap_congr
  intro check hcheck
  rcases spacing_cases hcheck with ⟨hid, find, say, hline, htoken⟩ | ⟨hoperator, hcomma⟩
  · -- of a check on spacing, only the place of a diagnostic is asked
    have hplace : ∀ s, ((check.2 s).filter fun d => ¬ d.IsSpacingOf t) = (check.2 s).filter fun d => ¬ d.At t := by
      intro s
      apply List.filter_congr
      intro d hd
      have hrule : d.ruleId = Problem.operatorSpacing.ruleId ∨ d.ruleId = Problem.commaSpacing.ruleId := by
        rwa [own_of_check hcheck hd]
      have hiff : d.IsSpacingOf t ↔ d.At t := by
        unfold Diagnostic.IsSpacingOf Diagnostic.IsOf
        rw [← or_and_right]
        exact and_iff_right hrule
      simp only [hiff]
    rw [hplace, hplace]
    exact (spacing_uncommented above below hmem hcomment text text' hline htoken hcode).1
  · rw [check_uncommented above below hmem hcomment text text' hcheck hoperator hcomma]

/-- **The report without the comment** is the same where the line holds nothing else. -/
theorem report_uncommented_nil (hcode : (Line.read (above.length + 1) line).code = []) :
    (Source.ofLines text' (above ++ textBefore line comment :: below)).report options defaultRules =
      (Source.ofLines text (above ++ line :: below)).report options defaultRules := by
  have hfound : (Source.ofLines text' (above ++ textBefore line comment :: below)).diagnostics options defaultRules =
      (Source.ofLines text (above ++ line :: below)).diagnostics options defaultRules := by
    rw [diagnostics_eq_namedChecks, diagnostics_eq_namedChecks]
    apply List.flatMap_congr
    intro check hcheck
    rcases spacing_cases hcheck with ⟨-, find, say, hline, htoken⟩ | ⟨hoperator, hcomma⟩
    · exact spacing_uncommented_nil above below hmem hcomment text text' hline htoken hcode
    · exact check_uncommented above below hmem hcomment text text' hcheck hoperator hcomma
  unfold Source.report
  rw [hfound]

/-- what a rule on spacing reports of the last token of the code, if it is run -/
theorem last_report_uncommented {r : Rule} {p : Problem} (hr : r ∈ defaultRules) (hid : r.header.id = p.ruleId)
    {find : Line → List Diagnostic} {say : List Char → Option Token → Token → List Diagnostic}
    (hline : LineByLine (fun s => r.run s options) find) (htoken : TokenByToken find say) {init : List Token} {t : Token}
    (hcode : (Line.read (above.length + 1) line).code = init ++ [t]) :
    ((((Source.ofLines text (above ++ line :: below)).report options defaultRules).diagnostics.filter fun d => d.IsOf p t) =
        [] ∧
      (((Source.ofLines text' (above ++ textBefore line comment :: below)).report options defaultRules).diagnostics.filter
        fun d => d.IsOf p t) = []) ∨
    ((((Source.ofLines text (above ++ line :: below)).report options defaultRules).diagnostics.filter fun d => d.IsOf p t) =
        sortDiagnostics (say line init.getLast? t) ∧
      (((Source.ofLines text' (above ++ textBefore line comment :: below)).report options defaultRules).diagnostics.filter
        fun d => d.IsOf p t) = sortDiagnostics (say (textBefore line comment) init.getLast? t)) := by
  have hof : ∀ d : Diagnostic, decide (d.IsOf p t) = true → d.ruleId = p.ruleId := fun d hd => (of_decide_eq_true hd).1
  simp only [Source.report, Report.of, ← sortDiagnostics_filter]
  by_cases hrun : ∃ check ∈ namedChecks options, check.1 = p.ruleId
  · right
    obtain ⟨check, hcheck, hrule⟩ := hrun
    have hrunning := run_of_namedCheck hcheck hr (hrule.trans hid.symm)
    have hplace : ∀ s, ((check.2 s).filter fun d => d.IsOf p t) = (check.2 s).filter fun d => d.At t := by
      intro s
      apply List.filter_congr
      intro d hd
      have hiff : d.IsOf p t ↔ d.At t := and_iff_right ((own_of_check hcheck hd).trans hrule)
      simp only [hiff]
    obtain ⟨-, hwith, hwithout⟩ := spacing_uncommented above below hmem hcomment text text' hline htoken hcode
    rw [filter_diagnostics_of_check hcheck (fun d hd => (hof d hd).trans hrule.symm),
      filter_diagnostics_of_check hcheck (fun d hd => (hof d hd).trans hrule.symm), hplace, hplace, hrunning, hwith, hwithout]
    exact ⟨rfl, rfl⟩
  · left
    have habsent : ∀ check ∈ namedChecks options, check.1 ≠ p.ruleId := fun check hcheck hrule => hrun ⟨check, hcheck, hrule⟩
    rw [filter_diagnostics_of_absent habsent hof, filter_diagnostics_of_absent habsent hof]
    simp [sortDiagnostics]

/-- **The report without the comment**, where the line has code: it differs at the last token of it only. -/
theorem sameButRight_uncommented {init : List Token} {t : Token}
    (hcode : (Line.read (above.length + 1) line).code = init ++ [t]) :
    Report.SameButRight t ((Source.ofLines text (above ++ line :: below)).report options defaultRules)
      ((Source.ofLines text' (above ++ textBefore line comment :: below)).report options defaultRules) := by
  obtain ⟨hbefore, hafter⟩ := sides_uncommented hmem hcomment hcode
  refine ⟨?others, ?operator, ?comma⟩
  case others =>
    have hothers := congrArg sortDiagnostics (@others_uncommented above below _ _ hmem hcomment text text' options _ _ hcode)
    rwa [sortDiagnostics_filter, sortDiagnostics_filter] at hothers
  case operator =>
    obtain ⟨left, right, hwith, hwithout⟩ := operatorReport_open hbefore hafter init.getLast?
    rcases last_report_uncommented above below hmem hcomment text text' (r := .operatorSpacing) (p := .operatorSpacing)
      (by simp [defaultRules]) rfl (operators_lineByLine options) operators_tokenByToken hcode with ⟨h, h'⟩ | ⟨h, h'⟩
    · exact ⟨none, none, h, h'⟩
    · refine ⟨left, right, ?_, ?_⟩
      · rw [h, hwith, sortDiagnostics_operatorReport]
      · rw [h', hwithout, sortDiagnostics_operatorReport]
  case comma =>
    obtain ⟨left, right, hwith, hwithout⟩ := commaReport_open hbefore hafter init.getLast?
    rcases last_report_uncommented above below hmem hcomment text text' (r := .commaSpacing) (p := .commaSpacing)
      (by simp [defaultRules]) rfl (commas_lineByLine options) commas_tokenByToken hcode with ⟨h, h'⟩ | ⟨h, h'⟩
    · refine ⟨false, none, h.trans ?_, h'.trans ?_⟩ <;> simp [commaReport, sortDiagnostics]
    · exact ⟨left, right, h.trans (congrArg sortDiagnostics hwith), h'.trans (congrArg sortDiagnostics hwithout)⟩

end Uncommented

/--
**Comments at the end of a line do not matter to the report** but beside the last token before them. To delete a comment of two
slashes from the end of any line leaves the report as it is where the line holds nothing else. Otherwise all diagnostics stay,
in their order, but those on the spacing of the last token before the comment, and of this token nothing changes but that nothing
is said of its right side any more.
-/
theorem lintSource_uncommented [Machine] (above below : List (List Char)) {line : List Char} {comment : Token}
    (hmem : comment ∈ (Line.read (above.length + 1) line).tokens) (hcomment : comment.lexeme.isLineComment = true)
    (text text' : List Char) (options : Options) :
    (∀ e, lintSource (.ofLines text' (above ++ textBefore line comment :: below)) options defaultRules = .error e ↔
        lintSource (.ofLines text (above ++ line :: below)) options defaultRules = .error e) ∧
      ∀ r r', lintSource (.ofLines text (above ++ line :: below)) options defaultRules = .ok r →
        lintSource (.ofLines text' (above ++ textBefore line comment :: below)) options defaultRules = .ok r' →
          ((Line.read (above.length + 1) line).code = [] → r' = r) ∧
            ∀ t ∈ (Line.read (above.length + 1) line).code.getLast?, Report.SameButRight t r r' := by
  apply lintSource_rel (R := fun r r' => ((Line.read (above.length + 1) line).code = [] → r' = r) ∧
    ∀ t ∈ (Line.read (above.length + 1) line).code.getLast?, Report.SameButRight t r r')
  refine ⟨fun hcode => ?_, fun t ht => ?_⟩
  · exact report_uncommented_nil above below hmem hcomment text text' hcode
  · obtain ⟨init, hcode⟩ := List.getLast?_eq_some_iff.1 (Option.mem_def.1 ht)
    exact sameButRight_uncommented above below hmem hcomment text text' hcode

/-- a sum that goes on behind a comment: without the comment, only the left side of the sign is at fault -/
theorem lintSource_uncommented_sum :
    (⟨.comment "// and".toList, 2, 7⟩ : Token) ∈ (Line.read 2 "x = y+// and".toList).tokens ∧
      ((Source.ofLines [] ["f(a ,b)".toList, "x = y+// and".toList, " z".toList]).report {} defaultRules).lineMessages =
        [(1, "missing space after \",\""), (1, "unexpected space before \",\""), (2, "missing spaces around \"+\"")] ∧
      ((Source.ofLines [] ["f(a ,b)".toList, "x = y+".toList, " z".toList]).report {} defaultRules).lineMessages =
        [(1, "missing space after \",\""), (1, "unexpected space before \",\""), (2, "missing space before \"+\"")] ∧
      Report.SameButRight ⟨.operator .add, 2, 6⟩
        ((Source.ofLines [] ["f(a ,b)".toList, "x = y+// and".toList, " z".toList]).report {} defaultRules)
        ((Source.ofLines [] ["f(a ,b)".toList, "x = y+".toList, " z".toList]).report {} defaultRules) := by
  have hmem : (⟨.comment "// and".toList, 2, 7⟩ : Token) ∈ (Line.read 2 "x = y+// and".toList).tokens := by decide +kernel
  have hlast : (⟨.operator .add, 2, 6⟩ : Token) ∈ (Line.read 2 "x = y+// and".toList).code.getLast? := by decide +kernel
  have hbefore : textBefore "x = y+// and".toList ⟨.comment "// and".toList, 2, 7⟩ = "x = y+".toList := by decide +kernel
  have hreport : ∀ texts, lintSource (.ofLines [] texts) {} defaultRules =
      .ok ((Source.ofLines [] texts).report {} defaultRules) := fun texts => lintSource_eq _ _
  refine ⟨hmem, ?_, ?_, ?_⟩
  · rw [Report.lineMessages, diagnostics_report]
    decide +kernel
  · rw [Report.lineMessages, diagnostics_report]
    decide +kernel
  · have hsame := (lintSource_uncommented ["f(a ,b)".toList] [" z".toList] hmem rfl [] [] {}).2
    rw [hbefore] at hsame
    exact (hsame _ _ (hreport _) (hreport _)).2 _ hlast

end VixStyle
