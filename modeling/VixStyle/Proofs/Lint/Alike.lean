/-
What the checks find in sources whose lines are alike.

All checks but those on spacing look at the code of a line, the blanks before it and its number (`Line.Alike`), and not into
string literals. Main statement, `check_alike`: they find the same in two sources whose lines are alike, one by one, but that a
declaration keyword without a name shows what stands in the place of the name (`Diagnostic.Refound`). The two checks on spacing
read the text beside a token, too; what they find is compared line by line elsewhere. `filter_diagnostics_of_check` cuts the
findings of one check out of all findings.
-/
import VixStyle.Proofs.Indentation.Alike
import VixStyle.Proofs.Lint.Distinct
import VixStyle.Proofs.Spacing.Sides

namespace VixStyle

/-! ## Diagnostics on other string literals -/

/-- the diagnostic on a declaration keyword without a name -/
def NamelessDeclaration.diagnostic (n : NamelessDeclaration) : Diagnostic :=
  Problem.malformedDeclaration.found n.line n.column n.message Problem.malformedDeclaration.hint

/-- the same diagnostic, or one on a keyword without a name that shows `new` in the place of the name where the other
shows `old` -/
inductive Diagnostic.Refound (old new : List Char) : Diagnostic → Diagnostic → Prop
  | same (d : Diagnostic) : Refound old new d d
  | found (n : NamelessDeclaration) (h : n.found = some old) :
    Refound old new n.diagnostic { n with found := some new }.diagnostic

namespace Diagnostic.Refound

theorem refl_list {old new : List Char} (ds : List Diagnostic) : List.Forall₂ (Refound old new) ds ds :=
  List.forall₂_same.2 fun d _ => .same d

theorem of_eq {old new : List Char} {ds es : List Diagnostic} (h : es = ds) : List.Forall₂ (Refound old new) ds es := by
  rw [h]
  exact refl_list ds

/-- where the texts are the same, nothing is different -/
theorem eq_of_same {w : List Char} {d e : Diagnostic} (h : Refound w w d e) : e = d := by
  cases h with
  | same => rfl
  | found n hn => rw [← hn]

theorem list_eq_of_same {w : List Char} {ds es : List Diagnostic} (h : List.Forall₂ (Refound w w) ds es) : es = ds := by
  have heq : List.Forall₂ Eq ds es := h.imp fun d e hde => hde.eq_of_same.symm
  rw [List.forall₂_eq_eq_eq] at heq
  exact heq.symm

end Diagnostic.Refound

/-! ## Checks -/

section Alike

variable {old new : List Char} {f : Token → Token} (hf : Token.Swaps old new f)

/-- lines are alike if one of them is, and the code of the others has no string literal that is swapped -/
theorem Line.alike_around {above below : List Line} (hother : ∀ l ∈ above ++ below, l.code.map f = l.code) {l l' : Line}
    (h : Line.Alike f l l') : List.Forall₂ (Line.Alike f) (above ++ l :: below) (above ++ l' :: below) := by
  have hsame : ∀ m ∈ above ++ below, Line.Alike f m m := fun m hm => ⟨rfl, rfl, (hother m hm).symm, fun _ => rfl⟩
  obtain ⟨habove, hbelow⟩ := List.forall_mem_append.1 hsame
  exact List.rel_append (List.forall₂_same.2 habove) (.cons h (List.forall₂_same.2 hbelow))

theorem LineByLine.alike {check : Source → List Diagnostic} {find : Line → List Diagnostic} (hcheck : LineByLine check find)
    {R : Line → Line → Prop} (hfind : ∀ l l', R l l' → List.Forall₂ (Diagnostic.Refound old new) (find l) (find l'))
    {s s' : Source} (h : List.Forall₂ R s.lines s'.lines) :
    List.Forall₂ (Diagnostic.Refound old new) (check s) (check s') := by
  rw [hcheck.check_eq, hcheck.check_eq]
  exact List.rel_flatMap h hfind

/-- two lines of which the same is told may stand in each other's place -/
theorem LineByLine.filter_congr {check : Source → List Diagnostic} {find : Line → List Diagnostic}
    (hcheck : LineByLine check find) {p : Diagnostic → Bool} {above below : List Line} {l l' : Line}
    (hfind : (find l').filter p = (find l).filter p) {s s' : Source} (hs : s.lines = above ++ l :: below)
    (hs' : s'.lines = above ++ l' :: below) : (check s').filter p = (check s).filter p := by
  rw [hcheck.check_eq, hcheck.check_eq, hs, hs', List.flatMap_append, List.flatMap_append, List.flatMap_cons,
    List.flatMap_cons, List.filter_append, List.filter_append, List.filter_append, List.filter_append, hfind]

/-- two lines on which the same is found may stand in each other's place -/
theorem LineByLine.congr_around {check : Source → List Diagnostic} {find : Line → List Diagnostic}
    (hcheck : LineByLine check find) {above below : List Line} {l l' : Line} (hfind : find l' = find l) {s s' : Source}
    (hs : s.lines = above ++ l :: below) (hs' : s'.lines = above ++ l' :: below) : check s' = check s := by
  have hall := hcheck.filter_congr (p := fun _ => true) (congrArg _ hfind) hs hs'
  rwa [List.filter_true, List.filter_true] at hall

include hf

theorem namelessFindings_alike {l l' : Line} (h : Line.Alike f l l') :
    List.Forall₂ (Diagnostic.Refound old new) (l.findings.filterMap namelessDiagnostic?)
      (l'.findings.filterMap namelessDiagnostic?) := by
  refine List.rel_filterMap (fun a b hab => ?_) (Line.findings_swapped hf h)
  cases hab with
  | same =>
    cases namelessDiagnostic? a with
    | none => exact .none
    | some d => exact .some (.same d)
  | found n hn => exact .some (.found n hn)

variable {s s' : Source} (h : List.Forall₂ (Line.Alike f) s.lines s'.lines)

include h

theorem Rule.Indentation.check_alike (options : Options) :
    Rule.Indentation.check s' options = Rule.Indentation.check s options := by
  unfold Rule.Indentation.check
  rw [findings_alike hf options h]

theorem run_alike {r : Rule} (hr : r ∈ defaultRules) (hoperator : r.header.id ≠ Problem.operatorSpacing.ruleId)
    (hcomma : r.header.id ≠ Problem.commaSpacing.ruleId) (options : Options) :
    List.Forall₂ (Diagnostic.Refound old new) (r.run s options) (r.run s' options) := by
  have hdeclared : ∀ kind find l l', Line.Alike f l l' →
      List.Forall₂ (Diagnostic.Refound old new) (l.findings.filterMap (Rule.Naming.diagnosticOf? kind find))
        (l'.findings.filterMap (Rule.Naming.diagnosticOf? kind find)) :=
    fun kind find l l' hl => Diagnostic.Refound.of_eq (declared_alike hf hl kind find)
  have hid : ∀ p : Problem, p ∈ [Problem.constNaming, .staticNaming, .singleVsMultilineIf] →
      p.ruleId ≠ Problem.indentationConsistency.ruleId := by decide
  simp only [defaultRules, List.mem_cons, List.not_mem_nil, or_false] at hr
  rcases hr with rfl | rfl | rfl | rfl | rfl | rfl | rfl | rfl
  · exact (Rule.Naming.checkCapitals_lineByLine (hid .constNaming (by decide)) .constant).alike (hdeclared _ _) h
  · exact (Rule.Naming.checkCapitals_lineByLine (hid .staticNaming (by decide)) .static).alike (hdeclared _ _) h
  · exact Rule.Naming.checkVar_lineByLine.alike (hdeclared _ _) h
  · exact Rule.Naming.checkFunc_lineByLine.alike (hdeclared _ _) h
  · exact absurd rfl hoperator
  · exact absurd rfl hcomma
  · exact Diagnostic.Refound.of_eq (Rule.Indentation.check_alike hf h options)
  · exact (Rule.OneLineIf.check_lineByLine (hid .singleVsMultilineIf (by decide)) _ options).alike
      (fun l l' hl => Diagnostic.Refound.of_eq (Rule.OneLineIf.findings_alike hf hl _ _ options)) h

/-- **All checks but those on spacing** find the same in sources whose lines are alike, but for the texts that are found in
the place of names. -/
theorem check_alike {options : Options} {check : String × (Source → List Diagnostic)} (hcheck : check ∈ namedChecks options)
    (hoperator : check.1 ≠ Problem.operatorSpacing.ruleId) (hcomma : check.1 ≠ Problem.commaSpacing.ruleId) :
    List.Forall₂ (Diagnostic.Refound old new) (check.2 s) (check.2 s') := by
  rcases List.mem_cons.1 hcheck with rfl | hcheck
  · refine faultDiagnostics_lineByLine.alike (fun l l' hl => Diagnostic.Refound.of_eq ?_) h
    exact congrArg Option.toList (faultDiagnostic_alike hl fun line column =>
      Problem.unterminatedString.found line column Problem.unterminatedString.message Problem.unterminatedString.hint)
  rcases List.mem_cons.1 hcheck with rfl | hcheck
  · exact namelessDiagnostics_lineByLine.alike (fun l l' hl => namelessFindings_alike hf hl) h
  obtain ⟨r, hr, rfl⟩ := List.mem_map.1 hcheck
  exact run_alike hf h (List.mem_of_mem_filter hr) hoperator hcomma options

end Alike

/-- the check under the id of a rule is the rule -/
theorem run_of_namedCheck {options : Options} {check : String × (Source → List Diagnostic)}
    (hcheck : check ∈ namedChecks options) {r : Rule} (hr : r ∈ defaultRules) (hid : check.1 = r.header.id) :
    check.2 = fun s => r.run s options := by
  have hall : (Problem.unterminatedString.ruleId :: Problem.malformedDeclaration.ruleId ::
      defaultRules.map fun r => r.header.id).Nodup := by decide
  obtain ⟨hfault, hall⟩ := List.nodup_cons.1 hall
  obtain ⟨hnameless, hids⟩ := List.nodup_cons.1 hall
  have hmem : r.header.id ∈ defaultRules.map fun r => r.header.id := List.mem_map_of_mem hr
  rw [← hid] at hmem
  rcases List.mem_cons.1 hcheck with rfl | hcheck
  · exact absurd (List.mem_cons_of_mem _ hmem) hfault
  rcases List.mem_cons.1 hcheck with rfl | hcheck
  · exact absurd hmem hnameless
  obtain ⟨r', hr', rfl⟩ := List.mem_map.1 hcheck
  rw [List.inj_on_of_nodup_map hids (List.mem_of_mem_filter hr') hr hid]

/-- a check is one on spacing, which goes token by token, or another one -/
theorem spacing_cases {options : Options} {check : String × (Source → List Diagnostic)} (hcheck : check ∈ namedChecks options) :
    ((check.1 = Problem.operatorSpacing.ruleId ∨ check.1 = Problem.commaSpacing.ruleId) ∧
        ∃ find say, LineByLine check.2 find ∧ Rule.Spacing.TokenByToken find say) ∨
      check.1 ≠ Problem.operatorSpacing.ruleId ∧ check.1 ≠ Problem.commaSpacing.ruleId := by
  by_cases hoperator : check.1 = Problem.operatorSpacing.ruleId
  · rw [run_of_namedCheck hcheck (r := .operatorSpacing) (by simp [defaultRules]) hoperator]
    exact Or.inl ⟨Or.inl hoperator, _, _, Rule.Spacing.operators_lineByLine options, Rule.Spacing.operators_tokenByToken⟩
  by_cases hcomma : check.1 = Problem.commaSpacing.ruleId
  · rw [run_of_namedCheck hcheck (r := .commaSpacing) (by simp [defaultRules]) hcomma]
    exact Or.inl ⟨Or.inr hcomma, _, _, Rule.Spacing.commas_lineByLine options, Rule.Spacing.commas_tokenByToken⟩
  exact Or.inr ⟨hoperator, hcomma⟩

/-! ## One check among all -/

section Filter

variable {options : Options} {p : Diagnostic → Bool} {s : Source}

theorem filter_flatMap_of_other {checks : List (String × (Source → List Diagnostic))}
    (hchecks : ∀ check ∈ checks, check ∈ namedChecks options)
    (hother : ∀ check ∈ checks, ∀ d, p d = true → d.ruleId ≠ check.1) :
    (checks.flatMap fun check => check.2 s).filter p = [] := by
  apply List.filter_eq_nil_iff.2
  intro d hd hp
  obtain ⟨check, hcheck, hd⟩ := List.mem_flatMap.1 hd
  exact hother check hcheck d hp (own_of_check (hchecks check hcheck) hd)

/-- **What is asked of the diagnostics of one check** is found among the findings of that check. -/
theorem filter_diagnostics_of_check {check : String × (Source → List Diagnostic)} (hcheck : check ∈ namedChecks options)
    (hp : ∀ d, p d = true → d.ruleId = check.1) :
    (s.diagnostics options defaultRules).filter p = (check.2 s).filter p := by
  have hids := nodup_namedChecks options
  obtain ⟨front, back, hsplit⟩ := List.append_of_mem hcheck
  have hfront : ∀ c ∈ front, c ∈ namedChecks options := fun c hc => hsplit ▸ List.mem_append_left _ hc
  have hback : ∀ c ∈ back, c ∈ namedChecks options :=
    fun c hc => hsplit ▸ List.mem_append_right _ (List.mem_cons_of_mem _ hc)
  rw [hsplit, List.map_append, List.map_cons] at hids
  have hbefore : ∀ c ∈ front, c.1 ≠ check.1 := fun c hc =>
    (List.nodup_append.1 hids).2.2 _ (List.mem_map_of_mem hc) _ List.mem_cons_self
  have hbehind : ∀ c ∈ back, c.1 ≠ check.1 := by
    intro c hc heq
    exact (List.nodup_cons.1 (List.nodup_append.1 hids).2.1).1 (heq ▸ List.mem_map_of_mem hc)
  rw [diagnostics_eq_namedChecks, hsplit, List.flatMap_append, List.flatMap_cons, List.filter_append, List.filter_append,
    filter_flatMap_of_other hfront fun c hc d hd heq => hbefore c hc (heq.symm.trans (hp d hd)),
    filter_flatMap_of_other hback fun c hc d hd heq => hbehind c hc (heq.symm.trans (hp d hd)), List.nil_append,
    List.append_nil]

/-- nothing is reported under the id of a check that is not run -/
theorem filter_diagnostics_of_absent {id : String} (habsent : ∀ check ∈ namedChecks options, check.1 ≠ id)
    (hp : ∀ d, p d = true → d.ruleId = id) : (s.diagnostics options defaultRules).filter p = [] := by
  rw [diagnostics_eq_namedChecks]
  exact filter_flatMap_of_other (fun _ h => h) fun check hcheck d hd heq => habsent check hcheck (heq.symm.trans (hp d hd))

end Filter

end VixStyle
