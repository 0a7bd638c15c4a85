/-
No diagnostic twice.

Main statement, `lintDefault_strict`: the keys of a report ascend strictly. So the report holds nothing twice, and it is
the same whichever way the diagnostics are sorted by their keys, and in whichever order the rules run.

Diagnostics of two checks differ in their ids (`nodup_namedChecks`). Those of one check lie on different lines, or on one
line where the check never reports twice at one place in the same words (`check_distinct`).
-/
import VixStyle.Proofs.Lint.Selection

namespace VixStyle

namespace Diagnostic

theorem key_eq_iff {a b : Diagnostic} : a.key = b.key ↔
    a.line = b.line ∧ a.column = b.column ∧ a.ruleId = b.ruleId ∧ a.message = b.message := by
  simp [key]

end Diagnostic

/-! ## What is found -/

/-- no two checks of a run have the same id -/
theorem nodup_namedChecks (o : Options) : ((namedChecks o).map Prod.fst).Nodup := by
  have hall : (Problem.unterminatedString.ruleId :: Problem.malformedDeclaration.ruleId ::
      defaultRules.map fun r => r.header.id).Nodup := by decide
  have hselected : ((namedChecks o).map Prod.fst).Sublist (Problem.unterminatedString.ruleId ::
      Problem.malformedDeclaration.ruleId :: defaultRules.map fun r => r.header.id) := by
    unfold namedChecks
    rw [List.map_cons, List.map_cons, List.map_map]
    exact ((List.filter_sublist.map _).cons_cons _).cons_cons _
  exact hall.sublist hselected

/-- **A check finds nothing twice.** -/
theorem check_distinct {o : Options} {check : String × (Source → List Diagnostic)} (h : check ∈ namedChecks o)
    (text : List Char) : (check.2 (Source.ofText text)).Pairwise fun a b => a.key ≠ b.key := by
  have hread : ∀ l ∈ (Source.ofText text).lines, l.WasRead := Line.wasRead_readAll
  have hordered : (Source.ofText text).lines.Pairwise fun l m => l.number < m.number := Line.ordered_readFrom 1 _
  rcases namedCheck_cases h with ⟨-, hcheck⟩ | ⟨find, hfind, hsited⟩
  · rw [hcheck]
    refine List.pairwise_map.2 ((Rule.Indentation.findings_apart hread hordered o).imp ?_)
    intro f g hapart hkey
    obtain ⟨hline, hcolumn, -, hmessage⟩ := Diagnostic.key_eq_iff.1 hkey
    exact hapart hline (Int.ofNat_inj.1 hcolumn) hmessage
  · rw [hfind.check_eq]
    refine List.pairwise_flatMap.2 ⟨fun l hl => ?_, hordered.imp_of_mem fun {l m} hl hm hlt a ha b hb hkey => ?_⟩
    · refine (hsited.apart l (hread l hl)).imp ?_
      intro a b hapart hkey
      obtain ⟨-, hcolumn, -, hmessage⟩ := Diagnostic.key_eq_iff.1 hkey
      exact hapart hcolumn hmessage
    · have hline := (Diagnostic.key_eq_iff.1 hkey).1
      rw [hfind.line l (Line.numbered_of_wasRead (hread l hl)) a ha,
        hfind.line m (Line.numbered_of_wasRead (hread m hm)) b hb] at hline
      exact hlt.ne hline

/-- **Nothing is found twice.** -/
theorem diagnostics_distinct (text : List Char) (o : Options) :
    ((Source.ofText text).diagnostics o defaultRules).Pairwise fun a b => a.key ≠ b.key := by
  rw [diagnostics_eq_namedChecks]
  refine List.pairwise_flatMap.2 ⟨fun check h => check_distinct h text, ?_⟩
  have hids : (namedChecks o).Pairwise fun c c' => c.1 ≠ c'.1 := List.pairwise_map.1 (nodup_namedChecks o)
  refine hids.imp_of_mem ?_
  intro c c' hc hc' hid a ha b hb hkey
  have hrule := (Diagnostic.key_eq_iff.1 hkey).2.2.1
  rw [own_of_check hc ha, own_of_check hc' hb] at hrule
  exact hid hrule

/-! ## The order of rules -/

section Validation

theorem RuleHeader.fault?_eq_none_iff (seen : List String) (h : RuleHeader) :
    h.fault? seen = none ↔ h.fault? [] = none ∧ h.id ∉ seen := by
  unfold RuleHeader.fault?
  by_cases hid : isRuleId h.id = true <;> by_cases hseen : h.id ∈ seen <;> simp [hid, hseen]

/-- rules are accepted if each is and no id comes twice -/
theorem faultFrom?_eq_none_iff {seen : List String} {hs : List RuleHeader} : faultFrom? seen hs = none ↔
    (∀ h ∈ hs, h.fault? seen = none) ∧ (hs.map RuleHeader.id).Nodup := by
  induction hs generalizing seen with
  | nil => simp [faultFrom?]
  | cons h hs ih =>
    rw [faultFrom?, Option.or_eq_none_iff, ih, List.forall_mem_cons, List.map_cons, List.nodup_cons]
    have hseen : (∀ x ∈ hs, x.fault? (h.id :: seen) = none) ↔
        (∀ x ∈ hs, x.fault? seen = none) ∧ h.id ∉ hs.map RuleHeader.id := by
      simp only [RuleHeader.fault?_eq_none_iff (h.id :: seen), RuleHeader.fault?_eq_none_iff seen,
        List.mem_cons, List.mem_map, not_or, not_exists, not_and]
      constructor
      · intro hall
        exact ⟨fun x hx => ⟨(hall x hx).1, (hall x hx).2.2⟩, fun x hx heq => (hall x hx).2.1 heq⟩
      · rintro ⟨hall, hnot⟩ x hx
        exact ⟨(hall x hx).1, hnot x hx, (hall x hx).2⟩
    rw [hseen]
    tauto

theorem validateRules_eq_ok_iff {rules : List Rule} :
    validateRules rules = .ok () ↔ faultFrom? [] (rules.map Rule.header) = none := by
  unfold validateRules
  cases faultFrom? [] (rules.map Rule.header) <;> simp

/-- accepted rules may run in any order -/
theorem validateRules_perm {rules rules' : List Rule} (hperm : rules.Perm rules') (h : validateRules rules = .ok ()) :
    validateRules rules' = .ok () := by
  rw [validateRules_eq_ok_iff, faultFrom?_eq_none_iff] at h ⊢
  have hheaders : (rules.map Rule.header).Perm (rules'.map Rule.header) := hperm.map _
  exact ⟨fun x hx => h.1 x (hheaders.mem_iff.2 hx), (hheaders.map _).nodup_iff.1 h.2⟩

end Validation

theorem refusal?_eq_none_iff [Machine] {rules : List Rule} {o : Options} :
    refusal? rules o = none ↔ ∀ r ∈ rules, r.refuses o = none :=
  List.findSome?_eq_none_iff

/-- what rules find does not depend on their order -/
theorem diagnostics_perm {rules rules' : List Rule} (hperm : rules.Perm rules') (s : Source) (o : Options) :
    (s.diagnostics o rules).Perm (s.diagnostics o rules') :=
  ((hperm.filter _).flatMap_right _).append_left _

/--
**The keys of a report ascend strictly.** No two diagnostics agree in line, column, id and message. Any way to put what is
found in the order of its keys gives the report, and so do the default rules in any order.
-/
theorem lintDefault_strict [Machine] {text : List Char} {o : Options} {r : Report} (h : lintDefault text o = .ok r) :
    r.diagnostics.Pairwise (fun a b => a.key < b.key) ∧
      (∀ es : List Diagnostic, es.Perm ((Source.ofText text).diagnostics o defaultRules) →
        es.Pairwise (fun a b => a.key ≤ b.key) → es = r.diagnostics) ∧
      ∀ rules : List Rule, rules.Perm defaultRules → lint text o rules = .ok r := by
  have hdistinct := diagnostics_distinct text o
  obtain ⟨hunit, rfl⟩ := lintDefault_eq_ok_iff.1 h
  refine ⟨strict_sortDiagnostics hdistinct, fun es hperm hsorted => eq_sortDiagnostics hdistinct hperm hsorted, ?_⟩
  intro rules hrules
  have hvalid : validateRules rules = .ok () := validateRules_perm hrules.symm rfl
  have hrefusal : refusal? (selectRules rules o) o = none := by
    rw [← refusal?_defaultRules, refusal?_eq_none_iff] at hunit
    refine refusal?_eq_none_iff.2 fun r hr => hunit r ?_
    exact (hrules.filter _).mem_iff.1 hr
  have hreport : (Source.ofText text).report o rules = (Source.ofText text).report o defaultRules := by
    unfold Source.report Report.of
    rw [eq_sortDiagnostics hdistinct ((perm_sortDiagnostics _).trans (diagnostics_perm hrules _ o))
      (sorted_sortDiagnostics _)]
  exact lintSource_eq_ok_iff.2 ⟨hvalid, hrefusal, hreport⟩

/-- the places and words of a report -/
def Report.columnMessages (r : Report) : List (Int × String) := r.diagnostics.map fun d => (d.column, d.message)

/-- two reports on one comma, which the rules give in the opposite order too -/
theorem lintDefault_strict_comma :
    lintDefault "a ,b".toList {} = .ok ((Source.ofText "a ,b".toList).report {} defaultRules) ∧
      ((Source.ofText "a ,b".toList).report {} defaultRules).columnMessages =
        [(3, "missing space after \",\""), (3, "unexpected space before \",\"")] ∧
      ((Source.ofText "a ,b".toList).report {} defaultRules).diagnostics.Pairwise (fun a b => a.key < b.key) ∧
      lint "a ,b".toList {} defaultRules.reverse = .ok ((Source.ofText "a ,b".toList).report {} defaultRules) := by
  have hreport : lintDefault "a ,b".toList {} = .ok ((Source.ofText "a ,b".toList).report {} defaultRules) :=
    lintDefault_eq_ok_iff.2 ⟨rfl, rfl⟩
  obtain ⟨hstrict, -, hrules⟩ := lintDefault_strict hreport
  refine ⟨hreport, ?_, hstrict, hrules _ (List.reverse_perm _)⟩
  rw [Report.columnMessages, diagnostics_report]
  decide +kernel

end VixStyle
