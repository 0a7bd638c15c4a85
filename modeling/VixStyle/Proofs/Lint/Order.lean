/-
The order of rules.

Main statement, `lint_perm`: rules that are accepted and report under their own ids may run in any order. Diagnostics of one
key need not be the same: a rule may report twice at one place in the same words with different hints, and a rule may even
bear an id that the run itself reports under. What keeps such ties apart is that all diagnostics of one key come from one
rule, or from the run itself and that rule, and that the run's own diagnostics are collected first.

- `filter_flatMap_perm`: what rules find under one key does not depend on their order, by induction on the permutation.
- `sortDiagnostics_of_ties`: only the order of diagnostics of one key matters to a report.
-/
import VixStyle.Proofs.Lint.Distinct

namespace VixStyle

/-- a rule reports on a source under its own id only -/
def Rule.ReportsAsItself (r : Rule) (s : Source) (o : Options) : Prop := ∀ d ∈ r.run s o, d.ruleId = r.header.id

/-! ## What is found under one key -/

section

variable {s : Source} {o : Options}

/-- of two rules with different ids one finds nothing under a key -/
theorem filter_key_eq_nil {r r' : Rule} (hr : r.ReportsAsItself s o) (hr' : r'.ReportsAsItself s o)
    (hids : r.header.id ≠ r'.header.id) (k : Int ×ₗ Int ×ₗ String ×ₗ String) :
    ((r.run s o).filter fun d => d.key = k) = [] ∨ ((r'.run s o).filter fun d => d.key = k) = [] := by
  by_contra hboth
  obtain ⟨hne, hne'⟩ := not_or.1 hboth
  obtain ⟨d, hd⟩ := List.exists_mem_of_ne_nil _ hne
  obtain ⟨d', hd'⟩ := List.exists_mem_of_ne_nil _ hne'
  obtain ⟨hd, hk⟩ := List.mem_filter.1 hd
  obtain ⟨hd', hk'⟩ := List.mem_filter.1 hd'
  have hkey : d.key = d'.key := (of_decide_eq_true hk).trans (of_decide_eq_true hk').symm
  have hid : d.ruleId = d'.ruleId := (Diagnostic.key_eq_iff.1 hkey).2.2.1
  rw [hr d hd, hr' d' hd'] at hid
  exact hids hid

/-- **What rules find under one key** does not depend on their order. -/
theorem filter_flatMap_perm {rules rules' : List Rule} (hperm : rules.Perm rules')
    (hids : (rules.map fun r => r.header.id).Nodup) (hown : ∀ r ∈ rules, r.ReportsAsItself s o)
    (k : Int ×ₗ Int ×ₗ String ×ₗ String) :
    ((rules.flatMap fun r => r.run s o).filter fun d => d.key = k) =
      (rules'.flatMap fun r => r.run s o).filter fun d => d.key = k := by
  induction hperm with
  | nil => rfl
  | cons r _ ih =>
    rw [List.map_cons, List.nodup_cons] at hids
    rw [List.flatMap_cons, List.flatMap_cons, List.filter_append, List.filter_append,
      ih hids.2 fun q hq => hown q (List.mem_cons_of_mem r hq)]
  | swap r r' rules =>
    have hdiffer : r'.header.id ≠ r.header.id := by
      rw [List.map_cons, List.map_cons, List.nodup_cons, List.mem_cons, not_or] at hids
      exact hids.1.1
    have hempty := filter_key_eq_nil (hown r' List.mem_cons_self)
      (hown r (List.mem_cons_of_mem r' List.mem_cons_self)) hdiffer k
    simp only [List.flatMap_cons, List.filter_append]
    rcases hempty with hempty | hempty
    · rw [hempty, List.nil_append, List.nil_append]
    · rw [hempty, List.nil_append, List.nil_append]
  | trans hfirst _ ih ih' =>
    refine (ih hids hown).trans (ih' ?_ fun q hq => hown q (hfirst.mem_iff.2 hq))
    exact (hfirst.map _).nodup_iff.1 hids

theorem report_perm {rules rules' : List Rule} (hperm : rules.Perm rules')
    (hids : (rules.map fun r => r.header.id).Nodup) (hown : ∀ r ∈ selectRules rules o, r.ReportsAsItself s o) :
    s.report o rules = s.report o rules' := by
  have hselected : (selectRules rules o).Perm (selectRules rules' o) := hperm.filter _
  have hnodup : ((selectRules rules o).map fun r => r.header.id).Nodup := hids.sublist (List.filter_sublist.map _)
  have hties : ∀ k, ((s.diagnostics o rules).filter fun d => d.key = k) =
      (s.diagnostics o rules').filter fun d => d.key = k := by
    intro k
    unfold Source.diagnostics
    rw [List.filter_append, filter_flatMap_perm hselected hnodup hown k, ← List.filter_append]
  unfold Source.report Report.of
  rw [sortDiagnostics_of_ties hties]

end

/-! ## A run -/

/-- accepted rules give a report exactly if those that are selected do not refuse the options -/
theorem lint_eq_ok_iff [Machine] {text : List Char} {o : Options} {rules : List Rule}
    (hvalid : validateRules rules = .ok ()) {report : Report} : lint text o rules = .ok report ↔
      (∀ r ∈ selectRules rules o, r.refuses o = none) ∧ report = (Source.ofText text).report o rules := by
  rw [lint, lintSource_eq_ok_iff, refusal?_eq_none_iff, eq_comm (b := report)]
  exact and_iff_right hvalid

theorem nodup_of_validateRules {rules : List Rule} (hvalid : validateRules rules = .ok ()) :
    (rules.map fun r => r.header.id).Nodup := by
  have hids := (faultFrom?_eq_none_iff.1 (validateRules_eq_ok_iff.1 hvalid)).2
  rwa [List.map_map] at hids

/--
**The order of rules does not matter.** Accepted rules, of which those that are selected report under their own ids, give the
same report in any order. There is a report exactly if none of those that are selected refuses the options.
-/
theorem lint_perm [Machine] {text : List Char} {o : Options} {rules : List Rule} (hvalid : validateRules rules = .ok ())
    (hown : ∀ r ∈ selectRules rules o, r.ReportsAsItself (Source.ofText text) o) {rules' : List Rule}
    (hperm : rules.Perm rules') :
    (∀ report, lint text o rules = .ok report ↔ lint text o rules' = .ok report) ∧
      ((∃ report, lint text o rules = .ok report) ↔ ∀ r ∈ selectRules rules o, r.refuses o = none) := by
  have hvalid' : validateRules rules' = .ok () := validateRules_perm hperm hvalid
  have hselected : (selectRules rules o).Perm (selectRules rules' o) := hperm.filter _
  have hrefuses : (∀ r ∈ selectRules rules o, r.refuses o = none) ↔ ∀ r ∈ selectRules rules' o, r.refuses o = none :=
    forall_congr' fun r => imp_congr_left hselected.mem_iff
  have hreport := report_perm hperm (nodup_of_validateRules hvalid) hown
  refine ⟨fun report => ?_, ?_⟩
  · rw [lint_eq_ok_iff hvalid, lint_eq_ok_iff hvalid', hrefuses, hreport]
  · simp only [lint_eq_ok_iff hvalid, exists_and_left, exists_eq, and_true]

/-- a rule that says of an open string what the run says, with a hint of its own -/
def echoRule : Rule :=
  .reporting ⟨"unterminated-string", "echo", "layout", .warning⟩ [⟨"unterminated-string", "Unterminated string literal.", 1, 5,
    .warning, some "Echo.", none⟩]

/-- a rule that reports twice at one place in the same words -/
def twiceRule : Rule :=
  .reporting ⟨"twice", "twice", "naming", .error⟩ [⟨"twice", "here", 1, 1, .error, some "First.", none⟩,
    ⟨"twice", "here", 1, 1, .warning, some "Second.", none⟩]

/-- ties keep their order whichever rule comes first, and what the run itself reports comes before them -/
theorem lint_perm_ties : validateRules [echoRule, twiceRule] = .ok () ∧
    (∀ r ∈ selectRules [echoRule, twiceRule] {}, r.ReportsAsItself (Source.ofText "x = \"".toList) {}) ∧
    ∃ report, lint "x = \"".toList {} [echoRule, twiceRule] = .ok report ∧
      lint "x = \"".toList {} [twiceRule, echoRule] = .ok report ∧
      report.diagnostics.map Diagnostic.hint =
        [some "First.", some "Second.", Problem.unterminatedString.hint, some "Echo."] := by
  have hvalid : validateRules [echoRule, twiceRule] = .ok () := by decide +kernel
  have hselected : selectRules [echoRule, twiceRule] {} = [echoRule, twiceRule] := rfl
  have hown : ∀ r ∈ selectRules [echoRule, twiceRule] {}, r.ReportsAsItself (Source.ofText "x = \"".toList) {} := by
    rw [hselected, List.forall_mem_cons, List.forall_mem_singleton]
    exact ⟨List.forall_mem_singleton.2 rfl, List.forall_mem_cons.2 ⟨rfl, List.forall_mem_singleton.2 rfl⟩⟩
  have hrefuses : ∀ r ∈ selectRules [echoRule, twiceRule] {}, r.refuses {} = none := by
    rw [hselected, List.forall_mem_cons, List.forall_mem_singleton]
    exact ⟨rfl, rfl⟩
  obtain ⟨hsame, hreport⟩ := lint_perm hvalid hown (List.Perm.swap twiceRule echoRule [])
  obtain ⟨report, hrun⟩ := hreport.2 hrefuses
  refine ⟨hvalid, hown, report, hrun, (hsame report).1 hrun, ?_⟩
  obtain ⟨-, rfl⟩ := (lint_eq_ok_iff hvalid).1 hrun
  rw [diagnostics_report]
  decide +kernel

end VixStyle
