/-
Reports under restrictions.

Main statement, `lintDefault_restricted`: to enable or disable rules filters the report. What is left, in its order, are the
diagnostics under the ids that are enabled and those of unclosed string literals and nameless declarations, which no
option turns off.

The argument has three parts. Each check reports under its own id (`own_of_check`), no check looks at which others are
enabled (`run_unrestricted`), and filtering may be done before diagnostics are sorted or after (`sortDiagnostics_filter`).
-/
import VixStyle.Proofs.Indentation.Sites
import VixStyle.Proofs.Lint.Outcome
import VixStyle.Proofs.Lint.Sites
import VixStyle.Proofs.Report.Sorting

namespace VixStyle

/-! ## Checks and their ids -/

/-- the checks of a run with the default rules, each with the id that it reports under -/
def namedChecks (o : Options) : List (String × (Source → List Diagnostic)) :=
  (Problem.unterminatedString.ruleId, Source.faultDiagnostics) ::
    (Problem.malformedDeclaration.ruleId, Source.namelessDiagnostics) ::
      (selectRules defaultRules o).map fun r => (r.header.id, fun s => r.run s o)

theorem diagnostics_eq_namedChecks (s : Source) (o : Options) :
    s.diagnostics o defaultRules = (namedChecks o).flatMap fun check => check.2 s := by
  unfold Source.diagnostics namedChecks
  rw [List.flatMap_cons, List.flatMap_cons, List.flatMap_map, List.append_assoc]

/-- **A check is the one on indentation or goes line by line**, under its own id and where tokens stand. -/
theorem namedCheck_cases {o : Options} {check : String × (Source → List Diagnostic)} (h : check ∈ namedChecks o) :
    (check.1 = Problem.indentationConsistency.ruleId ∧ ∀ s, check.2 s = Rule.Indentation.check s o) ∨
      ∃ find, LineByLine check.2 find ∧ Sited check.1 find := by
  rcases List.mem_cons.1 h with rfl | h
  · exact Or.inr ⟨_, faultDiagnostics_lineByLine, faultFindings_sited⟩
  rcases List.mem_cons.1 h with rfl | h
  · exact Or.inr ⟨_, namelessDiagnostics_lineByLine, namelessFindings_sited⟩
  obtain ⟨r, hr, rfl⟩ := List.mem_map.1 h
  have hr : r ∈ defaultRules := List.mem_of_mem_filter hr
  by_cases hid : r.header.id = Problem.indentationConsistency.ruleId
  · refine Or.inl ⟨hid, ?_⟩
    simp only [defaultRules, List.mem_cons, List.not_mem_nil, or_false] at hr
    rcases hr with rfl | rfl | rfl | rfl | rfl | rfl | rfl | rfl
    all_goals first
      | exact fun s => rfl
      | exact absurd hid (by decide)
  · exact Or.inr (sited_of_rule hr hid o)

/-- **A check reports under its own id.** -/
theorem own_of_check {o : Options} {check : String × (Source → List Diagnostic)} (h : check ∈ namedChecks o) {s : Source}
    {d : Diagnostic} (hd : d ∈ check.2 s) : d.ruleId = check.1 := by
  rcases namedCheck_cases h with ⟨hid, hcheck⟩ | ⟨find, hfind, hsited⟩
  · rw [hcheck] at hd
    obtain ⟨f, -, rfl⟩ := List.mem_map.1 hd
    exact hid.symm
  · rw [hfind.check_eq] at hd
    obtain ⟨l, -, hd⟩ := List.mem_flatMap.1 hd
    exact hsited.own l d hd

/-! ## Restrictions -/

namespace Options

/-- the options with all rules enabled -/
def unrestricted (o : Options) : Options := { o with enabled := none, disabled := [] }

/-- whether a diagnostic stays in the report: its id is enabled, or nothing turns it off -/
def keeps (o : Options) (d : Diagnostic) : Bool :=
  d.ruleId == Problem.unterminatedString.ruleId || d.ruleId == Problem.malformedDeclaration.ruleId || o.enables d.ruleId

theorem enables_unrestricted (o : Options) (id : String) : o.unrestricted.enables id = true := by
  simp [unrestricted, enables]

end Options

theorem selectRules_unrestricted (rules : List Rule) (o : Options) : selectRules rules o.unrestricted = rules :=
  List.filter_eq_self.2 fun r _ => o.enables_unrestricted r.header.id

/-- the rule on an `if` looks only at the statements that are permitted -/
theorem Rule.OneLineIf.faults_congr {o o' : Options} (h : o.oneLineStatements = o'.oneLineStatements) (ts : List Token)
    (parts : List BlockPart) : faults o ts parts = faults o' ts parts := by
  have hfault : ∀ rest length, fault? o rest length = fault? o' rest length := by
    intro rest length
    simp only [fault?, bodyFault?, h]
  induction ts generalizing parts with
  | nil => rfl
  | cons t ts ih =>
    cases parts with
    | nil => rfl
    | cons part parts => rw [faults, faults, hfault, ih]

/-- **No rule looks at which others are enabled.** -/
theorem run_unrestricted {r : Rule} (hr : r ∈ defaultRules) (s : Source) (o : Options) :
    r.run s o.unrestricted = r.run s o := by
  simp only [defaultRules, List.mem_cons, List.not_mem_nil, or_false] at hr
  rcases hr with rfl | rfl | rfl | rfl | rfl | rfl | rfl | rfl
  case inr.inr.inr.inr.inr.inr.inr =>
    have hstatements : o.unrestricted.oneLineStatements = o.oneLineStatements := rfl
    refine List.flatMap_congr fun l _ => ?_
    unfold Rule.OneLineIf.findings
    rw [Rule.OneLineIf.faults_congr hstatements]
  all_goals rfl

/-- what a rule finds stays if the rule is enabled, and goes if not -/
theorem filter_run {r : Rule} (hr : r ∈ defaultRules) (s : Source) (o : Options) :
    (r.run s o.unrestricted).filter o.keeps = if o.enables r.header.id then r.run s o else [] := by
  have hown : ∀ d ∈ r.run s o.unrestricted, d.ruleId = r.header.id := by
    have hcheck : (r.header.id, fun s => r.run s o.unrestricted) ∈ namedChecks o.unrestricted := by
      unfold namedChecks
      rw [selectRules_unrestricted]
      exact List.mem_cons_of_mem _ (List.mem_cons_of_mem _ (List.mem_map_of_mem hr))
    exact fun d hd => own_of_check hcheck hd
  have hother : r.header.id ≠ Problem.unterminatedString.ruleId ∧ r.header.id ≠ Problem.malformedDeclaration.ruleId := by
    have hall : ∀ r ∈ defaultRules, r.header.id ≠ Problem.unterminatedString.ruleId ∧
        r.header.id ≠ Problem.malformedDeclaration.ruleId := by decide
    exact hall r hr
  have hkeeps : ∀ d ∈ r.run s o.unrestricted, o.keeps d = o.enables r.header.id := by
    intro d hd
    simp [Options.keeps, hown d hd, hother.1, hother.2]
  rw [List.filter_congr hkeeps, run_unrestricted hr]
  cases o.enables r.header.id with
  | true => exact List.filter_true _
  | false => exact List.filter_false _

theorem flatMap_selectRules (f : Rule → List Diagnostic) (rules : List Rule) (o : Options) :
    (selectRules rules o).flatMap f = rules.flatMap fun r => if o.enables r.header.id then f r else [] := by
  induction rules with
  | nil => rfl
  | cons r rules ih =>
    rw [selectRules_cons, List.flatMap_cons, ← ih]
    split
    · rw [List.flatMap_cons]
    · rw [List.nil_append]

/-- **What is found under restrictions** is what is found without, filtered. -/
theorem diagnostics_restricted (s : Source) (o : Options) :
    s.diagnostics o defaultRules = (s.diagnostics o.unrestricted defaultRules).filter o.keeps := by
  have hfaults : s.faultDiagnostics.filter o.keeps = s.faultDiagnostics := by
    refine List.filter_eq_self.2 fun d hd => ?_
    obtain ⟨e, -, rfl⟩ := List.mem_map.1 hd
    rfl
  have hnameless : s.namelessDiagnostics.filter o.keeps = s.namelessDiagnostics := by
    refine List.filter_eq_self.2 fun d hd => ?_
    obtain ⟨n, -, rfl⟩ := List.mem_map.1 hd
    simp [Options.keeps, Problem.found]
  unfold Source.diagnostics
  rw [List.filter_append, List.filter_append, hfaults, hnameless, selectRules_unrestricted, List.filter_flatMap,
    flatMap_selectRules]
  exact congrArg _ (List.flatMap_congr fun r hr => (filter_run hr s o).symm)

theorem report_restricted (s : Source) (o : Options) : (s.report o defaultRules).diagnostics =
    (s.report o.unrestricted defaultRules).diagnostics.filter o.keeps := by
  unfold Source.report Report.of
  rw [diagnostics_restricted, sortDiagnostics_filter]

/-- a report holds some diagnostics in their order, and counts just these -/
structure Report.Holds (r : Report) (ds : List Diagnostic) : Prop where
  diagnostics : r.diagnostics = ds
  errors : r.errorCount = ds.countP Diagnostic.isError
  warnings : r.warningCount = ds.countP fun d => !d.isError

theorem Report.holds_of_eq {r : Report} {ds : List Diagnostic} (h : r.diagnostics = ds) : r.Holds ds := by
  subst h
  refine ⟨rfl, rfl, ?_⟩
  have hlength : r.diagnostics.length =
      r.diagnostics.countP Diagnostic.isError + r.diagnostics.countP fun d => !d.isError := by
    rw [List.length_eq_countP_add_countP Diagnostic.isError]
    simp only [Bool.not_eq_true, Bool.decide_eq_false]
  unfold warningCount errorCount
  omega

/--
**To enable or disable rules filters the report.** Where all rules together give a report, a restriction gives a report as
well: the diagnostics that it keeps, in their order, with the counts of these. And a report under a restriction is in any
case what is kept of the report on all that the rules find: also where all rules together give none, because the unit
cannot be made. Then a restriction gives a report exactly if the rule on indentation is not enabled.
-/
theorem lintDefault_restricted [Machine] (text : List Char) (o : Options) :
    (∀ all, lintDefault text o.unrestricted = .ok all →
      ∃ r, lintDefault text o = .ok r ∧ r.Holds (all.diagnostics.filter o.keeps)) ∧
    (∀ r, lintDefault text o = .ok r →
      r.Holds (((Source.ofText text).report o.unrestricted defaultRules).diagnostics.filter o.keeps)) ∧
    ∀ fault, lintDefault text o = .error fault ↔
      lintDefault text o.unrestricted = .error fault ∧ o.enables Problem.indentationConsistency.ruleId = true := by
  have hkept := Report.holds_of_eq (report_restricted (Source.ofText text) o)
  refine ⟨fun all hall => ?_, fun r hr => ?_, fun fault => ?_⟩
  · obtain ⟨hunit, rfl⟩ := lintDefault_eq_ok_iff.1 hall
    refine ⟨_, lintDefault_eq_ok_iff.2 ⟨?_, rfl⟩, hkept⟩
    -- with all rules the unit can be made, so it can be made with fewer
    have hfault : o.unitFault? = none := by
      rwa [Options.refusedUnit?, o.enables_unrestricted, if_pos rfl] at hunit
    rw [Options.refusedUnit?, hfault, ite_self]
  · obtain ⟨-, rfl⟩ := lintDefault_eq_ok_iff.1 hr
    exact hkept
  · have hall : o.unrestricted.refusedUnit? = o.unitFault? := by
      rw [Options.refusedUnit?, o.enables_unrestricted, if_pos rfl]
      rfl
    rw [lintDefault_eq_error_iff, lintDefault_eq_error_iff, hall, Options.refusedUnit?]
    cases o.enables Problem.indentationConsistency.ruleId <;> simp

/-- a report in a form that can be evaluated -/
theorem diagnostics_report (s : Source) (o : Options) (rules : List Rule) :
    (s.report o rules).diagnostics = (s.diagnostics o rules).foldr insertDiagnostic [] :=
  sortDiagnostics_eq_foldr _

/-- the lines and ids of a report -/
def Report.lineIds (r : Report) : List (Int × String) := r.diagnostics.map fun d => (d.line, d.ruleId)

/-- a small constant without spaces before an open string: only one of the two rules that find something is left -/
theorem lintDefault_restricted_naming :
    lintDefault "const limit=1\nputs \"".toList {} =
        .ok ((Source.ofText "const limit=1\nputs \"".toList).report {} defaultRules) ∧
      ((Source.ofText "const limit=1\nputs \"".toList).report {} defaultRules).lineIds =
        [(1, "const-naming"), (1, "operator-spacing"), (2, "unterminated-string")] ∧
      ∃ r, lintDefault "const limit=1\nputs \"".toList { enabled := some ["const-naming"], disabled := ["comma-spacing"] } =
          .ok r ∧
        r.lineIds = [(1, "const-naming"), (2, "unterminated-string")] ∧
        r.Holds (((Source.ofText "const limit=1\nputs \"".toList).report {} defaultRules).diagnostics.filter
          (Options.keeps { enabled := some ["const-naming"], disabled := ["comma-spacing"] })) := by
  have hall : lintDefault "const limit=1\nputs \"".toList {} =
      .ok ((Source.ofText "const limit=1\nputs \"".toList).report {} defaultRules) := lintDefault_eq_ok_iff.2 ⟨rfl, rfl⟩
  obtain ⟨r, hr, hholds⟩ := (lintDefault_restricted "const limit=1\nputs \"".toList
    { enabled := some ["const-naming"], disabled := ["comma-spacing"] }).1 _ hall
  refine ⟨hall, ?_, r, hr, ?_, hholds⟩
  · rw [Report.lineIds, diagnostics_report]
    decide +kernel
  · rw [Report.lineIds, hholds.diagnostics, diagnostics_report]
    decide +kernel

end VixStyle
