/-
Severities.

A report can be shown if its diagnostics are of the two known severities (`Report.render_eq_ok_iff`); only for these there
are markers. Rules that report in these alone come to such reports (`known_report`), and the default rules do: each
reports under the severity in its header (`severity_of_run`).
-/
import VixStyle.Proofs.Lint.Outcome
import VixStyle.Report.Text

namespace VixStyle

/-- all diagnostics are of the two known severities -/
def KnownSeverities (ds : List Diagnostic) : Prop := ∀ d ∈ ds, d.severity.isKnown = true

/-! ## Showing a report -/

/-- elements are gone through without an error if each of them is -/
theorem mapM_eq_ok_iff {α β ε : Type} {f : α → Except ε β} {xs : List α} :
    (∃ ys, xs.mapM f = .ok ys) ↔ ∀ x ∈ xs, ∃ y, f x = .ok y := by
  induction xs with
  | nil => exact iff_of_true ⟨[], rfl⟩ (by simp)
  | cons x xs ih =>
    rw [List.forall_mem_cons, ← ih, List.mapM_cons]
    cases f x with
    | error e => simp [bind, Except.bind]
    | ok y => cases xs.mapM f <;> simp [bind, Except.bind, pure, Except.pure]

theorem Diagnostic.render_eq_ok_iff (d : Diagnostic) (showHint : Bool) :
    (∃ text, d.render showHint = .ok text) ↔ d.severity.isKnown = true := by
  unfold Diagnostic.render
  cases d.severity with
  | error => cases d.hint <;> simp [Severity.marker, Severity.isKnown, bind, Except.bind, pure, Except.pure]
  | warning => cases d.hint <;> simp [Severity.marker, Severity.isKnown, bind, Except.bind, pure, Except.pure]
  | other word => simp [Severity.marker, Severity.isKnown, bind, Except.bind]

/-- **A report can be shown** exactly if its diagnostics are of the known severities. -/
theorem Report.render_eq_ok_iff (r : Report) (sourceName : String) (showHints : Bool) :
    (∃ text, r.render sourceName showHints = .ok text) ↔ KnownSeverities r.diagnostics := by
  unfold KnownSeverities Report.render
  simp only [← Diagnostic.render_eq_ok_iff _ showHints, ← mapM_eq_ok_iff]
  cases hclean : r.isClean with
  | true =>
    have hempty : r.diagnostics = [] := List.isEmpty_iff.1 hclean
    simp [hempty, pure, Except.pure]
  | false => cases r.diagnostics.mapM fun d => d.render showHints <;> simp [bind, Except.bind, pure, Except.pure]

/-! ## What rules report -/

/-- a rule that reports in the two known severities only -/
def Rule.UsesKnownSeverities (r : Rule) : Prop := ∀ s o, KnownSeverities (r.run s o)

theorem known_report [Machine] {text : List Char} {o : Options} {rules : List Rule} {report : Report}
    (hrules : ∀ r ∈ rules, r.UsesKnownSeverities) (h : lint text o rules = .ok report) :
    KnownSeverities report.diagnostics := by
  obtain rfl := report_of_lint h
  intro d hd
  rcases List.mem_append.1 (List.mem_mergeSort.1 hd) with hd | hd
  · rcases List.mem_append.1 hd with hd | hd
    · obtain ⟨e, -, rfl⟩ := List.mem_map.1 hd
      rfl
    · obtain ⟨n, -, rfl⟩ := List.mem_map.1 hd
      rfl
  · obtain ⟨r, hr, hd⟩ := List.mem_flatMap.1 hd
    exact hrules r (List.mem_of_mem_filter hr) _ o d hd

namespace Rule

theorem severity_of_misnamed {p : Problem} {ds : List Declaration} {find : Declaration → Option Diagnostic}
    (hfind : ∀ d, ∀ e ∈ find d, ∃ message hint, e = Naming.misnamed p d message hint) :
    ∀ e ∈ ds.filterMap find, e.severity = p.severity := by
  intro e he
  obtain ⟨d, -, he⟩ := List.mem_filterMap.1 he
  obtain ⟨message, hint, rfl⟩ := hfind d e he
  rfl

theorem capitalFinding?_cases (p : Problem) (d : Declaration) :
    ∀ e ∈ Naming.capitalFinding? p d, ∃ message hint, e = Naming.misnamed p d message hint := by
  intro e he
  unfold Naming.capitalFinding? at he
  split at he
  · cases he
  · exact ⟨_, _, (Option.some.inj he).symm⟩

theorem varFinding?_cases (d : Declaration) :
    ∀ e ∈ Naming.varFinding? d, ∃ message hint, e = Naming.misnamed .varNaming d message hint := by
  intro e he
  unfold Naming.varFinding? at he
  split at he
  · cases he
  · exact ⟨_, _, (Option.some.inj he).symm⟩
  · exact ⟨_, _, (Option.some.inj he).symm⟩

theorem funcFinding?_cases (d : Declaration) :
    ∀ e ∈ Naming.funcFinding? d, ∃ message hint, e = Naming.misnamed .funcNaming d message hint := by
  intro e he
  unfold Naming.funcFinding? at he
  split at he
  · cases he
  · exact ⟨_, _, (Option.some.inj he).symm⟩

/-- **A default rule reports under the severity in its header.** -/
theorem severity_of_run {r : Rule} (hr : r ∈ defaultRules) (s : Source) (o : Options) :
    ∀ d ∈ r.run s o, d.severity = r.header.severity := by
  simp only [defaultRules, List.mem_cons, List.not_mem_nil, or_false] at hr
  rcases hr with rfl | rfl | rfl | rfl | rfl | rfl | rfl | rfl
  · exact severity_of_misnamed (capitalFinding?_cases .constNaming)
  · exact severity_of_misnamed (capitalFinding?_cases .staticNaming)
  · exact severity_of_misnamed varFinding?_cases
  · exact severity_of_misnamed funcFinding?_cases
  · intro d hd
    obtain ⟨l, -, hd⟩ := List.mem_flatMap.1 hd
    obtain ⟨p, -, hd⟩ := List.mem_filterMap.1 hd
    obtain ⟨message, -, rfl⟩ := Option.map_eq_some_iff.1 hd
    rfl
  · intro d hd
    obtain ⟨l, -, hd⟩ := List.mem_flatMap.1 hd
    obtain ⟨t, -, hd⟩ := List.mem_flatMap.1 hd
    obtain ⟨message, -, rfl⟩ := List.mem_map.1 hd
    rfl
  · intro d hd
    obtain ⟨f, -, rfl⟩ := List.mem_map.1 hd
    rfl
  · intro d hd
    obtain ⟨l, -, hd⟩ := List.mem_flatMap.1 hd
    obtain ⟨p, -, rfl⟩ := List.mem_map.1 hd
    rfl

theorem usesKnownSeverities_of_default {r : Rule} (hr : r ∈ defaultRules) : r.UsesKnownSeverities := by
  have hheaders : ∀ r ∈ defaultRules, r.header.severity.isKnown = true := by decide
  intro s o d hd
  rw [severity_of_run hr s o d hd]
  exact hheaders r hr

end Rule

end VixStyle
