/-
How a run ends.

It gives a report exactly if its rules are accepted and none that is selected refuses the options
(`lintSource_eq_ok_iff`). The default rules may run together, and only the one on indentation can refuse options: those
that prescribe a unit of spaces which cannot be made. So a run with them gives the report on the source, unless this rule
is selected and refuses (`lintDefault_eq`).
-/
import Mathlib.Tactic
import VixStyle.Lint

namespace VixStyle

/-- **A run gives a report exactly if its rules are accepted** and none that is selected refuses the options. -/
theorem lintSource_eq_ok_iff [Machine] {s : Source} {o : Options} {rules : List Rule} {r : Report} :
    lintSource s o rules = .ok r ↔
      validateRules rules = .ok () ∧ refusal? (selectRules rules o) o = none ∧ s.report o rules = r := by
  rw [lintSource_eq_refusal]
  cases validateRules rules with
  | error fault => exact iff_of_false (by rintro ⟨⟩) (by rintro ⟨⟨⟩, -⟩)
  | ok _ =>
    cases refusal? (selectRules rules o) o with
    | some fault => exact iff_of_false (by rintro ⟨⟩) (by rintro ⟨-, ⟨⟩, -⟩)
    | none =>
      constructor
      · rintro ⟨⟩
        exact ⟨rfl, rfl, rfl⟩
      · rintro ⟨-, -, rfl⟩
        rfl

/-- a run that ends with a report ends with that on its text -/
theorem report_of_lint [Machine] {text : List Char} {o : Options} {rules : List Rule} {r : Report}
    (h : lint text o rules = .ok r) : r = (Source.ofText text).report o rules :=
  (lintSource_eq_ok_iff.1 h).2.2.symm

/-- why the selected rules do not work with some options: the rule on indentation cannot make its unit -/
def Options.refusedUnit? [Machine] (o : Options) : Option UnitFault :=
  if o.enables Problem.indentationConsistency.ruleId then o.unitFault? else none

theorem selectRules_cons (r : Rule) (rules : List Rule) (o : Options) : selectRules (r :: rules) o =
    if o.enables r.header.id then r :: selectRules rules o else selectRules rules o :=
  List.filter_cons

theorem findSome?_selectRules {α : Type} (f : Rule → Option α) (rules : List Rule) (o : Options) :
    (selectRules rules o).findSome? f = rules.findSome? fun r => if o.enables r.header.id then f r else none := by
  induction rules with
  | nil => rfl
  | cons r rules ih =>
    rw [selectRules_cons, List.findSome?_cons, ← ih]
    split
    · rw [List.findSome?_cons]
    · rfl

theorem refusal?_defaultRules [Machine] (o : Options) : refusal? (selectRules defaultRules o) o = o.refusedUnit? := by
  have hsilent : ∀ r ∈ [Rule.constNaming, .staticNaming, .varNaming, .funcNaming, .operatorSpacing, .commaSpacing],
      (if o.enables r.header.id then r.refuses o else none) = none := by
    intro r hr
    have hnone : r.refuses o = none := by
      simp only [List.mem_cons, List.not_mem_nil, or_false] at hr
      rcases hr with rfl | rfl | rfl | rfl | rfl | rfl <;> rfl
    rw [hnone, ite_self]
  have hlast : (if o.enables Rule.singleVsMultilineIf.header.id then Rule.singleVsMultilineIf.refuses o else none) = none :=
    ite_self _
  have hsplit : defaultRules = [Rule.constNaming, .staticNaming, .varNaming, .funcNaming, .operatorSpacing, .commaSpacing] ++
      [.indentationConsistency, .singleVsMultilineIf] := rfl
  rw [refusal?, findSome?_selectRules, hsplit, List.findSome?_append, List.findSome?_eq_none_iff.2 hsilent, Option.none_or,
    List.findSome?_cons, List.findSome?_cons, hlast]
  have hunit : (if o.enables Rule.indentationConsistency.header.id then Rule.indentationConsistency.refuses o else none) =
      o.refusedUnit? := rfl
  rw [hunit]
  cases o.refusedUnit? <;> rfl

/-- **A run gives the report on its source**, unless the unit cannot be made. -/
theorem lintSource_eq [Machine] (s : Source) (o : Options) : lintSource s o defaultRules =
    match o.refusedUnit? with
    | some fault => .error (.unit fault)
    | none => .ok (s.report o defaultRules) := by
  have hvalid : validateRules defaultRules = .ok () := by rfl
  rw [lintSource_eq_refusal, hvalid, refusal?_defaultRules]
  cases o.refusedUnit? <;> rfl

theorem lintDefault_eq [Machine] (text : List Char) (o : Options) : lintDefault text o =
    match o.refusedUnit? with
    | some fault => .error (.unit fault)
    | none => .ok ((Source.ofText text).report o defaultRules) :=
  lintSource_eq (Source.ofText text) o

/-- what is the same of two reports is the same of two runs -/
theorem lintSource_map_congr [Machine] {s s' : Source} {o : Options} {α : Type} {f g : Report → α}
    (h : f (s.report o defaultRules) = g (s'.report o defaultRules)) :
    (lintSource s o defaultRules).map f = (lintSource s' o defaultRules).map g := by
  rw [lintSource_eq, lintSource_eq]
  cases o.refusedUnit? with
  | some fault => rfl
  | none => exact congrArg Except.ok h

/-- what holds of two reports holds of two runs: they fail in the same way, or give these reports -/
theorem lintSource_rel [Machine] {s s' : Source} {o : Options} {R : Report → Report → Prop}
    (h : R (s.report o defaultRules) (s'.report o defaultRules)) :
    (∀ e, lintSource s' o defaultRules = .error e ↔ lintSource s o defaultRules = .error e) ∧
      ∀ r r', lintSource s o defaultRules = .ok r → lintSource s' o defaultRules = .ok r' → R r r' := by
  rw [lintSource_eq, lintSource_eq]
  cases o.refusedUnit? with
  | some fault =>
    refine ⟨fun e => Iff.rfl, ?_⟩
    intro r r' hr
    cases hr
  | none =>
    refine ⟨fun e => iff_of_false (by simp) (by simp), ?_⟩
    intro r r' hr hr'
    obtain rfl := Except.ok.inj hr
    obtain rfl := Except.ok.inj hr'
    exact h

theorem lintDefault_eq_error_iff [Machine] {text : List Char} {o : Options} {fault : LintFault} :
    lintDefault text o = .error fault ↔ ∃ unit, o.refusedUnit? = some unit ∧ fault = .unit unit := by
  rw [lintDefault_eq]
  cases o.refusedUnit? with
  | some unit => simp [eq_comm]
  | none => simp

theorem lintDefault_eq_ok_iff [Machine] {text : List Char} {o : Options} {r : Report} :
    lintDefault text o = .ok r ↔ o.refusedUnit? = none ∧ r = (Source.ofText text).report o defaultRules := by
  rw [lintDefault_eq]
  cases o.refusedUnit? with
  | some fault => simp
  | none => simp [eq_comm]

end VixStyle
