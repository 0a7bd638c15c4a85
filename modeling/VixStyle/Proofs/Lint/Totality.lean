/-
Linting comes to an end on every text.

`Strict.lint` is a whole run in the reading in which nothing has a value by default. Main statement, `lintDefault_total`:
where the unit can be made, the run gives a report on every text and in the strict reading the same one, and the report
holds one diagnostic for each line whose reading fails. Where it cannot be made, the run ends with the fault of the unit;
`not_lintDefault_total` has a unit that is not too big for a memory and cannot be made all the same.
-/
import VixStyle.Proofs.Lint.Distinct
import VixStyle.Proofs.Strict.Walk

namespace VixStyle

namespace Strict

/-! ## Lists -/

section Gather

variable {α β : Type} {f : α → Except Failure (List β)}

/-- what is found in each of a list -/
def gather (f : α → Except Failure (List β)) : List α → Except Failure (List β)
  | [] => .ok []
  | x :: more => do
    let here ← f x
    let later ← gather f more
    .ok (here ++ later)

theorem gather_eq {g : α → List β} {xs : List α} (h : ∀ x ∈ xs, f x = .ok (g x)) : gather f xs = .ok (xs.flatMap g) := by
  induction xs with
  | nil => rfl
  | cons x xs ih =>
    obtain ⟨hx, hxs⟩ := List.forall_mem_cons.1 h
    rw [gather, hx, ok_bind, ih hxs, ok_bind, List.flatMap_cons]

/-- what fails for one reason or another fails with the first that comes up -/
theorem gather_eq_mapM {ε : Type} {g : α → Except ε (List β)} {e : ε → Failure} {xs : List α}
    (h : ∀ x ∈ xs, f x = (g x).mapError e) : gather f xs = ((xs.mapM g).mapError e).map List.flatten := by
  induction xs with
  | nil => rfl
  | cons x xs ih =>
    obtain ⟨hx, hxs⟩ := List.forall_mem_cons.1 h
    rw [gather, hx, ih hxs, List.mapM_cons]
    cases g x with
    | error _ => rfl
    | ok found => cases xs.mapM g <;> rfl

end Gather

/-! ## A run -/

/-- read lines, numbering them from `number` on -/
def readFrom (number : Int) : List (List Char) → Except Failure (List Line)
  | [] => .ok []
  | text :: more => do
    let outcome ← lex number text
    let later ← readFrom (number + 1) more
    .ok ((match outcome with
      | .ok tokens => ⟨number, text, tokens, none⟩
      | .error e => ⟨number, text, e.tokens, some e.column⟩) :: later)

/-- what a default rule finds; the rules on names look only at the declarations that were found before -/
def check [Machine] (o : Options) (s : Source) (r : Rule) : Except Failure (List Diagnostic) :=
  if r.header.id = Problem.indentationConsistency.ruleId then do
    let found ← walk o s.lines
    .ok (found.map Rule.Indentation.Finding.diagnostic)
  else if r.header.id = Problem.singleVsMultilineIf.ruleId then gather (ifFindings r.header.id r.header.severity o) s.lines
  else if r.header.id = Problem.operatorSpacing.ruleId then gather (operatorFindings r.header.id r.header.severity) s.lines
  else if r.header.id = Problem.commaSpacing.ruleId then gather (commaFindings r.header.id r.header.severity) s.lines
  else .ok (r.run s o)

/-- check a text with the default rules -/
def lint [Machine] (text : List Char) (o : Options) : Except Failure Report := do
  let texts ← lines text
  let read ← readFrom 1 texts
  let s : Source := ⟨text, read⟩
  let declared ← gather (fun l => findings l.code) read
  let found ← gather (check o s) (selectRules defaultRules o)
  .ok (.of (s.faultDiagnostics ++ declared.filterMap namelessDiagnostic? ++ found))

theorem readFrom_eq (number : Int) (texts : List (List Char)) :
    readFrom number texts = .ok (Line.readFrom number texts) := by
  induction texts generalizing number with
  | nil => rfl
  | cons text texts ih =>
    cases hread : VixStyle.lex number text <;>
      simp only [readFrom, lex_eq, ok_bind, ih, Line.readFrom, Line.read, hread]

/-- **A default rule fails only where it refuses the options**, and finds what it answers. -/
theorem check_eq [Machine] {o : Options} {r : Rule} (hr : r ∈ defaultRules) (s : Source) :
    check o s r = (r.answer s o).mapError .unit := by
  simp only [defaultRules, List.mem_cons, List.not_mem_nil, or_false] at hr
  rcases hr with rfl | rfl | rfl | rfl | rfl | rfl | rfl | rfl
  case inr.inr.inr.inr.inl =>
    rw [check, if_neg (by decide), if_neg (by decide), if_pos (by decide), gather_eq fun l _ => operatorFindings_eq _ _ l]
    rfl
  case inr.inr.inr.inr.inr.inl =>
    rw [check, if_neg (by decide), if_neg (by decide), if_neg (by decide), if_pos (by decide),
      gather_eq fun l _ => commaFindings_eq _ _ l]
    rfl
  case inr.inr.inr.inr.inr.inr.inl =>
    have hrefuses : Rule.indentationConsistency.refuses o = o.unitFault? := rfl
    rw [check, if_pos (by decide), walk_eq, Rule.answer, hrefuses]
    cases o.unitFault? <;> rfl
  case inr.inr.inr.inr.inr.inr.inr =>
    rw [check, if_neg (by decide), if_pos (by decide), gather_eq fun l _ => ifFindings_eq _ _ o l]
    rfl
  all_goals
    rw [check, if_neg (by decide), if_neg (by decide), if_neg (by decide), if_neg (by decide)]
    rfl

/-- a run up to its rules -/
theorem lint_read [Machine] (text : List Char) (o : Options) : lint text o =
    gather (check o (Source.ofText text)) (selectRules defaultRules o) >>= fun found =>
      .ok (.of ((Source.ofText text).faultDiagnostics ++ (Source.ofText text).namelessDiagnostics ++ found)) := by
  have hdeclared : gather (fun l : Line => findings l.code) (Source.ofText text).lines =
      .ok (Source.ofText text).findings := gather_eq fun l _ => findings_eq l.code
  have hnameless : (Source.ofText text).namelessDiagnostics =
      (Source.ofText text).findings.filterMap namelessDiagnostic? := by
    exact List.map_filterMap ..
  rw [hnameless, lint, lines_eq, ok_bind, readFrom_eq, ok_bind]
  exact congrArg (· >>= _) hdeclared

/-- **A run ends as it would if nothing could fail** but the unit. -/
theorem lint_eq [Machine] (text : List Char) (o : Options) : lint text o =
    match o.refusedUnit? with
    | some fault => .error (.unit fault)
    | none => .ok ((Source.ofText text).report o defaultRules) := by
  have hrules : gather (check o (Source.ofText text)) (selectRules defaultRules o) =
      (((Source.ofText text).answers o defaultRules).mapError .unit).map List.flatten :=
    gather_eq_mapM fun r hr => check_eq (List.mem_of_mem_filter hr) _
  rw [lint_read, hrules, Source.answers, mapM_answer, refusal?_defaultRules]
  cases o.refusedUnit? <;> rfl

end Strict

/-! ## Lines that are not read to their end -/

/-- the diagnostics on the lines whose reading fails, which are numbered from a number on -/
def unclosedFrom (number : Int) : List (List Char) → List Diagnostic
  | [] => []
  | text :: more =>
    (match lex number text with
      | .ok _ => []
      | .error e => [Problem.unterminatedString.found e.line e.column Problem.unterminatedString.message
          Problem.unterminatedString.hint]) ++ unclosedFrom (number + 1) more

theorem fault?_read (number : Int) (text : List Char) : (Line.read number text).fault? =
    match lex number text with
    | .ok _ => none
    | .error e => some e := by
  unfold Line.read lex Line.fault?
  dsimp only
  cases (Segmentation.of text).closed <;> rfl

theorem unclosedFrom_eq (number : Int) (texts : List (List Char)) :
    ((Line.readFrom number texts).filterMap Line.fault?).map (fun e => Problem.unterminatedString.found e.line e.column
      Problem.unterminatedString.message Problem.unterminatedString.hint) = unclosedFrom number texts := by
  induction texts generalizing number with
  | nil => rfl
  | cons text texts ih =>
    rw [Line.readFrom, unclosedFrom, ← ih, List.filterMap_cons, fault?_read]
    cases lex number text <;> rfl

/-- diagnostics on unclosed string literals come in the order of their lines -/
theorem faultDiagnostics_sorted (text : List Char) :
    (Source.ofText text).faultDiagnostics.Pairwise fun a b => a.key ≤ b.key := by
  have hordered : (Source.ofText text).lines.Pairwise fun l m => l.number < m.number := Line.ordered_readFrom 1 _
  refine List.pairwise_map.2 (List.pairwise_filterMap.2 (hordered.imp ?_))
  intro l m hlt e he e' he'
  obtain ⟨column, -, rfl⟩ := Option.map_eq_some_iff.1 he
  obtain ⟨column', -, rfl⟩ := Option.map_eq_some_iff.1 he'
  exact (Prod.Lex.toLex_lt_toLex.2 (.inl hlt)).le

/-- what is found on unclosed string literals is all that is found under their id -/
theorem filter_diagnostics_unclosed (s : Source) (o : Options) :
    (s.diagnostics o defaultRules).filter (fun d => d.ruleId == Problem.unterminatedString.ruleId) =
      s.faultDiagnostics := by
  have hfaults : ∀ d ∈ s.faultDiagnostics, d.ruleId = Problem.unterminatedString.ruleId := fun d hd =>
    own_of_check (o := o) List.mem_cons_self hd
  have hids : ((namedChecks o).map Prod.fst).Nodup := nodup_namedChecks o
  have hothers : ∀ check ∈ (namedChecks o).tail,
      (check.2 s).filter (fun d => d.ruleId == Problem.unterminatedString.ruleId) = [] := by
    intro check hcheck
    have hid : check.1 ≠ Problem.unterminatedString.ruleId := by
      intro heq
      have hmem : check.1 ∈ (namedChecks o).tail.map Prod.fst := List.mem_map_of_mem hcheck
      rw [heq] at hmem
      exact (List.nodup_cons.1 hids).1 hmem
    refine List.filter_eq_nil_iff.2 fun d hd => ?_
    rw [own_of_check (List.mem_cons_of_mem _ hcheck) hd]
    simpa using hid
  have hsplit : namedChecks o = (Problem.unterminatedString.ruleId, Source.faultDiagnostics) :: (namedChecks o).tail := rfl
  rw [diagnostics_eq_namedChecks, List.filter_flatMap, hsplit, List.flatMap_cons, List.flatMap_eq_nil_iff.2 hothers,
    List.append_nil]
  exact List.filter_eq_self.2 fun d hd => beq_iff_eq.2 (hfaults d hd)

/-- **A report holds one diagnostic for each line whose reading fails**, in the order of the lines. -/
theorem report_unclosed (text : List Char) (o : Options) :
    ((Source.ofText text).report o defaultRules).diagnostics.filter
      (fun d => d.ruleId == Problem.unterminatedString.ruleId) = unclosedFrom 1 (Text.lines text) := by
  have hfaults : (Source.ofText text).faultDiagnostics.Pairwise fun a b => a.key ≠ b.key :=
    check_distinct (o := o) List.mem_cons_self text
  rw [← unclosedFrom_eq, Source.report, Report.of, ← sortDiagnostics_filter, filter_diagnostics_unclosed]
  exact (eq_sortDiagnostics hfaults (List.Perm.refl _) (faultDiagnostics_sorted text)).symm

/--
**Linting gives a report on every text** if the unit can be made, and nothing on the way to it needs a value that does not
exist. Each line whose reading fails has one diagnostic in the report. If the unit cannot be made, the run ends with that
fault.
-/
theorem lintDefault_total [Machine] (text : List Char) (o : Options) :
    (o.refusedUnit? = none → ∃ r, lintDefault text o = .ok r ∧ Strict.lint text o = .ok r ∧
      r.diagnostics.filter (fun d => d.ruleId == Problem.unterminatedString.ruleId) = unclosedFrom 1 (Text.lines text)) ∧
    ∀ fault, o.refusedUnit? = some fault →
      lintDefault text o = .error (.unit fault) ∧ Strict.lint text o = .error (.unit fault) := by
  refine ⟨fun h => ⟨_, lintDefault_eq_ok_iff.2 ⟨h, rfl⟩, ?_, report_unclosed text o⟩, fun fault h => ⟨?_, ?_⟩⟩
  · rw [Strict.lint_eq, h]
  · rw [lintDefault_eq, h]
  · rw [Strict.lint_eq, h]

/-- an open string and a body without its `end`, in a style that would be measured by a big unit -/
theorem lintDefault_total_open :
    ({ indentStyle := .spaces, indentWidth := 1000000, indentWidth_pos := by decide } : Options).refusedUnit? = none ∧
      unclosedFrom 1 (Text.lines "if a\nputs \"b\n\"".toList) =
        [Problem.unterminatedString.found 2 6 Problem.unterminatedString.message Problem.unterminatedString.hint,
          Problem.unterminatedString.found 3 1 Problem.unterminatedString.message Problem.unterminatedString.hint] ∧
      ∃ r, lintDefault "if a\nputs \"b\n\"".toList
          { indentStyle := .spaces, indentWidth := 1000000, indentWidth_pos := by decide } = .ok r ∧
        Strict.lint "if a\nputs \"b\n\"".toList
          { indentStyle := .spaces, indentWidth := 1000000, indentWidth_pos := by decide } = .ok r ∧
        r.diagnostics.filter (fun d => d.ruleId == Problem.unterminatedString.ruleId) =
          unclosedFrom 1 (Text.lines "if a\nputs \"b\n\"".toList) := by
  have hunit : ({ indentStyle := .spaces, indentWidth := 1000000, indentWidth_pos := by decide } : Options).refusedUnit? =
      none := by decide
  exact ⟨hunit, by decide +kernel, (lintDefault_total _ _).1 hunit⟩

/-- a unit of spaces that is wider than any index is not refused for want of memory, and no text can be checked with it -/
theorem not_lintDefault_total :
    ¬ ∀ (text : List Char) (o : Options), o.unitFault? ≠ some .beyondMemory → ∃ r, lintDefault text o = .ok r := by
  intro h
  obtain ⟨r, hr⟩ := h "x = 1".toList
    { indentStyle := .spaces, indentWidth := 9223372036854775808, indentWidth_pos := by decide } (by decide)
  have hfault : lintDefault "x = 1".toList
      { indentStyle := .spaces, indentWidth := 9223372036854775808, indentWidth_pos := by decide } =
        .error (.unit .beyondIndex) := by
    rw [lintDefault_eq]
    rfl
  rw [hfault] at hr
  cases hr

end VixStyle
