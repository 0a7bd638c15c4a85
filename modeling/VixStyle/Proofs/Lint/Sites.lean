/-
Where the checks that go line by line report, and under which id.

Each such check reports under one id, where a token of the code stands, and never twice at one token in the same words
(`Sited`). Main statement, `sited_of_rule`: this holds of every rule but the one on indentation, and of what is reported
on unclosed string literals and on nameless declarations. Only the check on commas reports twice at a token; the columns of
all others are those of some tokens in their order (`sited_of_columns`).
-/
import VixStyle.Proofs.Source.Columns

namespace VixStyle

open scoped List

/-- two diagnostics that differ in column or wording -/
def Diagnostic.Apart (a b : Diagnostic) : Prop := a.column = b.column → a.message ≠ b.message

/-- findings on one line, under one id, each at a token of the code and no two alike -/
structure Sited (id : String) (find : Line → List Diagnostic) : Prop where
  own : ∀ l, ∀ d ∈ find l, d.ruleId = id
  token : ∀ l : Line, l.WasRead → ∀ d ∈ find l, ∃ t ∈ l.code, d.column = t.column
  apart : ∀ l : Line, l.WasRead → (find l).Pairwise Diagnostic.Apart

/-- the columns of some tokens -/
def columnsOf (ts : List Token) : List Int := ts.map fun t => (t.column : Int)

theorem ordered_columnsOf {ts : List Token} (h : ts.Pairwise fun t u => t.column < u.column) :
    (columnsOf ts).Pairwise (· < ·) :=
  List.pairwise_map.2 (h.imp fun htu => Int.ofNat_lt.2 htu)

/-- **Findings in the columns of some tokens**, in their order, are sited. -/
theorem sited_of_columns {id : String} {find : Line → List Diagnostic} (hown : ∀ l, ∀ d ∈ find l, d.ruleId = id)
    (hcolumns : ∀ l : Line, l.WasRead → (find l).map Diagnostic.column <+ columnsOf l.code) : Sited id find where
  own := hown
  token l hl d hd := by
    obtain ⟨t, ht, hcolumn⟩ := List.mem_map.1 ((hcolumns l hl).subset (List.mem_map_of_mem hd))
    exact ⟨t, ht, hcolumn.symm⟩
  apart l hl := by
    have hordered := (ordered_columnsOf (Line.ordered_code hl)).sublist (hcolumns l hl)
    exact (List.pairwise_map.1 hordered).imp fun hlt heq => absurd heq hlt.ne

/-! ## Faults of lines -/

/-- the diagnostic on the unclosed string literal of a line -/
def faultFindings (l : Line) : List Diagnostic :=
  (l.fault?.map fun e => Problem.unterminatedString.found e.line e.column Problem.unterminatedString.message
    Problem.unterminatedString.hint).toList

theorem faultFindings_sited : Sited Problem.unterminatedString.ruleId faultFindings := by
  refine sited_of_columns (fun l d hd => ?_) fun l hl => ?_
  · obtain ⟨e, -, rfl⟩ := Option.map_eq_some_iff.1 (Option.mem_toList.1 hd)
    rfl
  · unfold faultFindings
    cases hfault : l.fault? with
    | none => exact List.nil_sublist _
    | some e =>
      obtain ⟨t, ht, hcolumn⟩ := Line.token_of_fault hl hfault
      refine List.singleton_sublist.2 (List.mem_map.2 ⟨t, ht, ?_⟩)
      rw [hcolumn]
      rfl

/-! ## Declarations -/

/-- what is made of findings stands in the columns of tokens -/
theorem columns_of_findings {g : Finding → Option Diagnostic} (hcolumn : ∀ f, ∀ d ∈ g f, d.column = f.column) (l : Line) :
    (l.findings.filterMap g).map Diagnostic.column <+ columnsOf l.code := by
  have hcolumns := l.columns_findings.map fun column : Nat => (column : Int)
  rw [List.map_map, List.map_map] at hcolumns
  exact (map_filterMap_sublist hcolumn l.findings).trans hcolumns

theorem sited_of_findings {id : String} {g : Finding → Option Diagnostic}
    (hfound : ∀ f, ∀ d ∈ g f, d.ruleId = id ∧ d.column = f.column) : Sited id fun l => l.findings.filterMap g := by
  refine sited_of_columns (fun l d hd => ?_) fun l _ => columns_of_findings (fun f d hd => (hfound f d hd).2) l
  obtain ⟨f, -, hd⟩ := List.mem_filterMap.1 hd
  exact (hfound f d hd).1

theorem namelessFindings_sited :
    Sited Problem.malformedDeclaration.ruleId fun l => l.findings.filterMap namelessDiagnostic? := by
  refine sited_of_findings fun f d hd => ?_
  cases f with
  | declared _ => cases hd
  | nameless _ =>
    obtain rfl := Option.some.inj hd
    exact ⟨rfl, rfl⟩

namespace Rule.Naming

theorem sited_of_kind {id : String} (kind : DeclarationKind) {find : Declaration → Option Diagnostic}
    (hfound : ∀ d, ∀ e ∈ find d, e.ruleId = id ∧ e.column = d.column) :
    Sited id fun l => l.findings.filterMap (diagnosticOf? kind find) := by
  refine sited_of_findings fun f e he => ?_
  cases f with
  | declared d =>
    simp only [diagnosticOf?] at he
    split at he
    · exact hfound d e he
    · cases he
  | nameless d => cases he

theorem capitals_sited (p : Problem) (kind : DeclarationKind) :
    Sited p.ruleId fun l => l.findings.filterMap (diagnosticOf? kind (capitalFinding? p)) := by
  refine sited_of_kind kind fun d e he => ?_
  unfold capitalFinding? at he
  split at he
  · cases he
  · obtain rfl := Option.some.inj he
    exact ⟨rfl, rfl⟩

theorem vars_sited :
    Sited Problem.varNaming.ruleId fun l => l.findings.filterMap (diagnosticOf? .var varFinding?) := by
  refine sited_of_kind .var fun d e he => ?_
  unfold varFinding? at he
  split at he
  · cases he
  all_goals
    obtain rfl := Option.some.inj he
    exact ⟨rfl, rfl⟩

theorem funcs_sited :
    Sited Problem.funcNaming.ruleId fun l => l.findings.filterMap (diagnosticOf? .func funcFinding?) := by
  refine sited_of_kind .func fun d e he => ?_
  unfold funcFinding? at he
  split at he
  · cases he
  · obtain rfl := Option.some.inj he
    exact ⟨rfl, rfl⟩

end Rule.Naming

/-! ## Operators and commas -/

namespace Rule.Spacing

variable (ruleId : String) (severity : Severity)

theorem map_snd_withPrevious {α : Type} (before : Option α) (xs : List α) : (withPrevious before xs).map Prod.snd = xs := by
  induction xs generalizing before with
  | nil => rfl
  | cons x xs ih => rw [withPrevious, List.map_cons, ih]

theorem operatorFindings_sited : Sited ruleId (operatorFindings ruleId severity) := by
  refine sited_of_columns (fun l d hd => ?_) fun l hl => ?_
  · obtain ⟨⟨before, t⟩, -, hd⟩ := List.mem_filterMap.1 hd
    obtain ⟨message, -, rfl⟩ := Option.map_eq_some_iff.1 hd
    rfl
  · have hcolumn : ∀ p : Option Token × Token, ∀ d ∈ (operatorFault? l.text p.1 p.2).map
        (misspaced .operatorSpacing ruleId severity p.2), d.column = (p.2.column : Int) := by
      intro p d hd
      obtain ⟨message, -, rfl⟩ := Option.map_eq_some_iff.1 hd
      rfl
    have hcolumns := map_filterMap_sublist hcolumn (withPrevious none l.code)
    have htokens : (withPrevious none l.code).map (fun p => (p.2.column : Int)) = columnsOf l.code := by
      conv_rhs => rw [← map_snd_withPrevious none l.code]
      rw [columnsOf, List.map_map]
      rfl
    rw [htokens] at hcolumns
    exact hcolumns

/-- the two wordings on a comma are not the same -/
theorem nodup_commaFaults (line : List Char) (t : Token) : (commaFaults line t).Nodup := by
  unfold commaFaults
  split <;> (try split) <;> (try split) <;> decide

theorem commaFindings_sited : Sited ruleId (commaFindings ruleId severity) where
  own l d hd := by
    obtain ⟨t, -, hd⟩ := List.mem_flatMap.1 hd
    obtain ⟨message, -, rfl⟩ := List.mem_map.1 hd
    rfl
  token l _ d hd := by
    obtain ⟨t, ht, hd⟩ := List.mem_flatMap.1 hd
    obtain ⟨message, -, rfl⟩ := List.mem_map.1 hd
    exact ⟨t, List.mem_of_mem_filter ht, rfl⟩
  apart l hl := by
    refine List.pairwise_flatMap.2 ⟨fun t _ => ?_, ?_⟩
    · refine List.pairwise_map.2 (List.Pairwise.imp ?_ (nodup_commaFaults l.text t))
      intro m n hne _
      exact hne
    · refine ((Line.ordered_code hl).filter _).imp fun {t u} htu a ha b hb heq => ?_
      obtain ⟨m, -, rfl⟩ := List.mem_map.1 ha
      obtain ⟨n, -, rfl⟩ := List.mem_map.1 hb
      exact absurd (Int.ofNat_inj.1 heq) htu.ne

end Rule.Spacing

/-! ## An `if` on one line -/

namespace Rule.OneLineIf

theorem faults_sublist (options : Options) (ts : List Token) (parts : List BlockPart) :
    (faults options ts parts).map Prod.fst <+ ts := by
  induction ts generalizing parts with
  | nil => exact List.nil_sublist _
  | cons t ts ih =>
    cases parts with
    | nil => exact List.nil_sublist _
    | cons part parts =>
      simp only [faults, List.map_append]
      split
      · cases fault? options ts (BlockPart.closingOffset? 1 parts) with
        | none => exact (ih parts).cons t
        | some fault => exact (ih parts).cons_cons t
      · exact (ih parts).cons t

theorem findings_sited (ruleId : String) (severity : Severity) (options : Options) :
    Sited ruleId (findings ruleId severity options) := by
  refine sited_of_columns (fun l d hd => ?_) fun l hl => ?_
  · obtain ⟨⟨t, fault⟩, -, rfl⟩ := List.mem_map.1 hd
    rfl
  · have hcolumns := (faults_sublist options l.code (blockParts l.code)).map fun t : Token => (t.column : Int)
    rw [List.map_map] at hcolumns
    unfold findings
    rw [List.map_map]
    exact hcolumns

end Rule.OneLineIf

/-! ## Rules -/

/-- **All rules but the one on indentation** report line by line, under their own ids, where tokens stand. -/
theorem sited_of_rule {r : Rule} (hr : r ∈ defaultRules)
    (hid : r.header.id ≠ Problem.indentationConsistency.ruleId) (options : Options) :
    ∃ find, LineByLine (fun s => r.run s options) find ∧ Sited r.header.id find := by
  simp only [defaultRules, List.mem_cons, List.not_mem_nil, or_false] at hr
  rcases hr with rfl | rfl | rfl | rfl | rfl | rfl | rfl | rfl
  · exact ⟨_, Rule.Naming.checkCapitals_lineByLine hid .constant, Rule.Naming.capitals_sited .constNaming .constant⟩
  · exact ⟨_, Rule.Naming.checkCapitals_lineByLine hid .static, Rule.Naming.capitals_sited .staticNaming .static⟩
  · exact ⟨_, Rule.Naming.checkVar_lineByLine, Rule.Naming.vars_sited⟩
  · exact ⟨_, Rule.Naming.checkFunc_lineByLine, Rule.Naming.funcs_sited⟩
  · exact ⟨_, Rule.Spacing.checkOperators_lineByLine hid _, Rule.Spacing.operatorFindings_sited _ _⟩
  · exact ⟨_, Rule.Spacing.checkCommas_lineByLine hid _, Rule.Spacing.commaFindings_sited _ _⟩
  · exact absurd rfl hid
  · exact ⟨_, Rule.OneLineIf.check_lineByLine hid _ options, Rule.OneLineIf.findings_sited _ _ options⟩

end VixStyle
