/-
Lines further down, and the checks that look at one line at a time.

To read a line under a higher number gives the same line further down (`Line.read_later`), so the lines of a text behind
another text are its own lines further down (`Line.readAll_append`). A check that goes line by line (`LineByLine`) finds in
such lines what it finds in the lines themselves, further down. Each such check has a lemma here that says so; its parts
follow the functions that the check is made of.
-/
import Mathlib.Tactic
import VixStyle.Lint
import VixStyle.Proofs.Declaration.Renaming
import VixStyle.Proofs.Indentation.Citation
import VixStyle.Proofs.Token.Lexemes
import VixStyle.Proofs.Token.Tiling

namespace VixStyle

/-! ## Lines further down -/

/-- a token further down -/
def Token.later (n : Nat) (t : Token) : Token := { t with line := t.line + n }

theorem Token.alike_later (n : Nat) (t : Token) : (t.later n).lexeme.Alike t.lexeme := .same t.lexeme

/-- a line further down -/
def Line.later (n : Nat) (l : Line) : Line := { l with number := l.number + n, tokens := l.tokens.map (Token.later n) }

theorem placed_later (n : Nat) (line : Int) (column : Nat) (segments : List Segment) :
    placed (line + n) column segments = (placed line column segments).map (Token.later n) := by
  induction segments generalizing column with
  | nil => rfl
  | cons s segments ih =>
    rw [placed, placed, ih]
    rfl

namespace Line

theorem read_later (n : Nat) (number : Int) (text : List Char) : read (number + n) text = (read number text).later n := by
  have hcolumn : ∀ ts : List Token, (ts.map (Token.later n)).getLast?.map Token.column = ts.getLast?.map Token.column := by
    intro ts
    rw [List.getLast?_map, Option.map_map]
    rfl
  unfold read lex
  dsimp only
  rw [placed_later, hcolumn]
  cases (Segmentation.of text).closed <;> rfl

theorem readFrom_later (n : Nat) (number : Int) (texts : List (List Char)) :
    readFrom (number + n) texts = (readFrom number texts).map (Line.later n) := by
  induction texts generalizing number with
  | nil => rfl
  | cons text texts ih =>
    rw [readFrom, readFrom, read_later, add_right_comm, ih]
    rfl

theorem readFrom_append (number : Int) (texts more : List (List Char)) :
    readFrom number (texts ++ more) = readFrom number texts ++ readFrom (number + texts.length) more := by
  induction texts generalizing number with
  | nil => simp [readFrom]
  | cons text texts ih =>
    rw [List.cons_append, readFrom, readFrom, ih, List.cons_append, List.length_cons]
    congr 3
    push_cast
    ring

/-- **The lines of a text behind another text** are its own lines further down. -/
theorem readAll_append (texts more : List (List Char)) :
    readAll (texts ++ more) = readAll texts ++ (readAll more).map (Line.later texts.length) := by
  unfold readAll
  rw [readFrom_append, readFrom_later]

/-- a line whose tokens bear its number -/
def Numbered (l : Line) : Prop := ∀ t ∈ l.tokens, t.line = l.number

theorem number_read (number : Int) (text : List Char) : (read number text).number = number := by
  unfold read
  split <;> rfl

theorem numbered_read (number : Int) (text : List Char) : (read number text).Numbered := by
  intro t ht
  rw [tokens_read] at ht
  rw [number_read]
  exact (mem_placed ht).1

theorem mem_readFrom {number : Int} {texts : List (List Char)} {l : Line} (h : l ∈ readFrom number texts) :
    l.Numbered ∧ number ≤ l.number ∧ l.number < number + texts.length := by
  induction texts generalizing number with
  | nil => cases h
  | cons text texts ih =>
    rw [List.length_cons]
    push_cast
    rcases List.mem_cons.1 h with rfl | h
    · rw [number_read]
      exact ⟨numbered_read number text, le_refl number, by omega⟩
    · obtain ⟨hnumbered, hlow, hhigh⟩ := ih h
      exact ⟨hnumbered, by omega, by omega⟩

theorem ordered_readFrom (number : Int) (texts : List (List Char)) :
    (readFrom number texts).Pairwise fun l m => l.number < m.number := by
  induction texts generalizing number with
  | nil => exact .nil
  | cons text texts ih =>
    refine List.Pairwise.cons (fun m hm => ?_) (ih (number + 1))
    have hlow := (mem_readFrom hm).2.1
    rw [number_read]
    omega

theorem mem_readAll {texts : List (List Char)} {l : Line} (h : l ∈ readAll texts) :
    l.Numbered ∧ 1 ≤ l.number ∧ l.number ≤ texts.length := by
  obtain ⟨hnumbered, hlow, hhigh⟩ := mem_readFrom h
  exact ⟨hnumbered, hlow, by omega⟩

theorem numbered_readAll {texts : List (List Char)} : ∀ l ∈ readAll texts, l.Numbered := by
  intro l hl
  exact (mem_readAll hl).1

theorem code_later (n : Nat) (l : Line) : (l.later n).code = l.code.map (Token.later n) := by
  unfold code later
  rw [List.filter_map]
  rfl

theorem Numbered.code {l : Line} (h : l.Numbered) : ∀ t ∈ l.code, t.line = l.number :=
  fun t ht => h t (List.mem_of_mem_filter ht)

theorem fault?_later (n : Nat) (l : Line) : (l.later n).fault? =
    l.fault?.map fun e => ⟨e.line + n, e.column, e.tokens.map (Token.later n)⟩ := by
  unfold fault? later
  cases l.unclosed <;> rfl

end Line

/-! ## Checks that go line by line -/

/-- a diagnostic on a later line, in the same words -/
def Diagnostic.down (n : Nat) (d : Diagnostic) : Diagnostic := { d with line := d.line + n }

/-- a check of another kind than that of indentation, which looks at one line at a time, not at its number, and reports on
that line -/
structure LineByLine (check : Source → List Diagnostic) (find : Line → List Diagnostic) : Prop where
  check_eq : ∀ s, check s = s.lines.flatMap find
  down : ∀ n l, find (l.later n) = (find l).map (Diagnostic.down n)
  line : ∀ l : Line, l.Numbered → ∀ d ∈ find l, d.line = l.number
  other : ∀ l, ∀ d ∈ find l, d.ruleId ≠ Problem.indentationConsistency.ruleId

theorem Diagnostic.later_of_ruleId {d : Diagnostic} (h : d.ruleId ≠ Problem.indentationConsistency.ruleId) (n : Nat) :
    d.later n = d.down n := by
  rw [Diagnostic.later, if_neg h]
  rfl

namespace LineByLine

variable {check : Source → List Diagnostic} {find : Line → List Diagnostic}

/-- **Lines behind other lines** are checked by themselves. -/
theorem append (h : LineByLine check find) {a b whole : Source} {n : Nat}
    (hlines : whole.lines = a.lines ++ b.lines.map (Line.later n)) :
    check whole = check a ++ (check b).map (Diagnostic.later n) := by
  rw [h.check_eq, h.check_eq, h.check_eq, hlines, List.flatMap_append, List.flatMap_map, List.map_flatMap]
  congr 2
  funext l
  rw [h.down]
  exact List.map_congr_left fun d hd => (Diagnostic.later_of_ruleId (h.other l d hd) n).symm

theorem mem (h : LineByLine check find) {s : Source} (hs : ∀ l ∈ s.lines, l.Numbered) {d : Diagnostic}
    (hd : d ∈ check s) : (∃ l ∈ s.lines, d.line = l.number) ∧ d.ruleId ≠ Problem.indentationConsistency.ruleId := by
  rw [h.check_eq] at hd
  obtain ⟨l, hl, hd⟩ := List.mem_flatMap.1 hd
  exact ⟨⟨l, hl, h.line l (hs l hl) d hd⟩, h.other l d hd⟩

end LineByLine

/-! ### Faults of lines -/

theorem faultDiagnostics_lineByLine : LineByLine Source.faultDiagnostics fun l =>
    (l.fault?.map fun e => Problem.unterminatedString.found e.line e.column Problem.unterminatedString.message
      Problem.unterminatedString.hint).toList where
  check_eq s := by
    unfold Source.faultDiagnostics Source.faults
    rw [List.map_filterMap, List.filterMap_eq_flatMap_toList]
  down n l := by
    rw [Line.fault?_later]
    cases l.fault? <;> rfl
  line l hl d hd := by
    obtain ⟨e, he, rfl⟩ := Option.map_eq_some_iff.1 (Option.mem_toList.1 hd)
    obtain ⟨column, -, rfl⟩ := Option.map_eq_some_iff.1 he
    rfl
  other l d hd := by
    obtain ⟨e, -, rfl⟩ := Option.map_eq_some_iff.1 (Option.mem_toList.1 hd)
    exact (by decide : Problem.unterminatedString.ruleId ≠ Problem.indentationConsistency.ruleId)

/-! ### Operators and commas -/

namespace Rule.Spacing

variable {ruleId : String} (hid : ruleId ≠ Problem.indentationConsistency.ruleId) (severity : Severity)

theorem withPrevious_map {α β : Type} (f : α → β) (before : Option α) (xs : List α) :
    withPrevious (before.map f) (xs.map f) = (withPrevious before xs).map fun p => (p.1.map f, f p.2) := by
  induction xs generalizing before with
  | nil => rfl
  | cons x xs ih =>
    rw [List.map_cons, withPrevious, withPrevious, List.map_cons]
    exact congrArg _ (ih (some x))

theorem mem_withPrevious {α : Type} {before : Option α} {xs : List α} {p : Option α × α}
    (h : p ∈ withPrevious before xs) :
    p.2 ∈ xs := by
  induction xs generalizing before with
  | nil => cases h
  | cons x xs ih =>
    rcases List.mem_cons.1 h with rfl | h
    · exact List.mem_cons_self
    · exact List.mem_cons_of_mem x (ih h)

theorem operatorFault?_later (n : Nat) (line : List Char) (before : Option Token) (t : Token) :
    operatorFault? line (before.map (Token.later n)) (t.later n) = operatorFault? line before t := by
  cases before <;> rfl

include hid in
theorem checkOperators_lineByLine :
    LineByLine (checkOperators ruleId severity) (operatorFindings ruleId severity) where
  check_eq s := rfl
  down n l := by
    unfold operatorFindings
    rw [Line.code_later]
    have hwith := withPrevious_map (Token.later n) none l.code
    rw [Option.map_none] at hwith
    rw [hwith, List.filterMap_map, List.map_filterMap]
    congr 1
    funext ⟨before, t⟩
    simp only [Function.comp_apply]
    rw [operatorFault?_later, Option.map_map]
    rfl
  line l hl d hd := by
    obtain ⟨⟨before, t⟩, ht, hd⟩ := List.mem_filterMap.1 hd
    obtain ⟨message, -, rfl⟩ := Option.map_eq_some_iff.1 hd
    exact hl.code t (mem_withPrevious ht)
  other l d hd := by
    obtain ⟨⟨before, t⟩, -, hd⟩ := List.mem_filterMap.1 hd
    obtain ⟨message, -, rfl⟩ := Option.map_eq_some_iff.1 hd
    exact hid

include hid in
theorem checkCommas_lineByLine : LineByLine (checkCommas ruleId severity) (commaFindings ruleId severity) where
  check_eq s := rfl
  down n l := by
    unfold commaFindings
    rw [Line.code_later, List.filter_map, List.flatMap_map, List.map_flatMap]
    congr 1
    funext t
    rw [List.map_map]
    rfl
  line l hl d hd := by
    obtain ⟨t, ht, hd⟩ := List.mem_flatMap.1 hd
    obtain ⟨message, -, rfl⟩ := List.mem_map.1 hd
    exact hl.code t (List.mem_of_mem_filter ht)
  other l d hd := by
    obtain ⟨t, -, hd⟩ := List.mem_flatMap.1 hd
    obtain ⟨message, -, rfl⟩ := List.mem_map.1 hd
    exact hid

end Rule.Spacing

/-! ### An `if` on one line -/

namespace Rule.OneLineIf

variable {ruleId : String} (hid : ruleId ≠ Problem.indentationConsistency.ruleId) (severity : Severity)
  (options : Options)

theorem mem_faults {options : Options} {ts : List Token} {parts : List BlockPart} {p : Token × Fault}
    (h : p ∈ faults options ts parts) : p.1 ∈ ts := by
  induction ts generalizing parts with
  | nil => cases h
  | cons t ts ih =>
    cases parts with
    | nil => cases h
    | cons part parts =>
      rcases List.mem_append.1 h with h | h
      · split at h
        · obtain ⟨fault, -, rfl⟩ := Option.map_eq_some_iff.1 (Option.mem_toList.1 h)
          exact List.mem_cons_self
        · cases h
      · exact List.mem_cons_of_mem t (ih h)

include hid in
theorem check_lineByLine : LineByLine (fun s => check ruleId severity s options) (findings ruleId severity options) where
  check_eq s := rfl
  down n l := by
    unfold findings
    rw [Line.code_later, blockParts_map (Token.alike_later n), faults_map (Token.alike_later n), List.map_map, List.map_map]
    rfl
  line l hl d hd := by
    obtain ⟨⟨t, fault⟩, ht, rfl⟩ := List.mem_map.1 hd
    exact hl.code t (mem_faults ht)
  other l d hd := by
    obtain ⟨⟨t, fault⟩, -, rfl⟩ := List.mem_map.1 hd
    exact hid

end Rule.OneLineIf

/-! ### Declarations -/

/-- a declaration further down -/
def Declaration.later (n : Nat) (d : Declaration) : Declaration := { d with line := d.line + n }

/-- a nameless declaration further down -/
def NamelessDeclaration.later (n : Nat) (d : NamelessDeclaration) : NamelessDeclaration := { d with line := d.line + n }

namespace Finding

/-- what a declaration keyword yields, further down -/
def later (n : Nat) : Finding → Finding
  | declared d => declared (d.later n)
  | nameless d => nameless (d.later n)

/-- the line of the name or of the keyword -/
def line : Finding → Int
  | declared d => d.line
  | nameless d => d.line

end Finding

/-- the renaming that moves tokens further down and keeps all names -/
def Renaming.down (n : Nat) : Renaming where
  name _ _ name := name
  line number := number + n
  column _ column := column

theorem Token.later_eq (n : Nat) : Token.later n = (Renaming.down n).token := by
  funext t
  obtain ⟨l, line, column⟩ := t
  cases l <;> rfl

theorem Finding.later_eq (n : Nat) : Finding.later n = (Renaming.down n).finding := by
  funext f
  cases f <;> rfl

theorem Line.findings_later (n : Nat) (l : Line) : (l.later n).findings = l.findings.map (Finding.later n) := by
  unfold Line.findings
  rw [Line.code_later, Token.later_eq, Finding.later_eq]
  exact (Renaming.down n).findingsFrom_renamed none l.code

section Lines

variable {number : Int}

theorem mem_listedNames {ts : List Token} {item : Token × List Char} (h : item ∈ Finding.listedNames ts) :
    item.1 ∈ ts := by
  induction ts using Finding.listedNames.induct with
  | case1 comma first rest name hcomma hfirst ih =>
    simp only [Finding.listedNames, hcomma, hfirst] at h
    rcases List.mem_cons.1 h with rfl | h
    · exact List.mem_cons_of_mem _ List.mem_cons_self
    · exact List.mem_cons_of_mem _ (List.mem_cons_of_mem _ (ih h))
  | case2 comma first rest hnot =>
    simp only [Finding.listedNames] at h
    cases h
  | case3 ts hnot =>
    match ts, hnot with
    | [], _ => cases h
    | [_], _ => cases h
    | a :: b :: rest, hnot => exact (hnot a b rest rfl).elim

theorem mem_afterModifier {kind : DeclarationKind} {ts : List Token} {t : Token}
    (h : t ∈ Finding.afterModifier kind ts) : t ∈ ts := by
  cases ts with
  | nil => exact h
  | cons first rest =>
    simp only [Finding.afterModifier] at h
    split at h
    all_goals first
      | exact List.mem_cons_of_mem first h
      | exact h

theorem line_of_mem_named {kind : DeclarationKind} {keyword : Keyword} {t : Token} (ht : t.line = number) {ts : List Token}
    (hts : ∀ u ∈ ts, u.line = number) : ∀ f ∈ Finding.named kind keyword t ts, f.line = number := by
  intro f hf
  cases ts with
  | nil =>
    rw [List.mem_singleton.1 hf]
    exact ht
  | cons first rest =>
    simp only [Finding.named] at hf
    split at hf
    · obtain ⟨item, hitem, rfl⟩ := List.mem_map.1 hf
      rcases List.mem_cons.1 hitem with rfl | hitem
      · exact hts first List.mem_cons_self
      · split at hitem
        · cases hitem
        · exact hts item.1 (List.mem_cons_of_mem first (mem_listedNames hitem))
    · split at hf
      · cases hf
      · rw [List.mem_singleton.1 hf]
        exact ht
    · rw [List.mem_singleton.1 hf]
      exact ht

theorem line_of_mem_findingsAt {before : Option Token} {t : Token} (ht : t.line = number) {rest : List Token}
    (hrest : ∀ u ∈ rest, u.line = number) : ∀ f ∈ findingsAt before t rest, f.line = number := by
  intro f hf
  unfold findingsAt at hf
  split at hf
  · split at hf
    · cases hf
    · split_ifs at hf
      · cases hf
      · cases hf
      · exact line_of_mem_named ht (fun u hu => hrest u (mem_afterModifier hu)) f hf
  · cases hf

/-- what a declaration keyword yields lies on the line of the tokens -/
theorem line_of_mem_findingsFrom {before : Option Token} {ts : List Token} (h : ∀ t ∈ ts, t.line = number) :
    ∀ f ∈ findingsFrom before ts, f.line = number := by
  induction ts generalizing before with
  | nil => simp [findingsFrom]
  | cons t ts ih =>
    have hts : ∀ u ∈ ts, u.line = number := fun u hu => h u (List.mem_cons_of_mem t hu)
    intro f hf
    rcases List.mem_append.1 hf with hf | hf
    · exact line_of_mem_findingsAt (h t List.mem_cons_self) hts f hf
    · exact ih hts f hf

end Lines

/-- a check that makes a diagnostic of some of what declaration keywords yield, in the line where it lies -/
theorem lineByLine_of_findings {check : Source → List Diagnostic} {g : Finding → Option Diagnostic}
    (hcheck : ∀ s : Source, check s = s.findings.filterMap g)
    (hdown : ∀ n f, g (f.later n) = (g f).map (Diagnostic.down n))
    (hfound : ∀ f, ∀ d ∈ g f, d.line = f.line ∧ d.ruleId ≠ Problem.indentationConsistency.ruleId) :
    LineByLine check fun l => l.findings.filterMap g where
  check_eq s := (hcheck s).trans List.filterMap_flatMap
  down n l := by
    rw [Line.findings_later, List.filterMap_map, List.map_filterMap]
    congr 1
    funext f
    exact hdown n f
  line l hl d hd := by
    obtain ⟨f, hf, hd⟩ := List.mem_filterMap.1 hd
    rw [(hfound f d hd).1]
    exact line_of_mem_findingsFrom hl.code f hf
  other l d hd := by
    obtain ⟨f, -, hd⟩ := List.mem_filterMap.1 hd
    exact (hfound f d hd).2

/-- the diagnostic of a keyword without a name -/
def namelessDiagnostic? (f : Finding) : Option Diagnostic :=
  f.nameless?.map fun d => Problem.malformedDeclaration.found d.line d.column d.message Problem.malformedDeclaration.hint

theorem namelessDiagnostics_lineByLine :
    LineByLine Source.namelessDiagnostics fun l => l.findings.filterMap namelessDiagnostic? := by
  refine lineByLine_of_findings (fun s => List.map_filterMap ..) (fun n f => ?_) fun f d hd => ?_
  · cases f <;> rfl
  · cases f with
    | declared _ => cases hd
    | nameless _ =>
      obtain rfl := Option.some.inj hd
      exact ⟨rfl, (by decide : Problem.malformedDeclaration.ruleId ≠ Problem.indentationConsistency.ruleId)⟩

namespace Rule.Naming

/-- the diagnostic of a declaration of one kind -/
def diagnosticOf? (kind : DeclarationKind) (find : Declaration → Option Diagnostic) : Finding → Option Diagnostic
  | .declared d => if d.kind = kind then find d else none
  | .nameless _ => none

/-- a check on the declarations of one kind -/
theorem lineByLine_of_kind (kind : DeclarationKind) {find : Declaration → Option Diagnostic}
    (hdown : ∀ n d, find (d.later n) = (find d).map (Diagnostic.down n))
    (hfound : ∀ d, ∀ e ∈ find d, e.line = d.line ∧ e.ruleId ≠ Problem.indentationConsistency.ruleId) :
    LineByLine (fun s => (declarationsOf kind s).filterMap find) fun l => l.findings.filterMap (diagnosticOf? kind find) := by
  refine lineByLine_of_findings (fun s => ?_) (fun n f => ?_) fun f e he => ?_
  · unfold declarationsOf Source.declarations
    rw [List.filter_filterMap, List.filterMap_filterMap]
    congr 1
    funext f
    cases f with
    | declared d => by_cases hkind : d.kind = kind <;> simp [diagnosticOf?, Finding.declared?, Option.filter, hkind]
    | nameless d => rfl
  · cases f with
    | declared d =>
      simp only [Finding.later, diagnosticOf?, hdown]
      by_cases hkind : d.kind = kind
      · rw [if_pos hkind]
        exact if_pos hkind
      · rw [if_neg hkind]
        exact if_neg hkind
    | nameless d => rfl
  · cases f with
    | declared d =>
      simp only [diagnosticOf?] at he
      split at he
      · exact hfound d e he
      · cases he
    | nameless d => cases he

theorem checkCapitals_lineByLine {p : Problem} (hp : p.ruleId ≠ Problem.indentationConsistency.ruleId)
    (kind : DeclarationKind) : LineByLine (fun s => (declarationsOf kind s).filterMap (capitalFinding? p))
      fun l => l.findings.filterMap (diagnosticOf? kind (capitalFinding? p)) := by
  refine lineByLine_of_kind kind (fun n d => ?_) fun d e he => ?_
  · have hstyle : (d.later n).style = d.style := rfl
    unfold capitalFinding?
    rw [hstyle]
    split <;> rfl
  · unfold capitalFinding? at he
    split at he
    · cases he
    · obtain rfl := Option.some.inj he
      exact ⟨rfl, hp⟩

theorem checkVar_lineByLine : LineByLine checkVar fun l => l.findings.filterMap (diagnosticOf? .var varFinding?) := by
  have hp : Problem.varNaming.ruleId ≠ Problem.indentationConsistency.ruleId := by decide
  refine lineByLine_of_kind .var (fun n d => ?_) fun d e he => ?_
  · have hstyle : (d.later n).style = d.style := rfl
    unfold varFinding?
    rw [hstyle]
    split <;> rfl
  · unfold varFinding? at he
    split at he
    · cases he
    all_goals
      obtain rfl := Option.some.inj he
      exact ⟨rfl, hp⟩

theorem checkFunc_lineByLine : LineByLine checkFunc fun l => l.findings.filterMap (diagnosticOf? .func funcFinding?) := by
  have hp : Problem.funcNaming.ruleId ≠ Problem.indentationConsistency.ruleId := by decide
  refine lineByLine_of_kind .func (fun n d => ?_) fun d e he => ?_
  · have hstyle : (d.later n).style = d.style := rfl
    unfold funcFinding?
    rw [hstyle]
    split <;> rfl
  · unfold funcFinding? at he
    split at he
    · cases he
    · obtain rfl := Option.some.inj he
      exact ⟨rfl, hp⟩

end Rule.Naming

/-! ### Rules -/

/-- **All rules but the one on indentation** go line by line. -/
theorem lineByLine_of_rule {r : Rule} (hr : r ∈ defaultRules)
    (hid : r.header.id ≠ Problem.indentationConsistency.ruleId) (options : Options) :
    ∃ find, LineByLine (fun s => r.run s options) find := by
  simp only [defaultRules, List.mem_cons, List.not_mem_nil, or_false] at hr
  rcases hr with rfl | rfl | rfl | rfl | rfl | rfl | rfl | rfl
  · exact ⟨_, Rule.Naming.checkCapitals_lineByLine hid .constant⟩
  · exact ⟨_, Rule.Naming.checkCapitals_lineByLine hid .static⟩
  · exact ⟨_, Rule.Naming.checkVar_lineByLine⟩
  · exact ⟨_, Rule.Naming.checkFunc_lineByLine⟩
  · exact ⟨_, Rule.Spacing.checkOperators_lineByLine hid _⟩
  · exact ⟨_, Rule.Spacing.checkCommas_lineByLine hid _⟩
  · exact absurd rfl hid
  · exact ⟨_, Rule.OneLineIf.check_lineByLine hid _ options⟩

end VixStyle
