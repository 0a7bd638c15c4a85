/-
The report on lines behind other lines.

Where the unit of indentation is prescribed and the first lines leave no block, no bracket and no expression open, the
lines behind them are checked as if they stood alone. Main statement, `lintSource_append`: the report on all lines is the
report on the first lines and, behind it, the report on the other lines, further down by the number of the first.

- `check_append`: each check finds in all lines what it finds in the first and, further down, in the others.
- `sortDiagnostics_append`: what lies on the first lines is listed before what lies further down.
- `before_later_of_mem`: moving diagnostics further down does not change their order. The last part of the key is the
  message, and messages cite line numbers: ` on line 9` stands behind ` on line 10`. But of two messages of the indentation
  rule at one place at most one cites a line, and that one differs from the other before the number (`exists_front`).
-/
import VixStyle.Proofs.Indentation.Later
import VixStyle.Proofs.Report.Sorting

namespace VixStyle

/-! ## The order of wordings -/

/-- texts with a common front stand on the same side of a text without it -/
theorem lt_iff_of_front {front s s' t : List Char} (hs : front <+: s) (hs' : front <+: s') (ht : ¬ front <+: t) :
    (s < t ↔ s' < t) ∧ (t < s ↔ t < s') := by
  induction front generalizing s s' t with
  | nil => exact absurd List.nil_prefix ht
  | cons c front ih =>
    obtain ⟨u, rfl, hu⟩ := List.cons_prefix_iff.1 hs
    obtain ⟨u', rfl, hu'⟩ := List.cons_prefix_iff.1 hs'
    cases t with
    | nil => simp
    | cons d t =>
      simp only [List.cons_lt_cons_iff]
      by_cases hcd : c = d
      · subst hcd
        obtain ⟨hleft, hright⟩ := ih hu hu' fun h => ht (List.cons_prefix_cons.2 ⟨rfl, h⟩)
        rw [hleft, hright]
        exact ⟨Iff.rfl, Iff.rfl⟩
      · simp [hcd, Ne.symm hcd]

namespace Rule.Indentation.Fault

/-- a wording on matching starts with a word and does not go on with a `d` -/
theorem message_matching {fault : Fault} (h : fault.isMatching = true) :
    ∃ word tail, fault.message = shown word ++ tail ∧ tail.toList[1]? ≠ some 'd' := by
  rcases Bool.or_eq_true_iff.1 h with hs | hu
  · rw [isStray_iff.1 hs]
    exact ⟨.end_, _, strayMessage_eq, by simp⟩
  · obtain ⟨word, rfl⟩ := isUnclosed_iff.1 hu
    exact ⟨word, _, rfl, by simp⟩

theorem not_cited_of_matching {fault : Fault} (h : fault.isMatching = true) : fault.cited? = none := by
  cases fault <;> first | rfl | cases h

theorem front_append (a b : String) : a.toList <+: (a ++ b).toList := by
  rw [String.toList_append]
  exact List.prefix_append _ _

theorem front_misaligned (word anchorWord : Keyword) (line : Int) :
    (shown word ++ " d").toList <+: (misaligned word anchorWord line).message.toList := by
  have hsplit : ∀ s, " does not align with " ++ s = " d" ++ ("oes not align with " ++ s) := by
    intro s
    have hword : " does not align with " = " d" ++ "oes not align with " := by simp
    rw [hword, String.append_assoc]
  rw [message_misaligned, hsplit, ← String.append_assoc]
  exact front_append _ _

theorem not_front_misaligned {g : Fault} (h : g.isMatching = true) (word : Keyword) :
    ¬ (shown word ++ " d").toList <+: g.message.toList := by
  rintro ⟨rest, hrest⟩
  obtain ⟨v, tail, hg, htail⟩ := message_matching h
  have hword : shown word ++ (" d" ++ String.ofList rest) = shown v ++ tail := by
    rw [← hg, ← String.append_assoc, ← String.toList_inj, String.toList_append, String.toList_ofList, hrest]
  apply htail
  rw [← (shown_append_inj hword).2, String.toList_append]
  rfl

theorem front_initial (fault : Fault) : [fault.initial] <+: fault.message.toList := by
  obtain ⟨rest, hrest⟩ := List.head?_eq_some_iff.1 fault.head?_message
  exact ⟨rest, hrest.symm⟩

theorem initial_matching {g : Fault} (h : g.isMatching = true) : g.initial = '`' := by
  cases g <;> first | rfl | cases h

/-- a wording that cites a line has a front before the number that no wording on matching has -/
theorem exists_front {fault : Fault} {line : Int} (h : fault.cited? = some line) :
    ∃ front : List Char, (front <+: fault.message.toList) ∧ (∀ n, front <+: (fault.later n).message.toList) ∧
      ∀ g : Fault, g.isMatching = true → ¬ front <+: g.message.toList := by
  cases fault with
  | misaligned word anchorWord line =>
    exact ⟨_, front_misaligned word anchorWord line, fun n => front_misaligned word anchorWord _,
      fun g hg => not_front_misaligned hg word⟩
  | wrongDepth unit expected actual anchor =>
    have hmessage : ∀ anchor, ['e'] <+: (wrongDepth unit expected actual anchor).message.toList := fun anchor =>
      front_initial (wrongDepth unit expected actual anchor)
    refine ⟨['e'], hmessage anchor, fun n => hmessage _, fun g hg hfront => ?_⟩
    have hother := front_initial g
    rw [initial_matching hg] at hother
    obtain hsame | hsame := List.prefix_or_prefix_of_prefix hfront hother
    · cases hsame.eq_of_length rfl
    · cases hsame.eq_of_length rfl
  | _ => cases h

/-- beside a wording on matching, a wording has the same place further down -/
theorem lt_later_matching {g : Fault} (hg : g.isMatching = true) (f : Fault) (n : Nat) :
    ((f.later n).message < g.message ↔ f.message < g.message) ∧
      (g.message < (f.later n).message ↔ g.message < f.message) := by
  cases hcited : f.cited? with
  | none =>
    rw [later_of_not_cited hcited]
    exact ⟨Iff.rfl, Iff.rfl⟩
  | some line =>
    obtain ⟨front, hhere, hthere, hnot⟩ := exists_front hcited
    simp only [String.lt_iff_toList_lt]
    exact lt_iff_of_front (hthere n) hhere (hnot g hg)

/-- **Wordings keep their order further down** if at most one of them is on indentation, or both are the same. -/
theorem message_lt_later {f g : Fault} (h : f.isMatching = false → g.isMatching = false → f = g) (n : Nat) :
    (f.later n).message < (g.later n).message ↔ f.message < g.message := by
  cases hf : f.isMatching with
  | true =>
    rw [later_of_not_cited (not_cited_of_matching hf)]
    exact (lt_later_matching hf g n).2
  | false =>
    cases hg : g.isMatching with
    | true =>
      rw [later_of_not_cited (not_cited_of_matching hg)]
      exact (lt_later_matching hg f n).1
    | false =>
      rw [h hf hg]
      exact iff_of_false (lt_irrefl _) (lt_irrefl _)

end Rule.Indentation.Fault

/-- diagnostics keep their order further down if their messages do where messages decide -/
theorem Diagnostic.before_later {a b : Diagnostic} (n : Nat)
    (h : a.line = b.line → a.ruleId = b.ruleId → ((a.later n).message < (b.later n).message ↔ a.message < b.message)) :
    (a.later n).before (b.later n) = a.before b :=
  before_map (f := Diagnostic.later n) (fun _ => rfl) (fun _ => rfl) (add_lt_add_iff_right _) (add_left_inj _)
    fun hline _ hrule => h hline hrule

/-! ## What a check finds -/

open Rule.Indentation (OnLines Walk findings findings_onLines findings_off_unique findings_append)

/-- the checks of a run with the default rules, in their order -/
def checks (options : Options) : List (Source → List Diagnostic) :=
  Source.faultDiagnostics :: Source.namelessDiagnostics ::
    (selectRules defaultRules options).map fun r s => r.run s options

theorem diagnostics_eq (s : Source) (options : Options) :
    s.diagnostics options defaultRules = (checks options).flatMap fun check => check s := by
  unfold Source.diagnostics checks
  rw [List.flatMap_cons, List.flatMap_cons, List.flatMap_map, List.append_assoc]

/-- **A check is the one on indentation or goes line by line.** -/
theorem check_cases {options : Options} {check : Source → List Diagnostic} (h : check ∈ checks options) :
    (∀ s, check s = Rule.Indentation.check s options) ∨ ∃ find, LineByLine check find := by
  rcases List.mem_cons.1 h with rfl | h
  · exact .inr ⟨_, faultDiagnostics_lineByLine⟩
  rcases List.mem_cons.1 h with rfl | h
  · exact .inr ⟨_, namelessDiagnostics_lineByLine⟩
  obtain ⟨r, hr, rfl⟩ := List.mem_map.1 h
  have hr : r ∈ defaultRules := List.mem_of_mem_filter hr
  by_cases hid : r.header.id = Problem.indentationConsistency.ruleId
  · simp only [defaultRules, List.mem_cons, List.not_mem_nil, or_false] at hr
    rcases hr with rfl | rfl | rfl | rfl | rfl | rfl | rfl | rfl
    all_goals first
      | exact .inl fun s => rfl
      | exact absurd hid (by decide)
  · exact .inr (lineByLine_of_rule hr hid options)

/-- **A diagnostic lies on a line of the source**, and one on indentation comes from a finding of the walk. -/
theorem mem_check {options : Options} {check : Source → List Diagnostic} (h : check ∈ checks options) {s : Source}
    (hs : ∀ l ∈ s.lines, l.Numbered) {d : Diagnostic} (hd : d ∈ check s) :
    OnLines s.lines d.line ∧ (d.ruleId = Problem.indentationConsistency.ruleId →
      ∃ f ∈ findings options s.lines, f.diagnostic = d) := by
  rcases check_cases h with hindentation | ⟨find, hfind⟩
  · rw [hindentation] at hd
    obtain ⟨f, hf, rfl⟩ := List.mem_map.1 hd
    exact ⟨(findings_onLines hs options f hf).1, fun _ => ⟨f, hf, rfl⟩⟩
  · obtain ⟨hline, hother⟩ := hfind.mem hs hd
    exact ⟨hline, fun hid => absurd hid hother⟩

/-! ## The lines of a source -/

/-- a source with a given text, its lines read from given texts -/
def Source.ofLines (text : List Char) (lines : List (List Char)) : Source := ⟨text, Line.readAll lines⟩

section Lines

variable {options : Options} {lines : List (List Char)}

theorem line_of_mem_check {check : Source → List Diagnostic} (h : check ∈ checks options) {text : List Char}
    {d : Diagnostic} (hd : d ∈ check (.ofLines text lines)) : 1 ≤ d.line ∧ d.line ≤ lines.length := by
  obtain ⟨⟨l, hl, hline⟩, -⟩ := mem_check h Line.numbered_readAll hd
  rw [hline]
  exact (Line.mem_readAll hl).2

theorem diagnostic_later_of_mem {f : Rule.Indentation.Finding} (hf : f ∈ findings options (Line.readAll lines)) (n : Nat) :
    (f.later n).diagnostic = f.diagnostic.later n := by
  refine Rule.Indentation.Finding.diagnostic_later (fun line hline => ?_) n
  obtain ⟨l, hl, rfl⟩ := (findings_onLines Line.numbered_readAll options f hf).2 line hline
  have := (Line.mem_readAll hl).2.1
  omega

/-- **Diagnostics keep their order further down.** -/
theorem before_later_of_mem {text : List Char} {a b : Diagnostic}
    (ha : a ∈ (Source.ofLines text lines).diagnostics options defaultRules)
    (hb : b ∈ (Source.ofLines text lines).diagnostics options defaultRules) (n : Nat) :
    (a.later n).before (b.later n) = a.before b := by
  rw [diagnostics_eq] at ha hb
  obtain ⟨checkA, hcheckA, ha⟩ := List.mem_flatMap.1 ha
  obtain ⟨checkB, hcheckB, hb⟩ := List.mem_flatMap.1 hb
  refine Diagnostic.before_later n fun hline hrule => ?_
  by_cases hid : a.ruleId = Problem.indentationConsistency.ruleId
  · obtain ⟨f, hf, rfl⟩ := (mem_check hcheckA Line.numbered_readAll ha).2 hid
    obtain ⟨g, hg, rfl⟩ := (mem_check hcheckB Line.numbered_readAll hb).2 (hrule ▸ hid)
    rw [← diagnostic_later_of_mem hf, ← diagnostic_later_of_mem hg]
    -- a line has at most one fault of indentation, so two of them at one line are one
    refine Rule.Indentation.Fault.message_lt_later (fun hfm hgm => ?_) n
    exact congrArg _ (findings_off_unique Line.numbered_readAll (Line.ordered_readFrom 1 lines) hf hg hfm hgm hline)
  · rw [Diagnostic.later_of_ruleId hid, Diagnostic.later_of_ruleId (hrule ▸ hid)]
    rfl

end Lines

/-! ## Lines behind other lines -/

/-- a diagnostic on the first lines -/
def isAbove (n : Nat) (d : Diagnostic) : Bool := d.line ≤ n

section Joined

variable {options : Options} (hstyle : options.indentStyle ≠ .detect) {above : List (List Char)}
  (hclosed : ((Walk.start options).run (Line.readAll above)).1.Closed) (below : List (List Char))
  (text textAbove textBelow : List Char)

include hstyle hclosed

/-- **Each check composes.** -/
theorem check_append {check : Source → List Diagnostic} (h : check ∈ checks options) :
    check (.ofLines text (above ++ below)) =
      check (.ofLines textAbove above) ++ (check (.ofLines textBelow below)).map (Diagnostic.later above.length) := by
  have hlines : (Source.ofLines text (above ++ below)).lines =
      (Source.ofLines textAbove above).lines ++ (Source.ofLines textBelow below).lines.map (Line.later above.length) :=
    Line.readAll_append above below
  rcases check_cases h with hindentation | ⟨find, hfind⟩
  · have hfindings : findings options (Source.ofLines text (above ++ below)).lines =
        findings options (Source.ofLines textAbove above).lines ++
          (findings options (Source.ofLines textBelow below).lines).map
            (Rule.Indentation.Finding.later above.length) := by
      rw [hlines]
      exact findings_append hstyle hclosed _ _
    rw [hindentation, hindentation, hindentation]
    unfold Rule.Indentation.check
    rw [hfindings, List.map_append, List.map_map, List.map_map]
    exact congrArg _ (List.map_congr_left fun f hf => diagnostic_later_of_mem hf above.length)
  · exact hfind.append hlines

/-- what a check finds on the first lines is told by its line from what it finds behind them -/
theorem filter_check {check : Source → List Diagnostic} (h : check ∈ checks options) :
    (check (.ofLines text (above ++ below))).filter (isAbove above.length) = check (.ofLines textAbove above) ∧
      (check (.ofLines text (above ++ below))).filter (fun d => !isAbove above.length d) =
        (check (.ofLines textBelow below)).map (Diagnostic.later above.length) := by
  have habove : ∀ d ∈ check (.ofLines textAbove above), isAbove above.length d = true := by
    intro d hd
    exact decide_eq_true (line_of_mem_check h hd).2
  have hbelow : ∀ d ∈ (check (.ofLines textBelow below)).map (Diagnostic.later above.length),
      isAbove above.length d = false := by
    intro d hd
    obtain ⟨e, he, rfl⟩ := List.mem_map.1 hd
    have hlow := (line_of_mem_check h he).1
    have hline : (e.later above.length).line = e.line + above.length := rfl
    apply decide_eq_false
    rw [hline]
    omega
  rw [check_append hstyle hclosed below text textAbove textBelow h, List.filter_append, List.filter_append]
  constructor
  · rw [List.filter_eq_self.2 habove, List.filter_eq_nil_iff.2 (by simpa using hbelow), List.append_nil]
  · rw [List.filter_eq_nil_iff.2 (by simpa using habove), List.filter_eq_self.2 (by simpa using hbelow), List.nil_append]

theorem filter_diagnostics :
    ((Source.ofLines text (above ++ below)).diagnostics options defaultRules).filter (isAbove above.length) =
        (Source.ofLines textAbove above).diagnostics options defaultRules ∧
      ((Source.ofLines text (above ++ below)).diagnostics options defaultRules).filter (fun d => !isAbove above.length d) =
        ((Source.ofLines textBelow below).diagnostics options defaultRules).map (Diagnostic.later above.length) := by
  rw [diagnostics_eq, diagnostics_eq, diagnostics_eq, List.filter_flatMap, List.filter_flatMap, List.map_flatMap]
  constructor
  · exact List.flatMap_congr fun check h => (filter_check hstyle hclosed below text textAbove textBelow h).1
  · exact List.flatMap_congr fun check h => (filter_check hstyle hclosed below text textAbove textBelow h).2

/-- **Sorting composes.** -/
theorem sortDiagnostics_append :
    sortDiagnostics ((Source.ofLines text (above ++ below)).diagnostics options defaultRules) =
      sortDiagnostics ((Source.ofLines textAbove above).diagnostics options defaultRules) ++
        (sortDiagnostics ((Source.ofLines textBelow below).diagnostics options defaultRules)).map
          (Diagnostic.later above.length) := by
  obtain ⟨habove, hbelow⟩ := filter_diagnostics hstyle hclosed below text textAbove textBelow
  rw [sortDiagnostics_split, habove, hbelow, sortDiagnostics_map]
  · exact fun a ha b hb => before_later_of_mem ha hb above.length
  · intro a _ b _ ha hb
    have hline : a.line < b.line := lt_of_le_of_lt (of_decide_eq_true ha) (not_le.1 (of_decide_eq_false hb))
    rw [Diagnostic.before_iff]
    exact Prod.Lex.toLex_lt_toLex.2 (.inl hline)

end Joined

/--
**Reports compose.** With a prescribed unit, and behind lines that leave no block, bracket or expression open, the report is
the report on these lines and then the report on the others, each line in it increased by the number of these lines.
-/
theorem lintSource_append [Machine] {options : Options} (hstyle : options.indentStyle ≠ .detect)
    {above : List (List Char)} (hclosed : ((Walk.start options).run (Line.readAll above)).1.Closed)
    (below : List (List Char)) (text textAbove textBelow : List Char) :
    lintSource (.ofLines text (above ++ below)) options defaultRules = do
      let first ← lintSource (.ofLines textAbove above) options defaultRules
      let second ← lintSource (.ofLines textBelow below) options defaultRules
      return ⟨first.diagnostics ++ second.diagnostics.map (Diagnostic.later above.length)⟩ := by
  have hvalid : validateRules defaultRules = .ok () := by rfl
  simp only [lintSource_eq_refusal, hvalid]
  cases refusal? (selectRules defaultRules options) options with
  | some fault => rfl
  | none =>
    have hreport := congrArg Report.mk (sortDiagnostics_append hstyle hclosed below text textAbove textBelow)
    exact congrArg Except.ok hreport

/-- the lines of a report with the messages on them -/
def Report.lineMessages (r : Report) : List (Int × String) := r.diagnostics.map fun d => (d.line, d.message)

/-- a body that is not indented, three lines further down -/
theorem lintSource_append_unindented :
    ({ indentStyle := .tabs } : Options).indentStyle ≠ .detect ∧
      ((Walk.start { indentStyle := .tabs }).run (Line.readAll ["if a".toList, "\tb".toList, "end".toList])).1.Closed ∧
      (lintSource (.ofLines [] ["while c".toList, "d".toList, "end".toList]) { indentStyle := .tabs }
        defaultRules).toOption.map Report.lineMessages =
          some [(2, "expected indentation of 1 tab but found no indentation (inside `while` on line 1)")] ∧
      (lintSource (.ofLines [] (["if a".toList, "\tb".toList, "end".toList] ++
        ["while c".toList, "d".toList, "end".toList])) { indentStyle := .tabs } defaultRules).toOption.map
          Report.lineMessages =
            some [(5, "expected indentation of 1 tab but found no indentation (inside `while` on line 4)")] ∧
      lintSource (.ofLines [] (["if a".toList, "\tb".toList, "end".toList] ++
          ["while c".toList, "d".toList, "end".toList])) { indentStyle := .tabs } defaultRules = (do
        let first ← lintSource (.ofLines [] ["if a".toList, "\tb".toList, "end".toList]) { indentStyle := .tabs }
          defaultRules
        let second ← lintSource (.ofLines [] ["while c".toList, "d".toList, "end".toList]) { indentStyle := .tabs }
          defaultRules
        return ⟨first.diagnostics ++ second.diagnostics.map (Diagnostic.later 3)⟩) := by
  have hstyle : ({ indentStyle := .tabs } : Options).indentStyle ≠ .detect := by decide
  have hclosed :
      ((Walk.start { indentStyle := .tabs }).run (Line.readAll ["if a".toList, "\tb".toList, "end".toList])).1.Closed :=
    ⟨by decide +kernel, by decide +kernel, by decide +kernel⟩
  exact ⟨hstyle, hclosed, by decide +kernel, by decide +kernel, lintSource_append hstyle hclosed _ [] [] []⟩

end VixStyle
