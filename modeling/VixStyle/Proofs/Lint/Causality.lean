/-
Reports on lines that further lines follow.

The walk over the first lines does not know what follows, and all other checks look at one line at a time. So what is reported
on these lines stays the same whatever follows, but for one kind of report: a block that is never closed is reported when the
source ends, and further lines may close it. Main statement, `lintSource_above`: the reports on the first lines are those on
these lines alone, in their order, without the ones on blocks that are closed behind (`Mark.ClosedBehind`).
-/
import VixStyle.Proofs.Block.Pending
import VixStyle.Proofs.Lint.Composition
import VixStyle.Proofs.Lint.Outcome

namespace VixStyle

/-! ## Blocks of the first lines -/

theorem Token.Precedes.asymm {t u : Token} (h : t.Precedes u) : ¬ u.Precedes t := by
  unfold Precedes at h ⊢
  omega

theorem nodup_of_precedes {ps : List (Keyword × Token)} (h : ps.Pairwise fun p q => p.2.Precedes q.2) : ps.Nodup := by
  apply h.imp
  rintro p q hpq rfl
  exact hpq.asymm hpq

/-- the blocks of some lines that the lines behind them close -/
def closedBehind (lines more : List Line) : List (Keyword × Token) :=
  (openBlocks lines).filter fun p => p ∉ openBlocks (lines ++ more)

section Blocks

variable {lines more : List Line}

theorem openBlocks_append (lines more : List Line) :
    openBlocks (lines ++ more) = (Mark.lifo (openBlocks lines).reverse (marksOf more)).2.reverse := by
  unfold openBlocks
  rw [marksOf, List.flatMap_append, Mark.lifo_append, List.reverse_reverse]
  rfl

theorem mem_codeOf_of_opens {p : Keyword × Token} (h : Mark.opens p.1 p.2 ∈ marksOf more) : p.2 ∈ codeOf more :=
  (tokens_marksOf more).subset (List.mem_map_of_mem (f := Mark.token) h)

theorem mem_codeOf_of_openBlocks {p : Keyword × Token} (h : p ∈ openBlocks lines) : p.2 ∈ codeOf lines :=
  (openBlocks_sublist lines).subset (List.mem_map_of_mem h)

variable (hread : ∀ l ∈ lines ++ more, l.WasRead) (hordered : (lines ++ more).Pairwise fun l m => l.number < m.number)

include hread hordered

theorem codeOf_apart {t u : Token} (ht : t ∈ codeOf lines) (hu : u ∈ codeOf more) : t.Precedes u := by
  have hcode := ordered_codeOf hread hordered
  rw [codeOf, List.flatMap_append] at hcode
  exact (List.pairwise_append.1 hcode).2.2 t ht u hu

theorem openBlocks_pairwise : (openBlocks lines).Pairwise fun p q => p.2.Precedes q.2 :=
  openBlocks_ordered (fun l hl => hread l (List.mem_append_left more hl)) (List.pairwise_append.1 hordered).1

theorem opens_notMem {p : Keyword × Token} (hp : p ∈ openBlocks lines) : Mark.opens p.1 p.2 ∉ marksOf more := by
  intro hmore
  have hself := codeOf_apart hread hordered (mem_codeOf_of_openBlocks hp) (mem_codeOf_of_opens hmore)
  exact hself.asymm hself

/-- **The blocks that are closed behind** are those whose `end` stands in the lines behind. -/
theorem mem_closedBehind_iff {p : Keyword × Token} :
    p ∈ closedBehind lines more ↔ Mark.ClosedBehind (marksOf lines) (marksOf more) p := by
  have hopen : ∀ q, q ∈ (Mark.lifo [] (marksOf lines)).2 ↔ q ∈ openBlocks lines := fun q => List.mem_reverse.symm
  have hnodup : (Mark.lifo [] (marksOf lines)).2.Nodup :=
    List.nodup_reverse.1 (nodup_of_precedes (openBlocks_pairwise hread hordered))
  rw [Mark.closedBehind_iff hnodup fun q hq => opens_notMem hread hordered ((hopen q).1 hq), hopen, closedBehind,
    List.mem_filter, decide_eq_true_eq, openBlocks_append, List.mem_reverse, openBlocks, List.reverse_reverse]

/-- **The blocks of the first lines that stay open** are those that are not closed behind, in their order. -/
theorem filter_openBlocks {n : Int} (habove : ∀ t ∈ codeOf lines, t.line ≤ n) (hbelow : ∀ t ∈ codeOf more, n < t.line) :
    (openBlocks (lines ++ more)).filter (fun p => p.2.line ≤ n) =
      (openBlocks lines).filter fun p => p ∉ closedBehind lines more := by
  have hmem : ∀ p, p ∈ (openBlocks (lines ++ more)).filter (fun p => p.2.line ≤ n) ↔
      p ∈ (openBlocks lines).filter fun p => p ∉ closedBehind lines more := by
    intro p
    simp only [closedBehind, List.mem_filter, decide_eq_true_eq, not_and, not_not]
    constructor
    · rintro ⟨hp, hline⟩
      refine ⟨?_, fun _ => hp⟩
      -- it was not opened behind the first lines, so it was open there
      obtain ⟨opened, kept, hleft, hkept, hopened⟩ := Mark.lifo_kept (openBlocks lines).reverse (marksOf more)
      rw [openBlocks_append, hleft, List.mem_reverse, List.mem_append] at hp
      rcases hp with hp | hp
      · have hlow := hbelow p.2 (mem_codeOf_of_opens (hopened p hp))
        omega
      · exact List.mem_reverse.1 (hkept.subset hp)
    · rintro ⟨hp, hopen⟩
      exact ⟨hopen hp, habove p.2 (mem_codeOf_of_openBlocks hp)⟩
  have hwhole : (openBlocks (lines ++ more)).Pairwise fun p q => p.2.Precedes q.2 := openBlocks_ordered hread hordered
  have hfirst : (openBlocks lines).Pairwise fun p q => p.2.Precedes q.2 := openBlocks_pairwise hread hordered
  apply List.Perm.eq_of_pairwise (fun p q _ _ hpq hqp => absurd hqp hpq.asymm) (hwhole.filter _) (hfirst.filter _)
  exact (List.perm_ext_iff_of_nodup ((nodup_of_precedes hwhole).filter _) ((nodup_of_precedes hfirst).filter _)).2 hmem

end Blocks

/-! ## What a check finds -/

/-- a report on a block that is never closed tells which block -/
theorem unclosedReport_inj {lines : List Line} (hpairs : (openBlocks lines).Pairwise fun p q => p.2.Precedes q.2)
    {p q : Keyword × Token} (hp : p ∈ openBlocks lines) (hq : q ∈ openBlocks lines)
    (h : Rule.Indentation.unclosedReport p = Rule.Indentation.unclosedReport q) : p = q := by
  have hplace : p.2.line = q.2.line ∧ p.2.column = q.2.column :=
    ⟨congrArg Diagnostic.line h, Int.ofNat_inj.1 (congrArg Diagnostic.column h)⟩
  have hdiffer : ∀ {p q : Keyword × Token}, p.2.Precedes q.2 → ¬ (p.2.line = q.2.line ∧ p.2.column = q.2.column) := by
    rintro p q hpq ⟨hline, hcolumn⟩
    unfold Token.Precedes at hpq
    omega
  have hunique := List.Pairwise.forall_of_forall_of_flip
    (R := fun p q : Keyword × Token => p.2.line = q.2.line ∧ p.2.column = q.2.column → p = q)
    (fun _ _ _ => rfl) (hpairs.imp fun hpq heq => absurd heq (hdiffer hpq))
    (hpairs.imp fun hpq heq => absurd ⟨heq.1.symm, heq.2.symm⟩ (hdiffer hpq))
  exact hunique hp hq hplace

namespace Rule.Indentation

theorem Walk.line_of_mem_run {w : Walk} {lines : List Line} (hlines : ∀ l ∈ lines, l.Numbered) {f : Finding}
    (hf : f ∈ (w.run lines).2) : OnLines lines f.line := by
  have hany : Within (fun _ => True) w.stack := fun _ _ => trivial
  exact ((run_within hany fun l hl => ⟨hlines l hl, trivial⟩).2 f hf).1

end Rule.Indentation

open Rule.Indentation (Walk Finding OnLines findings findings_eq run_matching agrees_nil unclosedAt unclosedReport
  isUnclosedReport isUnclosedReport_diagnostic)

section Sources

variable {options : Options} {lines more : List Line} (hread : ∀ l ∈ lines ++ more, l.WasRead)
  (hordered : (lines ++ more).Pairwise fun l m => l.number < m.number) {n : Int} (habove : ∀ l ∈ lines, l.number ≤ n)
  (hbelow : ∀ l ∈ more, n < l.number)

include hread hordered habove hbelow

/-- **What is found on the first lines** is what is found on them alone, but for the blocks that are closed behind. -/
theorem findings_above :
    (findings options (lines ++ more)).filter (fun f => f.line ≤ n) = ((Walk.start options).run lines).2 ++
      ((openBlocks lines).filter fun p => p ∉ closedBehind lines more).map unclosedAt := by
  have hnumbered : ∀ l ∈ lines ++ more, l.Numbered := fun l hl => Line.numbered_of_wasRead (hread l hl)
  obtain ⟨hfirst, hlater⟩ := List.forall_mem_append.1 hnumbered
  have hcode : ∀ {ls : List Line}, (∀ l ∈ ls, l.Numbered) → ∀ t ∈ codeOf ls, OnLines ls t.line := by
    intro ls hls t ht
    obtain ⟨l, hl, ht⟩ := List.mem_flatMap.1 ht
    exact ⟨l, hl, (hls l hl).code t ht⟩
  have hon : ∀ number, OnLines lines number → number ≤ n := by
    rintro _ ⟨l, hl, rfl⟩
    exact habove l hl
  have hbehind : ∀ number, OnLines more number → n < number := by
    rintro _ ⟨l, hl, rfl⟩
    exact hbelow l hl
  have hblocks := filter_openBlocks hread hordered (fun t ht => hon _ (hcode hfirst t ht))
    (fun t ht => hbehind _ (hcode hlater t ht))
  have hhere : ((Walk.start options).run lines).2.filter (fun f => f.line ≤ n) = ((Walk.start options).run lines).2 := by
    apply List.filter_eq_self.2
    intro f hf
    exact decide_eq_true (hon _ (Walk.line_of_mem_run hfirst hf))
  have hthere : (((Walk.start options).run lines).1.run more).2.filter (fun f => f.line ≤ n) = [] := by
    apply List.filter_eq_nil_iff.2
    intro f hf
    have hline := hbehind _ (Walk.line_of_mem_run hlater hf)
    simpa using hline
  rw [findings_eq, Walk.run_append, List.filter_append, List.filter_append, hhere, hthere, List.append_nil,
    List.filter_map, ← hblocks]
  rfl

/-- the reports of the rule on the first lines -/
theorem filter_diagnostic_findings :
    ((findings options (lines ++ more)).map Finding.diagnostic).filter (fun d => d.line ≤ n) =
      ((findings options lines).map Finding.diagnostic).filter
        fun d => d ∉ (closedBehind lines more).map unclosedReport := by
  have hrun : (((Walk.start options).run lines).2.map Finding.diagnostic).filter
      (fun d => d ∉ (closedBehind lines more).map unclosedReport) =
        ((Walk.start options).run lines).2.map Finding.diagnostic := by
    apply List.filter_eq_self.2
    intro d hd
    obtain ⟨f, hf, rfl⟩ := List.mem_map.1 hd
    have hopen : isUnclosedReport f.diagnostic = false := by
      rw [isUnclosedReport_diagnostic]
      have hnone := List.filter_eq_nil_iff.1 (run_matching (Walk.start options) lines agrees_nil).2.2 f hf
      simpa using hnone
    apply decide_eq_true
    intro hclosed
    obtain ⟨p, -, hp⟩ := List.mem_map.1 hclosed
    have hunclosed : isUnclosedReport (unclosedAt p).diagnostic = true := isUnclosedReport_diagnostic _
    rw [Rule.Indentation.unclosedAt_diagnostic, hp, hopen] at hunclosed
    cases hunclosed
  have hblocks : ((openBlocks lines).map unclosedReport).filter
      (fun d => d ∉ (closedBehind lines more).map unclosedReport) =
        ((openBlocks lines).filter fun p => p ∉ closedBehind lines more).map unclosedReport := by
    rw [List.filter_map]
    apply congrArg
    apply List.filter_congr
    intro p hp
    have hmem : unclosedReport p ∈ (closedBehind lines more).map unclosedReport ↔ p ∈ closedBehind lines more := by
      constructor
      · intro h
        obtain ⟨q, hq, heq⟩ := List.mem_map.1 h
        obtain rfl := unclosedReport_inj (openBlocks_pairwise hread hordered) (List.mem_of_mem_filter hq) hp heq
        exact hq
      · exact List.mem_map_of_mem
    simp only [Function.comp_apply, hmem]
  have hreports : ∀ ps : List (Keyword × Token), (ps.map unclosedAt).map Finding.diagnostic = ps.map unclosedReport := by
    intro ps
    rw [List.map_map]
    rfl
  have hline : (fun d : Diagnostic => decide (d.line ≤ n)) ∘ Finding.diagnostic = fun f => decide (f.line ≤ n) := rfl
  rw [List.filter_map, hline, findings_above hread hordered habove hbelow, List.map_append, hreports, findings_eq,
    List.map_append, hreports, List.filter_append, hrun, hblocks]

end Sources

section Lines

variable (above below : List (List Char)) (text text' : List Char) {options : Options}

theorem readAll_split : Line.readAll (above ++ below) =
    Line.readAll above ++ Line.readFrom (1 + above.length) below :=
  Line.readFrom_append 1 above below

theorem wasRead_split : ∀ l ∈ Line.readAll above ++ Line.readFrom (1 + above.length) below, l.WasRead :=
  readAll_split above below ▸ Line.wasRead_readAll

theorem ordered_split : (Line.readAll above ++ Line.readFrom (1 + above.length) below).Pairwise
    fun l m => l.number < m.number :=
  readAll_split above below ▸ Line.ordered_readFrom 1 (above ++ below)

/-- the blocks of the first lines that are closed behind -/
def closedBelow : List (Keyword × Token) :=
  closedBehind (Line.readAll above) (Line.readFrom (1 + above.length) below)

theorem number_above : ∀ l ∈ Line.readAll above, l.number ≤ above.length := fun _ hl => (Line.mem_readAll hl).2.2

theorem number_below : ∀ l ∈ Line.readFrom (1 + above.length) below, above.length < l.number := by
  intro l hl
  have hlow := (Line.mem_readFrom hl).2.1
  omega

section LineByLine

variable {check : Source → List Diagnostic} {find : Line → List Diagnostic} (hcheck : LineByLine check find)

include hcheck

/-- a check that goes line by line finds on the first lines what it finds on them alone -/
theorem LineByLine.filter_above :
    (check (.ofLines text' (above ++ below))).filter (isAbove above.length) = check (.ofLines text above) := by
  have hline : ∀ l ∈ Line.readAll above ++ Line.readFrom (1 + above.length) below, ∀ d ∈ find l, d.line = l.number :=
    fun l hl => hcheck.line l (Line.numbered_of_wasRead (wasRead_split above below l hl))
  obtain ⟨hfirst, hlater⟩ := List.forall_mem_append.1 hline
  have hhere : ((Line.readAll above).flatMap find).filter (isAbove above.length) = (Line.readAll above).flatMap find := by
    apply List.filter_eq_self.2
    intro d hd
    obtain ⟨l, hl, hd⟩ := List.mem_flatMap.1 hd
    apply decide_eq_true
    rw [hfirst l hl d hd]
    exact number_above above l hl
  have hthere : ((Line.readFrom (1 + above.length) below).flatMap find).filter (isAbove above.length) = [] := by
    apply List.filter_eq_nil_iff.2
    intro d hd
    obtain ⟨l, hl, hd⟩ := List.mem_flatMap.1 hd
    have hnumber := number_below above below l hl
    rw [← hlater l hl d hd] at hnumber
    simpa [isAbove] using hnumber
  have hlines : (Source.ofLines text' (above ++ below)).lines =
      Line.readAll above ++ Line.readFrom (1 + above.length) below := readAll_split above below
  rw [hcheck.check_eq, hcheck.check_eq, hlines, List.flatMap_append, List.filter_append, hhere, hthere, List.append_nil]
  rfl

/-- such a check reports no block -/
theorem LineByLine.filter_unclosed (s : Source) (ps : List (Keyword × Token)) :
    (check s).filter (fun d => d ∉ ps.map unclosedReport) = check s := by
  rw [hcheck.check_eq]
  apply List.filter_eq_self.2
  intro d hd
  obtain ⟨l, -, hd⟩ := List.mem_flatMap.1 hd
  apply decide_eq_true
  intro hclosed
  obtain ⟨p, -, rfl⟩ := List.mem_map.1 hclosed
  exact hcheck.other l _ hd rfl

end LineByLine

/-- **Each check** finds on the first lines what it finds on them alone, but for the blocks that are closed behind. -/
theorem check_above {check : Source → List Diagnostic} (h : check ∈ checks options) :
    (check (.ofLines text' (above ++ below))).filter (isAbove above.length) =
      (check (.ofLines text above)).filter fun d => d ∉ (closedBelow above below).map unclosedReport := by
  rcases check_cases h with hindentation | ⟨find, hfind⟩
  · have hlines : (Source.ofLines text' (above ++ below)).lines =
        Line.readAll above ++ Line.readFrom (1 + above.length) below := readAll_split above below
    rw [hindentation, hindentation]
    unfold Rule.Indentation.check
    rw [hlines]
    exact filter_diagnostic_findings (wasRead_split above below) (ordered_split above below) (number_above above)
      (number_below above below)
  · rw [hfind.filter_unclosed, hfind.filter_above above below text text']

/--
**Further lines never change what is reported on earlier ones**, but for blocks that they close. The reports on the first lines
of a source are the reports on these lines alone, in their order, without those on blocks that are never closed for which an
`end` stands in the lines behind.
-/
theorem lintSource_above [Machine] (options : Options) :
    ∃ closed : List (Keyword × Token),
      (∀ p, p ∈ closed ↔ Mark.ClosedBehind (marksOf (Line.readAll above))
        (marksOf (Line.readFrom (1 + above.length) below)) p) ∧
      ((lintSource (.ofLines text' (above ++ below)) options defaultRules).map
          fun r => r.diagnostics.filter (isAbove above.length)) =
        (lintSource (.ofLines text above) options defaultRules).map
          fun r => r.diagnostics.filter fun d => d ∉ closed.map unclosedReport := by
  refine ⟨closedBelow above below, fun p => mem_closedBehind_iff (wasRead_split above below) (ordered_split above below), ?_⟩
  have hfound : ((Source.ofLines text' (above ++ below)).diagnostics options defaultRules).filter (isAbove above.length) =
      ((Source.ofLines text above).diagnostics options defaultRules).filter
        fun d => d ∉ (closedBelow above below).map unclosedReport := by
    rw [diagnostics_eq, diagnostics_eq, List.filter_flatMap, List.filter_flatMap]
    exact List.flatMap_congr fun check hcheck => check_above above below text text' hcheck
  have hsorted := congrArg sortDiagnostics hfound
  rw [sortDiagnostics_filter, sortDiagnostics_filter] at hsorted
  exact lintSource_map_congr hsorted

end Lines

/-- an `if` that the next line closes, in a `while` that it does not close -/
example : (closedBelow ["while a".toList, "\tif b".toList] ["\tend".toList]).map Prod.fst = [.if_] := by decide +kernel

end VixStyle
