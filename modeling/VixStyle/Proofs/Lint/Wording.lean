/-
What the default rules say stands on one line, so the text of a report tells the report.

Messages and hints hold pieces of the source: names, what stands in the place of a name, operators. These are tokens or are made
of tokens, and a token is a piece of a line (`Source.unbroken_of_mem_tokens`); a name in capitals or in small letters ends
no line either. All else in a message is the wording of its rule. Main statement, `lintDefault_eq_of_render`.

- `worded_finding?`, `oneLine_operatorMessage`, `Rule.Indentation.oneLine_message`, ...: one kind of finding each.
- `worded_of_run`: what a default rule finds.
- `worded_of_lintDefault`: all that is found in a text.
-/
import VixStyle.Proofs.Lint.Selection
import VixStyle.Proofs.Naming.Proposal
import VixStyle.Proofs.Report.Rendering
import VixStyle.Proofs.Source.Later
import VixStyle.Proofs.Source.Place

namespace VixStyle

open Text

/-! ## Pieces of the source -/

namespace Source

variable {text : List Char}

/-- **A token stands on one line.** -/
theorem unbroken_of_mem_tokens {l : Line} (hl : l ∈ (ofText text).lines) {t : Token} (ht : t ∈ l.tokens) :
    Unbroken t.text := by
  obtain ⟨above, below, hlines, hread⟩ := exists_around hl
  obtain ⟨before, after, hpiece, -⟩ := Line.exists_sides (hread ▸ ht)
  have hline : Unbroken l.text := unbroken_of_mem_lines (hlines ▸ List.mem_append_right _ List.mem_cons_self)
  refine hline.subset fun c hc => ?_
  rw [hpiece]
  exact List.mem_append_left _ (List.mem_append_right _ hc)

theorem unbroken_of_mem_code {l : Line} (hl : l ∈ (ofText text).lines) {t : Token} (ht : t ∈ l.code) : Unbroken t.text :=
  unbroken_of_mem_tokens hl (List.mem_of_mem_filter ht)

theorem unbroken_name {d : Declaration} (hd : d ∈ (ofText text).declarations) : Unbroken d.name := by
  obtain ⟨l, hl, htoken, -⟩ := exists_site hd
  exact unbroken_of_mem_code hl htoken

end Source

namespace Finding

/-- what stands in the place of a name is a token behind the keyword -/
theorem found_named {kind : DeclarationKind} {keyword : Keyword} {t : Token} {ts : List Token} {n : NamelessDeclaration}
    (h : .nameless n ∈ named kind keyword t ts) {found : List Char} (hfound : n.found = some found) :
    ∃ u ∈ ts, u.text = found := by
  cases ts with
  | nil =>
    obtain rfl := nameless.inj (List.mem_singleton.1 h)
    cases hfound
  | cons first rest =>
    have hfirst : ∀ m : NamelessDeclaration, m = ⟨keyword, kind, t.line, t.column, some first.text⟩ → m.found = some found →
        ∃ u ∈ first :: rest, u.text = found := by
      rintro m rfl hm
      exact ⟨first, List.mem_cons_self, Option.some.inj hm⟩
    simp only [named] at h
    split at h
    · obtain ⟨item, -, hitem⟩ := List.mem_map.1 h
      cases hitem
    · split at h
      · cases h
      · exact hfirst n (nameless.inj (List.mem_singleton.1 h)) hfound
    · exact hfirst n (nameless.inj (List.mem_singleton.1 h)) hfound

theorem found_findingsFrom {before : Option Token} {ts : List Token} {n : NamelessDeclaration}
    (h : .nameless n ∈ findingsFrom before ts) {found : List Char} (hfound : n.found = some found) :
    ∃ u ∈ ts, u.text = found := by
  induction ts generalizing before with
  | nil => cases h
  | cons t ts ih =>
    rcases List.mem_append.1 h with h | h
    · rcases findingsAt_cases before t ts with hnone | ⟨keyword, kind, -, -, hnamed⟩
      · rw [hnone] at h
        cases h
      · rw [hnamed] at h
        obtain ⟨u, hu, htext⟩ := found_named h hfound
        exact ⟨u, List.mem_cons_of_mem t (mem_afterModifier hu), htext⟩
    · obtain ⟨u, hu, htext⟩ := ih h
      exact ⟨u, List.mem_cons_of_mem t hu, htext⟩

end Finding

theorem Source.unbroken_found {text : List Char} {n : NamelessDeclaration} (hn : n ∈ (ofText text).namelessDeclarations)
    {found : List Char} (hfound : n.found = some found) : Unbroken found := by
  obtain ⟨f, hf, hnameless⟩ := List.mem_filterMap.1 hn
  obtain ⟨l, hl, hf⟩ := List.mem_flatMap.1 hf
  cases f with
  | declared d => cases hnameless
  | nameless m =>
    obtain rfl := Option.some.inj hnameless
    obtain ⟨u, hu, rfl⟩ := Finding.found_findingsFrom hf hfound
    exact unbroken_of_mem_code hl hu

/-! ## Wordings -/

/-- a diagnostic that is made of a problem says on one line each what it is given -/
theorem Problem.worded_found {p : Problem} (hp : p ∈ all) {line : Int} {column : Nat} {message : String} {hint : Option String}
    (hmessage : OneLine message) (hhint : ∀ h ∈ hint, h ≠ "" ∧ OneLine h) : (p.found line column message hint).Worded :=
  ⟨⟨p, hp, rfl, rfl, rfl⟩, hmessage, hhint⟩

/-- standing hints are in order -/
theorem Problem.standing_hint : ∀ p ∈ all, ∀ hint ∈ p.hint, hint ≠ "" ∧ OneLine hint := by
  have hsome : ∀ {s : List Char}, s ≠ [] → Unbroken s → ∀ hint ∈ some (String.ofList s), hint ≠ "" ∧ OneLine hint := by
    rintro s hne hs hint ⟨⟩
    exact ⟨fun heq => hne (by simpa using congrArg String.toList heq), oneLine_ofList hs⟩
  have hnone : ∀ hint ∈ (none : Option String), hint ≠ "" ∧ OneLine hint := by simp
  simp only [all, List.forall_mem_cons]
  refine ⟨?_, ?_, ?_, ?_, ?_, ?_, ?_, ?_, ?_, ?_, List.forall_mem_nil _⟩
  all_goals first
    | exact hnone
    | exact hsome (by decide) (by decide)

theorem Keyword.oneLine_spelling (word : Keyword) : OneLine word.spelling := by
  cases word <;> exact oneLine_ofList (by decide)

theorem NamelessDeclaration.oneLine_message {n : NamelessDeclaration} (h : ∀ found ∈ n.found, Unbroken found) :
    OneLine n.message := by
  unfold message
  refine (((oneLine_ofList (by decide)).append n.keyword.oneLine_spelling).append (oneLine_ofList (by decide))).append ?_
  cases hfound : n.found with
  | none => exact unbroken_nil
  | some found =>
    exact ((oneLine_ofList (by decide)).append (oneLine_ofList (h found hfound))).append (oneLine_ofList (by decide))

namespace Rule.Naming

theorem oneLine_shown {name : List Char} (h : Unbroken name) : OneLine (shown name) :=
  ((oneLine_ofList (by decide)).append (oneLine_ofList h)).append (oneLine_ofList (by decide))

theorem renameTo_told {name : List Char} (h : Unbroken name) : renameTo name ≠ "" ∧ OneLine (renameTo name) :=
  ⟨by simp [renameTo], ((oneLine_ofList (by decide)).append (oneLine_ofList h)).append (oneLine_ofList (by decide))⟩

/-- **What is found on a name** stands on one line each, if the name does. -/
theorem worded_finding? {d : Declaration} (hname : Unbroken d.name) {e : Diagnostic} (h : finding? d = some e) : e.Worded := by
  have hlower := Name.unbroken_lowerSnake hname
  have hmisnamed : ∀ p ∈ Problem.all, ∀ back hint : String, OneLine back → hint ≠ "" ∧ OneLine hint →
      (misnamed p d (shown d.name ++ back) hint).Worded := fun p hp back hint hback hhint =>
    Problem.worded_found hp ((oneLine_shown hname).append hback) fun _ hmem => Option.some.inj hmem ▸ hhint
  have hcapital : ∀ p ∈ Problem.all, capitalFinding? p d = some e → e.Worded := by
    intro p hp h
    unfold capitalFinding? at h
    split at h
    · cases h
    · cases h
      exact hmisnamed p hp _ _ (oneLine_ofList (by decide)) (renameTo_told (Name.unbroken_upperSnake hname))
  have hvar : varFinding? d = some e → e.Worded := by
    intro h
    unfold varFinding? at h
    split at h
    · cases h
    · cases h
      refine hmisnamed _ (by decide) _ _ (oneLine_ofList (by decide)) ⟨by simp, ?_⟩
      exact ((oneLine_ofList (by decide)).append (oneLine_ofList hlower)).append (oneLine_ofList (by decide))
    · cases h
      have hlabel : ∀ style : NameStyle, OneLine style.label := by
        intro style
        cases style <;> exact oneLine_ofList (by decide)
      rw [String.append_assoc, String.append_assoc]
      refine hmisnamed _ (by decide) _ _ ?_ (renameTo_told hlower)
      exact (oneLine_ofList (by decide)).append ((hlabel _).append (oneLine_ofList (by decide)))
  have hfunc : funcFinding? d = some e → e.Worded := by
    intro h
    unfold funcFinding? at h
    split at h
    · cases h
    · cases h
      exact hmisnamed _ (by decide) _ _ (oneLine_ofList (by decide)) (renameTo_told hlower)
  unfold finding? at h
  split at h
  · exact hcapital _ (by decide) h
  · exact hcapital _ (by decide) h
  · exact hvar h
  · exact hfunc h

end Rule.Naming

namespace Rule.Spacing

theorem oneLine_sideMessage {operator side : String} (h : OneLine operator) (hside : OneLine side) (fault : GapFault) :
    OneLine (sideMessage operator side fault) := by
  have hopen : OneLine " \"" := oneLine_ofList (by decide)
  have hquote : OneLine "\"" := oneLine_ofList (by decide)
  have hsaid : ∀ front : String, OneLine front → OneLine (front ++ side ++ " \"" ++ operator ++ "\"") := fun _ hfront =>
    (((hfront.append hside).append hopen).append h).append hquote
  cases fault with
  | missing => exact hsaid "missing space " (oneLine_ofList (by decide))
  | extra => exact hsaid "expected exactly one space " (oneLine_ofList (by decide))

theorem oneLine_operatorMessage {operator : String} (h : OneLine operator) {before after : Option GapFault}
    {message : String} (hmessage : operatorMessage? operator before after = some message) : OneLine message := by
  have hbefore := oneLine_sideMessage h (oneLine_ofList (by decide) : OneLine "before")
  have hafter := oneLine_sideMessage h (oneLine_ofList (by decide) : OneLine "after")
  unfold operatorMessage? at hmessage
  split at hmessage
  · cases hmessage
  · cases hmessage
    exact ((oneLine_ofList (by decide)).append h).append (oneLine_ofList (by decide))
  · cases hmessage
    exact hbefore _
  · cases hmessage
    exact hafter _
  · cases hmessage
    exact ((hbefore _).append (oneLine_ofList (by decide))).append (hafter _)

theorem oneLine_commaFaults (line : List Char) (t : Token) : ∀ message ∈ commaFaults line t, OneLine message := by
  intro message h
  unfold commaFaults at h
  rcases List.mem_append.1 h with h | h
  · split at h
    · rw [List.mem_singleton.1 h]
      exact oneLine_ofList (by decide)
    · cases h
  · split at h
    · cases h
    · split at h
      · cases h
      · rw [List.mem_singleton.1 h]
        exact oneLine_ofList (by decide)
      · rw [List.mem_singleton.1 h]
        exact oneLine_ofList (by decide)

end Rule.Spacing

namespace Rule.Indentation

theorem oneLine_shown (word : Keyword) : OneLine (Fault.shown word) :=
  ((oneLine_ofList (by decide)).append word.oneLine_spelling).append (oneLine_ofList (by decide))

theorem oneLine_describe (unit : IndentUnit) (levels : Nat) : OneLine (unit.describe levels) := by
  cases unit with
  | tab =>
    rw [IndentUnit.describe]
    split
    · exact oneLine_ofList (by decide)
    · exact (oneLine_nat _).append (oneLine_ofList (by decide))
  | spaces count =>
    rw [IndentUnit.describe]
    split
    · exact oneLine_ofList (by decide)
    · exact (oneLine_nat _).append (oneLine_ofList (by decide))

theorem oneLine_message (f : Fault) : OneLine f.message := by
  have honLine : ∀ line : Int, OneLine s!" on line {line}" := fun line =>
    (oneLine_ofList (by decide) : OneLine " on line ").append (oneLine_int line)
  cases f with
  | strayEnd => exact oneLine_ofList (by decide)
  | unclosed word =>
    have hback : OneLine " block is never closed with `end`" := oneLine_ofList (by decide)
    exact (oneLine_shown word).append hback
  | mixedBlanks => exact oneLine_ofList (by decide)
  | wrongBlanks foundTabs => cases foundTabs <;> exact oneLine_ofList (by decide)
  | uneven width unitWidth =>
    have hfront : OneLine "indentation of " := oneLine_ofList (by decide)
    have hmiddle : OneLine " spaces is not a multiple of the " := oneLine_ofList (by decide)
    have hback : OneLine "-space unit" := oneLine_ofList (by decide)
    exact (((hfront.append (oneLine_nat width)).append hmiddle).append (oneLine_nat unitWidth)).append hback
  | misaligned word anchorWord anchorLine =>
    have hmiddle : OneLine " does not align with " := oneLine_ofList (by decide)
    exact (((oneLine_shown word).append hmiddle).append (oneLine_shown anchorWord)).append (honLine anchorLine)
  | unindentedBody => exact oneLine_ofList (by decide)
  | wrongDepth unit expected actual anchor =>
    have hfront : OneLine "expected indentation of " := oneLine_ofList (by decide)
    have hmiddle : OneLine " but found " := oneLine_ofList (by decide)
    have hfound : OneLine (if actual = 0 then "no indentation" else unit.describe actual) := by
      split
      · exact oneLine_ofList (by decide)
      · exact oneLine_describe unit actual
    refine (((hfront.append (oneLine_describe unit expected)).append hmiddle).append hfound).append ?_
    cases anchor with
    | none => exact unbroken_nil
    | some anchor =>
      have hinside : OneLine " (inside " := oneLine_ofList (by decide)
      have hclose : OneLine ")" := oneLine_ofList (by decide)
      exact (hinside.append (oneLine_shown anchor.1)).append ((honLine anchor.2).append hclose)

theorem hint_told (f : Fault) : ∀ hint ∈ f.hint, hint ≠ "" ∧ OneLine hint := by
  intro hint h
  cases f with
  | unclosed word =>
    obtain rfl := Option.some.inj h
    exact ⟨by simp, ((oneLine_ofList (by decide)).append (oneLine_shown word)).append (oneLine_ofList (by decide))⟩
  | mixedBlanks =>
    obtain rfl := Option.some.inj h
    exact ⟨by decide, oneLine_ofList (by decide)⟩
  | _ => cases h

end Rule.Indentation

theorem Rule.OneLineIf.oneLine_message (f : Fault) : OneLine f.message := by
  cases f with
  | notPermitted kind =>
    have hname : OneLine kind.name := by cases kind <;> exact oneLine_ofList (by decide)
    exact ((oneLine_ofList (by decide)).append hname).append (oneLine_ofList (by decide))
  | _ => exact oneLine_ofList (by decide)

/-! ## All that is found -/

section Found

variable {text : List Char} {o : Options}

/-- what is found with the standing hint of its problem -/
theorem Problem.worded_standing {p : Problem} (hp : p ∈ all) {line : Int} {column : Nat} {message : String}
    (hmessage : OneLine message) : (p.found line column message p.hint).Worded :=
  worded_found hp hmessage (standing_hint p hp)

/-- **What a default rule finds** stands on one line each. -/
theorem worded_of_run {r : Rule} (hr : r ∈ defaultRules) : ∀ d ∈ r.run (Source.ofText text) o, d.Worded := by
  have hnaming : ∀ r ∈ namingRules, ∀ d ∈ r.run (Source.ofText text) o, d.Worded := by
    intro r hr d hd
    obtain ⟨declaration, hdeclared, hfinding⟩ := mem_namingFindings_iff.1 (List.mem_flatMap.2 ⟨r, hr, hd⟩)
    exact Rule.Naming.worded_finding? (Source.unbroken_name hdeclared) hfinding
  rw [namingRules_eq] at hnaming
  simp only [defaultRules, List.mem_cons, List.not_mem_nil, or_false] at hr
  rcases hr with rfl | rfl | rfl | rfl | rfl | rfl | rfl | rfl
  · exact hnaming _ (by simp)
  · exact hnaming _ (by simp)
  · exact hnaming _ (by simp)
  · exact hnaming _ (by simp)
  · intro d hd
    obtain ⟨l, hl, hd⟩ := List.mem_flatMap.1 hd
    obtain ⟨⟨before, t⟩, hp, hd⟩ := List.mem_filterMap.1 hd
    obtain ⟨message, hmessage, rfl⟩ := Option.map_eq_some_iff.1 hd
    have hoperator : OneLine t.display := oneLine_ofList (Source.unbroken_of_mem_code hl (Rule.Spacing.mem_withPrevious hp))
    unfold Rule.Spacing.operatorFault? at hmessage
    split at hmessage
    · exact Problem.worded_standing (by decide) (Rule.Spacing.oneLine_operatorMessage hoperator hmessage)
    · cases hmessage
  · intro d hd
    obtain ⟨l, -, hd⟩ := List.mem_flatMap.1 hd
    obtain ⟨t, -, hd⟩ := List.mem_flatMap.1 hd
    obtain ⟨message, hmessage, rfl⟩ := List.mem_map.1 hd
    exact Problem.worded_standing (by decide) (Rule.Spacing.oneLine_commaFaults l.text t message hmessage)
  · intro d hd
    obtain ⟨f, -, rfl⟩ := List.mem_map.1 hd
    exact Problem.worded_found (by decide) (Rule.Indentation.oneLine_message f.fault) (Rule.Indentation.hint_told f.fault)
  · intro d hd
    obtain ⟨l, -, hd⟩ := List.mem_flatMap.1 hd
    obtain ⟨p, -, rfl⟩ := List.mem_map.1 hd
    exact Problem.worded_standing (by decide) (Rule.OneLineIf.oneLine_message p.2)

/-- **What is found in a text** stands on one line each. -/
theorem worded_of_lintDefault [Machine] {r : Report} (h : lintDefault text o = .ok r) :
    ∀ d ∈ r.diagnostics, d.Worded := by
  obtain ⟨-, rfl⟩ := lintDefault_eq_ok_iff.1 h
  intro d hd
  rcases List.mem_append.1 (mem_sortDiagnostics.1 hd) with hd | hd
  · rcases List.mem_append.1 hd with hd | hd
    · obtain ⟨e, -, rfl⟩ := List.mem_map.1 hd
      exact Problem.worded_standing (by decide) (oneLine_ofList (by decide))
    · obtain ⟨n, hn, rfl⟩ := List.mem_map.1 hd
      exact Problem.worded_standing (by decide)
        (NamelessDeclaration.oneLine_message fun found hfound => Source.unbroken_found hn hfound)
  · obtain ⟨r, hr, hd⟩ := List.mem_flatMap.1 hd
    exact worded_of_run (List.mem_of_mem_filter hr) d hd

end Found

/-- **The text of a report tells the report**: it can be shown, and no other report is shown like it under the same name. -/
theorem lintDefault_eq_of_render [Machine] {text text' : List Char} {o o' : Options} {r r' : Report}
    (h : lintDefault text o = .ok r) (h' : lintDefault text' o' = .ok r') (name : String) :
    (∃ shown, r.render name true = .ok shown) ∧ (r.render name true = r'.render name true → r = r') := by
  refine ⟨?_, Report.eq_of_render_eq (worded_of_lintDefault h) (worded_of_lintDefault h')⟩
  obtain ⟨shown, hshown, -⟩ := Report.exists_render (worded_of_lintDefault h) name
  exact ⟨shown, hshown⟩

/-- two texts with a string in the place of a name, which holds a marker and a place -/
theorem lintDefault_eq_of_render_marked :
    "var \": ❌ 1:1\"".toList ≠ "var \": ❌ 1:1\" = 2".toList ∧
      lintDefault "var \": ❌ 1:1\"".toList {} = .ok ((Source.ofText "var \": ❌ 1:1\"".toList).report {} defaultRules) ∧
      lintDefault "var \": ❌ 1:1\" = 2".toList {} =
        .ok ((Source.ofText "var \": ❌ 1:1\" = 2".toList).report {} defaultRules) ∧
      ((Source.ofText "var \": ❌ 1:1\"".toList).report {} defaultRules).render "a.vix" true =
        .ok ("❌ a.vix\n  ❌ 1:1 malformed-declaration: `var` is not followed by a name (found `\": ❌ 1:1\"`)\n" ++
          "      hint: Follow the declaration keyword with a name, e.g. `var count = 0`.") ∧
      (Source.ofText "var \": ❌ 1:1\"".toList).report {} defaultRules =
        (Source.ofText "var \": ❌ 1:1\" = 2".toList).report {} defaultRules := by
  have h : lintDefault "var \": ❌ 1:1\"".toList {} =
      .ok ((Source.ofText "var \": ❌ 1:1\"".toList).report {} defaultRules) := lintDefault_eq_ok_iff.2 ⟨rfl, rfl⟩
  have h' : lintDefault "var \": ❌ 1:1\" = 2".toList {} =
      .ok ((Source.ofText "var \": ❌ 1:1\" = 2".toList).report {} defaultRules) := lintDefault_eq_ok_iff.2 ⟨rfl, rfl⟩
  refine ⟨by decide, h, h', ?_, (lintDefault_eq_of_render h h' "a.vix").2 ?_⟩
  · simp only [Report.render, Report.isClean, Report.marker, Report.hasErrors, Report.errorCount, diagnostics_report]
    decide +kernel
  · simp only [Report.render, Report.isClean, Report.marker, Report.hasErrors, Report.errorCount, diagnostics_report]
    decide +kernel

end VixStyle
