/-
The unit that a source shows.

Where the options leave the unit open, the rule takes it from the first line whose indentation counts and that starts with
blanks of one kind (`showing?`). Main statement, `check_restated`: with options that prescribe this unit from the start the
rule has the same reports in the same order, at the same places and with the same hints. Only the wording of a body that
is not indented at all may differ (`Restated`): before the unit is shown the rule cannot say how far the body should be
indented. If no line shows a unit, that holds for every unit that options can prescribe.

Two walks run side by side, of which one is told the unit. Up to the line that shows it they differ in the unit alone
(`Walk.told`), from that line on in nothing.
- `measure_of_quiet`: on a line that shows no unit both find the same but for the wording.
- `measure_of_shown`: on the line that shows the unit both find the same and go on with the same unit.
- `run_restated`: all lines, by induction with the rest of the outline.
-/
import VixStyle.Proofs.Indentation.Silence

namespace VixStyle.Rule.Indentation

/-! ## The line that shows the unit -/

/-- a line shows a unit: it starts with blanks, and they are of one kind -/
def showsUnit (l : Line) : Bool := l.indentation.blanks ≠ [] ∧ l.indentation.mix ≠ .mixed

/-- the lines of a source whose indentation counts -/
def countedLines (source : Source) : List Line := (checkedLines source).map Prod.fst

/-- the line that shows the unit of a source -/
def showing? (source : Source) : Option Line := (countedLines source).find? showsUnit

/-- the lines before the one that shows the unit -/
def linesBefore (source : Source) : List Line := (countedLines source).takeWhile fun l => !showsUnit l

/-- options prescribe the unit that an indentation shows: as many spaces, or one tab -/
inductive Prescribes (options : Options) (i : Indentation) : Prop where
  | spaces (hi : i.mix = .spaces) (hstyle : options.indentStyle = .spaces) (hwidth : options.indentWidth = i.width)
  | tabs (hi : i.mix = .tabs) (hstyle : options.indentStyle = .tabs)

theorem Prescribes.unit {options : Options} {i : Indentation} (h : Prescribes options i) :
    IndentUnit.ofOptions? options = some (.ofIndentation i) := by
  cases h with
  | spaces hi hstyle hwidth => simp [IndentUnit.ofOptions?, hstyle, IndentUnit.ofIndentation, hi, hwidth]
  | tabs hi hstyle => simp [IndentUnit.ofOptions?, hstyle, IndentUnit.ofIndentation, hi]

/-! ## The same report in other words -/

/-- the wording on a body that is not indented at all, as long as no unit is known -/
def bodyMessage : String := "block body must be indented one level deeper than its opener"

/-- a report, and the same report by a rule that is told the unit; only one wording may be another, and only on the lines
`earlier` -/
inductive Restated (unit : IndentUnit) (earlier : List Line) : Diagnostic → Diagnostic → Prop
  | same {d : Diagnostic} (h : d.message ≠ bodyMessage) : Restated unit earlier d d
  | body {d : Diagnostic} {l : Line} {expected : Nat} {anchor : Option (Keyword × Int)} (hl : l ∈ earlier)
      (hline : d.line = l.number) (h : d.message = bodyMessage) :
      Restated unit earlier d { d with message := (Fault.wrongDepth unit expected 0 anchor).message }

theorem message_eq_body_iff {fault : Fault} : fault.message = bodyMessage ↔ fault = .unindentedBody := by
  constructor
  · intro h
    have hbody : bodyMessage.toList.head? = some 'b' := by simp [bodyMessage]
    have hinitial := fault.head?_message
    rw [h, hbody] at hinitial
    cases fault <;> first | rfl | exact absurd (Option.some.inj hinitial) (by simp [Fault.initial])
  · rintro rfl
    rfl

/-- a finding, and the same finding with the unit known -/
inductive RestatedFinding (unit : IndentUnit) (earlier : List Line) : Finding → Finding → Prop
  | same {f : Finding} (h : f.fault ≠ .unindentedBody) : RestatedFinding unit earlier f f
  | body {l : Line} {column expected : Nat} {anchor : Option (Keyword × Int)} (hl : l ∈ earlier) :
      RestatedFinding unit earlier ⟨l.number, column, .unindentedBody⟩
        ⟨l.number, column, .wrongDepth unit expected 0 anchor⟩

theorem RestatedFinding.diagnostic {unit : IndentUnit} {earlier : List Line} {f g : Finding}
    (h : RestatedFinding unit earlier f g) : Restated unit earlier f.diagnostic g.diagnostic := by
  cases h with
  | same h => exact .same fun hmessage => h (message_eq_body_iff.1 hmessage)
  | body hl => exact .body hl rfl rfl

theorem restated_self (unit : IndentUnit) (earlier : List Line) {fs : List Finding}
    (h : ∀ f ∈ fs, f.fault ≠ .unindentedBody) : List.Forall₂ (RestatedFinding unit earlier) fs fs :=
  List.forall₂_same.2 fun f hf => .same (h f hf)

/-! ## One line -/

/-- the fault of a line without blanks, told without a unit and with one -/
theorem depthFault_restated (first : Lexeme) (unit : IndentUnit) (p : Place) :
    (depthFault first none p 0 = depthFault first (some unit) p 0 ∧ depthFault first none p 0 ≠ .unindentedBody) ∨
      (depthFault first none p 0 = .unindentedBody ∧
        ∃ anchor, depthFault first (some unit) p 0 = .wrongDepth unit p.expected 0 anchor) := by
  unfold depthFault
  dsimp only
  split
  · split_ifs
    · exact Or.inl ⟨rfl, nofun⟩
    · exact Or.inr ⟨rfl, _, rfl⟩
  · exact Or.inr ⟨rfl, _, rfl⟩

theorem depthFault_known (first : Lexeme) (unit : IndentUnit) (p : Place) (actual : Nat) :
    depthFault first (some unit) p actual ≠ .unindentedBody := by
  unfold depthFault
  dsimp only
  split
  · split_ifs <;> nofun
  · nofun

/-- what a measure finds on a line -/
def Measure.found (m : Measure) (number : Int) : List Finding :=
  (m.fault.map fun (column, fault) => ⟨number, column, fault⟩).toList

/-- **A line that shows no unit is measured alike without a unit and with one**, but for the wording. -/
theorem measure_of_quiet {l : Line} (h : showsUnit l = false) {earlier : List Line} (hl : l ∈ earlier)
    (unit : IndentUnit) (first : Lexeme) (column : Nat) (p : Place) :
    (measure none l.indentation first column p).unit = none ∧
      (measure (some unit) l.indentation first column p).unit = some unit ∧
      (measure (some unit) l.indentation first column p).level = (measure none l.indentation first column p).level ∧
      List.Forall₂ (RestatedFinding unit earlier) ((measure none l.indentation first column p).found l.number)
        ((measure (some unit) l.indentation first column p).found l.number) := by
  unfold measure
  by_cases hmixed : l.indentation.mix = .mixed
  · rw [hmixed]
    refine ⟨rfl, rfl, rfl, restated_self unit earlier fun f hf => ?_⟩
    rw [List.mem_singleton.1 hf]
    nofun
  · have hblanks : l.indentation.blanks = [] := by
      by_contra hne
      simp [showsUnit, hne, hmixed] at h
    rw [mix_eq_none_iff.2 hblanks]
    refine ⟨rfl, rfl, rfl, ?_⟩
    dsimp only [Measure.found]
    split_ifs
    · rcases depthFault_restated first unit p with ⟨heq, hknown⟩ | ⟨hbody, anchor, htold⟩
      · rw [← heq]
        exact .cons (.same hknown) .nil
      · rw [hbody, htold]
        exact .cons (.body hl) .nil
    · exact .nil

/-- **The line that shows the unit is measured alike** by who was told the unit. -/
theorem measure_of_shown {l : Line} (h : showsUnit l = true) (first : Lexeme) (column : Nat) (p : Place) :
    measure (some (.ofIndentation l.indentation)) l.indentation first column p =
      measure none l.indentation first column p := by
  unfold measure
  split
  · rename_i hmixed
    simp [showsUnit, hmixed] at h
  · rename_i hnone
    simp [showsUnit, mix_eq_none_iff.1 hnone] at h
  · rfl

/-- once the unit is known, it stays known, and every depth is told in units -/
theorem measure_of_known (unit : IndentUnit) (i : Indentation) (first : Lexeme) (column : Nat) (p : Place) :
    (measure (some unit) i first column p).unit = some unit ∧
      ∀ c fault, (measure (some unit) i first column p).fault = some (c, fault) → fault ≠ .unindentedBody := by
  unfold measure
  split
  · exact ⟨rfl, by rintro c fault ⟨⟩; nofun⟩
  · refine ⟨rfl, fun c fault h => ?_⟩
    dsimp only at h
    split_ifs at h
    cases h
    exact depthFault_known first unit p 0
  · dsimp only [Option.getD_some]
    split_ifs
    · exact ⟨rfl, by rintro c fault ⟨⟩; nofun⟩
    · exact ⟨rfl, by rintro c fault ⟨⟩; nofun⟩
    · exact ⟨rfl, by rintro c fault ⟨⟩; exact depthFault_known first unit p _⟩
    · exact ⟨rfl, by rintro c fault ⟨⟩⟩

namespace Walk

/-- a walk that is told the unit -/
def told (w : Walk) (unit : IndentUnit) : Walk := { w with unit := some unit }

theorem told_placeOf (w : Walk) (unit : IndentUnit) (first : Token) : (w.told unit).placeOf first = w.placeOf first := rfl

theorem told_measured (w : Walk) (unit : IndentUnit) (l : Line) (first : Token) (p : Place) :
    (w.told unit).measured l first p =
      if w.measures then measure (some unit) l.indentation first.lexeme first.column p else ⟨some unit, none, none⟩ := rfl

/-- the findings of a line of code, given its measure -/
theorem stepCode_found (w : Walk) (l : Line) (first : Token) (rest : List Token) :
    (w.stepCode l first rest).2 = strayFirst (w.placeOf first) first ++
      (w.measured l first (w.placeOf first)).found l.number ++
        (nested (w.placeOf first) (w.depthOf l first) first rest).2 := by
  rw [stepCode_eq]
  rfl

theorem strayFirst_known {p : Place} {first : Token} : ∀ f ∈ strayFirst p first, f.fault ≠ .unindentedBody := by
  intro f hf
  rw [mem_strayFirst hf]
  nofun

theorem nested_known {p : Place} {depth : Nat} {first : Token} {rest : List Token} :
    ∀ f ∈ (nested p depth first rest).2, f.fault ≠ .unindentedBody := by
  intro f hf
  obtain ⟨t, -, rfl⟩ := mem_nested hf
  nofun

/-- a line that does not count or shows no unit keeps the two walks side by side -/
theorem step_quiet {w : Walk} (hw : w.unit = none) (unit : IndentUnit) {l : Line} {first : Token} (rest : List Token)
    {earlier : List Line} (hquiet : w.measures = true → showsUnit l = false ∧ l ∈ earlier) :
    (w.stepCode l first rest).1.unit = none ∧
      ((w.told unit).stepCode l first rest).1 = (w.stepCode l first rest).1.told unit ∧
      List.Forall₂ (RestatedFinding unit earlier) (w.stepCode l first rest).2
        ((w.told unit).stepCode l first rest).2 := by
  obtain ⟨hunit, htold, hlevel, hfound⟩ :
      (w.measured l first (w.placeOf first)).unit = none ∧
        ((w.told unit).measured l first (w.placeOf first)).unit = some unit ∧
        ((w.told unit).measured l first (w.placeOf first)).level = (w.measured l first (w.placeOf first)).level ∧
        List.Forall₂ (RestatedFinding unit earlier) ((w.measured l first (w.placeOf first)).found l.number)
          (((w.told unit).measured l first (w.placeOf first)).found l.number) := by
    rw [told_measured, measured, hw]
    split_ifs with hm
    · exact measure_of_quiet (hquiet hm).1 (hquiet hm).2 unit _ _ _
    · exact ⟨rfl, rfl, rfl, .nil⟩
  have hdepth : (w.told unit).depthOf l first = w.depthOf l first := by
    rw [depthOf, depthOf, told_placeOf, hlevel]
  refine ⟨by rw [stepCode_eq]; exact hunit, ?_, ?_⟩
  · rw [stepCode_eq, stepCode_eq, hdepth, told_placeOf, htold]
    rfl
  · rw [stepCode_found, stepCode_found, hdepth, told_placeOf]
    exact List.rel_append (List.rel_append (restated_self unit earlier strayFirst_known) hfound)
      (restated_self unit earlier nested_known)

/-- the line that shows the unit brings the two walks together -/
theorem step_shown {w : Walk} (hw : w.unit = none) (hm : w.measures = true) {l : Line} (hl : showsUnit l = true)
    (first : Token) (rest : List Token) :
    (w.told (.ofIndentation l.indentation)).stepCode l first rest = w.stepCode l first rest := by
  have hmeasured : (w.told (.ofIndentation l.indentation)).measured l first (w.placeOf first) =
      w.measured l first (w.placeOf first) := by
    rw [told_measured, measured, hw, if_pos hm, if_pos hm]
    exact measure_of_shown hl _ _ _
  have hdepth : (w.told (.ofIndentation l.indentation)).depthOf l first = w.depthOf l first := by
    rw [depthOf, depthOf, told_placeOf, hmeasured]
  refine Prod.ext ?_ ?_
  · rw [stepCode_eq, stepCode_eq, hdepth, told_placeOf, hmeasured]
    rfl
  · rw [stepCode_found, stepCode_found, hdepth, told_placeOf, hmeasured]

/-- a line keeps a unit that is known, and every depth on it is told in units -/
theorem step_known {w : Walk} {unit : IndentUnit} (hw : w.unit = some unit) (l : Line) (first : Token)
    (rest : List Token) :
    (w.stepCode l first rest).1.unit = some unit ∧
      ∀ f ∈ (w.stepCode l first rest).2, f.fault ≠ .unindentedBody := by
  obtain ⟨hunit, hknown⟩ : (w.measured l first (w.placeOf first)).unit = some unit ∧
      ∀ c fault, (w.measured l first (w.placeOf first)).fault = some (c, fault) → fault ≠ .unindentedBody := by
    rw [measured, hw]
    split_ifs
    · exact measure_of_known unit _ _ _ _
    · refine ⟨rfl, fun c fault h => ?_⟩
      cases h
  refine ⟨by rw [stepCode_eq]; exact hunit, fun f hf => ?_⟩
  rw [stepCode_found, List.mem_append, List.mem_append] at hf
  rcases hf with (hf | hf) | hf
  · exact strayFirst_known f hf
  · obtain ⟨⟨c, fault⟩, hfault, rfl⟩ := Option.map_eq_some_iff.1 (Option.mem_toList.1 hf)
    exact hknown c fault hfault
  · exact nested_known f hf

theorem run_known {w : Walk} {unit : IndentUnit} (hw : w.unit = some unit) (lines : List Line) :
    ∀ f ∈ (w.run lines).2, f.fault ≠ .unindentedBody := by
  induction lines generalizing w with
  | nil => simp [run]
  | cons l lines ih =>
    have hstep : (w.step l).1.unit = some unit ∧ ∀ f ∈ (w.step l).2, f.fault ≠ .unindentedBody := by
      unfold step
      split
      · exact ⟨hw, by simp⟩
      · exact step_known hw l _ _
    intro f hf
    rcases List.mem_append.1 hf with hf | hf
    · exact hstep.2 f hf
    · exact ih hstep.1 f hf

end Walk

/-! ## All lines -/

/-- a walk counts the same lines as an outline -/
structure CountsWith (w : Walk) (o : Outline) : Prop where
  brackets : w.brackets = o.brackets
  continues : w.continues = o.continues

theorem CountsWith.counts {w : Walk} {o : Outline} (h : CountsWith w o) : w.measures = o.counts := by
  rw [Walk.measures, Outline.counts, h.brackets, h.continues]

theorem CountsWith.step {w : Walk} {o : Outline} (h : CountsWith w o) {l : Line} {first : Token} {rest : List Token}
    (hcode : l.code = first :: rest) : CountsWith (w.stepCode l first rest).1 (o.next l) := by
  simp only [Outline.next, hcode, Walk.stepCode_eq]
  exact ⟨by rw [h.brackets], rfl⟩

/-- **A walk that learns the unit and one that is told it find the same**, by induction over the lines with an outline that
counts the same lines. -/
theorem run_restated {w : Walk} (hw : w.unit = none) {o : Outline} (h : CountsWith w o) (unit : IndentUnit)
    (earlier lines : List Line)
    (hearlier : ∀ l ∈ ((o.checked lines).map Prod.fst).takeWhile (fun l => !showsUnit l), l ∈ earlier)
    (hshown : ∀ l ∈ ((o.checked lines).map Prod.fst).find? showsUnit, unit = .ofIndentation l.indentation) :
    ((w.told unit).run lines).1.stack = (w.run lines).1.stack ∧
      List.Forall₂ (RestatedFinding unit earlier) (w.run lines).2 ((w.told unit).run lines).2 := by
  induction lines generalizing w o with
  | nil => exact ⟨rfl, .nil⟩
  | cons l lines ih =>
    have hchecked : o.checked (l :: lines) = (o.entry? l).toList ++ (o.next l).checked lines := rfl
    rw [hchecked] at hearlier hshown
    cases hcode : l.code with
    | nil =>
      have hstep : ∀ w : Walk, w.run (l :: lines) = w.run lines := fun w => by
        simp only [Walk.run, Walk.step, hcode, List.nil_append]
      have hentry : o.entry? l = none := by rw [Outline.entry?, hcode]
      have hnext : o.next l = o := by rw [Outline.next, hcode]
      rw [hentry, hnext] at hearlier hshown
      rw [hstep, hstep]
      exact ih hw h hearlier hshown
    | cons first rest =>
      have hstep : ∀ w : Walk, w.step l = w.stepCode l first rest := fun w => by rw [Walk.step, hcode]
      rw [entry?_of_code hcode, ← h.counts] at hearlier hshown
      simp only [Walk.run, hstep]
      by_cases hshows : w.measures = true ∧ showsUnit l = true
      · -- from this line on both walks know the unit, so they are one walk
        obtain ⟨hm, hl⟩ := hshows
        obtain rfl : unit = .ofIndentation l.indentation := hshown l (by simp [hm, hl])
        have hknown := Walk.run_known (w := w.told (.ofIndentation l.indentation)) rfl (l :: lines)
        simp only [Walk.run, hstep, Walk.step_shown hw hm hl first rest] at hknown
        rw [Walk.step_shown hw hm hl first rest]
        exact ⟨rfl, restated_self _ earlier hknown⟩
      · have hquiet : w.measures = true → showsUnit l = false ∧ l ∈ earlier := fun hm => by
          have hl : showsUnit l = false := Bool.eq_false_iff.2 fun hl => hshows ⟨hm, hl⟩
          exact ⟨hl, hearlier l (by simp [hm, hl])⟩
        obtain ⟨hunit, htold, hfound⟩ := Walk.step_quiet hw unit rest hquiet
        have hlater := ih hunit (h.step hcode) (fun k hk => hearlier k ?_) fun k hk => hshown k ?_
        · rw [htold]
          exact ⟨hlater.1, List.rel_append hfound hlater.2⟩
        · cases hm : w.measures with
          | false => simpa [hm] using hk
          | true => simpa [hm, (hquiet hm).1] using Or.inr hk
        · cases hm : w.measures with
          | false => simpa [hm] using hk
          | true => simpa [hm, (hquiet hm).1] using hk

/-- two checks, of which one is told the unit, by the two walks -/
theorem forall₂_restated (source : Source) {detecting told : Options} (hdetect : detecting.indentStyle = .detect)
    {unit : IndentUnit} (htold : IndentUnit.ofOptions? told = some unit)
    (hshown : ∀ l ∈ showing? source, Prescribes told l.indentation) :
    List.Forall₂ (Restated unit (linesBefore source)) (check source detecting) (check source told) := by
  have hstart : (Walk.start detecting).unit = none := by simp only [Walk.start, IndentUnit.ofOptions?, hdetect]
  have htold' : Walk.start told = (Walk.start detecting).told unit := by simp only [Walk.start, Walk.told, htold]
  have hunit : ∀ l ∈ showing? source, unit = .ofIndentation l.indentation := fun l hl =>
    Option.some.inj (htold.symm.trans (hshown l hl).unit)
  obtain ⟨hstack, hrun⟩ := run_restated hstart ⟨rfl, rfl⟩ unit (linesBefore source) source.lines (fun l hl => hl) hunit
  have hfindings : List.Forall₂ (RestatedFinding unit (linesBefore source)) (findings detecting source.lines)
      (findings told source.lines) := by
    rw [findings, findings, htold']
    have hleft : (((Walk.start detecting).told unit).run source.lines).1.leftOpen =
        ((Walk.start detecting).run source.lines).1.leftOpen := by rw [Walk.leftOpen, Walk.leftOpen, hstack]
    dsimp only
    rw [hleft]
    refine List.rel_append hrun (restated_self _ _ fun f hf => ?_)
    obtain ⟨frame, -, rfl⟩ := List.mem_map.1 hf
    intro h
    cases h
  rw [check, check, List.forall₂_map_left_iff, List.forall₂_map_right_iff]
  exact hfindings.imp fun f g h => h.diagnostic

/--
**Leaving the unit open agrees with prescribing it.** Where the options leave the unit open, the rule has the same reports
as with options that prescribe the unit that the source shows; if the source shows none, as with any options that
prescribe one. Only a body that is not indented at all may be told in other words, on the lines before the unit is shown.
A run that leaves the unit open always comes to these reports, and one that is told the unit does so exactly if the unit
can be made.
-/
theorem check_restated [Machine] (source : Source) {detecting told : Options}
    (hdetect : detecting.indentStyle = .detect) {unit : IndentUnit} (htold : IndentUnit.ofOptions? told = some unit)
    (hshown : ∀ l ∈ showing? source, Prescribes told l.indentation) :
    List.Forall₂ (Restated unit (linesBefore source)) (check source detecting) (check source told) ∧
      ∃ found, indentationConsistency.answer source detecting = .ok found ∧
        (∀ found', indentationConsistency.answer source told = .ok found' →
          List.Forall₂ (Restated unit (linesBefore source)) found found') ∧
        ((∃ found', indentationConsistency.answer source told = .ok found') ↔ told.unitFault? = none) := by
  have hrestated := forall₂_restated source hdetect htold hshown
  have hopen : detecting.unitFault? = none := by rw [Options.unitFault?, hdetect]
  refine ⟨hrestated, _, Rule.answer_eq_ok_iff.2 ⟨hopen, rfl⟩, fun found' hanswer => ?_, Rule.exists_answer_iff⟩
  obtain ⟨-, rfl⟩ := Rule.answer_eq_ok_iff.1 hanswer
  exact hrestated

/-- the second line is not indented, and only the third line shows that it should have two spaces -/
theorem check_restated_two_spaces :
    (showing? (Source.ofText "if a\nb\n  c\nend".toList)).map Line.number = some 3 ∧
      (check (Source.ofText "if a\nb\n  c\nend".toList) {}).map Diagnostic.message = [bodyMessage] ∧
      (check (Source.ofText "if a\nb\n  c\nend".toList)
          { indentStyle := .spaces, indentWidth := 2, indentWidth_pos := by decide }).map Diagnostic.message =
        ["expected indentation of 2 spaces but found no indentation (inside `if` on line 1)"] ∧
      List.Forall₂ (Restated (.spaces 2) (linesBefore (Source.ofText "if a\nb\n  c\nend".toList)))
        (check (Source.ofText "if a\nb\n  c\nend".toList) {})
        (check (Source.ofText "if a\nb\n  c\nend".toList)
          { indentStyle := .spaces, indentWidth := 2, indentWidth_pos := by decide }) := by
  have hshowing : showing? (Source.ofText "if a\nb\n  c\nend".toList) = some (Line.read 3 "  c".toList) := by
    decide +kernel
  refine ⟨by rw [hshowing]; decide +kernel, by decide +kernel, by decide +kernel, ?_⟩
  refine (check_restated _ rfl rfl fun l hl => ?_).1
  rw [hshowing] at hl
  cases hl
  exact .spaces (by decide +kernel) rfl (by decide +kernel)

end VixStyle.Rule.Indentation
