/-
When the indentation rule is silent.

A line of an outline is `WellIndented` if its blanks are the unit of the source, as often as the line is deep, and do not
mix tabs with spaces. The unit is what the options say; where they leave it open, it is what the first line shows that
starts with blanks at all (`unitText?`). Main statement, `check_eq_nil_iff`: the rule has nothing to report exactly if no
`end` is stray, no block is left open, and every line whose indentation counts is well indented. A run of the rule that
comes to nothing says that, and that the unit can be made.

- `measure_eq_none_iff`: what the walk compares a line with, as an equation of texts.
- `off_iff`: one line is in order exactly if it is well indented.
- `run_silent_iff`: all lines, by induction with the stack, the unit, the brackets and the unfinished expression of a walk
  that follows the outline.
-/
import Mathlib.Data.List.TakeWhile
import VixStyle.Proofs.Indentation.Outline

namespace VixStyle.Rule.Indentation

/-! ## Well-indented lines -/

/-- the unit that the first line with blanks shows: one tab, or all its blanks -/
def detected? (checked : List (Line × Nat)) : Option (List Char) :=
  (checked.find? fun p => p.1.indentation.blanks ≠ []).map fun p =>
    if p.1.indentation.mix = .tabs then ['\t'] else p.1.indentation.blanks

/-- the unit of a source -/
def unitText? (options : Options) (checked : List (Line × Nat)) : Option (List Char) :=
  match options.indentStyle with
  | .tabs => some ['\t']
  | .spaces => some (List.replicate options.indentWidth ' ')
  | .detect => detected? checked

/-- the blanks of a depth; without a unit there is only depth zero -/
def blanksFor? (unit : Option (List Char)) (depth : Nat) : Option (List Char) :=
  if depth = 0 then some [] else unit.map fun text => (List.replicate depth text).flatten

/-- a line with the blanks of its depth -/
structure WellIndented (unit : Option (List Char)) (l : Line) (depth : Nat) : Prop where
  unmixed : l.indentation.mix ≠ .mixed
  blanks : blanksFor? unit depth = some l.indentation.blanks

/-! ## Units as texts -/

namespace IndentUnit

/-- the character that a unit is made of -/
def mark (unit : IndentUnit) : Char := if unit.usesTabs then '\t' else ' '

/-- the characters of a unit -/
def text (unit : IndentUnit) : List Char := List.replicate unit.width unit.mark

end IndentUnit

theorem mark_eq_iff {u v : IndentUnit} : u.mark = v.mark ↔ u.usesTabs = v.usesTabs := by
  cases u <;> cases v <;> simp [IndentUnit.mark, IndentUnit.usesTabs]

theorem usesTabs_ofIndentation (i : Indentation) :
    (IndentUnit.ofIndentation i).usesTabs = decide (i.mix = .tabs) := by
  unfold IndentUnit.ofIndentation
  split_ifs with h <;> simp [IndentUnit.usesTabs, h]

theorem blanksFor?_text (unit : IndentUnit) (depth : Nat) :
    blanksFor? (some unit.text) depth = some (List.replicate (depth * unit.width) unit.mark) := by
  unfold blanksFor?
  split_ifs with h
  · simp [h]
  · simp [IndentUnit.text]

theorem blanksFor?_eq_nil_iff {unit : Option (List Char)} (h : ∀ text ∈ unit, text ≠ []) (depth : Nat) :
    blanksFor? unit depth = some [] ↔ depth = 0 := by
  unfold blanksFor?
  split_ifs with hd
  · simp [hd]
  · cases unit with
    | none => simp [hd]
    | some text => simp [hd, h text rfl]

/-! ## The measure of blanks -/

theorem isBlank_of_mem {l : Line} {c : Char} (hc : c ∈ l.indentation.blanks) : c = ' ' ∨ c = '\t' := by
  have hblank : Text.isBlank c = true := List.mem_takeWhile_imp hc
  simpa [Text.isBlank] using hblank

theorem mix_eq_mixed_iff {i : Indentation} : i.mix = .mixed ↔ ' ' ∈ i.blanks ∧ '\t' ∈ i.blanks := by
  by_cases hs : ' ' ∈ i.blanks <;> by_cases ht : '\t' ∈ i.blanks <;> simp [Indentation.mix, IndentMix.of, hs, ht]

theorem mix_eq_tabs_iff {i : Indentation} : i.mix = .tabs ↔ ' ' ∉ i.blanks ∧ '\t' ∈ i.blanks := by
  by_cases hs : ' ' ∈ i.blanks <;> by_cases ht : '\t' ∈ i.blanks <;> simp [Indentation.mix, IndentMix.of, hs, ht]

theorem mix_eq_none_iff {l : Line} : l.indentation.mix = .none ↔ l.indentation.blanks = [] := by
  have hnone : l.indentation.mix = .none ↔ ' ' ∉ l.indentation.blanks ∧ '\t' ∉ l.indentation.blanks := by
    by_cases hs : ' ' ∈ l.indentation.blanks <;> by_cases ht : '\t' ∈ l.indentation.blanks <;>
      simp [Indentation.mix, IndentMix.of, hs, ht]
  rw [hnone, List.eq_nil_iff_forall_not_mem]
  constructor
  · rintro ⟨hs, ht⟩ c hc
    rcases isBlank_of_mem hc with rfl | rfl
    · exact hs hc
    · exact ht hc
  · exact fun h => ⟨h _, h _⟩

/-- blanks of one kind are that many marks of the unit that they show -/
theorem blanks_eq {l : Line} (hmix : l.indentation.mix ≠ .mixed) :
    l.indentation.blanks =
      List.replicate l.indentation.width (IndentUnit.ofIndentation l.indentation).mark := by
  refine List.eq_replicate_iff.2 ⟨rfl, fun c hc => ?_⟩
  rcases isBlank_of_mem hc with rfl | rfl
  · have hnot : l.indentation.mix ≠ .tabs := fun h => (mix_eq_tabs_iff.1 h).1 hc
    simp [IndentUnit.ofIndentation, hnot, IndentUnit.mark, IndentUnit.usesTabs]
  · have htabs : l.indentation.mix = .tabs :=
      mix_eq_tabs_iff.2 ⟨fun hs => hmix (mix_eq_mixed_iff.2 ⟨hs, hc⟩), hc⟩
    simp [IndentUnit.ofIndentation, htabs, IndentUnit.mark, IndentUnit.usesTabs]

theorem level_iff {width unitWidth depth : Nat} (h : 0 < unitWidth) :
    width % unitWidth = 0 ∧ width / unitWidth = depth ↔ depth * unitWidth = width := by
  constructor
  · rintro ⟨hrest, rfl⟩
    exact Nat.div_mul_cancel (Nat.dvd_of_mod_eq_zero hrest)
  · rintro rfl
    exact ⟨Nat.mul_mod_left _ _, Nat.mul_div_cancel _ h⟩

/-- the unit that a line with blanks is measured with -/
def unitAt (unit : Option IndentUnit) (i : Indentation) : IndentUnit := unit.getD (.ofIndentation i)

theorem unitAt_pos {unit : Option IndentUnit} (hunit : ∀ u ∈ unit, 0 < u.width) {i : Indentation}
    (hblanks : i.blanks ≠ []) : 0 < (unitAt unit i).width := by
  cases unit with
  | none =>
    have hwidth : 0 < i.width := List.length_pos_iff.2 hblanks
    simp only [unitAt, Option.getD_none, IndentUnit.ofIndentation]
    split_ifs
    · exact Nat.one_pos
    · exact hwidth
  | some u => exact hunit u rfl

theorem blanks_ne_nil {i : Indentation} (hmix : i.mix ≠ .none) : i.blanks ≠ [] := by
  intro hblanks
  apply hmix
  rw [Indentation.mix, hblanks]
  rfl

theorem measure_of_blanks {i : Indentation} (hmixed : i.mix ≠ .mixed) (hnone : i.mix ≠ .none)
    (unit : Option IndentUnit) (first : Lexeme) (column : Nat) (p : Place) :
    (measure unit i first column p).unit = some (unitAt unit i) ∧
      ((measure unit i first column p).fault = none ↔
        decide (i.mix = .tabs) = (unitAt unit i).usesTabs ∧ i.width % (unitAt unit i).width = 0 ∧
          i.width / (unitAt unit i).width = p.expected) := by
  unfold measure
  split
  · exact absurd ‹_› hmixed
  · exact absurd ‹_› hnone
  · dsimp only
    split_ifs with htabs hrest hdepth
    · exact ⟨rfl, iff_of_false nofun fun h => htabs h.1⟩
    · exact ⟨rfl, iff_of_false nofun fun h => hrest h.2.1⟩
    · exact ⟨rfl, iff_of_false nofun fun h => hdepth h.2.2⟩
    · exact ⟨rfl, iff_of_true rfl ⟨not_not.1 htabs, not_not.1 hrest, not_not.1 hdepth⟩⟩

/-- **A line that starts with blanks is in order if they are the unit, as often as the line is deep.** -/
theorem measure_iff_of_blanks {l : Line} (hmixed : l.indentation.mix ≠ .mixed) (hblanks : l.indentation.blanks ≠ [])
    {unit : Option IndentUnit} (hunit : ∀ u ∈ unit, 0 < u.width) (first : Lexeme) (column : Nat) (p : Place) :
    (measure unit l.indentation first column p).fault = none ↔
      blanksFor? (some (unitAt unit l.indentation).text) p.expected = some l.indentation.blanks := by
  have hnone : l.indentation.mix ≠ .none := fun h => hblanks (mix_eq_none_iff.1 h)
  have hpos := unitAt_pos hunit hblanks
  have hwidth : l.indentation.width ≠ 0 := (List.length_pos_iff.2 hblanks).ne'
  rw [(measure_of_blanks hmixed hnone unit first column p).2, level_iff hpos, blanksFor?_text, Option.some.injEq,
    blanks_eq hmixed, List.replicate_inj, mark_eq_iff, usesTabs_ofIndentation]
  constructor
  · rintro ⟨htabs, hcount⟩
    exact ⟨hcount, Or.inr htabs.symm⟩
  · rintro ⟨hcount, hzero | htabs⟩
    · exact absurd (hcount.symm.trans hzero) hwidth
    · exact ⟨htabs.symm, hcount⟩

theorem measure_of_no_blanks {i : Indentation} (h : i.mix = .none) (unit : Option IndentUnit) (first : Lexeme)
    (column : Nat) (p : Place) :
    (measure unit i first column p).unit = unit ∧
      ((measure unit i first column p).fault = none ↔ p.expected = 0) := by
  unfold measure
  rw [h]
  dsimp only
  split_ifs with hpos
  · exact ⟨rfl, iff_of_false nofun hpos.ne'⟩
  · exact ⟨rfl, iff_of_true rfl (Nat.eq_zero_of_not_pos hpos)⟩

theorem measure_of_mixed {i : Indentation} (h : i.mix = .mixed) (unit : Option IndentUnit) (first : Lexeme)
    (column : Nat) (p : Place) : (measure unit i first column p).fault ≠ none := by
  unfold measure
  rw [h]
  nofun

/-! ## A line -/

/-- the unit that a walk will settle on, given the lines that it will measure -/
def unitAhead? (unit : Option IndentUnit) (checked : List (Line × Nat)) : Option (List Char) :=
  (unit.map IndentUnit.text).or (detected? checked)

theorem text_ofIndentation {l : Line} (hmixed : l.indentation.mix ≠ .mixed) :
    (IndentUnit.ofIndentation l.indentation).text =
      if l.indentation.mix = .tabs then ['\t'] else l.indentation.blanks := by
  split_ifs with h
  · simp [IndentUnit.text, IndentUnit.ofIndentation, h, IndentUnit.width, IndentUnit.mark, IndentUnit.usesTabs]
  · rw [blanks_eq hmixed, IndentUnit.text]
    simp [IndentUnit.ofIndentation, h, IndentUnit.width]

theorem unitAhead?_of_blanks {l : Line} (hmixed : l.indentation.mix ≠ .mixed) (hblanks : l.indentation.blanks ≠ [])
    (unit : Option IndentUnit) (depth : Nat) (more : List (Line × Nat)) :
    unitAhead? unit ((l, depth) :: more) = some (unitAt unit l.indentation).text := by
  cases unit with
  | none => simp [unitAhead?, detected?, hblanks, unitAt, text_ofIndentation hmixed]
  | some u => rfl

theorem unitAhead?_of_no_blanks {l : Line} (hblanks : l.indentation.blanks = []) (unit : Option IndentUnit)
    (depth : Nat) (more : List (Line × Nat)) : unitAhead? unit ((l, depth) :: more) = unitAhead? unit more := by
  simp [unitAhead?, detected?, hblanks]

theorem unitAhead?_ne_nil {unit : Option IndentUnit} (hunit : ∀ u ∈ unit, 0 < u.width) (checked : List (Line × Nat)) :
    ∀ text ∈ unitAhead? unit checked, text ≠ [] := by
  intro text htext
  rcases Option.or_eq_some_iff.1 htext with hunit' | ⟨-, hdetected⟩
  · obtain ⟨u, hu, rfl⟩ := Option.map_eq_some_iff.1 hunit'
    exact List.ne_nil_of_length_pos (by simpa [IndentUnit.text] using hunit u hu)
  · obtain ⟨p, hp, rfl⟩ := Option.map_eq_some_iff.1 hdetected
    have hblanks : p.1.indentation.blanks ≠ [] := by simpa using List.find?_some hp
    split_ifs
    · exact List.cons_ne_nil _ _
    · exact hblanks

/-- **A line is in order exactly if it is well indented.** -/
theorem measure_iff {l : Line} {unit : Option IndentUnit} (hunit : ∀ u ∈ unit, 0 < u.width) (first : Lexeme)
    (column : Nat) (p : Place) (more : List (Line × Nat)) :
    (measure unit l.indentation first column p).fault = none ↔
      WellIndented (unitAhead? unit ((l, p.expected) :: more)) l p.expected := by
  by_cases hmixed : l.indentation.mix = .mixed
  · exact iff_of_false (measure_of_mixed hmixed unit first column p) fun h => h.unmixed hmixed
  by_cases hblanks : l.indentation.blanks = []
  · -- the unit may not be known yet; whatever it will be, no blanks mean depth zero
    rw [(measure_of_no_blanks (mix_eq_none_iff.2 hblanks) unit first column p).2]
    have hnil := blanksFor?_eq_nil_iff (unitAhead?_ne_nil hunit ((l, p.expected) :: more)) p.expected
    rw [← hnil, ← hblanks]
    exact ⟨fun h => ⟨hmixed, h⟩, fun h => h.blanks⟩
  · rw [measure_iff_of_blanks hmixed hblanks hunit, ← unitAhead?_of_blanks hmixed hblanks unit p.expected more]
    exact ⟨fun h => ⟨hmixed, h⟩, fun h => h.blanks⟩

/-- the unit that a walk will settle on stays the same after a line that is in order -/
theorem unitAhead?_measure {l : Line} {unit : Option IndentUnit} (first : Lexeme) (column : Nat) (p : Place)
    (h : (measure unit l.indentation first column p).fault = none) (depth : Nat) (more : List (Line × Nat)) :
    unitAhead? (measure unit l.indentation first column p).unit more = unitAhead? unit ((l, depth) :: more) := by
  have hmixed : l.indentation.mix ≠ .mixed := fun hm => measure_of_mixed hm unit first column p h
  by_cases hblanks : l.indentation.blanks = []
  · rw [(measure_of_no_blanks (mix_eq_none_iff.2 hblanks) unit first column p).1,
      unitAhead?_of_no_blanks hblanks]
  · rw [(measure_of_blanks hmixed (fun hn => hblanks (mix_eq_none_iff.1 hn)) unit first column p).1,
      unitAhead?_of_blanks hmixed hblanks]
    rfl

/-- the unit keeps its width over a line -/
theorem measure_unit_pos {unit : Option IndentUnit} (hunit : ∀ u ∈ unit, 0 < u.width) (i : Indentation) (first : Lexeme)
    (column : Nat) (p : Place) : ∀ u ∈ (measure unit i first column p).unit, 0 < u.width := by
  by_cases hmixed : i.mix = .mixed
  · have hsame : (measure unit i first column p).unit = unit := by
      rw [measure, hmixed]
    rw [hsame]
    exact hunit
  by_cases hnone : i.mix = .none
  · rw [(measure_of_no_blanks hnone unit first column p).1]
    exact hunit
  · rw [(measure_of_blanks hmixed hnone unit first column p).1]
    intro u hu
    rw [← Option.some.inj hu]
    exact unitAt_pos hunit (blanks_ne_nil hnone)

/-! ## All lines -/

theorem entry?_of_code {l : Line} {first : Token} {rest : List Token} (hcode : l.code = first :: rest) (o : Outline) :
    o.entry? l = if o.counts then some (l, depthIn o.opened first.lexeme) else none := by
  simp only [Outline.entry?, hcode]

/-- **A line of code is in order exactly if it does not count or is well indented.** -/
theorem off_iff {w : Walk} {o : Outline} (h : Follows w o) (hunit : ∀ u ∈ w.unit, 0 < u.width) {l : Line}
    {first : Token} {rest : List Token} (hcode : l.code = first :: rest) (more : List (Line × Nat)) :
    w.offOf l first = [] ↔
      ∀ p ∈ o.entry? l, WellIndented (unitAhead? w.unit ((o.entry? l).toList ++ more)) p.1 p.2 := by
  rw [offOf_eq_nil_iff, Walk.measured, entry?_of_code hcode, h.counts]
  split_ifs
  · rw [measure_iff hunit _ _ _ more, h.expected]
    simp
  · simp

/-- the unit ahead stays the same over a line of code that is in order, and stays positive -/
theorem unit_step {w : Walk} {o : Outline} (h : Follows w o) (hunit : ∀ u ∈ w.unit, 0 < u.width) {l : Line}
    {first : Token} {rest : List Token} (hcode : l.code = first :: rest) (hoff : w.offOf l first = [])
    (more : List (Line × Nat)) :
    unitAhead? (w.stepCode l first rest).1.unit more = unitAhead? w.unit ((o.entry? l).toList ++ more) ∧
      ∀ u ∈ (w.stepCode l first rest).1.unit, 0 < u.width := by
  rw [offOf_eq_nil_iff, Walk.measured, h.counts] at hoff
  rw [Walk.stepCode_eq, entry?_of_code hcode]
  simp only [Walk.measured, h.counts]
  split_ifs at hoff ⊢
  · exact ⟨unitAhead?_measure _ _ _ hoff _ more, measure_unit_pos hunit _ _ _ _⟩
  · exact ⟨rfl, hunit⟩

/-- what one line of code finds is nothing exactly if it has no stray `end` and its blanks are in order -/
theorem stepCode_silent_iff {w : Walk} {l : Line} {first : Token} {rest : List Token}
    {pending : List (Keyword × Token)} (hagrees : Agrees w.stack pending) :
    (w.stepCode l first rest).2 = [] ↔
      (Mark.lifo pending (codeMarks first rest)).1 = [] ∧ w.offOf l first = [] := by
  have hstrays := (line_agrees hagrees (w.depthOf l first) first rest).2
  rw [← List.map_eq_nil_iff (f := strayAt), ← hstrays, Walk.stepCode_eq]
  simp only [List.append_eq_nil_iff]
  constructor
  · rintro ⟨⟨hfirst, hoff⟩, hnested⟩
    exact ⟨⟨hfirst, hnested⟩, hoff⟩
  · rintro ⟨⟨hfirst, hnested⟩, hoff⟩
    exact ⟨⟨hfirst, hoff⟩, hnested⟩

/-- **A walk finds nothing exactly if no `end` is stray and every line that counts is well indented**, by induction over
the lines with a walk that follows the outline. -/
theorem run_silent_iff {w : Walk} {o : Outline} (h : Follows w o) (hunit : ∀ u ∈ w.unit, 0 < u.width)
    {pending : List (Keyword × Token)} (hagrees : Agrees w.stack pending) (lines : List Line) :
    (w.run lines).2 = [] ↔
      (Mark.lifo pending (marksOf lines)).1 = [] ∧
        ∀ p ∈ o.checked lines, WellIndented (unitAhead? w.unit (o.checked lines)) p.1 p.2 := by
  induction lines generalizing w o pending with
  | nil => simp [Walk.run, marksOf, Mark.lifo, Outline.checked]
  | cons l lines ih =>
    have hrun : (w.run (l :: lines)).2 = (w.step l).2 ++ ((w.step l).1.run lines).2 := rfl
    have hmarks : marksOf (l :: lines) = l.marks ++ marksOf lines := rfl
    have hchecked : o.checked (l :: lines) = (o.entry? l).toList ++ (o.next l).checked lines := rfl
    rw [hrun, hmarks, hchecked, Mark.lifo_append, List.append_eq_nil_iff, List.append_eq_nil_iff]
    cases hcode : l.code with
    | nil =>
      have hstep : w.step l = (w, []) := by rw [Walk.step, hcode]
      have hentry : o.entry? l = none := by rw [Outline.entry?, hcode]
      have hnext : o.next l = o := by rw [Outline.next, hcode]
      rw [hstep, hentry, hnext, marks_of_no_code hcode]
      simpa [Mark.lifo] using ih h hunit hagrees
    | cons first rest =>
      have hstep : w.step l = w.stepCode l first rest := by rw [Walk.step, hcode]
      have hlater := (step_matching w l hagrees).1
      have hsilent := off_iff h hunit hcode ((o.next l).checked lines)
      rw [hstep, stepCode_silent_iff hagrees, marks_of_code hcode]
      rw [hstep, marks_of_code hcode] at hlater
      by_cases hoff : w.offOf l first = []
      · obtain ⟨hunit', hpos⟩ := unit_step h hunit hcode hoff ((o.next l).checked lines)
        rw [ih (h.step hcode hoff) hpos hlater, hunit', List.forall_mem_append]
        simp only [Option.mem_toList]
        tauto
      · -- the walk may leave the outline here, but the line is reported and is not well indented
        refine iff_of_false (fun hall => hoff hall.1.2) fun hall => hoff (hsilent.2 fun p hp => ?_)
        exact hall.2 p (List.mem_append_left _ (Option.mem_toList.2 hp))

/-- the lines of a source whose indentation counts, with their depths -/
def checkedLines (source : Source) : List (Line × Nat) := Outline.start.checked source.lines

theorem unitAhead?_start (options : Options) (checked : List (Line × Nat)) :
    unitAhead? (Walk.start options).unit checked = unitText? options checked := by
  unfold unitAhead? unitText? Walk.start IndentUnit.ofOptions?
  cases options.indentStyle <;> rfl

theorem start_unit_pos (options : Options) : ∀ u ∈ (Walk.start options).unit, 0 < u.width := by
  intro u hu
  simp only [Walk.start, IndentUnit.ofOptions?] at hu
  split at hu <;> cases hu
  · exact Nat.one_pos
  · exact options.indentWidth_pos

/--
**The rule is silent exactly on well-indented sources.** It has nothing to report exactly if every `end` closes a block,
every block is closed, and every line whose indentation counts has the blanks of its depth. A run of the rule comes to
nothing exactly if that is so and the unit can be made.
-/
theorem check_eq_nil_iff [Machine] (source : Source) (options : Options) :
    (check source options = [] ↔
      strayEnds source.lines = [] ∧ openBlocks source.lines = [] ∧
        ∀ p ∈ checkedLines source, WellIndented (unitText? options (checkedLines source)) p.1 p.2) ∧
      (indentationConsistency.answer source options = .ok [] ↔ options.unitFault? = none ∧
        strayEnds source.lines = [] ∧ openBlocks source.lines = [] ∧
          ∀ p ∈ checkedLines source, WellIndented (unitText? options (checkedLines source)) p.1 p.2) := by
  have hagrees := (run_matching (Walk.start options) source.lines agrees_nil).1
  have hsilent := run_silent_iff (follows_start options) (start_unit_pos options) agrees_nil source.lines
  have hfound : findings options source.lines =
      ((Walk.start options).run source.lines).2 ++ ((Walk.start options).run source.lines).1.leftOpen := rfl
  have hcheck : check source options = [] ↔ strayEnds source.lines = [] ∧ openBlocks source.lines = [] ∧
      ∀ p ∈ checkedLines source, WellIndented (unitText? options (checkedLines source)) p.1 p.2 := by
    rw [check, List.map_eq_nil_iff, hfound, List.append_eq_nil_iff, hsilent, leftOpen_eq hagrees, List.map_eq_nil_iff,
      unitAhead?_start]
    exact ⟨fun h => ⟨h.1.1, h.2, h.1.2⟩, fun h => ⟨⟨h.1, h.2.2⟩, h.2.1⟩⟩
  exact ⟨hcheck, Rule.answer_eq_ok_iff.trans (and_congr_right fun _ => hcheck)⟩

/-- a `match` with a case, indented by single spaces -/
example : (checkedLines (Source.ofText "match a\n case 1:\n  b()\nend".toList)).map Prod.snd = [0, 1, 2, 0] ∧
    check (Source.ofText "match a\n case 1:\n  b()\nend".toList) {} = [] := by
  decide +kernel

end VixStyle.Rule.Indentation
