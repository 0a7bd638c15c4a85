/-
A block that is indented too far.

The lines of a block hang on frames that were opened in it, and these frames have the depth that their lines were found to
have. So if a whole block is moved by one unit, only its first line is out of place. Main statement, `check_misplaced`: if
the rule is silent on a source, then with one more unit before every line of a block it has one report, on the first token
of the block. The block may hold anything: further blocks, branches and cases, lines that go on with an expression, and
lines without code. It ends where all that was opened in it is closed (`IsBlock`). Its first line need not open anything.

Two walks run side by side, one of them over the block as it was and one over the block that was moved. On the stack of the
second the frames of the block are one level deeper and further to the right (`Walk.deeper`), all others are the same.
- `measure_of_wellIndented`: a line with one more unit before it is found to be one level deeper.
- `step_deeper`: one line keeps this up, if it is found to be one level deeper.
- `step_head`, `step_inner`: the first line of the block is reported, the others are not.
- `run_inner`: all lines of the block behind the first, by induction with the frames they hang on (`AnchoredSince`).
-/
import VixStyle.Proofs.Indentation.Later
import VixStyle.Proofs.Source.Indented

namespace VixStyle.Rule.Indentation

/-! ## Lines with one more unit before them -/

section Lines

variable {u : IndentUnit} {l : Line} {d : Nat}

theorem length_text (u : IndentUnit) : u.text.length = u.width := List.length_replicate

theorem isBlank_of_mem_text (u : IndentUnit) : ∀ c ∈ u.text, Text.isBlank c = true := by
  intro c hc
  rw [List.eq_of_mem_replicate hc]
  cases u <;> rfl

theorem wellIndented_text_iff :
    WellIndented (some u.text) l d ↔ l.indentation.blanks = List.replicate (d * u.width) u.mark := by
  constructor
  · intro h
    have hblanks := h.blanks
    rw [blanksFor?_text] at hblanks
    exact (Option.some.inj hblanks).symm
  · intro h
    refine ⟨fun hmixed => ?_, by rw [blanksFor?_text, h]⟩
    obtain ⟨hspace, htab⟩ := mix_eq_mixed_iff.1 hmixed
    rw [h] at hspace htab
    have hmarks := (List.eq_of_mem_replicate hspace).trans (List.eq_of_mem_replicate htab).symm
    exact absurd hmarks (by decide)

/-- **A line with one more unit before it** is well indented one level deeper. -/
theorem WellIndented.indented (h : WellIndented (some u.text) l d) :
    WellIndented (some u.text) (l.indented u.text) (d + 1) := by
  rw [wellIndented_text_iff] at h ⊢
  rw [Line.blanks_indented (isBlank_of_mem_text u), h, IndentUnit.text, ← List.replicate_add]
  congr 1
  ring

/-- **The measure of a line that is well indented at some depth** tells that depth. -/
theorem measure_of_wellIndented (hpos : 0 < u.width) (h : WellIndented (some u.text) l d) (first : Lexeme) (column : Nat)
    (p : Place) : measure (some u) l.indentation first column p =
      ⟨some u, some d, if d ≠ p.expected then some (column, depthFault first (some u) p d) else none⟩ := by
  have hblanks := wellIndented_text_iff.1 h
  have hwidth : l.indentation.width = d * u.width := by
    rw [Indentation.width, hblanks, List.length_replicate]
  rcases Nat.eq_zero_or_pos d with rfl | hd
  · have hnone : l.indentation.mix = .none := mix_eq_none_iff.2 (by rw [hblanks, Nat.zero_mul]; rfl)
    rw [measure, hnone]
    simp only [Nat.pos_iff_ne_zero, ne_comm]
  · have hne : l.indentation.width ≠ 0 := by
      rw [hwidth]
      exact (Nat.mul_pos hd hpos).ne'
    have hmark : (IndentUnit.ofIndentation l.indentation).mark = u.mark :=
      ((List.replicate_inj.1 ((blanks_eq h.unmixed).symm.trans hblanks)).2).resolve_left hne
    have htabs : decide (l.indentation.mix = .tabs) = u.usesTabs := by
      rw [← usesTabs_ofIndentation]
      exact mark_eq_iff.1 hmark
    unfold measure
    split
    · exact absurd ‹_› h.unmixed
    · rename_i hnone
      rw [mix_eq_none_iff, ← List.length_eq_zero_iff] at hnone
      exact absurd hnone hne
    · simp only [Option.getD_some, htabs, ne_eq, not_true, if_false, hwidth, Nat.mul_mod_left, Nat.mul_div_cancel _ hpos]

end Lines

/-! ## The walk over a block that was moved -/

/-- a frame one level deeper and further to the right, if it is not of an earlier line -/
def Frame.deeper (start : Int) (n : Nat) (f : Frame) : Frame :=
  if start ≤ f.line then { f with column := f.column + n, depth := f.depth + 1 } else f

/-- a walk with the frames from a line on one level deeper -/
def Walk.deeper (start : Int) (n : Nat) (w : Walk) : Walk := { w with stack := w.stack.map (Frame.deeper start n) }

/-- a finding further to the right -/
def Finding.right (n : Nat) (f : Finding) : Finding := { f with column := f.column + n }

theorem Frame.word_deeper (start : Int) (n : Nat) (f : Frame) : (f.deeper start n).word = f.word := by
  unfold deeper
  split <;> rfl

theorem Walk.deeper_of_earlier {w : Walk} {start : Int} (h : ∀ f ∈ w.stack, f.line < start) (n : Nat) :
    w.deeper start n = w := by
  have hsame : w.stack.map (Frame.deeper start n) = w.stack :=
    (List.map_congr_left fun f hf => if_neg (not_le.2 (h f hf))).trans (List.map_id _)
  rw [Walk.deeper, hsame]

theorem moves_deeper {start : Int} {code : List Token} (hline : ∀ t ∈ code, start ≤ t.line) (n depth : Nat) :
    Moves (Frame.deeper start n) (Token.right n) (Finding.right n) code depth (depth + 1) where
  word := Frame.word_deeper start n
  lexeme := Token.alike_right n
  pushed t ht _ := if_pos (hline t ht)
  stray _ _ := rfl

namespace Walk

variable {w : Walk} {u : IndentUnit} {l : Line} {first : Token} {rest : List Token}

theorem measured_unit (hunit : w.unit = some u) (l : Line) (first : Token) (p : Place) :
    (w.measured l first p).unit = some u := by
  unfold measured
  rw [hunit]
  split
  · exact (measure_of_known u _ _ _ p).1
  · rfl

/-- with a unit, a line is in order if it does not count or is well indented -/
theorem offOf_eq_nil_iff_wellIndented (hunit : w.unit = some u) (hpos : 0 < u.width) : w.offOf l first = [] ↔
    (w.measures = true → WellIndented (some u.text) l (w.placeOf first).expected) := by
  have hwidth : ∀ v ∈ (some u), 0 < v.width := fun v hv => by
    obtain rfl := Option.some.inj hv
    exact hpos
  rw [offOf_eq_nil_iff, measured, hunit]
  split_ifs with hm
  · rw [measure_iff hwidth first.lexeme first.column _ []]
    simp [hm, unitAhead?]
  · simp [hm]

theorem step_of_code (hcode : l.code = first :: rest) (w : Walk) : w.step l = w.stepCode l first rest := by
  rw [step, hcode]

/-- the three parts of what is found on a line of code -/
theorem silent_of_step (hcode : l.code = first :: rest) (h : (w.step l).2 = []) :
    strayFirst (w.placeOf first) first = [] ∧ w.offOf l first = [] ∧
      (nested (w.placeOf first) (w.depthOf l first) first rest).2 = [] := by
  rw [step_of_code hcode, stepCode_eq] at h
  obtain ⟨hfront, hnested⟩ := List.append_eq_nil_iff.1 h
  obtain ⟨hstray, hoff⟩ := List.append_eq_nil_iff.1 hfront
  exact ⟨hstray, hoff, hnested⟩

/-- a line that hangs on a frame of the block belongs one level deeper -/
theorem expected_deeper {start : Int} {f : Frame} (hanchor : (w.placeOf first).anchor = some f) (hf : start ≤ f.line)
    (n : Nat) : ((w.deeper start n).placeOf (first.right n)).expected = (w.placeOf first).expected + 1 := by
  have hdeeper : (f.deeper start n).depth = f.depth + 1 := by rw [Frame.deeper, if_pos hf]
  unfold placeOf at hanchor ⊢
  have hmoved : (place (w.stack.map (Frame.deeper start n)) first.lexeme).anchor = some (f.deeper start n) := by
    rw [(place_map (Frame.word_deeper start n) w.stack first.lexeme).2, hanchor, Option.map_some]
  calc (place (w.stack.map (Frame.deeper start n)) first.lexeme).expected
      = (f.deeper start n).depth + levelsInside first.lexeme := by rw [place_expected, hmoved]; rfl
    _ = f.depth + levelsInside first.lexeme + 1 := by rw [hdeeper]; omega
    _ = (place w.stack first.lexeme).expected + 1 := by rw [place_expected, hanchor]; rfl

section Step

variable {start : Int} (hunit : w.unit = some u) (hcode : l.code = first :: rest)
  (hline : ∀ t ∈ first :: rest, start ≤ t.line) (hsilent : (w.step l).2 = [])

include hunit hcode hline hsilent

/-- **A line keeps the two walks side by side**, if it is found to be one level deeper. -/
theorem step_deeper {blanks : List Char}
    (hdepth : (w.deeper start blanks.length).depthOf (l.indented blanks) (first.right blanks.length) = w.depthOf l first + 1) :
    (w.deeper start blanks.length).step (l.indented blanks) = ((w.step l).1.deeper start blanks.length,
      (w.deeper start blanks.length).offOf (l.indented blanks) (first.right blanks.length)) := by
  obtain ⟨hstray, -, hnested⟩ := silent_of_step hcode hsilent
  have hmoves := moves_deeper hline blanks.length (w.depthOf l first)
  obtain ⟨hstack, hanchor⟩ := place_map (Frame.word_deeper start blanks.length) w.stack first.lexeme
  have hstray' : strayFirst ((w.deeper start blanks.length).placeOf (first.right blanks.length))
      (first.right blanks.length) = [] :=
    (strayFirst_moved hmoves hanchor List.mem_cons_self).trans (List.map_eq_nil_iff.2 hstray)
  have hnested' : nested ((w.deeper start blanks.length).placeOf (first.right blanks.length)) (w.depthOf l first + 1)
      (first.right blanks.length) (rest.map (Token.right blanks.length)) =
        ((nested (w.placeOf first) (w.depthOf l first) first rest).1.map (Frame.deeper start blanks.length), []) :=
    (nested_moved hmoves hanchor rfl hstack).trans (Prod.ext rfl (List.map_eq_nil_iff.2 hnested))
  have hcode' : (l.indented blanks).code = first.right blanks.length :: rest.map (Token.right blanks.length) := by
    rw [Line.code_indented, hcode, List.map_cons]
  have hunit' : (w.deeper start blanks.length).unit = some u := hunit
  rw [step_of_code hcode', step_of_code hcode, stepCode_eq, stepCode_eq, hstray', hdepth, hnested', measured_unit hunit,
    measured_unit hunit', ← List.map_cons, bracketBalance_map (Token.alike_right _),
    continuesOnNextLine_map (Token.alike_right _), List.nil_append, List.append_nil]
  rfl

variable (hpos : 0 < u.width)

include hpos

/-- **A line that hangs on a frame of the block** is in order one level deeper. -/
theorem step_inner {f : Frame} (hanchor : (w.placeOf first).anchor = some f) (hf : start ≤ f.line) :
    (w.deeper start u.text.length).step (l.indented u.text) = ((w.step l).1.deeper start u.text.length, []) := by
  obtain ⟨-, hoff, -⟩ := silent_of_step hcode hsilent
  have hunit' : (w.deeper start u.text.length).unit = some u := hunit
  have hoff' : (w.deeper start u.text.length).offOf (l.indented u.text) (first.right u.text.length) = [] := by
    rw [offOf_eq_nil_iff_wellIndented hunit' hpos, expected_deeper hanchor hf]
    exact fun hm => ((offOf_eq_nil_iff_wellIndented hunit hpos).1 hoff hm).indented
  have hdepth : (w.deeper start u.text.length).depthOf (l.indented u.text) (first.right u.text.length) =
      w.depthOf l first + 1 := by
    rw [depthOf_of_off hoff', expected_deeper hanchor hf, depthOf_of_off hoff]
  rw [step_deeper hunit hcode hline hsilent hdepth, hoff']

/-- **The first line of the block** is reported, one level deeper than it belongs. -/
theorem step_head (hstack : ∀ f ∈ w.stack, f.line < start) (hm : w.measures = true) :
    w.step (l.indented u.text) = ((w.step l).1.deeper start u.text.length,
      [⟨l.number, first.column + u.text.length,
        depthFault first.lexeme (some u) (w.placeOf first) ((w.placeOf first).expected + 1)⟩]) := by
  obtain ⟨-, hoff, -⟩ := silent_of_step hcode hsilent
  have hsame := deeper_of_earlier hstack u.text.length
  have hwell := ((offOf_eq_nil_iff_wellIndented hunit hpos).1 hoff hm).indented
  have hmeasured : w.measured (l.indented u.text) (first.right u.text.length) (w.placeOf first) =
      ⟨some u, some ((w.placeOf first).expected + 1), some (first.column + u.text.length,
        depthFault first.lexeme (some u) (w.placeOf first) ((w.placeOf first).expected + 1))⟩ := by
    rw [measured, if_pos hm, hunit, measure_of_wellIndented hpos hwell, if_pos (Nat.succ_ne_self _)]
    rfl
  have hplace : w.placeOf (first.right u.text.length) = w.placeOf first := rfl
  have hdepth : w.depthOf (l.indented u.text) (first.right u.text.length) = w.depthOf l first + 1 := by
    rw [depthOf_of_off hoff, depthOf, hplace, hmeasured, Option.getD_some]
  have hstep : (w.deeper start u.text.length).step (l.indented u.text) = _ :=
    step_deeper hunit hcode hline hsilent (by rw [hsame]; exact hdepth)
  rw [hsame] at hstep
  rw [hstep, offOf, hplace, hmeasured]
  rfl

end Step

end Walk

/-! ## Blocks -/

/-- every line of code hangs on a frame that is not of an earlier line -/
def AnchoredSince (start : Int) (w : Walk) : List Line → Prop
  | [] => True
  | l :: more =>
    (∀ first ∈ l.code.head?, ∃ f ∈ (w.placeOf first).anchor, start ≤ f.line) ∧ AnchoredSince start (w.step l).1 more

/-- lines that make up a block for a walk that comes to them -/
structure IsBlock (w : Walk) (head : Line) (more : List Line) : Prop where
  /-- the indentation of the first line counts -/
  counts : w.measures = true
  /-- all further lines hang on what has been opened in the block -/
  anchored : AnchoredSince head.number (w.step head).1 more
  /-- nothing that was opened in the block is open behind it, and all that was open before is so -/
  closed : (w.run (head :: more)).1.stack = w.stack

instance AnchoredSince.decidable (start : Int) : (w : Walk) → (lines : List Line) → Decidable (AnchoredSince start w lines)
  | _, [] => inferInstanceAs (Decidable True)
  | w, l :: more =>
    have : Decidable (AnchoredSince start (w.step l).1 more) := AnchoredSince.decidable start (w.step l).1 more
    inferInstanceAs (Decidable ((∀ first ∈ l.code.head?, ∃ f ∈ (w.placeOf first).anchor, start ≤ f.line) ∧
      AnchoredSince start (w.step l).1 more))

instance IsBlock.decidable (w : Walk) (head : Line) (more : List Line) : Decidable (IsBlock w head more) :=
  decidable_of_iff (w.measures = true ∧ AnchoredSince head.number (w.step head).1 more ∧
      (w.run (head :: more)).1.stack = w.stack)
    ⟨fun h => ⟨h.1, h.2.1, h.2.2⟩, fun h => ⟨h.counts, h.anchored, h.closed⟩⟩

/-- **The lines of a block behind its first** are in order one level deeper, by induction over the lines. -/
theorem Walk.run_inner {w : Walk} {u : IndentUnit} (hunit : w.unit = some u) (hpos : 0 < u.width) {start : Int}
    {lines : List Line} (hlines : ∀ l ∈ lines, l.Numbered ∧ start ≤ l.number) (hanchored : AnchoredSince start w lines)
    (hsilent : (w.run lines).2 = []) : (w.deeper start u.text.length).run (lines.map (Line.indented u.text)) =
      ((w.run lines).1.deeper start u.text.length, []) := by
  induction lines generalizing w with
  | nil => rfl
  | cons l lines ih =>
    obtain ⟨⟨hnumbered, hstart⟩, hlater⟩ := List.forall_mem_cons.1 hlines
    obtain ⟨hanchor, hanchored⟩ := hanchored
    obtain ⟨hhere, hsilent⟩ := List.append_eq_nil_iff.1 hsilent
    have hunit' : (w.step l).1.unit = some u := Walk.run_unit hunit [l]
    have hstep : (w.deeper start u.text.length).step (l.indented u.text) =
        ((w.step l).1.deeper start u.text.length, []) := by
      cases hcode : l.code with
      | nil => simp [Walk.step, Line.code_indented, hcode]
      | cons first rest =>
        obtain ⟨f, hf, hline⟩ := hanchor first (by rw [hcode]; rfl)
        refine Walk.step_inner hunit hcode (fun t ht => ?_) hhere hpos hf hline
        rwa [hnumbered.code t (hcode ▸ ht)]
    simp only [List.map_cons, Walk.run, hstep, ih hunit' hlater hanchored hsilent, List.nil_append]

/-- the finding on a line that was given one unit too many -/
def misplaced (u : IndentUnit) (p : Place) (first : Token) : Finding :=
  ⟨first.line, first.column, depthFault first.lexeme (some u) p (p.expected + 1)⟩

/-- **Over a block that was moved** a walk finds that the first line was, and goes on as over the block itself. -/
theorem IsBlock.run_indented {w : Walk} {u : IndentUnit} (hunit : w.unit = some u) (hpos : 0 < u.width) {head : Line}
    {more : List Line} (h : IsBlock w head more) (hnumbered : ∀ l ∈ head :: more, l.Numbered ∧ head.number ≤ l.number)
    (hstack : ∀ f ∈ w.stack, f.line < head.number) {first : Token} (hfirst : head.code.head? = some first)
    (hsilent : (w.run (head :: more)).2 = []) : w.run ((head :: more).map (Line.indented u.text)) =
      ((w.run (head :: more)).1, [misplaced u (w.placeOf first) (first.right u.width)]) := by
  obtain ⟨rest, hcode⟩ := List.head?_eq_some_iff.1 hfirst
  obtain ⟨hhere, hlater⟩ := List.append_eq_nil_iff.1 hsilent
  obtain ⟨⟨hhead, -⟩, hmore⟩ := List.forall_mem_cons.1 hnumbered
  have hline : ∀ t ∈ first :: rest, t.line = head.number := fun t ht => hhead.code t (hcode ▸ ht)
  have hstep := Walk.step_head hunit hcode (fun t ht => (hline t ht).ge) hhere hpos hstack h.counts
  have hunit' : (w.step head).1.unit = some u := Walk.run_unit hunit [head]
  have hinner := Walk.run_inner hunit' hpos hmore h.anchored hlater
  -- behind the block its frames are gone, and the others are the same in both walks
  have hback : ((w.step head).1.run more).1.deeper head.number u.text.length = ((w.step head).1.run more).1 := by
    refine Walk.deeper_of_earlier (fun f hf => hstack f ?_) _
    rw [← h.closed]
    exact hf
  have hfound : (⟨head.number, first.column + u.text.length,
      depthFault first.lexeme (some u) (w.placeOf first) ((w.placeOf first).expected + 1)⟩ : Finding) =
        misplaced u (w.placeOf first) (first.right u.width) := by
    rw [← hline first List.mem_cons_self, length_text]
    rfl
  rw [List.map_cons, Walk.run, hstep, hfound]
  simp only [hinner, hback, List.append_nil]
  rfl

/-- what a walk finds on lines before a block, on the block, and behind it -/
theorem findings_around (options : Options) (before block after : List Line) :
    findings options (before ++ block ++ after) = ((Walk.start options).run before).2 ++
      ((((Walk.start options).run before).1.run block).2 ++
        (((((Walk.start options).run before).1.run block).1.run after).2 ++
          ((((Walk.start options).run before).1.run block).1.run after).1.leftOpen)) := by
  rw [findings, Walk.run_append, Walk.run_append]
  simp only [List.append_assoc]

/--
**A misplaced block is reported once.** If the rule has nothing to report on a source, then with one more unit before every
line of a block it has one report: the first token of the block is one level deeper than it belongs.
-/
theorem check_misplaced {options : Options} {u : IndentUnit} (hunit : IndentUnit.ofOptions? options = some u)
    (text moved : List Char) {before block after : List (List Char)} {head : Line} {more : List Line}
    (hlines : Line.readFrom (before.length + 1) block = head :: more)
    (hblock : IsBlock ((Walk.start options).run (Line.readAll before)).1 head more) {first : Token}
    (hfirst : head.code.head? = some first)
    (hsilent : check ⟨text, Line.readAll (before ++ block ++ after)⟩ options = []) :
    check ⟨moved, Line.readAll (before ++ block.map (u.text ++ ·) ++ after)⟩ options =
      [(misplaced u (((Walk.start options).run (Line.readAll before)).1.placeOf first) (first.right u.width)).diagnostic] := by
  obtain ⟨behind, hplain, hmoved⟩ := Line.readAll_indented (isBlank_of_mem_text u) before block after
  rw [hlines] at hplain hmoved
  have hfound := List.map_eq_nil_iff.1 hsilent
  rw [hplain, findings_around, List.append_eq_nil_iff, List.append_eq_nil_iff] at hfound
  obtain ⟨hfront, hhere, hbehind⟩ := hfound
  have hnumber : head.number = before.length + 1 := by
    cases block with
    | nil => cases hlines
    | cons text texts =>
      rw [← (List.cons.inj hlines).1]
      exact Line.number_read _ _
  have hnumbered : ∀ l ∈ head :: more, l.Numbered ∧ head.number ≤ l.number := by
    intro l hl
    rw [← hlines] at hl
    obtain ⟨hl, hlow, -⟩ := Line.mem_readFrom hl
    exact ⟨hl, hnumber ▸ hlow⟩
  have hearlier : ∀ l ∈ Line.readAll before, l.Numbered ∧ l.number < head.number := by
    intro l hl
    obtain ⟨hl, -, hhigh⟩ := Line.mem_readAll hl
    exact ⟨hl, by omega⟩
  have hempty : Within (· < head.number) (Walk.start options).stack := fun f hf => by cases hf
  have hstack := (Walk.run_within hempty hearlier).1
  have hstart : (Walk.start options).unit = some u := hunit
  have hrun := hblock.run_indented (Walk.run_unit hstart _) (start_unit_pos options u hunit) hnumbered hstack hfirst hhere
  rw [check, hmoved, findings_around, hfront, hrun, hbehind]
  rfl

/-- the block of a `while`, with an expression over two lines, a case, a branch and a line without code in it -/
theorem check_misplaced_while :
    check ⟨[], Line.readAll (["func f()".toList] ++
        (["  while a do", "    match b(", "1)", "      case 1:", "        if c", "          d()", "        else", "",
          "          e()", "        end", "    end", "  end"].map String.toList).map ((IndentUnit.spaces 2).text ++ ·) ++
        ["end".toList])⟩ { indentStyle := .spaces, indentWidth := 2, indentWidth_pos := by decide } =
      [(misplaced (.spaces 2) (Place.inside [⟨.func_, 1, 1, 0⟩]) ⟨.keyword .while_, 2, 5⟩).diagnostic] ∧
    (misplaced (.spaces 2) (Place.inside [⟨.func_, 1, 1, 0⟩]) ⟨.keyword .while_, 2, 5⟩).fault.message =
      "expected indentation of 2 spaces but found 4 spaces (inside `func` on line 1)" := by
  have hfirst : (Line.read (1 + 1) "  while a do".toList).code.head? = some ⟨.keyword .while_, 2, 3⟩ := by decide +kernel
  have hplace : ((Walk.start { indentStyle := .spaces, indentWidth := 2, indentWidth_pos := by decide }).run
      (Line.readAll ["func f()".toList])).1.placeOf ⟨.keyword .while_, 2, 3⟩ = Place.inside [⟨.func_, 1, 1, 0⟩] := by
    decide +kernel
  refine ⟨?_, by decide +kernel⟩
  rw [← hplace]
  exact check_misplaced rfl [] [] rfl (by decide +kernel) hfirst (by decide +kernel)

end VixStyle.Rule.Indentation
