/-
The walk over lines further down, and over lines behind other lines.

The walk does not look at line numbers; it only hands them on. So over lines further down it finds what it finds over the
lines themselves, further down (`Walk.run_later`), and a walk that has come back to where it started goes on as from the
start (`findings_append`). What it finds lies on the lines it has read and cites only those (`Walk.run_within`), and it
finds at most one fault of indentation for each line (`Walk.run_off_unique`).

To lie further down is to bear other numbers, so the first law is one on those (`Walk.run_relined`). The others are about one
step first.
-/
import VixStyle.Proofs.Indentation.Detection
import VixStyle.Proofs.Indentation.Relined
import VixStyle.Proofs.Source.Later

namespace VixStyle.Rule.Indentation

/-! ## The walk further down -/

/-- a frame further down -/
def Frame.later (n : Nat) (f : Frame) : Frame := { f with line := f.line + n }

/-- a walk among frames further down -/
def Walk.later (n : Nat) (w : Walk) : Walk := { w with stack := w.stack.map (Frame.later n) }

/-- to lie further down is to bear other numbers -/
theorem Fault.later_eq_relined (n : Nat) (fault : Fault) : fault.later n = fault.relined (· + n) := by
  cases fault <;> rfl

theorem Finding.later_eq_relined (n : Nat) : Finding.later n = Finding.relined (· + n) := by
  funext f
  rw [Finding.later, Fault.later_eq_relined]
  rfl

namespace Walk

variable (n : Nat)

/-- **Over lines further down** the walk finds what it finds over the lines, further down. -/
theorem run_later (w : Walk) (lines : List Line) :
    (w.later n).run (lines.map (Line.later n)) = ((w.run lines).1.later n, (w.run lines).2.map (Finding.later n)) := by
  rw [Finding.later_eq_relined]
  exact run_relined (· + n) w lines

theorem leftOpen_later (w : Walk) : (w.later n).leftOpen = w.leftOpen.map (Finding.later n) := by
  rw [Finding.later_eq_relined]
  exact leftOpen_relined (· + n) w

theorem run_append (w : Walk) (lines more : List Line) : w.run (lines ++ more) =
    (((w.run lines).1.run more).1, (w.run lines).2 ++ ((w.run lines).1.run more).2) := by
  induction lines generalizing w with
  | nil => rfl
  | cons l lines ih => simp only [List.cons_append, run, ih, List.append_assoc]

end Walk

/-! ## Where findings lie -/

/-- frames on lines of a kind -/
def Within (P : Int → Prop) (stack : List Frame) : Prop := ∀ f ∈ stack, P f.line

section Within

variable {P : Int → Prop} {stack : List Frame}

theorem Within.dropCase (h : Within P stack) : Within P (dropCase stack) := by
  cases stack with
  | nil => exact h
  | cons f more =>
    intro g hg
    simp only [Indentation.dropCase] at hg
    split at hg
    · exact h g (List.mem_cons_of_mem f hg)
    · exact h g hg

theorem Within.closeBlock (h : Within P stack) :
    (∀ f ∈ (closeBlock stack).1, P f.line) ∧ Within P (closeBlock stack).2 := by
  have hdrop := h.dropCase
  unfold Indentation.closeBlock
  cases hstack : Indentation.dropCase stack with
  | nil => exact ⟨by simp, by simp [Within]⟩
  | cons f more =>
    rw [hstack] at hdrop
    refine ⟨fun g hg => ?_, fun g hg => hdrop g (List.mem_cons_of_mem f hg)⟩
    obtain rfl := Option.some.inj hg
    exact hdrop f List.mem_cons_self

/-- a place whose anchor and frames are on lines of a kind -/
structure Place.Within (P : Int → Prop) (p : Place) : Prop where
  anchor : ∀ f ∈ p.anchor, P f.line
  stack : Indentation.Within P p.stack

theorem Within.inside (h : Within P stack) : (Place.inside stack).Within P := by
  cases stack with
  | nil => exact ⟨by simp [Place.inside], h⟩
  | cons f more =>
    refine ⟨fun g hg => ?_, h⟩
    obtain rfl := Option.some.inj hg
    exact h f List.mem_cons_self

theorem Within.place (h : Within P stack) (first : Lexeme) : (place stack first).Within P := by
  unfold Indentation.place
  split
  · split_ifs
    · have hclose := h.closeBlock
      unfold Place.closing
      split
      · rename_i rest hstack
        rw [hstack] at hclose
        exact ⟨by simp, hclose.2⟩
      · rename_i f rest hstack
        rw [hstack] at hclose
        exact ⟨hclose.1, hclose.2⟩
    · cases stack with
      | nil => exact ⟨by simp, h⟩
      | cons f more =>
        refine ⟨fun g hg => ?_, h⟩
        obtain rfl := Option.some.inj hg
        exact h f List.mem_cons_self
    · exact h.dropCase.inside
    · exact h.inside
  · exact h.inside

theorem Within.nest (depth : Nat) (h : Within P stack) {parts : List (Token × BlockPart)}
    (hparts : ∀ q ∈ parts, P q.1.line) : Within P (nest depth stack parts).1 := by
  induction parts generalizing stack with
  | nil => exact h
  | cons q parts ih =>
    obtain ⟨t, part⟩ := q
    refine ih ?_ fun q hq => hparts q (List.mem_cons_of_mem _ hq)
    cases part with
    | opens word =>
      intro f hf
      rcases List.mem_cons.1 hf with rfl | hf
      · exact hparts _ List.mem_cons_self
      · exact h f hf
    | closes =>
      have hclose := h.closeBlock.2
      dsimp only
      split
      · rename_i rest hstack
        rw [hstack] at hclose
        exact hclose
      · rename_i f rest hstack
        rw [hstack] at hclose
        exact hclose
    | inert => exact h

theorem Place.Within.nested {p : Place} (h : p.Within P) (depth : Nat) {first : Token} {rest : List Token}
    (hline : ∀ t ∈ first :: rest, P t.line) : Indentation.Within P (nested p depth first rest).1 := by
  have hlater : ∀ q ∈ laterParts first rest, P q.1.line := fun q hq =>
    hline q.1 (List.mem_cons_of_mem first (List.of_mem_zip hq).1)
  have hfirst := hline first List.mem_cons_self
  unfold Indentation.nested
  cases hcase : caseFrame? p depth first with
  | some f =>
    obtain ⟨word, m, -, -, -, -, rfl⟩ := caseFrame?_eq_some hcase
    refine Indentation.Within.nest depth (fun g hg => ?_) hlater
    rcases List.mem_cons.1 hg with rfl | hg
    · exact hfirst
    · exact h.stack g hg
  | none =>
    refine h.stack.nest depth ?_
    split
    · exact hlater
    · exact List.forall_mem_cons.2 ⟨hfirst, hlater⟩

theorem Place.Within.depthFault {p : Place} (h : p.Within P) (first : Lexeme) (unit : Option IndentUnit) (actual : Nat) :
    ∀ line ∈ (depthFault first unit p actual).cited?, P line := by
  obtain ⟨expected, anchor, stack⟩ := p
  have hwrong : ∀ unit, ∀ line ∈ (Fault.wrongDepth unit expected actual (anchor.map fun f => (f.word, f.line))).cited?,
      P line := by
    intro unit line hline
    obtain ⟨pair, hpair, rfl⟩ := Option.map_eq_some_iff.1 hline
    obtain ⟨f, hf, rfl⟩ := Option.map_eq_some_iff.1 hpair
    exact h.anchor f hf
  intro line hline
  simp only [Indentation.depthFault] at hline
  split at hline
  · rename_i _ _ f word
    split_ifs at hline
    · obtain rfl := Option.some.inj hline
      exact h.anchor f rfl
    · cases unit with
      | none => cases hline
      | some unit => exact hwrong unit line hline
  · cases unit with
    | none => cases hline
    | some unit => exact hwrong unit line hline

theorem Place.Within.measure {p : Place} (h : p.Within P) {unit : Option IndentUnit} {i : Indentation} {first : Lexeme}
    {column c : Nat} {fault : Fault} (hfault : (measure unit i first column p).fault = some (c, fault)) :
    ∀ line ∈ fault.cited?, P line := by
  unfold Indentation.measure at hfault
  split at hfault
  · cases hfault
    simp [Fault.cited?]
  · dsimp only at hfault
    split_ifs at hfault
    cases hfault
    exact h.depthFault _ _ _
  · dsimp only at hfault
    split_ifs at hfault <;> cases hfault
    · simp [Fault.cited?]
    · simp [Fault.cited?]
    · exact h.depthFault _ _ _

theorem Walk.offOf_within {w : Walk} (h : Within P w.stack) {l : Line} {first : Token} {f : Finding}
    (hf : f ∈ w.offOf l first) : f.line = l.number ∧ ∀ line ∈ f.fault.cited?, P line := by
  obtain ⟨⟨c, fault⟩, hfault, rfl⟩ := Option.map_eq_some_iff.1 (Option.mem_toList.1 hf)
  refine ⟨rfl, ?_⟩
  unfold Walk.measured at hfault
  split_ifs at hfault
  exact (h.place first.lexeme).measure hfault

theorem Walk.step_within {w : Walk} (h : Within P w.stack) {l : Line} (hl : l.Numbered) (hP : P l.number) :
    Within P (w.step l).1.stack ∧
      ∀ f ∈ (w.step l).2, f.line = l.number ∧ ∀ line ∈ f.fault.cited?, P line := by
  cases hcode : l.code with
  | nil =>
    rw [Walk.step, hcode]
    exact ⟨h, by simp⟩
  | cons first rest =>
    have hlines : ∀ t ∈ first :: rest, t.line = l.number := hcode ▸ hl.code
    have hstray : ∀ t ∈ first :: rest, (strayAt t).line = l.number ∧ ∀ line ∈ (strayAt t).fault.cited?, P line :=
      fun t ht => ⟨hlines t ht, by simp [strayAt, Fault.cited?]⟩
    rw [Walk.step, hcode]
    dsimp only
    rw [Walk.stepCode_eq]
    refine ⟨(h.place first.lexeme).nested _ fun t ht => (hlines t ht).symm ▸ hP, fun f hf => ?_⟩
    rcases List.mem_append.1 hf with hf | hf
    · rcases List.mem_append.1 hf with hf | hf
      · rw [mem_strayFirst hf]
        exact hstray first List.mem_cons_self
      · exact Walk.offOf_within h hf
    · obtain ⟨t, ht, rfl⟩ := mem_nested hf
      exact hstray t ht

/-- **Findings lie on the lines that were read** and cite lines that were read. -/
theorem Walk.run_within {w : Walk} (h : Within P w.stack) {lines : List Line}
    (hl : ∀ l ∈ lines, l.Numbered ∧ P l.number) :
    Within P (w.run lines).1.stack ∧
      ∀ f ∈ (w.run lines).2, (∃ l ∈ lines, f.line = l.number) ∧ ∀ line ∈ f.fault.cited?, P line := by
  induction lines generalizing w with
  | nil => exact ⟨h, fun f hf => by cases hf⟩
  | cons l lines ih =>
    obtain ⟨hnumbered, hP⟩ := hl l List.mem_cons_self
    obtain ⟨hnext, hhere⟩ := Walk.step_within h hnumbered hP
    obtain ⟨hlast, hlater⟩ := ih hnext fun m hm => hl m (List.mem_cons_of_mem l hm)
    refine ⟨hlast, fun f hf => ?_⟩
    rcases List.mem_append.1 hf with hf | hf
    · exact ⟨⟨l, List.mem_cons_self, (hhere f hf).1⟩, (hhere f hf).2⟩
    · obtain ⟨⟨m, hm, hline⟩, hcited⟩ := hlater f hf
      exact ⟨⟨m, List.mem_cons_of_mem l hm, hline⟩, hcited⟩

end Within

/-! ## One fault of indentation for each line -/

namespace Walk

/-- what a line is reported for beside closes that close nothing -/
theorem filter_step (w : Walk) (l : Line) : (w.step l).2.filter (fun f => !f.fault.isStray) =
    match l.code with
    | [] => []
    | first :: _ => w.offOf l first := by
  cases hcode : l.code with
  | nil =>
    rw [step, hcode]
    rfl
  | cons first rest =>
    have hfirst : (strayFirst (w.placeOf first) first).filter (fun f => !f.fault.isStray) = [] := by
      refine List.filter_eq_nil_iff.2 fun f hf => ?_
      rw [mem_strayFirst hf]
      simp [strayAt, Fault.isStray]
    have hoff : (w.offOf l first).filter (fun f => !f.fault.isStray) = w.offOf l first :=
      List.filter_eq_self.2 fun f hf => by simp [(offOf_kind hf).1]
    have hnested : (nested (w.placeOf first) (w.depthOf l first) first rest).2.filter (fun f => !f.fault.isStray) = [] := by
      refine List.filter_eq_nil_iff.2 fun f hf => ?_
      obtain ⟨t, -, rfl⟩ := mem_nested hf
      simp [strayAt, Fault.isStray]
    rw [step, hcode]
    dsimp only
    rw [stepCode_eq, List.filter_append, List.filter_append, hfirst, hoff, hnested, List.nil_append, List.append_nil]

/-- **A line has at most one fault of indentation**, and these come in the order of the lines. -/
theorem run_off_ordered {w : Walk} {lines : List Line} (hlines : ∀ l ∈ lines, l.Numbered)
    (hordered : lines.Pairwise fun l m => l.number < m.number) :
    ((w.run lines).2.filter fun f => !f.fault.isStray).Pairwise fun f g => f.line < g.line := by
  have hin : ∀ s : List Frame, Within (fun _ => True) s := fun _ _ _ => trivial
  induction lines generalizing w with
  | nil => exact .nil
  | cons l lines ih =>
    obtain ⟨hfirst, hrest⟩ := List.pairwise_cons.1 hordered
    have hmore : ∀ m ∈ lines, m.Numbered := fun m hm => hlines m (List.mem_cons_of_mem l hm)
    have hhere : ∀ d ∈ (w.step l).2, d.line = l.number := fun d hd =>
      ((step_within (hin _) (hlines l List.mem_cons_self) trivial).2 d hd).1
    have hlater : ∀ d ∈ ((w.step l).1.run lines).2, l.number < d.line := by
      intro d hd
      obtain ⟨⟨m, hm, hdline⟩, -⟩ := (run_within (hin _) fun m hm => ⟨hmore m hm, trivial⟩).2 d hd
      rw [hdline]
      exact hfirst m hm
    rw [run, List.filter_append, List.pairwise_append]
    refine ⟨?_, ih hmore hrest, fun f hf g hg => ?_⟩
    · rw [filter_step]
      split
      · exact .nil
      · rename_i first _ _
        unfold offOf
        cases (w.measured l first (w.placeOf first)).fault with
        | none => exact .nil
        | some found => exact List.pairwise_singleton _ _
    · have hf := hhere f (List.mem_of_mem_filter hf)
      have hg := hlater g (List.mem_of_mem_filter hg)
      omega

theorem run_off_unique {w : Walk} {lines : List Line} (hlines : ∀ l ∈ lines, l.Numbered)
    (hordered : lines.Pairwise fun l m => l.number < m.number) {f g : Finding} (hf : f ∈ (w.run lines).2)
    (hg : g ∈ (w.run lines).2) (hfs : f.fault.isStray = false) (hgs : g.fault.isStray = false) (hline : f.line = g.line) :
    f = g := by
  have hordered := run_off_ordered (w := w) hlines hordered
  have hunique := List.Pairwise.forall_of_forall_of_flip (R := fun f g : Finding => f.line = g.line → f = g)
    (fun _ _ _ => rfl) (hordered.imp fun hlt heq => absurd heq hlt.ne) (hordered.imp fun hlt heq => absurd heq hlt.ne')
  exact hunique (List.mem_filter.2 ⟨hf, by simp [hfs]⟩) (List.mem_filter.2 ⟨hg, by simp [hgs]⟩) hline

end Walk

/-! ## What a source is reported for -/

/-- a fault of matching: an `end` that closes nothing, or a block that nothing closes -/
def Fault.isMatching (fault : Fault) : Bool := fault.isStray || fault.isUnclosed

/-- the number of one of some lines -/
def OnLines (lines : List Line) (number : Int) : Prop := ∃ l ∈ lines, number = l.number

/-- **Findings lie on the lines of the source**, and so do the lines that they cite. -/
theorem findings_onLines {lines : List Line} (hlines : ∀ l ∈ lines, l.Numbered) (options : Options) :
    ∀ f ∈ findings options lines, OnLines lines f.line ∧ ∀ line ∈ f.fault.cited?, OnLines lines line := by
  have hempty : Within (OnLines lines) (Walk.start options).stack := fun f hf => by cases hf
  obtain ⟨hopen, hfound⟩ := Walk.run_within hempty fun l hl => ⟨hlines l hl, l, hl, rfl⟩
  intro f hf
  rcases List.mem_append.1 hf with hf | hf
  · exact hfound f hf
  · obtain ⟨frame, hframe, rfl⟩ := List.mem_map.1 hf
    refine ⟨hopen frame (List.mem_reverse.1 (List.mem_of_mem_filter hframe)), fun line hline => ?_⟩
    cases hline

theorem findings_off_unique {lines : List Line} (hlines : ∀ l ∈ lines, l.Numbered)
    (hordered : lines.Pairwise fun l m => l.number < m.number) {options : Options} {f g : Finding}
    (hf : f ∈ findings options lines) (hg : g ∈ findings options lines) (hfm : f.fault.isMatching = false)
    (hgm : g.fault.isMatching = false) (hline : f.line = g.line) : f = g := by
  obtain ⟨hfs, hfu⟩ := Bool.or_eq_false_iff.1 hfm
  obtain ⟨hgs, hgu⟩ := Bool.or_eq_false_iff.1 hgm
  have hrun : ∀ d ∈ findings options lines, d.fault.isUnclosed = false → d ∈ ((Walk.start options).run lines).2 := by
    intro d hd hopen
    rcases List.mem_append.1 hd with hd | hd
    · exact hd
    · obtain ⟨frame, -, rfl⟩ := List.mem_map.1 hd
      cases hopen
  exact Walk.run_off_unique hlines hordered (hrun f hf hfu) (hrun g hg hgu) hfs hgs hline

/-! ## A walk that has come back -/

namespace Walk

/-- no block and no bracket is open, and no expression goes on -/
structure Closed (w : Walk) : Prop where
  stack : w.stack = []
  brackets : w.brackets = 0
  continues : w.continues = false

theorem run_unit {w : Walk} {unit : IndentUnit} (hw : w.unit = some unit) (lines : List Line) :
    (w.run lines).1.unit = some unit := by
  induction lines generalizing w with
  | nil => exact hw
  | cons l lines ih =>
    have hstep : (w.step l).1.unit = some unit := by
      unfold step
      split
      · exact hw
      · exact (step_known hw l _ _).1
    exact ih hstep

theorem start_unit {options : Options} (h : options.indentStyle ≠ .detect) :
    ∃ unit, (start options).unit = some unit := by
  unfold start IndentUnit.ofOptions?
  cases hstyle : options.indentStyle with
  | detect => exact absurd hstyle h
  | spaces => exact ⟨_, rfl⟩
  | tabs => exact ⟨_, rfl⟩

theorem closed_start (options : Options) : (start options).Closed := ⟨rfl, rfl, rfl⟩

theorem Closed.eq {w v : Walk} (hw : w.Closed) (hv : v.Closed) (hunit : w.unit = v.unit) : w = v := by
  obtain ⟨wunit, wstack, wbrackets, wcontinues⟩ := w
  obtain ⟨vunit, vstack, vbrackets, vcontinues⟩ := v
  obtain ⟨rfl, rfl, rfl⟩ := hw
  obtain ⟨rfl, rfl, rfl⟩ := hv
  obtain rfl := hunit
  rfl

/-- with a prescribed unit, a walk that is closed again is the walk before the first line -/
theorem Closed.eq_start {options : Options} (h : options.indentStyle ≠ .detect) {lines : List Line}
    (hclosed : ((start options).run lines).1.Closed) : ((start options).run lines).1 = start options := by
  obtain ⟨unit, hunit⟩ := start_unit h
  exact hclosed.eq (closed_start options) ((run_unit hunit lines).trans hunit.symm)

end Walk

/-- **Behind lines that are closed** the rule finds what it finds in the further lines by themselves, further down. -/
theorem findings_append {options : Options} (h : options.indentStyle ≠ .detect) {lines : List Line}
    (hclosed : ((Walk.start options).run lines).1.Closed) (n : Nat) (more : List Line) :
    findings options (lines ++ more.map (Line.later n)) =
      findings options lines ++ (findings options more).map (Finding.later n) := by
  have hopen : ((Walk.start options).run lines).1.leftOpen = [] := by
    rw [Walk.leftOpen, hclosed.stack]
    rfl
  have hstart : (Walk.start options).later n = Walk.start options := rfl
  have hmore : (Walk.start options).run (more.map (Line.later n)) =
      (((Walk.start options).run more).1.later n, ((Walk.start options).run more).2.map (Finding.later n)) := by
    rw [← Walk.run_later, hstart]
  unfold findings
  rw [Walk.run_append, hclosed.eq_start h, hmore]
  dsimp only
  rw [hopen, List.append_nil, Walk.leftOpen_later, List.map_append, List.append_assoc]

end VixStyle.Rule.Indentation
