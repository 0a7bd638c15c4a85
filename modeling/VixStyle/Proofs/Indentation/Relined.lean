/-
The walk over lines that bear other numbers.

The walk does not look at the numbers of lines; it only hands them on. So if every line gets another number, by whatever
rule, the walk finds what it found, under the other numbers, and what it cites bears the other numbers too. Main statement:
`findings_relined`.

Each law is about one stage first, then about a step (`Walk.step_relined`) and by induction about a run
(`Walk.run_relined`). What a step does to its frames is known (`Moves`), so what is left is what it measures.
-/
import VixStyle.Proofs.Indentation.Moved

namespace VixStyle

/-! ## Other numbers -/

/-- a token on the line with another number -/
def Token.relined (φ : Int → Int) (t : Token) : Token := { t with line := φ t.line }

theorem Token.alike_relined (φ : Int → Int) (t : Token) : (t.relined φ).lexeme.Alike t.lexeme := .same t.lexeme

/-- a line under another number -/
def Line.relined (φ : Int → Int) (l : Line) : Line :=
  { l with number := φ l.number, tokens := l.tokens.map (Token.relined φ) }

theorem Line.code_relined (φ : Int → Int) (l : Line) : (l.relined φ).code = l.code.map (Token.relined φ) := by
  unfold code relined
  rw [List.filter_map]
  rfl

namespace Rule.Indentation

/-- a fault that cites a line under its other number -/
def Fault.relined (φ : Int → Int) : Fault → Fault
  | misaligned word anchorWord line => misaligned word anchorWord (φ line)
  | wrongDepth unit expected actual anchor => wrongDepth unit expected actual (anchor.map fun (word, line) => (word, φ line))
  | fault => fault

/-- a finding on the line with another number -/
def Finding.relined (φ : Int → Int) (f : Finding) : Finding := ⟨φ f.line, f.column, f.fault.relined φ⟩

/-- a frame on the line with another number -/
def Frame.relined (φ : Int → Int) (f : Frame) : Frame := { f with line := φ f.line }

/-- a place among frames under other numbers -/
def Place.relined (φ : Int → Int) (p : Place) : Place :=
  ⟨p.expected, p.anchor.map (Frame.relined φ), p.stack.map (Frame.relined φ)⟩

/-- a measure with a fault under other numbers -/
def Measure.relined (φ : Int → Int) (m : Measure) : Measure :=
  { m with fault := m.fault.map fun (column, fault) => (column, fault.relined φ) }

/-- a walk among frames under other numbers -/
def Walk.relined (φ : Int → Int) (w : Walk) : Walk := { w with stack := w.stack.map (Frame.relined φ) }

variable (φ : Int → Int)

/-! ## The stages of a step -/

/-- under other numbers the walk does the same -/
theorem moves_relined (code : List Token) (depth : Nat) :
    Moves (Frame.relined φ) (Token.relined φ) (Finding.relined φ) code depth depth :=
  ⟨fun _ => rfl, Token.alike_relined φ, fun _ _ _ => rfl, fun _ _ => rfl⟩

theorem place_relined (stack : List Frame) (first : Lexeme) :
    place (stack.map (Frame.relined φ)) first = (place stack first).relined φ := by
  have hword : ∀ f : Frame, (f.relined φ).word = f.word := fun _ => rfl
  obtain ⟨hstack, hanchor⟩ := place_map hword stack first
  have hexpected : (place (stack.map (Frame.relined φ)) first).expected = (place stack first).expected := by
    rw [place_expected, place_expected, hanchor]
    cases (place stack first).anchor <;> rfl
  rw [Place.relined, ← hexpected, ← hanchor, ← hstack]

theorem depthFault_relined (first : Lexeme) (unit : Option IndentUnit) (p : Place) (actual : Nat) :
    depthFault first unit (p.relined φ) actual = (depthFault first unit p actual).relined φ := by
  obtain ⟨expected, anchor, stack⟩ := p
  have hgeneral : depthFault first unit ⟨expected, none, stack⟩ actual =
      (depthFault first unit ⟨expected, none, stack⟩ actual).relined φ := by
    cases unit <;> rfl
  cases anchor with
  | none => exact hgeneral
  | some f =>
    cases first with
    | keyword word =>
      by_cases hword : word = .end_ ∨ word.isBranch
      · simp only [depthFault, Place.relined, Option.map_some, if_pos hword]
        rfl
      · simp only [depthFault, Place.relined, Option.map_some, if_neg hword]
        cases unit <;> rfl
    | _ => cases unit <;> rfl

theorem measure_relined (unit : Option IndentUnit) (i : Indentation) (first : Lexeme) (column : Nat) (p : Place) :
    measure unit i first column (p.relined φ) = (measure unit i first column p).relined φ := by
  have hexpected : (p.relined φ).expected = p.expected := rfl
  unfold measure
  simp only [depthFault_relined, hexpected]
  split
  · rfl
  · split_ifs <;> rfl
  · split_ifs <;> rfl

/-! ## A step and a run -/

namespace Walk

theorem placeOf_relined (w : Walk) (first : Token) :
    (w.relined φ).placeOf (first.relined φ) = (w.placeOf first).relined φ :=
  place_relined φ w.stack first.lexeme

theorem measured_relined (w : Walk) (l : Line) (first : Token) (p : Place) :
    (w.relined φ).measured (l.relined φ) (first.relined φ) (p.relined φ) = (w.measured l first p).relined φ := by
  have hmeasures : (w.relined φ).measures = w.measures := rfl
  unfold measured
  rw [hmeasures]
  split
  · exact measure_relined φ w.unit l.indentation first.lexeme first.column p
  · rfl

theorem depthOf_relined (w : Walk) (l : Line) (first : Token) :
    (w.relined φ).depthOf (l.relined φ) (first.relined φ) = w.depthOf l first := by
  unfold depthOf
  rw [placeOf_relined, measured_relined]
  rfl

theorem offOf_relined (w : Walk) (l : Line) (first : Token) :
    (w.relined φ).offOf (l.relined φ) (first.relined φ) = (w.offOf l first).map (Finding.relined φ) := by
  unfold offOf
  rw [placeOf_relined, measured_relined]
  obtain ⟨unit, level, fault⟩ := w.measured l first (w.placeOf first)
  cases fault <;> rfl

theorem step_relined (w : Walk) (l : Line) :
    (w.relined φ).step (l.relined φ) = ((w.step l).1.relined φ, (w.step l).2.map (Finding.relined φ)) := by
  unfold step
  rw [Line.code_relined]
  cases l.code with
  | nil => rfl
  | cons first rest =>
    rw [List.map_cons]
    dsimp only
    have hmoves := moves_relined φ (first :: rest) (w.depthOf l first)
    have hstray : strayFirst ((w.placeOf first).relined φ) (first.relined φ) =
        (strayFirst (w.placeOf first) first).map (Finding.relined φ) := strayFirst_moved hmoves rfl List.mem_cons_self
    have hnested : nested ((w.placeOf first).relined φ) (w.depthOf l first) (first.relined φ) (rest.map (Token.relined φ)) =
        ((nested (w.placeOf first) (w.depthOf l first) first rest).1.map (Frame.relined φ),
          (nested (w.placeOf first) (w.depthOf l first) first rest).2.map (Finding.relined φ)) :=
      nested_moved hmoves rfl rfl rfl
    rw [stepCode_eq, stepCode_eq, placeOf_relined, measured_relined, depthOf_relined, offOf_relined, hstray, hnested,
      ← List.map_cons, bracketBalance_map (Token.alike_relined φ), continuesOnNextLine_map (Token.alike_relined φ)]
    simp only [List.map_append]
    rfl

/-- **Over lines under other numbers** the walk finds what it finds over the lines, under the other numbers. -/
theorem run_relined (w : Walk) (lines : List Line) :
    (w.relined φ).run (lines.map (Line.relined φ)) =
      ((w.run lines).1.relined φ, (w.run lines).2.map (Finding.relined φ)) := by
  induction lines generalizing w with
  | nil => rfl
  | cons l lines ih => simp only [List.map_cons, run, step_relined, ih, List.map_append]

theorem leftOpen_relined (w : Walk) : (w.relined φ).leftOpen = w.leftOpen.map (Finding.relined φ) := by
  unfold leftOpen relined
  rw [← List.map_reverse, List.filter_map, List.map_map, List.map_map]
  rfl

end Walk

/-- **Findings under other numbers** are the findings, under the other numbers. -/
theorem findings_relined (options : Options) (lines : List Line) :
    findings options (lines.map (Line.relined φ)) = (findings options lines).map (Finding.relined φ) := by
  have hrun := Walk.run_relined φ (Walk.start options) lines
  have hstart : (Walk.start options).relined φ = Walk.start options := rfl
  rw [hstart] at hrun
  unfold findings
  rw [hrun]
  dsimp only
  rw [Walk.leftOpen_relined, List.map_append]

end Rule.Indentation

end VixStyle
