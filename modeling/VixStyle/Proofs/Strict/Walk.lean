/-
The indentation walk with a stack whose top has to exist and a unit that has to have a width.

Main statement, `walk_eq`: the walk fails only if its unit cannot be made, and finds what the rule finds. The stack is
looked at only where something is on it, and a unit is as wide as the options say, which is at least one, or as the blanks
that it is read from, of which there are some (`measure_unit_pos`).
-/
import VixStyle.Proofs.Indentation.Silence
import VixStyle.Proofs.Strict.Row

namespace VixStyle.Strict

open Rule.Indentation

/-! ## The stack -/

/-- the frame on top of a stack -/
def top : List Frame → Except Failure Frame
  | [] => .error .emptyStack
  | f :: _ => .ok f

/-- a stack without the frame on its top -/
def pop : List Frame → Except Failure (List Frame)
  | [] => .error .emptyStack
  | _ :: more => .ok more

/-- take a case from the top of a stack -/
def dropCase (stack : List Frame) : Except Failure (List Frame) :=
  if stack.isEmpty then .ok stack
  else do
    let f ← top stack
    if f.word.isCase then pop stack else .ok stack

/-- close the innermost block, with the case that may stand on it -/
def closeBlock (stack : List Frame) : Except Failure (Option Frame × List Frame) := do
  let inner ← dropCase stack
  if inner.isEmpty then .ok (none, inner)
  else do
    let f ← top inner
    let more ← pop inner
    .ok (some f, more)

theorem dropCase_eq (stack : List Frame) : dropCase stack = .ok (Rule.Indentation.dropCase stack) := by
  cases stack with
  | nil => rfl
  | cons f more =>
    have htop : top (f :: more) = .ok f := rfl
    rw [dropCase, if_neg (by simp), htop, ok_bind, Rule.Indentation.dropCase]
    split <;> rfl

theorem closeBlock_eq (stack : List Frame) : closeBlock stack = .ok (Rule.Indentation.closeBlock stack) := by
  rw [closeBlock, dropCase_eq, ok_bind, Rule.Indentation.closeBlock]
  cases Rule.Indentation.dropCase stack <;> rfl

/-! ## The place of a line -/

/-- the place inside the innermost frame -/
def inside (stack : List Frame) : Except Failure Place :=
  if stack.isEmpty then .ok ⟨0, none, stack⟩
  else do
    let f ← top stack
    .ok ⟨f.depth + 1, some f, stack⟩

/-- the place of a line that starts with a lexeme -/
def place (stack : List Frame) (first : Lexeme) : Except Failure Place :=
  match first with
  | .keyword word =>
    if word = .end_ then do
      let closed ← closeBlock stack
      .ok (match closed.1 with
        | none => ⟨0, none, closed.2⟩
        | some f => ⟨f.depth, some f, closed.2⟩)
    else if word.isBranch then
      if stack.isEmpty then .ok ⟨0, none, stack⟩
      else do
        let f ← top stack
        .ok ⟨f.depth, some f, stack⟩
    else if word.isCase then do
      let outer ← dropCase stack
      inside outer
    else inside stack
  | _ => inside stack

theorem inside_eq (stack : List Frame) : inside stack = .ok (Place.inside stack) := by
  cases stack <;> rfl

/-- **The place of a line is found without a failure.** -/
theorem place_eq (stack : List Frame) (first : Lexeme) : place stack first = .ok (Rule.Indentation.place stack first) := by
  cases first with
  | keyword word =>
    simp only [place, Rule.Indentation.place, closeBlock_eq, dropCase_eq, inside_eq, ok_bind]
    split
    · unfold Place.closing
      cases Rule.Indentation.closeBlock stack with
      | mk closed rest => cases closed <;> rfl
    · split
      · cases stack <;> rfl
      · split <;> rfl
  | _ => exact inside_eq stack

/-! ## The measure of a line -/

/-- a quotient, of what has to be divided by more than zero -/
def quotient (a b : Nat) : Except Failure Nat := if b = 0 then .error .zeroDivision else .ok (a / b)

/-- the rest of a division, which has to be by more than zero -/
def remainder (a b : Nat) : Except Failure Nat := if b = 0 then .error .zeroDivision else .ok (a % b)

/-- compare the blanks before a line with its place -/
def measure (unit : Option IndentUnit) (indentation : Indentation) (first : Lexeme) (column : Nat) (p : Place) :
    Except Failure Measure :=
  match indentation.mix with
  | .mixed => .ok ⟨unit, none, some (1, .mixedBlanks)⟩
  | .none => .ok ⟨unit, some 0, if 0 < p.expected then some (column, depthFault first unit p 0) else none⟩
  | mix =>
    if decide (mix = .tabs) ≠ (unitAt unit indentation).usesTabs then
      .ok ⟨some (unitAt unit indentation), none, some (1, .wrongBlanks (mix = .tabs))⟩
    else do
      let rest ← remainder indentation.width (unitAt unit indentation).width
      if rest ≠ 0 then
        .ok ⟨some (unitAt unit indentation), none,
          some (column, .uneven indentation.width (unitAt unit indentation).width)⟩
      else do
        let actual ← quotient indentation.width (unitAt unit indentation).width
        .ok ⟨some (unitAt unit indentation), some actual,
          if actual ≠ p.expected then some (column, depthFault first (some (unitAt unit indentation)) p actual) else none⟩

section Unit

variable {unit : Option IndentUnit} (hunit : ∀ u ∈ unit, 0 < u.width)

include hunit

/-- **Measuring a line does not divide by zero.** -/
theorem measure_eq (i : Indentation) (first : Lexeme) (column : Nat) (p : Place) :
    measure unit i first column p = .ok (Rule.Indentation.measure unit i first column p) := by
  unfold measure Rule.Indentation.measure
  cases hmix : i.mix with
  | mixed => rfl
  | none => rfl
  | _ =>
    have hpos : (unitAt unit i).width ≠ 0 := (unitAt_pos hunit (blanks_ne_nil (by rw [hmix]; simp))).ne'
    have hat : unit.getD (.ofIndentation i) = unitAt unit i := rfl
    simp only [remainder, quotient, if_neg hpos, ok_bind, hat]
    split
    · rfl
    · split <;> rfl

end Unit

/-! ## The tokens of a line -/

/-- what one token does to the stack -/
def nestToken (depth : Nat) (t : Token) (part : BlockPart) (stack : List Frame) :
    Except Failure (List Frame × List Rule.Indentation.Finding) :=
  match part with
  | .opens word => .ok (⟨word, t.line, t.column, depth⟩ :: stack, [])
  | .closes => do
    let closed ← closeBlock stack
    .ok (closed.2, match closed.1 with
      | none => [⟨t.line, t.column, .strayEnd⟩]
      | some _ => [])
  | .inert => .ok (stack, [])

/-- what the tokens of a row do to the stack, from an index on -/
def nest (depth : Nat) (tokens : List Token) (i : Nat) (stack : List Frame) :
    Except Failure (List Frame × List Rule.Indentation.Finding) :=
  if _h : tokens.length ≤ i then .ok (stack, [])
  else do
    let t ← item tokens i
    let part ← blockPart tokens i
    let here ← nestToken depth t part stack
    let later ← nest depth tokens (i + 1) here.1
    .ok (later.1, here.2 ++ later.2)
termination_by tokens.length - i

theorem nestToken_eq (depth : Nat) (t : Token) (part : BlockPart) (stack : List Frame) :
    nestToken depth t part stack = .ok (Rule.Indentation.nestToken depth t part stack) := by
  cases part with
  | opens word => rfl
  | inert => rfl
  | closes =>
    rw [nestToken, closeBlock_eq, ok_bind, Rule.Indentation.nestToken]
    cases Rule.Indentation.closeBlock stack with
    | mk closed rest => cases closed <;> rfl

/-- **Nesting the tokens of a row never fails.** -/
theorem nest_append (depth : Nat) (front ts : List Token) (stack : List Frame) :
    nest depth (front ++ ts) front.length stack =
      .ok (Rule.Indentation.nest depth stack (ts.zip (partsBehind front ts))) := by
  induction ts generalizing front stack with
  | nil =>
    rw [nest, dif_pos (by simp)]
    rfl
  | cons t ts ih =>
    rw [nest, dif_neg (by simp), item_append, ok_bind, blockPart_append, ok_bind, nestToken_eq, ok_bind, partsBehind_cons,
      List.zip_cons_cons, Rule.Indentation.nest]
    have hnext := ih (front ++ [t]) (Rule.Indentation.nestToken depth t
      (VixStyle.blockPart front.getLast? (endsWithSemicolon (front ++ t :: ts)) t) stack).1
    rw [List.append_assoc, List.singleton_append, List.length_append, List.length_singleton] at hnext
    rw [hnext, ok_bind]

/-- what the tokens of a line do to the stack at its place -/
def nested (tokens : List Token) (p : Place) (depth : Nat) (first : Token) :
    Except Failure (List Frame × List Rule.Indentation.Finding) :=
  match caseFrame? p depth first with
  | some f => nest depth tokens 1 (f :: p.stack)
  | none => nest depth tokens (if first.lexeme = .keyword .end_ then 1 else 0) p.stack

theorem nested_eq (p : Place) (depth : Nat) (first : Token) (rest : List Token) :
    nested (first :: rest) p depth first = .ok (Rule.Indentation.nested p depth first rest) := by
  have hall : ∀ stack, nest depth (first :: rest) 0 stack =
      .ok (Rule.Indentation.nest depth stack ((first, firstPart first rest) :: laterParts first rest)) :=
    nest_append depth [] (first :: rest)
  have hlater : ∀ stack, nest depth (first :: rest) 1 stack =
      .ok (Rule.Indentation.nest depth stack (laterParts first rest)) :=
    nest_append depth [first] rest
  unfold nested Rule.Indentation.nested
  cases caseFrame? p depth first with
  | some f => exact hlater _
  | none =>
    dsimp only
    split
    · exact hlater _
    · exact hall _

/-! ## The walk -/

/-- whether a line of code goes on with its expression on the next line -/
def continuesOnNextLine (tokens : List Token) : Except Failure Bool :=
  if tokens.isEmpty then .ok false
  else do
    let final ← last tokens
    .ok (match final.lexeme with
      | .punctuation ',' => true
      | .operator op => op ≠ .arrow
      | _ => false)

theorem continuesOnNextLine_eq (tokens : List Token) :
    continuesOnNextLine tokens = .ok (VixStyle.continuesOnNextLine tokens) := by
  by_cases hne : tokens = []
  · subst hne
    rfl
  · rw [continuesOnNextLine, if_neg (by simpa using hne), last_of_ne_nil hne, ok_bind, VixStyle.continuesOnNextLine,
      List.getLast?_eq_some_getLast hne, Option.map_some]
    cases (tokens.getLast hne).lexeme with
    | punctuation mark => by_cases hmark : mark = ',' <;> simp [hmark]
    | _ => rfl

/-- the measure of a line, or none of it where indentation does not count -/
def measured (w : Walk) (l : Line) (first : Token) (p : Place) : Except Failure Measure :=
  if w.measures then measure w.unit l.indentation first.lexeme first.column p else .ok ⟨w.unit, none, none⟩

/-- one line -/
def step (w : Walk) (l : Line) : Except Failure (Walk × List Rule.Indentation.Finding) :=
  if l.code.isEmpty then .ok (w, [])
  else do
    let first ← item l.code 0
    let p ← place w.stack first.lexeme
    let m ← measured w l first p
    let inner ← nested l.code p (m.level.getD p.expected) first
    let continues ← continuesOnNextLine l.code
    let off := (m.fault.map fun (column, fault) => ⟨l.number, column, fault⟩).toList
    .ok (⟨m.unit, inner.1, (w.brackets + bracketBalance l.code).toNat, continues⟩, strayFirst p first ++ off ++ inner.2)

/-- all lines -/
def run (w : Walk) : List Line → Except Failure (Walk × List Rule.Indentation.Finding)
  | [] => .ok (w, [])
  | l :: more => do
    let here ← step w l
    let later ← run here.1 more
    .ok (later.1, here.2 ++ later.2)

/-- what the walk over some lines finds, with the unit that the options prescribe -/
def walk [Machine] (options : Options) (lines : List Line) : Except Failure (List Rule.Indentation.Finding) :=
  match options.unitFault? with
  | some fault => .error (.unit fault)
  | none => do
    let final ← run (Walk.start options) lines
    .ok (final.2 ++ final.1.leftOpen)

section Unit

variable {w : Walk} (hunit : ∀ u ∈ w.unit, 0 < u.width)

include hunit

theorem measured_eq (l : Line) (first : Token) (p : Place) : measured w l first p = .ok (w.measured l first p) ∧
    ∀ u ∈ (w.measured l first p).unit, 0 < u.width := by
  unfold measured Walk.measured
  split
  · exact ⟨measure_eq hunit _ _ _ _, measure_unit_pos hunit _ _ _ _⟩
  · exact ⟨rfl, hunit⟩

/-- **A line is stepped over without a failure**, and the unit keeps its width. -/
theorem step_eq (l : Line) : step w l = .ok (w.step l) ∧ ∀ u ∈ (w.step l).1.unit, 0 < u.width := by
  unfold step Walk.step
  cases l.code with
  | nil => exact ⟨rfl, hunit⟩
  | cons first rest =>
    have hfirst : item (first :: rest) 0 = .ok first := rfl
    obtain ⟨hmeasured, hwidth⟩ := measured_eq hunit l first (w.placeOf first)
    have hplace : place w.stack first.lexeme = .ok (w.placeOf first) := place_eq w.stack first.lexeme
    dsimp only
    rw [if_neg (by simp), hfirst, ok_bind, hplace, ok_bind, hmeasured, ok_bind, nested_eq, ok_bind,
      continuesOnNextLine_eq, ok_bind, Walk.stepCode_eq]
    exact ⟨rfl, hwidth⟩

omit hunit in
/-- **A walk over lines never fails** if its unit has a width. -/
theorem run_eq (hunit : ∀ u ∈ w.unit, 0 < u.width) (lines : List Line) : run w lines = .ok (w.run lines) := by
  induction lines generalizing w with
  | nil => rfl
  | cons l lines ih =>
    obtain ⟨hstep, hnext⟩ := step_eq hunit l
    rw [run, hstep, ok_bind, ih hnext, ok_bind]
    rfl

end Unit

/-- **The walk never fails**, unless its unit cannot be made. -/
theorem walk_eq [Machine] (options : Options) (lines : List Line) : walk options lines =
    match options.unitFault? with
    | some fault => .error (.unit fault)
    | none => .ok (Rule.Indentation.findings options lines) := by
  unfold walk
  cases options.unitFault? with
  | some fault => rfl
  | none =>
    dsimp only
    rw [run_eq (start_unit_pos options), ok_bind]
    rfl

end VixStyle.Strict
