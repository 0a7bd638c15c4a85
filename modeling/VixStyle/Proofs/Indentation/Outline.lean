/-
The outline of a source: the depth of every line of code, read off the tokens alone.

An `Outline` has the blocks that are open, each with the depth of its line and of the case that is being read in it; it
is told nothing of blanks, units and options. `depthIn` is the depth of the line that comes next, `Outline.checked` lists
the lines whose indentation counts with their depths.

`Shows stack opened` says that a stack of the walk has the blocks of an outline with their depths, a case standing on its
`match` as a frame of its own. A line keeps it, if the line is given its depth: `place_shows` for the place of the line,
`nested_shows` for its tokens. So a walk that finds nothing to report runs with the outline (`Follows`).
-/
import VixStyle.Proofs.Indentation.Matching

namespace VixStyle.Rule.Indentation

/-! ## The outline -/

/-- an open block with the depth of its line, and the depth of the case that is being read in it -/
structure Level where
  word : Keyword
  depth : Nat
  caseDepth : Option Nat
  deriving DecidableEq, Repr

/-- the depth of the innermost thing open: the case that is being read, or else the block -/
def Level.innermost (b : Level) : Nat := b.caseDepth.getD b.depth

/-- the depth of a line that starts with a lexeme -/
def depthIn (opened : List Level) (first : Lexeme) : Nat :=
  match opened with
  | [] => 0
  | b :: _ =>
    match first with
    | .keyword word =>
      if word = .end_ then b.depth
      else if word.isBranch then b.innermost
      else if word.isCase ∧ b.word = .match_ then b.depth + 1
      else b.innermost + 1
    | _ => b.innermost + 1

/-- a line that starts with a case of the innermost `match` starts to read that case -/
def startCase (depth : Nat) (first : Lexeme) : List Level → List Level
  | [] => []
  | b :: outer =>
    match first with
    | .keyword word => if word.isCase ∧ b.word = .match_ then { b with caseDepth := some depth } :: outer else b :: outer
    | _ => b :: outer

/-- the blocks that are open after a row of marks on a line -/
def openAfter (depth : Nat) (opened : List Level) : List Mark → List Level
  | [] => opened
  | .opens word _ :: more => openAfter depth (⟨word, depth, none⟩ :: opened) more
  | .closes _ :: more => openAfter depth opened.tail more

/-- what is open before a line, and whether the line goes on with an expression -/
structure Outline where
  opened : List Level
  brackets : Nat
  continues : Bool
  deriving DecidableEq, Repr

namespace Outline

/-- the outline before the first line -/
def start : Outline := ⟨[], 0, false⟩

/-- whether the indentation of the next line counts -/
def counts (o : Outline) : Bool := o.brackets == 0 && !o.continues

/-- the outline after a line -/
def next (o : Outline) (l : Line) : Outline :=
  match l.code with
  | [] => o
  | first :: _ =>
    let depth := depthIn o.opened first.lexeme
    ⟨openAfter depth (startCase depth first.lexeme o.opened) l.marks, (o.brackets + bracketBalance l.code).toNat,
      continuesOnNextLine l.code⟩

/-- a line with its depth, if it has code and its indentation counts -/
def entry? (o : Outline) (l : Line) : Option (Line × Nat) :=
  match l.code with
  | [] => none
  | first :: _ => if o.counts then some (l, depthIn o.opened first.lexeme) else none

/-- the lines whose indentation counts, with their depths -/
def checked (o : Outline) : List Line → List (Line × Nat)
  | [] => []
  | l :: more => (o.entry? l).toList ++ (o.next l).checked more

end Outline

/-! ## Stacks that show open blocks -/

/-- a stack has these blocks open -/
inductive Shows : List Frame → List Level → Prop
  | nil : Shows [] []
  | block {f : Frame} {stack : List Frame} {opened : List Level} (hf : f.word.isCase = false)
      (h : Shows stack opened) : Shows (f :: stack) (⟨f.word, f.depth, none⟩ :: opened)
  | case {c f : Frame} {stack : List Frame} {opened : List Level} (hc : c.word.isCase = true) (hf : f.word = .match_)
      (h : Shows stack opened) : Shows (c :: f :: stack) (⟨f.word, f.depth, some c.depth⟩ :: opened)

theorem closeBlock_shows {stack : List Frame} {opened : List Level} (h : Shows stack opened) :
    (closeBlock stack).1.map Frame.depth = opened.head?.map Level.depth ∧ Shows (closeBlock stack).2 opened.tail := by
  cases h with
  | nil => exact ⟨rfl, .nil⟩
  | block hf h => simpa [closeBlock, dropCase, hf] using h
  | case hc hf h => simpa [closeBlock, dropCase, hc] using h

theorem nest_shows (depth : Nat) {stack : List Frame} {opened : List Level} (h : Shows stack opened)
    {parts : List (Token × BlockPart)} (hparts : OpensBlocks parts) :
    Shows (nest depth stack parts).1 (openAfter depth opened (parts.filterMap Mark.of?)) := by
  induction parts generalizing stack opened with
  | nil => exact h
  | cons p parts ih =>
    obtain ⟨t, part⟩ := p
    have hlater : OpensBlocks parts := hparts.tail
    cases part with
    | opens word => exact ih (.block hparts.head h) hlater
    | closes =>
      simp only [nest, nestToken_closes]
      exact ih (closeBlock_shows h).2 hlater
    | inert => exact ih h hlater

/-- **The walk expects the depth of the outline.** -/
theorem place_shows {stack : List Frame} {opened : List Level} (h : Shows stack opened) (first : Lexeme) :
    (place stack first).expected = depthIn opened first := by
  cases first with
  | keyword word =>
    unfold place
    dsimp only
    split_ifs with hend hbranch hcase
    · cases h with
      | nil => rfl
      | block hf h => simp [Place.closing, closeBlock, dropCase, hf, depthIn, hend]
      | case hc hf h => simp [Place.closing, closeBlock, dropCase, hc, depthIn, hend]
    · cases h <;> simp [depthIn, hend, hbranch, Level.innermost]
    · cases h with
      | nil => rfl
      | block hf h => simp [Place.inside, dropCase, hf, depthIn, hend, hbranch, Level.innermost]
      | case hc hf h => simp [Place.inside, dropCase, hc, hf, hcase, depthIn, hend, hbranch]
    · cases h <;> simp [Place.inside, depthIn, hend, hbranch, hcase, Level.innermost]
  | _ => cases h <;> rfl

theorem startCase_of_not_case {first : Lexeme} (hfirst : ∀ word, first = .keyword word → word.isCase = false)
    (depth : Nat) (opened : List Level) : startCase depth first opened = opened := by
  cases opened with
  | nil => rfl
  | cons b outer =>
    cases first with
    | keyword word => simp [startCase, hfirst word rfl]
    | _ => rfl

theorem caseFrame?_of_not_case {first : Token} (hcase : ∀ word, first.lexeme = .keyword word → word.isCase = false)
    (p : Place) (depth : Nat) : caseFrame? p depth first = none := by
  cases h : caseFrame? p depth first with
  | none => rfl
  | some f =>
    obtain ⟨word, m, hword, hc, -⟩ := caseFrame?_eq_some h
    exact absurd hc (by simp [hcase word hword])

/-- a case that hangs on a block has a frame if the block is a `match` -/
theorem caseFrame?_inside {first : Token} {word : Keyword} (hword : first.lexeme = .keyword word)
    (hc : word.isCase = true) (f : Frame) (stack : List Frame) (depth : Nat) :
    caseFrame? (Place.inside (f :: stack)) depth first =
      if f.word = .match_ then some ⟨word, first.line, first.column, depth⟩ else none := by
  simp [caseFrame?, Place.inside, hword, hc]

/-- a line that starts with a case starts to read it if the innermost block is a `match` -/
theorem case_shows {stack : List Frame} {opened : List Level} (h : Shows stack opened) (depth : Nat) {first : Token}
    {word : Keyword} (hword : first.lexeme = .keyword word) (hc : word.isCase = true) :
    Shows ((caseFrame? (place stack first.lexeme) depth first).toList ++ (place stack first.lexeme).stack)
      (startCase depth first.lexeme opened) := by
  rw [show place stack first.lexeme = Place.inside (dropCase stack) by rw [hword, place_of_case hc], inside_stack]
  cases h with
  | nil => simpa [dropCase, Place.inside, caseFrame?, hword, startCase] using Shows.nil
  | @block f stack opened hf h =>
    have hdrop : dropCase (f :: stack) = f :: stack := by simp [dropCase, hf]
    rw [hdrop, caseFrame?_inside hword hc, hword]
    by_cases hm : f.word = .match_
    · rw [if_pos hm, startCase, if_pos ⟨hc, hm⟩]
      exact .case hc hm h
    · rw [if_neg hm, startCase, if_neg fun hboth => hm hboth.2]
      exact .block hf h
  | @case c f stack opened hc' hm h =>
    have hdrop : dropCase (c :: f :: stack) = f :: stack := by simp [dropCase, hc']
    rw [hdrop, caseFrame?_inside hword hc, hword, if_pos hm, startCase, if_pos ⟨hc, hm⟩]
    exact .case hc hm h

/-- **A line that has its depth keeps the stack to the outline.** -/
theorem nested_shows {stack : List Frame} {opened : List Level} (h : Shows stack opened) (depth : Nat) (first : Token)
    (rest : List Token) :
    Shows (nested (place stack first.lexeme) depth first rest).1
      (openAfter depth (startCase depth first.lexeme opened) (codeMarks first rest)) := by
  have hlater := opensBlocks_laterParts first rest
  have hall := opensBlocks_line first rest
  by_cases hend : first.lexeme = .keyword .end_
  · have hplace : (place stack first.lexeme).stack = (closeBlock stack).2 := by
      rw [hend, place_of_end, closing_stack]
    have hstart : startCase depth first.lexeme opened = opened :=
      startCase_of_not_case (fun word hword => by rw [hend] at hword; cases hword; rfl) depth opened
    simp only [nested, caseFrame?_of_end _ depth hend, if_pos hend, hplace, codeMarks_of_end rest hend, hstart, openAfter]
    exact nest_shows depth (closeBlock_shows h).2 hlater
  by_cases hcase : ∃ word, first.lexeme = .keyword word ∧ word.isCase = true
  · obtain ⟨word, hword, hc⟩ := hcase
    have hstart := case_shows h depth hword hc
    unfold nested
    cases hframe : caseFrame? (place stack first.lexeme) depth first with
    | none =>
      rw [hframe] at hstart
      simp only [if_neg hend]
      exact nest_shows depth hstart hall
    | some f =>
      rw [hframe] at hstart
      rw [codeMarks_of_case rest hword hc]
      exact nest_shows depth hstart hlater
  · have hnot : ∀ word, first.lexeme = .keyword word → word.isCase = false := fun word hword =>
      Bool.eq_false_iff.2 fun hc => hcase ⟨word, hword, hc⟩
    simp only [nested, caseFrame?_of_not_case hnot, if_neg hend, (place_of_other hend hnot stack).1,
      startCase_of_not_case hnot]
    exact nest_shows depth h hall

/-! ## The walk and the outline -/

/-- a walk runs with an outline -/
structure Follows (w : Walk) (o : Outline) : Prop where
  stack : Shows w.stack o.opened
  brackets : w.brackets = o.brackets
  continues : w.continues = o.continues

theorem follows_start (options : Options) : Follows (Walk.start options) Outline.start := ⟨.nil, rfl, rfl⟩

theorem Follows.counts {w : Walk} {o : Outline} (h : Follows w o) : w.measures = o.counts := by
  rw [Walk.measures, Outline.counts, h.brackets, h.continues]

theorem Follows.expected {w : Walk} {o : Outline} (h : Follows w o) (first : Token) :
    (w.placeOf first).expected = depthIn o.opened first.lexeme := place_shows h.stack first.lexeme

/-- a line without a fault sits where it belongs -/
theorem measure_level {unit : Option IndentUnit} {i : Indentation} {first : Lexeme} {column : Nat} {p : Place}
    (h : (measure unit i first column p).fault = none) :
    (measure unit i first column p).level = some p.expected := by
  unfold measure at h ⊢
  split at h
  · cases h
  · dsimp only at h ⊢
    split_ifs at h with hpos
    exact congrArg some (Nat.eq_zero_of_not_pos hpos).symm
  · dsimp only at h ⊢
    split_ifs at h ⊢ with htabs hrest hdepth
    exact congrArg some (not_not.1 hdepth)

theorem offOf_eq_nil_iff {w : Walk} {l : Line} {first : Token} :
    w.offOf l first = [] ↔ (w.measured l first (w.placeOf first)).fault = none := by
  simp [Walk.offOf]

/-- a line that nothing is found on has the depth of its place -/
theorem depthOf_of_off {w : Walk} {l : Line} {first : Token} (h : w.offOf l first = []) :
    w.depthOf l first = (w.placeOf first).expected := by
  rw [offOf_eq_nil_iff, Walk.measured] at h
  rw [Walk.depthOf, Walk.measured]
  split_ifs at h ⊢
  · rw [measure_level h]
    rfl
  · rfl

/-- **A line whose blanks are in order keeps the walk with the outline.** -/
theorem Follows.step {w : Walk} {o : Outline} (h : Follows w o) {l : Line} {first : Token} {rest : List Token}
    (hcode : l.code = first :: rest) (hoff : w.offOf l first = []) :
    Follows (w.stepCode l first rest).1 (o.next l) := by
  have hdepth : w.depthOf l first = depthIn o.opened first.lexeme := by rw [depthOf_of_off hoff, h.expected]
  have hnext : o.next l = ⟨openAfter (depthIn o.opened first.lexeme) (startCase (depthIn o.opened first.lexeme)
      first.lexeme o.opened) (codeMarks first rest), (o.brackets + bracketBalance (first :: rest)).toNat,
      continuesOnNextLine (first :: rest)⟩ := by
    simp only [Outline.next, hcode, marks_of_code hcode]
  rw [hnext, Walk.stepCode_eq, hdepth]
  exact ⟨nested_shows h.stack _ first rest, by rw [h.brackets], rfl⟩

end VixStyle.Rule.Indentation
