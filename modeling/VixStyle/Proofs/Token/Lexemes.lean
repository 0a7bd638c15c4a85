/-
What is said of a row of tokens by its lexemes alone, whatever its string literals say.

The checks on brackets, operands, blocks and simple statements do not look where tokens stand, nor into string literals. Each
of them has a law here: it says the same of tokens that are moved by some function which keeps their lexemes, or puts a string
literal in the place of another (`Lexeme.Alike`). The laws follow the recursion of the functions, down to `classify?_map` and
`faults_map`, which tell simple statements and what is wrong with an `if`.
-/
import VixStyle.Rule.OneLineIf

namespace VixStyle

/-! ## Lexemes that are not told apart -/

/-- lexemes that are the same, or are string literals both -/
inductive Lexeme.Alike : Lexeme → Lexeme → Prop
  | same (l : Lexeme) : Alike l l
  | strings (written written' : List Char) : Alike (.stringLiteral written) (.stringLiteral written')

namespace Lexeme.Alike

/-- what is the same of all string literals is the same of lexemes that are alike -/
theorem congr {α : Sort u} {l l' : Lexeme} (h : l.Alike l') (g : Lexeme → α)
    (hg : ∀ written written', g (.stringLiteral written) = g (.stringLiteral written')) : g l = g l' := by
  cases h with
  | same => rfl
  | strings written written' => exact hg written written'

theorem eq_or_strings {l l' : Lexeme} (h : l.Alike l') :
    l = l' ∨ ∃ written written', l = .stringLiteral written ∧ l' = .stringLiteral written' := by
  cases h with
  | same => exact Or.inl rfl
  | strings written written' => exact Or.inr ⟨written, written', rfl, rfl⟩

/-- a lexeme that is no string literal is alike to itself only -/
theorem eq_iff {l l' m : Lexeme} (h : l.Alike l') (hm : ∀ written, m ≠ .stringLiteral written) : l = m ↔ l' = m := by
  cases h with
  | same => exact Iff.rfl
  | strings written written' => exact iff_of_false (hm written).symm (hm written').symm

end Lexeme.Alike

theorem any_map {f : Token → Token} {p : Token → Bool} (hp : ∀ t, p (f t) = p t) (ts : List Token) :
    (ts.map f).any p = ts.any p := by
  rw [List.any_map]
  congr 1
  funext t
  exact hp t

section Moved

variable {f : Token → Token} (hf : ∀ t, (f t).lexeme.Alike t.lexeme)

include hf

/-! ## Brackets and operands -/

theorem bracketStep_map (t : Token) : (f t).lexeme.bracketStep = t.lexeme.bracketStep :=
  (hf t).congr Lexeme.bracketStep fun _ _ => rfl

theorem bracketBalance_map (ts : List Token) : bracketBalance (ts.map f) = bracketBalance ts := by
  simp only [bracketBalance, List.foldr_map, bracketStep_map hf]

theorem endsOperand_map (t : Token) : (f t).lexeme.endsOperand = t.lexeme.endsOperand :=
  (hf t).congr Lexeme.endsOperand fun _ _ => rfl

theorem startsOperand_map (t : Token) : (f t).lexeme.startsOperand = t.lexeme.startsOperand :=
  (hf t).congr Lexeme.startsOperand fun _ _ => rfl

theorem isIdentifier_map (t : Token) : (f t).lexeme.isIdentifier = t.lexeme.isIdentifier :=
  (hf t).congr Lexeme.isIdentifier fun _ _ => rfl

theorem continuesOnNextLine_map (ts : List Token) : continuesOnNextLine (ts.map f) = continuesOnNextLine ts := by
  unfold continuesOnNextLine
  rw [List.getLast?_map]
  cases ts.getLast? with
  | none => rfl
  | some t =>
    simp only [Option.map_some]
    rcases (hf t).eq_or_strings with h | ⟨written, written', h, h'⟩
    · rw [h]
    · rw [h, h']

/-! ## Blocks -/

theorem endsWithSemicolon_map (ts : List Token) : endsWithSemicolon (ts.map f) = endsWithSemicolon ts := by
  unfold endsWithSemicolon
  rw [List.getLast?_map, Option.any_map]
  simp only [(hf _).eq_iff (m := .punctuation ';') nofun]

theorem blockPart_map (before : Option Token) (declares : Bool) (t : Token) :
    blockPart (before.map f) declares (f t) = blockPart before declares t := by
  have hbefore : (before.map f).any (fun b => b.lexeme = .keyword .else_) = before.any fun b => b.lexeme = .keyword .else_ := by
    rw [Option.any_map]
    simp only [(hf _).eq_iff (m := .keyword .else_) nofun]
  unfold blockPart
  rcases (hf t).eq_or_strings with h | ⟨written, written', h, h'⟩
  · rw [h, hbefore]
  · rw [h, h']

theorem blockPartsFrom_map (before : Option Token) (declares : Bool) (ts : List Token) :
    blockPartsFrom (before.map f) declares (ts.map f) = blockPartsFrom before declares ts := by
  induction ts generalizing before with
  | nil => rfl
  | cons t ts ih =>
    rw [List.map_cons, blockPartsFrom, blockPartsFrom, blockPart_map hf]
    exact congrArg _ (ih (some t))

theorem blockParts_map (ts : List Token) : blockParts (ts.map f) = blockParts ts := by
  unfold blockParts
  rw [endsWithSemicolon_map hf]
  exact blockPartsFrom_map hf none _ ts

/-! ## Simple statements -/

namespace Statement

theorem assignmentFrom?_map (depth : Int) (ts : List Token) :
    assignmentFrom? depth (ts.map f) = assignmentFrom? depth ts := by
  induction ts generalizing depth with
  | nil => rfl
  | cons t ts ih =>
    rcases (hf t).eq_or_strings with h | ⟨written, written', h, h'⟩
    · simp only [List.map_cons, assignmentFrom?, h, ih]
    · simp only [List.map_cons, assignmentFrom?, h, h', ih, Lexeme.bracketStep]

theorem hasAdjacentValues_map (ts : List Token) : hasAdjacentValues (ts.map f) = hasAdjacentValues ts := by
  induction ts with
  | nil => rfl
  | cons a ts ih =>
    cases ts with
    | nil => rfl
    | cons b ts =>
      rw [List.map_cons] at ih
      rw [List.map_cons, List.map_cons, hasAdjacentValues, hasAdjacentValues, endsOperand_map hf, startsOperand_map hf, ih]

theorem isStatementWord_map (t : Token) : isStatementWord (f t) = isStatementWord t :=
  (hf t).congr (fun l => isStatementWord ⟨l, 0, 0⟩) fun _ _ => rfl

theorem isExpression_map (ts : List Token) : isExpression (ts.map f) = isExpression ts := by
  unfold isExpression assignment?
  rw [List.isEmpty_map, bracketBalance_map hf, assignmentFrom?_map hf, any_map (isStatementWord_map hf),
    hasAdjacentValues_map hf]

theorem isBase_map (t : Token) : isBase (f t) = isBase t := (hf t).congr (fun l => isBase ⟨l, 0, 0⟩) fun _ _ => rfl

theorem isMark_map (mark : Char) (t : Token) : isMark mark (f t) = isMark mark t := by
  unfold isMark
  simp only [(hf t).eq_iff (m := .punctuation mark) nofun]

theorem isTargetTail_map (depth : Int) (ts : List Token) : isTargetTail depth (ts.map f) = isTargetTail depth ts := by
  induction ts generalizing depth with
  | nil => rfl
  | cons t ts ih => simp only [List.map_cons, isTargetTail, isTargetPart, isMark_map hf, isIdentifier_map hf, bracketStep_map hf, ih]

theorem isTarget_map (ts : List Token) : isTarget (ts.map f) = isTarget ts := by
  have hexpression := isExpression_map hf ts
  cases ts with
  | nil => rfl
  | cons t ts =>
    rw [List.map_cons] at hexpression ⊢
    rw [isTarget, isTarget, isBase_map hf, isTargetTail_map hf, hexpression]

theorem isCallChain_map (depth : Int) (called : Bool) (ts : List Token) :
    isCallChain depth called (ts.map f) = isCallChain depth called ts := by
  induction ts generalizing depth called with
  | nil => rfl
  | cons t ts ih => simp only [List.map_cons, isCallChain, isCallPart, isBase_map hf, isMark_map hf, bracketStep_map hf, ih]

theorem isCall_map (ts : List Token) : isCall (ts.map f) = isCall ts := by
  unfold isCall
  rw [List.head?_map, List.getLast?_map, Option.any_map, Option.any_map, isCallChain_map hf]
  simp only [isBase_map hf, isMark_map hf]

theorem withoutSemicolon_map (ts : List Token) : withoutSemicolon (ts.map f) = (withoutSemicolon ts).map f := by
  unfold withoutSemicolon
  rw [endsWithSemicolon_map hf, ← List.map_dropLast]
  split <;> rfl

theorem kindOf?_map (ts : List Token) : kindOf? (ts.map f) = kindOf? ts := by
  cases ts with
  | nil => rfl
  | cons t ts =>
    have hassignment := assignmentFrom?_map hf 0 (t :: ts)
    have hexpression := isExpression_map hf (t :: ts)
    have hcall := isCall_map hf (t :: ts)
    rw [List.map_cons] at hassignment hexpression hcall
    have htarget : ∀ index, isTarget ((f t :: ts.map f).take index) = isTarget ((t :: ts).take index) := fun index => by
      rw [← List.map_cons, ← List.map_take, isTarget_map hf]
    have hvalue : ∀ index, isExpression ((f t :: ts.map f).drop index) = isExpression ((t :: ts).drop index) :=
      fun index => by rw [← List.map_cons, ← List.map_drop, isExpression_map hf]
    rcases (hf t).eq_or_strings with h | ⟨written, written', h, h'⟩
    · simp only [List.map_cons, kindOf?, h, List.isEmpty_map, isExpression_map hf, assignment?, hassignment, hexpression,
        hcall, htarget, hvalue]
    · simp only [List.map_cons, kindOf?, h, h', assignment?, hassignment, hexpression, hcall, htarget, hvalue]

theorem opensBlockWord_map (t : Token) : opensBlockWord (f t) = opensBlockWord t :=
  (hf t).congr (fun l => opensBlockWord ⟨l, 0, 0⟩) fun _ _ => rfl

theorem classify?_map (ts : List Token) : classify? (ts.map f) = classify? ts := by
  unfold classify?
  dsimp only
  rw [withoutSemicolon_map hf, any_map (isMark_map hf ';'), any_map (opensBlockWord_map hf), kindOf?_map hf]

end Statement

/-! ## An `if` on one line -/

namespace Rule.OneLineIf

theorem isThen_map (t : Token) : isThen (f t) = isThen t := by
  unfold isThen
  simp only [(hf t).eq_iff (m := .keyword .then_) nofun]

theorem isBranchWord_map (t : Token) : isBranchWord (f t) = isBranchWord t :=
  (hf t).congr (fun l => isBranchWord ⟨l, 0, 0⟩) fun _ _ => rfl

theorem bodyFault?_map (options : Options) (body : List Token) : bodyFault? options (body.map f) = bodyFault? options body := by
  unfold bodyFault?
  rw [List.isEmpty_map, any_map (isBranchWord_map hf), Statement.classify?_map hf]

theorem afterThen?_map (ts : List Token) : afterThen? (ts.map f) = (afterThen? ts).map (List.map f) := by
  unfold afterThen?
  have hdrop : (ts.map f).dropWhile (fun t => !isThen t) = (ts.dropWhile fun t => !isThen t).map f := by
    rw [List.dropWhile_map]
    simp only [Function.comp_def, isThen_map hf]
  rw [hdrop]
  cases ts.dropWhile fun t => !isThen t <;> rfl

theorem fault?_map (options : Options) (rest : List Token) (length : Option Nat) :
    fault? options (rest.map f) length = fault? options rest length := by
  unfold fault?
  cases length with
  | none =>
    dsimp only
    rw [afterThen?_map hf, Option.any_map]
    simp only [List.isEmpty_map]
  | some length =>
    dsimp only
    rw [← List.map_take, afterThen?_map hf]
    cases afterThen? (rest.take length) with
    | none => rfl
    | some body => exact bodyFault?_map hf options body

/-- what is wrong with the `if`s of a row that is moved -/
theorem faults_map (options : Options) (ts : List Token) (parts : List BlockPart) :
    faults options (ts.map f) parts = (faults options ts parts).map fun (t, fault) => (f t, fault) := by
  induction ts generalizing parts with
  | nil => rfl
  | cons t ts ih =>
    cases parts with
    | nil => rfl
    | cons part parts =>
      rw [List.map_cons, faults, faults, fault?_map hf, ih, List.map_append]
      congr 1
      split
      · cases fault? options ts (BlockPart.closingOffset? 1 parts) <;> rfl
      · rfl

end Rule.OneLineIf

end Moved

end VixStyle
