/-
Operands and operators: which tokens can end or start a value, where an operator stands between two values, and when a
line leaves its expression unfinished.
-/
import VixStyle.Bracket

namespace VixStyle

namespace Lexeme

/-- a lexeme that is a value by itself -/
def isValue : Lexeme → Bool
  | identifier _ | number _ | stringLiteral _ => true
  | keyword word => word.isValue
  | _ => false

/-- a lexeme that can be the last of a value -/
def endsOperand (l : Lexeme) : Bool := l.isValue || l.isClosingBracket

/-- a lexeme that can be the first of a value -/
def startsOperand (l : Lexeme) : Bool := l.isValue

/-- a lexeme that may stand before a single operand -/
def isSign : Lexeme → Bool
  | operator op => op.isSign
  | _ => false

end Lexeme

/-- whether there is a token and it can end a value -/
def endsOperand (t : Option Token) : Bool := t.any fun t => t.lexeme.endsOperand

/-- whether there is a token and it can start a value -/
def startsOperand (t : Option Token) : Bool := t.any fun t => t.lexeme.startsOperand

/--
whether `t`, after the token before it on its line, stands between two operands; at the start of a line it goes on with
the expression of the line before, unless it can be a sign
-/
def isBinaryAfter (before : Option Token) (t : Token) : Bool :=
  match before with
  | some _ => endsOperand before
  | none => !t.lexeme.isSign

/-- whether a line of code goes on with its expression on the next line -/
def continuesOnNextLine (tokens : List Token) : Bool :=
  match tokens.getLast?.map Token.lexeme with
  | some (.punctuation ',') => true
  | some (.operator op) => op ≠ .arrow
  | _ => false

/-- each token of a row with the token before it -/
def withPrevious {α : Type} (before : Option α) : List α → List (Option α × α)
  | [] => []
  | x :: rest => (before, x) :: withPrevious (some x) rest

theorem getElem?_withPrevious {α : Type} (before : Option α) (xs : List α) (i : Nat) :
    (withPrevious before xs)[i]? = xs[i]?.map fun x => (if i = 0 then before else xs[i - 1]?, x) := by
  induction xs generalizing before i with
  | nil => rfl
  | cons x xs ih =>
    cases i with
    | zero => rfl
    | succ i =>
      rw [withPrevious, List.getElem?_cons_succ, List.getElem?_cons_succ, ih]
      cases i <;> rfl

end VixStyle
