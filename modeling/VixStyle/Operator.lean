/-
The operators of Vix: eleven of two characters and fourteen of one. A two-character operator wins over its first
character.
-/

namespace VixStyle

/-- an operator -/
inductive Operator where
  | equals | unequal | atMost | atLeast | addAssign | subAssign | mulAssign | divAssign | arrow | andAlso | orElse
  | assign | add | sub | mul | div | percent | less | greater | bang | ampersand | bar | caret | tilde | question
  deriving DecidableEq, Repr

namespace Operator

/-- the characters of an operator -/
def text : Operator → List Char
  | equals => ['=', '='] | unequal => ['!', '='] | atMost => ['<', '='] | atLeast => ['>', '=']
  | addAssign => ['+', '='] | subAssign => ['-', '='] | mulAssign => ['*', '='] | divAssign => ['/', '=']
  | arrow => ['-', '>'] | andAlso => ['&', '&'] | orElse => ['|', '|']
  | assign => ['='] | add => ['+'] | sub => ['-'] | mul => ['*'] | div => ['/'] | percent => ['%'] | less => ['<']
  | greater => ['>'] | bang => ['!'] | ampersand => ['&'] | bar => ['|'] | caret => ['^'] | tilde => ['~']
  | question => ['?']

/-- the operator of two characters -/
def ofPair? : Char → Char → Option Operator
  | '=', '=' => some equals
  | '!', '=' => some unequal
  | '<', '=' => some atMost
  | '>', '=' => some atLeast
  | '+', '=' => some addAssign
  | '-', '=' => some subAssign
  | '*', '=' => some mulAssign
  | '/', '=' => some divAssign
  | '-', '>' => some arrow
  | '&', '&' => some andAlso
  | '|', '|' => some orElse
  | _, _ => none

/-- the operator of one character -/
def ofChar? : Char → Option Operator
  | '=' => some assign
  | '+' => some add
  | '-' => some sub
  | '*' => some mul
  | '/' => some div
  | '%' => some percent
  | '<' => some less
  | '>' => some greater
  | '!' => some bang
  | '&' => some ampersand
  | '|' => some bar
  | '^' => some caret
  | '~' => some tilde
  | '?' => some question
  | _ => none

theorem text_of_ofPair? {a b : Char} {op : Operator} (h : ofPair? a b = some op) : op.text = [a, b] := by
  unfold ofPair? at h
  split at h <;> simp_all <;> subst h <;> rfl

theorem text_of_ofChar? {c : Char} {op : Operator} (h : ofChar? c = some op) : op.text = [c] := by
  unfold ofChar? at h
  split at h <;> simp_all <;> subst h <;> rfl

theorem ofPair?_eq_some_iff {a b : Char} {op : Operator} : ofPair? a b = some op ↔ op.text = [a, b] := by
  refine ⟨text_of_ofPair?, fun h => ?_⟩
  cases op <;> simp only [text, List.cons.injEq, and_true, reduceCtorEq, and_false] at h <;>
    obtain ⟨rfl, rfl⟩ := h <;> rfl

theorem ofChar?_eq_some_iff {c : Char} {op : Operator} : ofChar? c = some op ↔ op.text = [c] := by
  refine ⟨text_of_ofChar?, fun h => ?_⟩
  cases op <;> simp only [text, List.cons.injEq, and_true, reduceCtorEq, and_false] at h <;> subst h <;> rfl

/-- an operator that stores into its left side -/
def isAssignment : Operator → Bool
  | assign | addAssign | subAssign | mulAssign | divAssign => true
  | _ => false

/-- an operator that takes one space on each side when it stands between two operands -/
def isSpaced : Operator → Bool
  | assign | add | sub | mul | div | equals | unequal | atLeast | atMost | greater | less | addAssign | subAssign
  | mulAssign | divAssign => true
  | _ => false

/-- an operator that may stand before a single operand, as a sign, a negation or a pointer mark -/
def isSign : Operator → Bool
  | sub | add | mul | bang | tilde | ampersand => true
  | _ => false

end Operator

end VixStyle
