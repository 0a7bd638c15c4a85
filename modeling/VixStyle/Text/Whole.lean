/-
Whole numbers as people write them: white space around, an optional sign, decimal digits of any script, single
underscores between digits.
-/
import VixStyle.Text.Space

namespace VixStyle.Text

/-- the greatest number of digits that is read -/
def mostDigits : Nat := 4300

/-- white space that may stand around a number; the information separators may not -/
def isNumberSpace (c : Char) : Bool := isSpace c && !(28 ≤ c.toNat && c.toNat ≤ 31)

/-- the values of digits that follow a digit -/
def laterDigits? : List Char → Option (List Nat)
  | [] => some []
  | '_' :: d :: rest => do return (← decimalValue? d) :: (← laterDigits? rest)
  | d :: rest => do return (← decimalValue? d) :: (← laterDigits? rest)

/-- the number that digits write -/
def unsigned? : List Char → Option Nat
  | [] => none
  | d :: rest => do
    let digits := (← decimalValue? d) :: (← laterDigits? rest)
    if digits.length ≤ mostDigits then some (digits.foldl (fun total d => 10 * total + d) 0) else none

/-- the whole number that a text writes -/
def whole? (s : List Char) : Option Int :=
  let trimmed := ((s.dropWhile isNumberSpace).reverse.dropWhile isNumberSpace).reverse
  match trimmed with
  | '-' :: rest => (unsigned? rest).map fun n => -(n : Int)
  | '+' :: rest => (unsigned? rest).map fun n => (n : Int)
  | s => (unsigned? s).map fun n => (n : Int)

end VixStyle.Text
