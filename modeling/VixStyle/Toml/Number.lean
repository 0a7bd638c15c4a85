/-
TOML numbers: whole numbers in four bases, and fractions. Single underscores may stand between digits.
-/
import VixStyle.Decimal.Binary
import VixStyle.Text.Whole

namespace VixStyle.Toml

/-- further digits of a run; an underscore belongs to it only before a digit -/
def moreDigits (isDigit : Char → Bool) : List Char → List Char × List Char
  | [] => ([], [])
  | '_' :: d :: rest =>
    if isDigit d then
      let (run, after) := moreDigits isDigit rest
      (d :: run, after)
    else ([], '_' :: d :: rest)
  | d :: rest =>
    if isDigit d then
      let (run, after) := moreDigits isDigit rest
      (d :: run, after)
    else ([], d :: rest)

/-- a run of at least one digit, without its underscores -/
def digits? (isDigit : Char → Bool) : List Char → Option (List Char × List Char)
  | d :: rest => if isDigit d then some (moreDigits isDigit (d :: rest)) else none
  | [] => none

/-- the number that digits of a base write -/
def valueOf (base : Nat) (digits : List Char) : Nat :=
  digits.foldl (fun total d => total * base + (if d.isDigit then d.toNat - 48 else d.toLower.toNat - 87)) 0

def isHex (c : Char) : Bool := c.isDigit || ('a' ≤ c.toLower && c.toLower ≤ 'f')

def isOctal (c : Char) : Bool := '0' ≤ c && c ≤ '7'

def isBit (c : Char) : Bool := c == '0' || c == '1'

/-- a whole number in base sixteen, two or eight -/
def based? : List Char → Option (Nat × List Char)
  | '0' :: 'x' :: rest => (digits? isHex rest).map fun (run, after) => (valueOf 16 run, after)
  | '0' :: 'b' :: rest => (digits? isBit rest).map fun (run, after) => (valueOf 2 run, after)
  | '0' :: 'o' :: rest => (digits? isOctal rest).map fun (run, after) => (valueOf 8 run, after)
  | _ => none

/-- an optional sign; true for minus -/
def sign : List Char → Bool × List Char
  | '-' :: rest => (true, rest)
  | '+' :: rest => (false, rest)
  | s => (false, s)

/-- the whole part of a decimal number: a zero alone or digits that do not start with one -/
def wholePart? : List Char → Option (List Char × List Char)
  | '0' :: rest => some (['0'], rest)
  | s => digits? Char.isDigit s

/-- the digits after a point, if a point and a digit come next -/
def fraction? : List Char → Option (List Char × List Char)
  | '.' :: rest => digits? Char.isDigit rest
  | _ => none

/-- a power of ten, if one comes next -/
def power? : List Char → Option (Int × List Char)
  | e :: rest =>
    if e = 'e' ∨ e = 'E' then
      let (negative, rest) := sign rest
      (digits? Char.isDigit rest).map fun (run, after) =>
        let size : Int := valueOf 10 run
        (if negative then -size else size, after)
    else none
  | [] => none

/-- a number: whole if it has neither fraction nor power, and then not of too many decimal digits -/
inductive Number where
  | whole (n : Int)
  | real (x : Decimal.Binary)
  | tooLong (digits : Nat)
  deriving DecidableEq, Repr

/-- a decimal number -/
def decimal? (s : List Char) : Option (Number × List Char) := do
  let (negative, rest) := sign s
  let (whole, rest) ← wholePart? rest
  let (fraction, afterFraction) := (fraction? rest).getD ([], rest)
  let (power, after) := (power? afterFraction).getD (0, afterFraction)
  if after.length = rest.length then
    if Text.mostDigits < whole.length then return (.tooLong whole.length, after)
    let n : Int := valueOf 10 whole
    return (.whole (if negative then -n else n), after)
  else
    return (.real (.ofDecimal negative (valueOf 10 (whole ++ fraction)) (power - fraction.length)), after)

/-- an infinity or an undefined number, with an optional sign -/
def special? (s : List Char) : Option (Number × List Char) :=
  let (negative, rest) := sign s
  match rest with
  | 'i' :: 'n' :: 'f' :: after => some (.real (.infinite negative), after)
  | 'n' :: 'a' :: 'n' :: after => some (.real .undefined, after)
  | _ => none

/-- a number of any form -/
def number? (s : List Char) : Option (Number × List Char) :=
  match based? s with
  | some (n, after) => some (.whole n, after)
  | none => (decimal? s).or (special? s)

end VixStyle.Toml
