/-
Binary fractions of 53 bits: rounding a decimal number to the nearest one, a half going to the even neighbour. All
arithmetic is on natural numbers, so nothing here depends on how a machine computes with fractions.
-/

namespace VixStyle.Decimal

/-- a binary fraction: `mantissa * 2 ^ exponent` with a sign, an infinity, or no number at all -/
inductive Binary where
  | finite (negative : Bool) (mantissa : Nat) (exponent : Int)
  | infinite (negative : Bool)
  | undefined
  deriving DecidableEq, Repr

/-- a power of two -/
def twoTo (n : Nat) : Nat := Nat.pow 2 n

/-- a power of ten -/
def tenTo (n : Nat) : Nat := Nat.pow 10 n

namespace Binary

/-- the number of bits of a mantissa -/
def precision : Nat := 53

/-- the least exponent -/
def leastExponent : Int := -1074

/-- the greatest exponent -/
def greatestExponent : Int := 971

/-- a quotient rounded to the nearest whole number, a half to the even one -/
def divideToEven (num den : Nat) : Nat :=
  let whole := num / den
  let rest := num % den
  if 2 * rest < den then whole
  else if den < 2 * rest then whole + 1
  else whole + whole % 2

/-- a quotient divided by a power of two, as a quotient -/
def scaleDown (num den : Nat) (exponent : Int) : Nat × Nat :=
  if 0 ≤ exponent then (num, den * twoTo exponent.toNat) else (num * twoTo (-exponent).toNat, den)

/-- the exponent that gives a positive quotient a mantissa of full length, unless that is below the least one -/
def exponentFor (num den : Nat) : Int :=
  let guess : Int := (Nat.log2 num : Int) - Nat.log2 den - precision
  let (n, d) := scaleDown num den guess
  max leastExponent (if n / d < twoTo precision then guess else guess + 1)

/-- a positive quotient rounded to a binary fraction -/
def ofQuotient (negative : Bool) (num den : Nat) : Binary :=
  let exponent := exponentFor num den
  let (n, d) := scaleDown num den exponent
  let mantissa := divideToEven n d
  let carried := mantissa = twoTo precision
  let mantissa := if carried then twoTo (precision - 1) else mantissa
  let exponent := if carried then exponent + 1 else exponent
  if greatestExponent < exponent then infinite negative else finite negative mantissa exponent

/-- the decimal number `digits * 10 ^ power` rounded to a binary fraction -/
def ofDecimal (negative : Bool) (digits : Nat) (power : Int) : Binary :=
  let length : Int := (Nat.toDigits 10 digits).length + power
  if digits = 0 ∨ length < -330 then finite negative 0 leastExponent
  else if 310 < length then infinite negative
  else if 0 ≤ power then ofQuotient negative (digits * tenTo power.toNat) 1
  else ofQuotient negative digits (tenTo (-power).toNat)

end Binary

end VixStyle.Decimal
