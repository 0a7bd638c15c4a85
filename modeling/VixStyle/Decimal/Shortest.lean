/-
The shortest decimal text of a binary fraction: the fewest digits that are rounded back to it, and of those the ones
nearest to it.

A decimal number is rounded back to a fraction exactly if it lies between the midpoints to the fraction's neighbours; the
midpoints themselves belong if the mantissa is even. On the grid of decimals with a given number of digits only the two
grid points around the fraction can be nearest, so these two are tried on finer and finer grids.
-/
import VixStyle.Decimal.Binary

namespace VixStyle.Decimal

/-- digits `d` at the place of `10 ^ power` -/
structure Digits where
  digits : Nat
  power : Int
  deriving DecidableEq, Repr

namespace Shortest

/-- a positive quotient -/
structure Quotient where
  num : Nat
  den : Nat

def Quotient.le (a b : Quotient) : Bool := a.num * b.den ≤ b.num * a.den

def Quotient.lt (a b : Quotient) : Bool := a.num * b.den < b.num * a.den

/-- `n * 2 ^ exponent` -/
def binary (n : Nat) (exponent : Int) : Quotient :=
  if 0 ≤ exponent then ⟨n * twoTo exponent.toNat, 1⟩ else ⟨n, twoTo (-exponent).toNat⟩

/-- `n * 10 ^ power` -/
def decimal (n : Nat) (power : Int) : Quotient :=
  if 0 ≤ power then ⟨n * tenTo power.toNat, 1⟩ else ⟨n, tenTo (-power).toNat⟩

/-- the distance of two quotients -/
def distance (a b : Quotient) : Quotient :=
  ⟨(a.num * b.den - b.num * a.den) + (b.num * a.den - a.num * b.den), a.den * b.den⟩

/-- whether a decimal is rounded back to `mantissa * 2 ^ exponent`; the neighbour below a power of two is nearer -/
def readsBack (mantissa : Nat) (exponent : Int) (q : Quotient) : Bool :=
  let low :=
    if mantissa = twoTo (Binary.precision - 1) ∧ exponent ≠ Binary.leastExponent then
      binary (4 * mantissa - 1) (exponent - 2)
    else binary (2 * mantissa - 1) (exponent - 1)
  let high := binary (2 * mantissa + 1) (exponent - 1)
  if mantissa % 2 = 0 then low.le q && q.le high else low.lt q && q.lt high

/-- the multiple of `10 ^ power` at or below a quotient -/
def gridFloor (q : Quotient) (power : Int) : Nat :=
  if 0 ≤ power then q.num / (q.den * tenTo power.toNat) else q.num * tenTo (-power).toNat / q.den

/-- the nearer of two grid points of which one or both read back -/
def pick (value : Quotient) (power : Int) (below : Nat) (belowReads aboveReads : Bool) : Option Digits :=
  let nearBelow := distance value (decimal below power)
  let nearAbove := distance value (decimal (below + 1) power)
  match belowReads, aboveReads with
  | false, false => none
  | true, false => some ⟨below, power⟩
  | false, true => some ⟨below + 1, power⟩
  | true, true =>
    if nearBelow.lt nearAbove ∨ (¬ nearAbove.lt nearBelow ∧ below % 2 = 0) then some ⟨below, power⟩
    else some ⟨below + 1, power⟩

/-- the digits on the first grid with a hit; each grid is ten times finer than the one before -/
def search (mantissa : Nat) (exponent : Int) (value : Quotient) : Nat → Int → Digits
  | 0, power => ⟨gridFloor value power, power⟩
  | tries + 1, power =>
    let below := gridFloor value power
    let reads := fun n => 0 < n && readsBack mantissa exponent (decimal n power)
    match pick value power below (reads below) (reads (below + 1)) with
    | some digits => digits
    | none => search mantissa exponent value tries (power - 1)

/-- digits without the zeros at their end -/
def trim (digits : Nat) (power : Int) : Nat → Digits
  | 0 => ⟨digits, power⟩
  | fuel + 1 => if digits % 10 = 0 ∧ digits ≠ 0 then trim (digits / 10) (power + 1) fuel else ⟨digits, power⟩

/-- the power of ten that starts the search: a grid with at most one digit below the value -/
def startPower (value : Quotient) : Int :=
  if value.den ≤ value.num then (Nat.toDigits 10 (value.num / value.den)).length
  else -((Nat.toDigits 10 (value.den / value.num)).length : Int)

end Shortest

open Shortest in
/-- the shortest digits of a positive binary fraction -/
def shortest (mantissa : Nat) (exponent : Int) : Digits :=
  let value := binary mantissa exponent
  let found := search mantissa exponent value 20 (startPower value)
  trim found.digits found.power 20

/--
the text of a fraction: its shortest digits, with a point and at least one digit on each side of it if the point falls
between three zeros after the point and the sixteenth digit before it, and with an exponent of at least two digits
otherwise
-/
def Binary.display : Binary → String
  | .undefined => "nan"
  | .infinite negative => if negative then "-inf" else "inf"
  | .finite negative mantissa exponent =>
    let sign := if negative then "-" else ""
    if mantissa = 0 then sign ++ "0.0"
    else
      let d := shortest mantissa exponent
      let text := Nat.toDigits 10 d.digits
      let point : Int := text.length + d.power
      let zeros := fun n : Int => List.replicate n.toNat '0'
      let body :=
        if -4 < point ∧ point ≤ 16 then
          if point ≤ 0 then "0.".toList ++ zeros (-point) ++ text
          else if text.length ≤ point then text ++ zeros (point - text.length) ++ ".0".toList
          else text.take point.toNat ++ '.' :: text.drop point.toNat
        else
          let power := point - 1
          let size := Nat.toDigits 10 power.natAbs
          text.take 1 ++ (if text.length = 1 then [] else '.' :: text.drop 1) ++
            'e' :: (if power < 0 then '-' else '+') :: (List.replicate (2 - size.length) '0' ++ size)
      sign ++ String.ofList body

end VixStyle.Decimal
