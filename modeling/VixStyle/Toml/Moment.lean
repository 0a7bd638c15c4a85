/-
TOML days, times of day and moments. A time needs its seconds; parts of a second beyond the microsecond are dropped.
-/
import VixStyle.Setting.Value

namespace VixStyle.Toml

open Setting

/-- a number of exactly two digits within bounds -/
def twoDigits? (low high : Nat) : List Char → Option (Nat × List Char)
  | a :: b :: rest =>
    let n := (a.toNat - 48) * 10 + (b.toNat - 48)
    if a.isDigit ∧ b.isDigit ∧ low ≤ n ∧ n ≤ high then some (n, rest) else none
  | _ => none

/-- the text after a given character -/
def after? (c : Char) : List Char → Option (List Char)
  | d :: rest => if c = d then some rest else none
  | [] => none

/-- year, month and day; whether the month has that day is not asked -/
def day? (s : List Char) : Option (Date × List Char) := do
  let (century, rest) ← twoDigits? 0 99 s
  let (year, rest) ← twoDigits? 0 99 rest
  let (month, rest) ← twoDigits? 1 12 (← after? '-' rest)
  let (day, rest) ← twoDigits? 1 31 (← after? '-' rest)
  return (⟨century * 100 + year, month, day⟩, rest)

/-- the microseconds of digits after a point -/
def micros (digits : List Char) : Nat :=
  ((digits ++ List.replicate 6 '0').take 6).foldl (fun total d => total * 10 + (d.toNat - 48)) 0

/-- a time of day -/
def time? (s : List Char) : Option (Time × List Char) := do
  let (hour, rest) ← twoDigits? 0 23 s
  let (minute, rest) ← twoDigits? 0 59 (← after? ':' rest)
  let (second, rest) ← twoDigits? 0 59 (← after? ':' rest)
  match rest with
  | '.' :: d :: more =>
    if d.isDigit then
      return (⟨hour, minute, second, micros ((d :: more).takeWhile Char.isDigit)⟩, (d :: more).dropWhile Char.isDigit)
    else return (⟨hour, minute, second, 0⟩, rest)
  | _ => return (⟨hour, minute, second, 0⟩, rest)

/-- a distance to universal time in minutes -/
def offset? : List Char → Option (Int × List Char)
  | c :: rest =>
    if c = 'Z' ∨ c = 'z' then some (0, rest)
    else if c = '+' ∨ c = '-' then do
      let (hour, rest) ← twoDigits? 0 23 rest
      let (minute, rest) ← twoDigits? 0 59 (← after? ':' rest)
      let size : Int := hour * 60 + minute
      return (if c = '-' then -size else size, rest)
    else none
  | [] => none

/-- the time of a moment after its day, with its distance to universal time -/
def timeOfMoment? : List Char → Option (Time × Option Int × List Char)
  | c :: rest =>
    if c = 'T' ∨ c = 't' ∨ c = ' ' then do
      let (time, rest) ← time? rest
      match offset? rest with
      | some (offset, after) => return (time, some offset, after)
      | none => return (time, none, rest)
    else none
  | [] => none

def isLeapYear (year : Nat) : Bool := year % 4 == 0 && (year % 100 != 0 || year % 400 == 0)

def daysIn (year month : Nat) : Nat :=
  if month = 2 then (if isLeapYear year then 29 else 28)
  else if month = 4 ∨ month = 6 ∨ month = 9 ∨ month = 11 then 30
  else 31

/-- whether a day exists; years are counted from one -/
def isRealDay (d : Date) : Bool := 1 ≤ d.year && d.day ≤ daysIn d.year d.month

/-- what comes of a text that may start with a day: no day there, a day that does not exist, or a value -/
inductive MomentResult where
  | noDay
  | noSuchDay
  | found (value : Value) (rest : List Char)

/-- a day or a moment -/
def moment (s : List Char) : MomentResult :=
  match day? s with
  | none => .noDay
  | some (day, rest) =>
    if !isRealDay day then .noSuchDay
    else match timeOfMoment? rest with
      | some (time, offset, after) => .found (.moment day time offset) after
      | none => .found (.day day) rest

end VixStyle.Toml
