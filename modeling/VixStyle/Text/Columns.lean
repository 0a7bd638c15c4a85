/-
Numbers and words set in columns of a fixed width.
-/

namespace VixStyle.Text

/-- a text filled up with spaces on its right -/
def padRight (width : Nat) (s : String) : String :=
  s ++ String.ofList (List.replicate (width - s.length) ' ')

/-- a number filled up with zeros on its left; the sign stays in front -/
def padZeros (width : Nat) (n : Int) : String :=
  let digits := toString n.natAbs
  let sign := if n < 0 then "-" else ""
  sign ++ String.ofList (List.replicate (width - sign.length - digits.length) '0') ++ digits

end VixStyle.Text
