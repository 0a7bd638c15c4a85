/-
The limits within which settings are read and shown: whole numbers in decimal digits are not longer than a number of
digits, and values do not nest deeper than there is room for. Reading takes more room for each level than showing.
-/
import VixStyle.Machine
import VixStyle.Setting.Value
import VixStyle.Text.Whole

namespace VixStyle.Setting

/-- a limit that a setting goes beyond -/
inductive Limit where
  | digitsRead (count : Nat)
  | digitsShown
  | depthRead
  | depthShown
  deriving DecidableEq, Repr

namespace Limit

/-- what is said of too many digits, with their number if it is known -/
def digitsMessage (count : Option Nat) : String :=
  s!"Exceeds the limit ({Text.mostDigits} digits) for integer string conversion" ++
    (match count with
      | some n => s!": value has {n} digits"
      | none => "") ++
    "; use sys.set_int_max_str_digits() to increase the limit"

def message : Limit → String
  | digitsRead count => digitsMessage (some count)
  | digitsShown => digitsMessage none
  | depthRead => "maximum recursion depth exceeded"
  | depthShown => "maximum recursion depth exceeded while getting the repr of an object"

/-- whether a number is at fault, and not how deep values nest -/
def ofNumber : Limit → Bool
  | digitsRead _ | digitsShown => true
  | depthRead | depthShown => false

end Limit

/-! ## showing -/

/-- the least number with too many digits -/
def leastTooLong : Nat := Decimal.tenTo Text.mostDigits

/-- whether a number has few enough digits -/
def isShowable (n : Int) : Bool := n.natAbs < leastTooLong

namespace Value

mutual

/-- the first limit that keeps a value from being shown in some room -/
def limitIn? : Nat → Value → Option Limit
  | 0, _ => some .depthShown
  | _ + 1, int n => if isShowable n then none else some .digitsShown
  | room + 1, list items => limitInItems? room items
  | room + 1, table members => limitInMembers? room members
  | _ + 1, _ => none

/-- the first limit among the items of a list -/
def limitInItems? (room : Nat) : List Value → Option Limit
  | [] => none
  | item :: more => (limitIn? room item).or (limitInItems? room more)

/-- the first limit among the members of a table -/
def limitInMembers? (room : Nat) : List (String × Value) → Option Limit
  | [] => none
  | (_, value) :: more => (limitIn? room value).or (limitInMembers? room more)

end

/-- why a value cannot be shown, if so, at a place that is deeper in the program than where settings are looked at -/
def limit? [Machine] (v : Value) (deeper : Nat := 0) : Option Limit := limitIn? (Machine.roomToShow - deeper) v

end Value

/-- a value that is shown, and how much deeper than where settings are looked at -/
structure Shown where
  value : Value
  deeper : Nat := 0

/-- why it cannot be shown, if so -/
def Shown.limit? [Machine] (s : Shown) : Option Limit := s.value.limit? s.deeper

end VixStyle.Setting
