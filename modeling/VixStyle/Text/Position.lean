/-
A place in a text: line and column, both counted from one. Columns count characters, so a tab is one column.
Positions are ordered by line, then by column.
-/

namespace VixStyle.Text

/-- a line and a column, each at least one -/
structure Position where
  line : Int
  column : Int
  line_pos : 1 ≤ line
  column_pos : 1 ≤ column

/-- why two numbers are no position -/
inductive PositionError where
  | belowOne
  deriving DecidableEq, Repr

def PositionError.message : PositionError → String
  | .belowOne => "TextPosition line and column are 1-based"

namespace Position

/-- the position at a line and column, if both are at least one -/
def of (line column : Int) : Except PositionError Position :=
  if h : 1 ≤ line ∧ 1 ≤ column then .ok ⟨line, column, h.1, h.2⟩ else .error .belowOne

/-- whether a position comes before another -/
def before (p q : Position) : Bool := p.line < q.line || (p.line == q.line && p.column < q.column)

/-- positions in ascending order -/
def sort (positions : List Position) : List Position :=
  positions.mergeSort fun p q => !q.before p

/-- the display of a position -/
def display (p : Position) : String := s!"TextPosition({p.line}, {p.column})"

end Position

end VixStyle.Text
