/-
Sets of code points written as runs: each run is an arithmetic progression from its first to its last member. The
tables of character properties beside this module are such sets; they list the code points from U+0080 up, and each
property states its ASCII part itself.
-/

namespace VixStyle.Text

/-- the code points `first`, `first + stride`, ... up to `last` -/
structure CodeRun where
  first : Nat
  last : Nat
  stride : Nat

/-- whether a code point is a member of the run -/
def CodeRun.holds (run : CodeRun) (code : Nat) : Bool :=
  run.first ≤ code && code ≤ run.last && (code - run.first) % run.stride == 0

/-- a set of code points, as a list of runs in ascending order -/
abbrev CodeTable := List CodeRun

/-- whether a character is in the set -/
def CodeTable.holds (table : CodeTable) (c : Char) : Bool :=
  table.any fun run => run.holds c.toNat

/-- whether a character is one of the 128 that ASCII numbers -/
def isAscii (c : Char) : Bool := c.toNat < 128

end VixStyle.Text
