/-
Opens and closes of blocks in the order of a source, and how they match: an `end` closes the block that was opened last
and is still open.

`Line.marks` are the opens and closes among the code tokens of a line, `marksOf` those of a source. `Mark.lifo` matches
them; `strayEnds` and `openBlocks` are what it leaves. Only the marks matter: not the depth of a line, not brackets, not
cases or branches.
-/
import VixStyle.Block
import VixStyle.Line

namespace VixStyle

/-- there is a part for each token -/
theorem length_blockPartsFrom (before : Option Token) (declares : Bool) (ts : List Token) :
    (blockPartsFrom before declares ts).length = ts.length := by
  induction ts generalizing before with
  | nil => rfl
  | cons t ts ih => simp only [blockPartsFrom, List.length_cons, ih]

theorem length_blockParts (ts : List Token) : (blockParts ts).length = ts.length :=
  length_blockPartsFrom none (endsWithSemicolon ts) ts

namespace BlockPart

/-- the `end` that closes a block is one of the parts -/
theorem closingOffset?_lt {depth : Int} {parts : List BlockPart} {n : Nat}
    (h : closingOffset? depth parts = some n) : n < parts.length := by
  induction parts generalizing depth n with
  | nil => cases h
  | cons part parts ih =>
    have hlater : ∀ depth : Int, (closingOffset? depth parts).map (· + 1) = some n →
        n < (part :: parts).length := by
      intro depth h
      obtain ⟨m, hm, rfl⟩ := Option.map_eq_some_iff.1 h
      exact Nat.succ_lt_succ (ih hm)
    cases part with
    | opens word => exact hlater _ h
    | inert => exact hlater _ h
    | closes =>
      rw [closingOffset?] at h
      split at h
      · obtain rfl := Option.some.inj h
        exact Nat.succ_pos _
      · exact hlater _ h

end BlockPart

/-- a token that opens a block, with its word, or one that closes a block -/
inductive Mark where
  | opens (word : Keyword) (t : Token)
  | closes (t : Token)
  deriving DecidableEq, Repr

namespace Mark

/-- the mark that a token makes, given its part -/
def of? : Token × BlockPart → Option Mark
  | (t, .opens word) => some (opens word t)
  | (t, .closes) => some (closes t)
  | (_, .inert) => none

/--
the closes that close nothing, and the blocks left open, where `pending` are the blocks open before; blocks are listed
with the innermost first
-/
def lifo (pending : List (Keyword × Token)) : List Mark → List Token × List (Keyword × Token)
  | [] => ([], pending)
  | opens word t :: more => lifo ((word, t) :: pending) more
  | closes t :: more =>
    match pending with
    | [] => (t :: (lifo [] more).1, (lifo [] more).2)
    | _ :: outer => lifo outer more

theorem lifo_append (pending : List (Keyword × Token)) (ms more : List Mark) :
    lifo pending (ms ++ more) =
      ((lifo pending ms).1 ++ (lifo (lifo pending ms).2 more).1, (lifo (lifo pending ms).2 more).2) := by
  induction ms generalizing pending with
  | nil => rfl
  | cons m ms ih =>
    cases m with
    | opens word t => simp only [List.cons_append, lifo, ih]
    | closes t => cases pending <;> simp only [List.cons_append, lifo, ih]

end Mark

/-- the opens and closes of a line -/
def Line.marks (l : Line) : List Mark := (l.code.zip (blockParts l.code)).filterMap Mark.of?

/-- the opens and closes of a source -/
def marksOf (lines : List Line) : List Mark := lines.flatMap Line.marks

/-- the closes that close nothing, in order -/
def strayEnds (lines : List Line) : List Token := (Mark.lifo [] (marksOf lines)).1

/-- the blocks that nothing closes, in order -/
def openBlocks (lines : List Line) : List (Keyword × Token) := (Mark.lifo [] (marksOf lines)).2.reverse

end VixStyle
