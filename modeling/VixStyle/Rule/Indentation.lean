/-
The indentation rule: the body of a block sits exactly one unit deeper than its opener, and every block is closed.

The rule walks over the lines from the top with a stack of frames, the innermost first. A frame is an open block or, on
top of its `match`, the case that is being read. Each line with code on it passes three stages:
- `place` finds the depth where the line belongs and the frame it hangs on, taking away the frames that it ends;
- `measure` compares that depth with the blanks before the line, unless the line goes on with an expression above it;
- `nest` runs over the tokens, opening and closing frames at the depth that was found.
Only `measure` looks at blanks and options, so which blocks match does not depend on them.
-/
import VixStyle.Block
import VixStyle.Diagnostic.Catalogue
import VixStyle.Operand
import VixStyle.Options
import VixStyle.Source

namespace VixStyle.Rule.Indentation

/-! ## units and frames -/

/-- one step of indentation -/
inductive IndentUnit where
  | tab
  | spaces (count : Nat)
  deriving DecidableEq, Repr

namespace IndentUnit

/-- the number of characters of a unit -/
def width : IndentUnit → Nat
  | tab => 1
  | spaces count => count

def usesTabs : IndentUnit → Bool
  | tab => true
  | spaces _ => false

/-- the unit that the options prescribe, if they do -/
def ofOptions? (o : Options) : Option IndentUnit :=
  match o.indentStyle with
  | .tabs => some tab
  | .spaces => some (spaces o.indentWidth)
  | .detect => none

/-- the unit that a first indentation without mixture stands for -/
def ofIndentation (i : Indentation) : IndentUnit :=
  if i.mix = .tabs then tab else spaces i.width

/-- some levels of indentation in words -/
def describe (unit : IndentUnit) (levels : Nat) : String :=
  match unit with
  | tab => if levels = 1 then "1 tab" else s!"{levels} tabs"
  | spaces count => if levels * count = 1 then "1 space" else s!"{levels * count} spaces"

end IndentUnit

/-- an open block or case: the word that opened it, where it stands, and the depth of its line -/
structure Frame where
  word : Keyword
  line : Int
  column : Nat
  depth : Nat
  deriving DecidableEq, Repr

/-- the stack without the case on its top, if there is one -/
def dropCase : List Frame → List Frame
  | [] => []
  | f :: more => if f.word.isCase then more else f :: more

/-- close the innermost block, with the case that may stand on it -/
def closeBlock (stack : List Frame) : Option Frame × List Frame :=
  match dropCase stack with
  | [] => (none, [])
  | f :: more => (some f, more)

/-! ## findings -/

/-- what the walk finds -/
inductive Fault where
  | strayEnd
  | unclosed (word : Keyword)
  | mixedBlanks
  | wrongBlanks (foundTabs : Bool)
  | uneven (width unitWidth : Nat)
  | misaligned (word anchorWord : Keyword) (anchorLine : Int)
  | unindentedBody
  | wrongDepth (unit : IndentUnit) (expected actual : Nat) (anchor : Option (Keyword × Int))
  deriving DecidableEq, Repr

namespace Fault

/-- a word of the source in backticks -/
def shown (word : Keyword) : String := "`" ++ word.spelling ++ "`"

def message : Fault → String
  | strayEnd => "`end` without a matching block opener"
  | unclosed word => shown word ++ " block is never closed with `end`"
  | mixedBlanks => "indentation mixes tabs and spaces"
  | wrongBlanks foundTabs =>
    if foundTabs then "line is indented with tabs but the file indents with spaces"
    else "line is indented with spaces but the file indents with tabs"
  | uneven width unitWidth => s!"indentation of {width} spaces is not a multiple of the {unitWidth}-space unit"
  | misaligned word anchorWord anchorLine =>
    shown word ++ " does not align with " ++ shown anchorWord ++ s!" on line {anchorLine}"
  | unindentedBody => "block body must be indented one level deeper than its opener"
  | wrongDepth unit expected actual anchor =>
    "expected indentation of " ++ unit.describe expected ++ " but found " ++
      (if actual = 0 then "no indentation" else unit.describe actual) ++
      match anchor with
      | none => ""
      | some (word, line) => " (inside " ++ shown word ++ s!" on line {line})"

def hint : Fault → Option String
  | unclosed word => some ("Add an `end` aligned with " ++ shown word ++ ".")
  | mixedBlanks => some "Indent with one character kind only."
  | _ => none

end Fault

/-- a fault at a place -/
structure Finding where
  line : Int
  column : Nat
  fault : Fault
  deriving DecidableEq, Repr

def Finding.diagnostic (f : Finding) : Diagnostic :=
  Problem.indentationConsistency.found f.line f.column f.fault.message f.fault.hint

/-! ## the place of a line -/

/-- where a line belongs -/
structure Place where
  expected : Nat
  anchor : Option Frame
  stack : List Frame
  deriving DecidableEq, Repr

/-- the place inside the innermost frame -/
def Place.inside (stack : List Frame) : Place :=
  match stack with
  | [] => ⟨0, none, []⟩
  | f :: more => ⟨f.depth + 1, some f, f :: more⟩

/-- the place of a line that closes a block before anything else -/
def Place.closing (stack : List Frame) : Place :=
  match closeBlock stack with
  | (none, rest) => ⟨0, none, rest⟩
  | (some f, rest) => ⟨f.depth, some f, rest⟩

/-- the place of a line that starts with a lexeme -/
def place (stack : List Frame) (first : Lexeme) : Place :=
  match first with
  | .keyword word =>
    if word = .end_ then Place.closing stack
    else if word.isBranch then
      match stack with
      | [] => ⟨0, none, []⟩
      | f :: more => ⟨f.depth, some f, f :: more⟩
    else if word.isCase then Place.inside (dropCase stack)
    else Place.inside stack
  | _ => Place.inside stack

/-! ## the measure of a line -/

/-- the fault of a line that sits at another depth than it should -/
def depthFault (first : Lexeme) (unit : Option IndentUnit) (p : Place) (actual : Nat) : Fault :=
  let general : Fault := match unit with
    | none => .unindentedBody
    | some unit => .wrongDepth unit p.expected actual (p.anchor.map fun f => (f.word, f.line))
  match p.anchor, first with
  | some f, .keyword word => if word = .end_ ∨ word.isBranch then .misaligned word f.word f.line else general
  | _, _ => general

/-- the unit after a line has been measured, the depth the line sits at if it can be told, and the fault found -/
structure Measure where
  unit : Option IndentUnit
  level : Option Nat
  fault : Option (Nat × Fault)
  deriving DecidableEq, Repr

/-- compare the blanks before a line with its place; `column` is where its first token stands -/
def measure (unit : Option IndentUnit) (indentation : Indentation) (first : Lexeme) (column : Nat) (p : Place) :
    Measure :=
  match indentation.mix with
  | .mixed => ⟨unit, none, some (1, .mixedBlanks)⟩
  | .none =>
    ⟨unit, some 0, if 0 < p.expected then some (column, depthFault first unit p 0) else none⟩
  | mix =>
    let tabs : Bool := mix = .tabs
    let unit := unit.getD (.ofIndentation indentation)
    if tabs ≠ unit.usesTabs then ⟨some unit, none, some (1, .wrongBlanks tabs)⟩
    else if indentation.width % unit.width ≠ 0 then
      ⟨some unit, none, some (column, .uneven indentation.width unit.width)⟩
    else
      let actual := indentation.width / unit.width
      ⟨some unit, some actual,
        if actual ≠ p.expected then some (column, depthFault first (some unit) p actual) else none⟩

/-! ## the tokens of a line -/

/-- what one token does to the stack: a closing word that closes nothing is found -/
def nestToken (depth : Nat) (t : Token) (part : BlockPart) (stack : List Frame) : List Frame × List Finding :=
  match part with
  | .opens word => (⟨word, t.line, t.column, depth⟩ :: stack, [])
  | .closes =>
    match closeBlock stack with
    | (none, rest) => (rest, [⟨t.line, t.column, .strayEnd⟩])
    | (some _, rest) => (rest, [])
  | .inert => (stack, [])

/-- what a row of tokens does to the stack -/
def nest (depth : Nat) (stack : List Frame) : List (Token × BlockPart) → List Frame × List Finding
  | [] => (stack, [])
  | (t, part) :: more =>
    let (next, here) := nestToken depth t part stack
    let (final, later) := nest depth next more
    (final, here ++ later)

/-- the frame that a line opens by starting a case of the `match` it hangs on -/
def caseFrame? (p : Place) (depth : Nat) (first : Token) : Option Frame :=
  match first.lexeme with
  | .keyword word =>
    if word.isCase ∧ p.anchor.any (fun f => f.word = .match_) then some ⟨word, first.line, first.column, depth⟩
    else none
  | _ => none

/-! ## the walk -/

/-- what the walk carries from line to line -/
structure Walk where
  unit : Option IndentUnit
  stack : List Frame
  brackets : Nat
  continues : Bool
  deriving DecidableEq, Repr

namespace Walk

/-- the walk before the first line -/
def start (o : Options) : Walk := ⟨IndentUnit.ofOptions? o, [], 0, false⟩

/-- whether the indentation of the next line counts -/
def measures (w : Walk) : Bool := w.brackets == 0 && !w.continues

/-- the measure of a line, or none of it where indentation does not count -/
def measured (w : Walk) (l : Line) (first : Token) (p : Place) : Measure :=
  if w.measures then measure w.unit l.indentation first.lexeme first.column p else ⟨w.unit, none, none⟩

/-- one line of code, given its tokens -/
def stepCode (w : Walk) (l : Line) (first : Token) (rest : List Token) : Walk × List Finding :=
  let code := first :: rest
  let p := place w.stack first.lexeme
  let m := w.measured l first p
  let depth := m.level.getD p.expected
  let isEnd : Bool := first.lexeme = .keyword .end_
  let stray := if isEnd && p.anchor.isNone then [⟨first.line, first.column, .strayEnd⟩] else []
  let off := (m.fault.map fun (column, fault) => ⟨l.number, column, fault⟩).toList
  let parts := code.zip (blockParts code)
  let (stack, strays) := match caseFrame? p depth first with
    | some f => nest depth (f :: p.stack) parts.tail
    | none => nest depth p.stack (if isEnd then parts.tail else parts)
  (⟨m.unit, stack, (w.brackets + bracketBalance code).toNat, continuesOnNextLine code⟩, stray ++ off ++ strays)

/-- one line -/
def step (w : Walk) (l : Line) : Walk × List Finding :=
  match l.code with
  | [] => (w, [])
  | first :: rest => w.stepCode l first rest

/-- all lines -/
def run (w : Walk) : List Line → Walk × List Finding
  | [] => (w, [])
  | l :: more =>
    let (next, here) := w.step l
    let (final, later) := next.run more
    (final, here ++ later)

/-- the blocks that are still open, the outermost first -/
def leftOpen (w : Walk) : List Finding :=
  (w.stack.reverse.filter fun f => !f.word.isCase).map fun f => ⟨f.line, f.column, .unclosed f.word⟩

end Walk

/-- what the walk over some lines finds -/
def findings (options : Options) (lines : List Line) : List Finding :=
  let (final, found) := (Walk.start options).run lines
  found ++ final.leftOpen

def check (source : Source) (options : Options) : List Diagnostic :=
  (findings options source.lines).map Finding.diagnostic

end VixStyle.Rule.Indentation
