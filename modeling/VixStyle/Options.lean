/-
What a check may be told: how blocks are indented, which rules run, and which statements may stand in an `if` on one line.

`Options` are valid by construction: the width is positive, sets of rule ids are sorted lists without repetition, and the
kinds of statement stand in the order of their names. `OptionFields` are options as they are given; `Options.of` checks
them.
-/
import VixStyle.Machine
import VixStyle.Statement
import VixStyle.Text.Order
import VixStyle.Text.Quoted

namespace VixStyle

open Text

/-- how the unit of indentation is chosen -/
inductive IndentStyle where
  | detect | spaces | tabs
  deriving DecidableEq, Repr

namespace IndentStyle

def all : List IndentStyle := [detect, spaces, tabs]

def name : IndentStyle → String
  | detect => "detect"
  | spaces => "spaces"
  | tabs => "tabs"

def ofName? (s : String) : Option IndentStyle := all.find? fun style => style.name == s

end IndentStyle

/-- the width that holds unless another is given -/
def standardWidth : Nat := 4

theorem standardWidth_pos : 0 < standardWidth := by decide

/-- options that have been checked -/
structure Options where
  indentWidth : Nat := standardWidth
  indentStyle : IndentStyle := .detect
  enabled : Option (List String) := none
  disabled : List String := []
  oneLineStatements : List StatementKind := StatementKind.all
  indentWidth_pos : 0 < indentWidth := by exact standardWidth_pos

namespace Options

/-- whether a rule may run: it is not disabled, and enabled if some rules are -/
def enables (o : Options) (ruleId : String) : Bool :=
  !o.disabled.contains ruleId && o.enabled.all fun ids => ids.contains ruleId

end Options

/-- options as they are given -/
structure OptionFields where
  indentWidth : Int := standardWidth
  indentStyle : String := "detect"
  enabled : Option (List String) := none
  disabled : List String := []
  oneLineStatements : List String := StatementKind.all.map StatementKind.name

/-- why options are refused -/
inductive OptionsError where
  | unknownIndentStyle (name : String)
  | widthBelowOne (width : Int)
  | unknownStatements (names : List String)
  deriving DecidableEq, Repr

def OptionsError.message : OptionsError → String
  | unknownIndentStyle name => s!"{Quoted.quote name} is not a valid IndentStyle"
  | widthBelowOne width => s!"indent_width must be at least 1, got {width}"
  | unknownStatements names =>
    "Unknown simple statement kinds: " ++ ", ".intercalate names ++ "; expected a subset of " ++
      ", ".intercalate (StatementKind.all.map StatementKind.name) ++ "."

/-- the names of a list that name no kind of statement, each once and in order -/
def unknownStatementNames (names : List String) : List String :=
  wordSet (names.filter fun name => (StatementKind.ofName? name).isNone)

/-- the kinds of statement that a list of names holds -/
def namedStatements (names : List String) : List StatementKind :=
  StatementKind.all.filter fun kind => names.contains kind.name

/-! ## units of spaces -/

/-- the widths from here on are beyond what a text can be indexed with -/
def indexEnd : Nat := 9223372036854775808

/-- why a unit of spaces cannot be made -/
inductive UnitFault where
  | beyondIndex
  | beyondMemory
  deriving DecidableEq, Repr

/-- what is said where an index is out of reach -/
def beyondIndexMessage : String := "cannot fit 'int' into an index-sized integer"

/-- what is said of a unit that cannot be made; when memory runs out, nothing is -/
def UnitFault.message : UnitFault → String
  | beyondIndex => beyondIndexMessage
  | beyondMemory => ""

/-- why the unit that options prescribe cannot be made, if so; only a unit of spaces is as long as its width -/
def Options.unitFault? [Machine] (o : Options) : Option UnitFault :=
  match o.indentStyle with
  | .spaces =>
    if indexEnd ≤ o.indentWidth then some .beyondIndex
    else if Machine.memoryEnd ≤ o.indentWidth then some .beyondMemory
    else none
  | .tabs | .detect => none

/-! ## checking what is given -/

namespace Options

/-- options with another width, which has to be positive -/
def withWidth (o : Options) (width : Int) : Except OptionsError Options :=
  if h : 0 < width.toNat then .ok { o with indentWidth := width.toNat, indentWidth_pos := h }
  else .error (.widthBelowOne width)

/-- options with other kinds of statement, which have to be known -/
def withStatements (o : Options) (names : List String) : Except OptionsError Options :=
  match unknownStatementNames names with
  | [] => .ok { o with oneLineStatements := namedStatements names }
  | unknown => .error (.unknownStatements unknown)

/-- the options that some fields give; the style is looked at first, then the width, then the statements -/
def of (f : OptionFields) : Except OptionsError Options :=
  match IndentStyle.ofName? f.indentStyle with
  | none => .error (.unknownIndentStyle f.indentStyle)
  | some style => do
    let sized ← withWidth { indentStyle := style } f.indentWidth
    let complete ← sized.withStatements f.oneLineStatements
    return { complete with enabled := f.enabled.map wordSet, disabled := wordSet f.disabled }

end Options

end VixStyle
