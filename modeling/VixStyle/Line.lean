/-
Source lines: the text of a line with its number and its tokens, and the indentation that its leading blanks make.

A line whose last string literal is not closed keeps the tokens read so far, the unclosed literal included; `unclosed`
then says in which column that literal starts.
-/
import VixStyle.Token.Lexer

namespace VixStyle

open Text

/-! ## indentation -/

/-- which blanks an indentation is made of -/
inductive IndentMix where
  | none | spaces | tabs | mixed
  deriving DecidableEq, Repr

def IndentMix.name : IndentMix → String
  | none => "none"
  | spaces => "spaces"
  | tabs => "tabs"
  | mixed => "mixed"

/-- which blanks a run of blanks is made of -/
def IndentMix.of (blanks : List Char) : IndentMix :=
  match decide (' ' ∈ blanks), decide ('\t' ∈ blanks) with
  | true, true => mixed
  | false, true => tabs
  | true, false => spaces
  | false, false => none

/-- the leading blanks of a line; the width counts characters, so a tab is one -/
structure Indentation where
  blanks : List Char
  deriving DecidableEq, Repr

namespace Indentation

/-- the indentation of a line -/
def of (line : List Char) : Indentation := ⟨leadingBlanks line⟩

def mix (i : Indentation) : IndentMix := IndentMix.of i.blanks

def width (i : Indentation) : Nat := i.blanks.length

end Indentation

/-! ## lines -/

/-- a numbered line with its tokens -/
structure Line where
  number : Int
  text : List Char
  tokens : List Token
  unclosed : Option Nat
  deriving DecidableEq, Repr

namespace Line

/-- read a line, keeping what can be read of it -/
def read (number : Int) (text : List Char) : Line :=
  match lex number text with
  | .ok tokens => ⟨number, text, tokens, none⟩
  | .error e => ⟨number, text, e.tokens, some e.column⟩

def indentation (l : Line) : Indentation := Indentation.of l.text

/-- the tokens of a line without its comments -/
def code (l : Line) : List Token := l.tokens.filter fun t => t.lexeme.isCode

def isBlank (l : Line) : Bool := l.tokens.isEmpty

/-- a line that holds comments and nothing else -/
def isCommentOnly (l : Line) : Bool := !l.tokens.isEmpty && l.code.isEmpty

/-- the fault of a line with an unclosed string literal -/
def fault? (l : Line) : Option UnclosedString :=
  l.unclosed.map fun column => ⟨l.number, column, l.tokens⟩

/-- read lines, numbering them from `number` on -/
def readFrom (number : Int) : List (List Char) → List Line
  | [] => []
  | text :: more => read number text :: readFrom (number + 1) more

/-- read the lines of a file -/
def readAll (texts : List (List Char)) : List Line := readFrom 1 texts

end Line

end VixStyle
