/-
The tokens of one line, and a lexer that can be run on its line again and again.

`lex` answers with all tokens or, at a string literal that is not closed, with the place where the literal starts and the
tokens up to and with it. A `LineLexer` carries a cursor, which a run leaves at the end of the line whatever its outcome.
-/
import VixStyle.Token.Scan

namespace VixStyle

/-- a string literal that its line does not close: where it starts, and the tokens up to and with it -/
structure UnclosedString where
  line : Int
  column : Nat
  tokens : List Token
  deriving DecidableEq, Repr

namespace UnclosedString

/-- the fault in words -/
def fault : String := "unterminated string literal"

/-- the fault with its place -/
def message (e : UnclosedString) : String := s!"{e.line}:{e.column}: {fault}"

end UnclosedString

/-- the tokens of a line that bears the number `line` -/
def lex (line : Int) (text : List Char) : Except UnclosedString (List Token) :=
  let cut := Segmentation.of text
  let tokens := placed line 1 cut.segments
  if cut.closed then .ok tokens
  else .error ⟨line, (tokens.getLast?.map Token.column).getD 1, tokens⟩

/-- a line with a cursor -/
structure LineLexer where
  text : List Char
  line : Int
  cursor : Nat := 0
  deriving DecidableEq, Repr

namespace LineLexer

/-- whether the cursor is at the end of the line -/
def isAtEnd (l : LineLexer) : Bool := l.text.length ≤ l.cursor

/-- read the line from its start; the cursor goes to its end -/
def run (l : LineLexer) : Except UnclosedString (List Token) × LineLexer :=
  (lex l.line l.text, { l with cursor := l.text.length })

end LineLexer

end VixStyle
