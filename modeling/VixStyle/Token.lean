/-
Lexemes and tokens. A lexeme is a piece of a line with its meaning; a token is a lexeme at a line and column.
-/
import VixStyle.Keyword
import VixStyle.Operator

namespace VixStyle

/-- a piece of a line that is not blank -/
inductive Lexeme where
  | identifier (name : List Char)
  | keyword (word : Keyword)
  | operator (op : Operator)
  | punctuation (mark : Char)
  | stringLiteral (written : List Char)
  | comment (written : List Char)
  | number (written : List Char)
  deriving DecidableEq, Repr

namespace Lexeme

/-- the characters of a lexeme, quotes and comment marks included -/
def text : Lexeme → List Char
  | identifier name => name
  | keyword word => word.text
  | operator op => op.text
  | punctuation mark => [mark]
  | stringLiteral written => written
  | comment written => written
  | number written => written

/-- the name of a lexeme's class -/
def className : Lexeme → String
  | identifier _ => "IDENTIFIER"
  | keyword _ => "KEYWORD"
  | operator _ => "OPERATOR"
  | punctuation _ => "PUNCTUATION"
  | stringLiteral _ => "STRING_LITERAL"
  | comment _ => "COMMENT"
  | number _ => "NUMBER"

/-- a comment has no part in the code -/
def isCode : Lexeme → Bool
  | comment _ => false
  | _ => true

def isIdentifier : Lexeme → Bool
  | identifier _ => true
  | _ => false

end Lexeme

/-- a lexeme where it stands; the column counts characters from one -/
structure Token where
  lexeme : Lexeme
  line : Int
  column : Nat
  deriving DecidableEq, Repr

namespace Token

def text (t : Token) : List Char := t.lexeme.text

/-- the column just past the token -/
def endColumn (t : Token) : Nat := t.column + t.text.length

/-- the text of a token for use in a message -/
def display (t : Token) : String := String.ofList t.text

end Token

end VixStyle
