/-
Brackets: how far a row of tokens opens brackets that it does not close. Kinds of bracket are not told apart.
-/
import VixStyle.Token

namespace VixStyle

/-- an opening bracket -/
def isOpeningMark (c : Char) : Bool := c == '(' || c == '[' || c == '{'

/-- a closing bracket -/
def isClosingMark (c : Char) : Bool := c == ')' || c == ']' || c == '}'

namespace Lexeme

def isClosingBracket : Lexeme → Bool
  | punctuation mark => isClosingMark mark
  | _ => false

/-- one for an opening bracket, minus one for a closing bracket -/
def bracketStep : Lexeme → Int
  | punctuation mark => if isOpeningMark mark then 1 else if isClosingMark mark then -1 else 0
  | _ => 0

end Lexeme

/-- the brackets opened by a row of tokens less those closed -/
def bracketBalance (tokens : List Token) : Int := 
  tokens.foldr (fun t balance => t.lexeme.bracketStep + balance) 0

end VixStyle
