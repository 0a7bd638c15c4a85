/-
Names: which convention a name follows, the words it is made of, and its snake-case forms.

Leading underscores say nothing about the convention and stay in front when a name is converted. Letters without case and
digits never decide. Words are cut at underscores and, inside a run without underscores, before a capital that follows a
small letter or a digit and before a capital that follows a capital and starts a small-letter word; only ASCII letters
and digits make such cuts.
-/
import VixStyle.Text.CaseMap
import VixStyle.Text.LetterCase

namespace VixStyle

open Text

/-- a naming convention -/
inductive NameStyle where
  | upperSnake | lowerSnake | pascal | camel | mixed
  deriving DecidableEq, Repr

namespace NameStyle

def name : NameStyle → String
  | upperSnake => "upper_snake"
  | lowerSnake => "lower_snake"
  | pascal => "pascal"
  | camel => "camel"
  | mixed => "mixed"

/-- the convention in words for a reader -/
def label : NameStyle → String
  | upperSnake => "UPPER_SNAKE_CASE"
  | lowerSnake => "snake_case"
  | camel => "camelCase"
  | pascal => "PascalCase"
  | mixed => "mixed case"

end NameStyle

namespace Name

def isUnderscore (c : Char) : Bool := c == '_'

/-- the underscores that start a name -/
def lead (name : List Char) : List Char := name.takeWhile isUnderscore

/-- a name without the underscores that start it -/
def body (name : List Char) : List Char := name.dropWhile isUnderscore

/-- the letters of a name that have a case -/
def casedLetters (name : List Char) : List Char := (body name).filter hasCase

/-- the convention a name follows; a name without cased letters counts as snake case -/
def style (name : List Char) : NameStyle :=
  if (casedLetters name).all isLower then .lowerSnake
  else if (casedLetters name).all isUpper then .upperSnake
  else if '_' ∈ body name then .mixed
  else if (casedLetters name).head?.any isLower then .camel
  else .pascal

/-! ## words -/

def isSmall (c : Char) : Bool := isAscii c && c.isLower

def isCapital (c : Char) : Bool := isAscii c && c.isUpper

def isSmallOrDigit (c : Char) : Bool := isAscii c && (c.isLower || c.isDigit)

/-- whether a word ends between `a` and `b`, where `next` comes after `b` -/
def isCut (a b : Char) (next : Option Char) : Bool :=
  (isSmallOrDigit a && isCapital b) || (isCapital a && isCapital b && next.any isSmall)

/-- a text without underscores cut into its words -/
def humps : List Char → List (List Char)
  | [] => []
  | a :: rest =>
    match rest, humps rest with
    | b :: r, word :: more => if isCut a b r.head? then [a] :: word :: more else (a :: word) :: more
    | _, _ => [[a]]

/-- the runs between underscores -/
def chunks : List Char → List (List Char)
  | [] => []
  | c :: rest =>
    if isUnderscore c then chunks rest
    else match rest, chunks rest with
      | d :: _, chunk :: more => if isUnderscore d then [c] :: chunk :: more else (c :: chunk) :: more
      | _, _ => [[c]]

/-- the words of a name -/
def words (name : List Char) : List (List Char) := (chunks name).flatMap humps

/-- words with an underscore between each two -/
def joinWords : List (List Char) → List Char
  | [] => []
  | [word] => word
  | word :: more => word ++ '_' :: joinWords more

/-- the name in capitals with underscores between its words -/
def upperSnake (name : List Char) : List Char := lead name ++ joinWords ((words name).map toUpper)

/-- the name in small letters with underscores between its words -/
def lowerSnake (name : List Char) : List Char := lead name ++ joinWords ((words name).map toLower)

end Name

end VixStyle
