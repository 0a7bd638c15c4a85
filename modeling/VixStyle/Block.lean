/-
Blocks on one line: which tokens open a block, which close one, and which `end` closes the block opened at a token.

The part of a token (`BlockPart`) is settled by itself, the token before it and the last token of the line: `else if`
goes on with the `if` it follows, and a line that ends with a semicolon only declares its function or type. Matching then
looks at the parts alone.
-/
import VixStyle.Token

namespace VixStyle

/-- what a token does to the nesting of blocks -/
inductive BlockPart where
  | opens (word : Keyword)
  | closes
  | inert
  deriving DecidableEq, Repr

/-- the part of a token, given the token before it and whether its line ends with a semicolon -/
def blockPart (before : Option Token) (declares : Bool) (t : Token) : BlockPart :=
  match t.lexeme with
  | .keyword .end_ => .closes
  | .keyword word =>
    if !word.opensBlock then .inert
    else if word = .if_ ∧ before.any (fun b => b.lexeme = .keyword .else_) then .inert
    else if word.isDeclarable ∧ declares then .inert
    else .opens word
  | _ => .inert

/-- whether a line of tokens ends with a semicolon -/
def endsWithSemicolon (tokens : List Token) : Bool :=
  tokens.getLast?.any fun t => t.lexeme = .punctuation ';'

/-- the parts of a row of tokens, given the token before it and whether the line ends with a semicolon -/
def blockPartsFrom (before : Option Token) (declares : Bool) : List Token → List BlockPart
  | [] => []
  | t :: rest => blockPart before declares t :: blockPartsFrom (some t) declares rest

/-- the parts of the tokens of a line -/
def blockParts (tokens : List Token) : List BlockPart :=
  blockPartsFrom none (endsWithSemicolon tokens) tokens

namespace BlockPart

def isOpening : BlockPart → Bool
  | opens _ => true
  | _ => false

/--
how many parts come before the first `end` that brings the nesting to zero, where `depth` blocks are open already; an
`end` that leaves the nesting below zero closes nothing
-/
def closingOffset? (depth : Int) : List BlockPart → Option Nat
  | [] => none
  | opens _ :: rest => (closingOffset? (depth + 1) rest).map (· + 1)
  | closes :: rest => if depth = 1 then some 0 else (closingOffset? (depth - 1) rest).map (· + 1)
  | inert :: rest => (closingOffset? depth rest).map (· + 1)

/-- the index of the `end` that closes the block opened at an index -/
def matchingEnd? (parts : List BlockPart) (index : Nat) : Option Nat :=
  (closingOffset? 0 (parts.drop index)).map (· + index)

end BlockPart

end VixStyle
