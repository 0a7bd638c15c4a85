/-
Simple statements: `return`, `break`, `continue`, an assignment or a call, alone on a row of tokens.

A row is looked at without one semicolon at its end. What counts as an expression is a test on tokens only: brackets even
out, no assignment stands outside brackets, no word of a statement occurs, and no two values stand side by side.
-/
import VixStyle.Block
import VixStyle.Operand

namespace VixStyle

/-- a kind of simple statement -/
inductive StatementKind where
  | assignment | break_ | call | continue_ | return_
  deriving DecidableEq, Repr

namespace StatementKind

/-- all kinds, by their names in alphabetical order -/
def all : List StatementKind := [assignment, break_, call, continue_, return_]

def name : StatementKind → String
  | assignment => "assignment"
  | break_ => "break"
  | call => "call"
  | continue_ => "continue"
  | return_ => "return"

def ofName? (s : String) : Option StatementKind := all.find? fun kind => kind.name == s

theorem mem_all (kind : StatementKind) : kind ∈ all := by cases kind <;> decide

end StatementKind

namespace Statement

/-- the index of the first assignment operator outside brackets, when `depth` brackets are open before the row -/
def assignmentFrom? (depth : Int) : List Token → Option Nat
  | [] => none
  | t :: rest =>
    match t.lexeme with
    | .operator op =>
      if depth = 0 ∧ op.isAssignment then some 0 else (assignmentFrom? depth rest).map (· + 1)
    | l => (assignmentFrom? (depth + l.bracketStep) rest).map (· + 1)

/-- the index of the first assignment operator outside brackets -/
def assignment? (tokens : List Token) : Option Nat := assignmentFrom? 0 tokens

/-- whether two values stand side by side -/
def hasAdjacentValues : List Token → Bool
  | a :: b :: rest => (a.lexeme.endsOperand && b.lexeme.startsOperand) || hasAdjacentValues (b :: rest)
  | _ => false

def isStatementWord (t : Token) : Bool :=
  match t.lexeme with
  | .keyword word => word.isStatement
  | _ => false

def opensBlockWord (t : Token) : Bool :=
  match t.lexeme with
  | .keyword word => word.opensBlock
  | _ => false

/-- whether a row that is not empty reads as one expression -/
def isExpression (tokens : List Token) : Bool :=
  !tokens.isEmpty && bracketBalance tokens == 0 && (assignment? tokens).isNone &&
    !tokens.any isStatementWord && !hasAdjacentValues tokens

/-- a name or `self` -/
def isBase (t : Token) : Bool :=
  match t.lexeme with
  | .identifier _ | .keyword .self_ => true
  | _ => false

def isMark (mark : Char) (t : Token) : Bool := t.lexeme = .punctuation mark

/-- what may follow the base of an assignment's target outside brackets -/
def isTargetPart (t : Token) : Bool := t.lexeme.isIdentifier || isMark '.' t || isMark '[' t

/-- whether a row is made of target parts and closed brackets, when `depth` brackets are open before it -/
def isTargetTail (depth : Int) : List Token → Bool
  | [] => depth == 0
  | t :: rest =>
    (depth != 0 || isTargetPart t) && 0 ≤ depth + t.lexeme.bracketStep &&
      isTargetTail (depth + t.lexeme.bracketStep) rest

/-- whether a row can be assigned to -/
def isTarget (tokens : List Token) : Bool :=
  match tokens with
  | [] => false
  | base :: rest => isBase base && isTargetTail 0 rest && isExpression tokens

/-- what a chain of calls is made of outside brackets, apart from the opening of an argument list -/
def isCallPart (t : Token) : Bool := isBase t || isMark '.' t || isMark '[' t

/-- whether a row is a chain with an argument list in it, when `depth` brackets are open before it -/
def isCallChain (depth : Int) (called : Bool) : List Token → Bool
  | [] => called
  | t :: rest =>
    if depth = 0 then
      if isMark '(' t then isCallChain (depth + t.lexeme.bracketStep) true rest
      else isCallPart t && isCallChain (depth + t.lexeme.bracketStep) called rest
    else isCallChain (depth + t.lexeme.bracketStep) called rest

/-- whether a row is a call: a chain from a name or `self` whose last token closes an argument list -/
def isCall (tokens : List Token) : Bool :=
  tokens.head?.any isBase && tokens.getLast?.any (isMark ')') && isCallChain 0 false tokens

/-- a row without the semicolon at its end -/
def withoutSemicolon (tokens : List Token) : List Token :=
  if endsWithSemicolon tokens then tokens.dropLast else tokens

/-- the kind of a row that holds no semicolon and opens no block -/
def kindOf? (tokens : List Token) : Option StatementKind :=
  match tokens with
  | [] => none
  | first :: rest =>
    match first.lexeme with
    | .keyword .break_ => if rest.isEmpty then some .break_ else none
    | .keyword .continue_ => if rest.isEmpty then some .continue_ else none
    | .keyword .return_ => if rest.isEmpty || isExpression rest then some .return_ else none
    | _ =>
      match assignment? tokens with
      | some index =>
        if isTarget (tokens.take index) && isExpression (tokens.drop (index + 1)) then some .assignment else none
      | none => if isExpression tokens && isCall tokens then some .call else none

/-- the kind of a simple statement, or none for any other row of tokens -/
def classify? (tokens : List Token) : Option StatementKind :=
  let row := withoutSemicolon tokens
  if row.any (isMark ';') || row.any opensBlockWord then none else kindOf? row

end Statement

end VixStyle
