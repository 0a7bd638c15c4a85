/-
The rule on an `if` that ends on its own line: its body has to be one simple statement of a permitted kind. An `if` that
goes on below may not start its body on the line of its `then`.
-/
import VixStyle.Diagnostic.Catalogue
import VixStyle.Options
import VixStyle.Source

namespace VixStyle.Rule.OneLineIf

/-- what is wrong with an `if` -/
inductive Fault where
  | bodyOnThenLine
  | noThen
  | emptyBody
  | branch
  | notSimple
  | notPermitted (kind : StatementKind)
  deriving DecidableEq, Repr

def Fault.message : Fault → String
  | bodyOnThenLine => "`if` body must start on the line after `then`"
  | noThen => "single-line `if` without `then` must be written on multiple lines"
  | emptyBody => "single-line `if` has an empty body; write it on multiple lines"
  | branch => "single-line `if` with an `else` branch must be written on multiple lines"
  | notSimple => "single-line `if` body is not a single simple statement; write it on multiple lines"
  | notPermitted kind =>
    "`" ++ kind.name ++ "` statements are not allowed in a single-line `if`; write it on multiple lines"

def isThen (t : Token) : Bool := t.lexeme = .keyword .then_

def isBranchWord (t : Token) : Bool :=
  match t.lexeme with
  | .keyword word => word.isBranch
  | _ => false

/-- what is wrong with a body between `then` and `end` -/
def bodyFault? (options : Options) (body : List Token) : Option Fault :=
  if body.isEmpty then some .emptyBody
  else if body.any isBranchWord then some .branch
  else match Statement.classify? body with
    | none => some .notSimple
    | some kind => if options.oneLineStatements.contains kind then none else some (.notPermitted kind)

/-- the tokens after the first `then` of a row -/
def afterThen? (tokens : List Token) : Option (List Token) :=
  match tokens.dropWhile fun t => !isThen t with
  | [] => none
  | _ :: rest => some rest

/--
what is wrong with an `if`, given the tokens after it and, if it ends on its line, how many of them stand before its
`end`
-/
def fault? (options : Options) (rest : List Token) (length : Option Nat) : Option Fault :=
  match length with
  | none => if (afterThen? rest).any (fun body => !body.isEmpty) then some .bodyOnThenLine else none
  | some length =>
    match afterThen? (rest.take length) with
    | none => some .noThen
    | some body => bodyFault? options body

/-- the tokens of a row that open an `if` block, each with what is wrong with it; the parts belong to the tokens -/
def faults (options : Options) : List Token → List BlockPart → List (Token × Fault)
  | t :: rest, part :: parts =>
    let here := if part = .opens .if_
      then (fault? options rest (BlockPart.closingOffset? 1 parts)).map fun fault => (t, fault)
      else none
    here.toList ++ faults options rest parts
  | _, _ => []

/-- the findings on a line -/
def findings (ruleId : String) (severity : Severity) (options : Options) (l : Line) : List Diagnostic :=
  (faults options l.code (blockParts l.code)).map fun (t, fault) =>
    { Problem.singleVsMultilineIf.found t.line t.column fault.message Problem.singleVsMultilineIf.hint with
      ruleId, severity }

def check (ruleId : String) (severity : Severity) (source : Source) (options : Options) : List Diagnostic :=
  source.lines.flatMap (findings ruleId severity options)

end VixStyle.Rule.OneLineIf
