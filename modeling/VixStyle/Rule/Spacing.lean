/-
The spacing rules: one space on each side of an operator between two operands, no space before a comma and one after it.

Spacing is read from the text of the line. A gap is the run of blanks beside a token; there is none where only blanks
stand between the token and the start or the end of the line (`gapBefore?`, `gapAfter?`).
-/
import VixStyle.Diagnostic.Catalogue
import VixStyle.Operand
import VixStyle.Source

namespace VixStyle.Rule.Spacing

open Text

/-! ## gaps -/

/-- a gap that is not one space -/
inductive GapFault where
  | missing | extra
  deriving DecidableEq, Repr

/-- what is wrong with a gap -/
def gapFault? (gap : List Char) : Option GapFault :=
  if gap = [' '] then none else if gap = [] then some .missing else some .extra

/-- the text of a line before a token -/
def textBefore (line : List Char) (t : Token) : List Char := line.take (t.column - 1)

/-- the text of a line after a token -/
def textAfter (line : List Char) (t : Token) : List Char := line.drop (t.endColumn - 1)

/-- the blanks at the end of a text that holds something else -/
def trailingGap? (s : List Char) : Option (List Char) :=
  if s.all isBlank then none else some (s.reverse.takeWhile isBlank).reverse

/-- the blanks at the start of a text that holds something else -/
def leadingGap? (s : List Char) : Option (List Char) :=
  if s.all isBlank then none else some (s.takeWhile isBlank)

/-- the blanks between a token and what stands before it on its line -/
def gapBefore? (line : List Char) (t : Token) : Option (List Char) := trailingGap? (textBefore line t)

/-- the blanks between a token and what stands after it on its line -/
def gapAfter? (line : List Char) (t : Token) : Option (List Char) := leadingGap? (textAfter line t)

/-! ## operators -/

/-- the words for a fault on one side of an operator -/
def sideMessage (operator side : String) : GapFault → String
  | .missing => "missing space " ++ side ++ " \"" ++ operator ++ "\""
  | .extra => "expected exactly one space " ++ side ++ " \"" ++ operator ++ "\""

/-- the words for the faults on both sides of an operator -/
def operatorMessage? (operator : String) : Option GapFault → Option GapFault → Option String
  | none, none => none
  | some .missing, some .missing => some ("missing spaces around \"" ++ operator ++ "\"")
  | some before, none => some (sideMessage operator "before" before)
  | none, some after => some (sideMessage operator "after" after)
  | some before, some after =>
    some (sideMessage operator "before" before ++ " and " ++ sideMessage operator "after" after)

/-- whether a token is an operator that takes spaces, between two operands -/
def isCheckedOperator (before : Option Token) (t : Token) : Bool :=
  match t.lexeme with
  | .operator op => op.isSpaced && isBinaryAfter before t
  | _ => false

/-- the message on an operator of a line, if its spacing is at fault -/
def operatorFault? (line : List Char) (before : Option Token) (t : Token) : Option String :=
  if isCheckedOperator before t then
    operatorMessage? t.display ((gapBefore? line t).bind gapFault?) ((gapAfter? line t).bind gapFault?)
  else none

/-! ## commas -/

/-- the faults on the two sides of a comma -/
def commaFaults (line : List Char) (t : Token) : List String :=
  let before := match gapBefore? line t with
    | some (_ :: _) => ["unexpected space before \",\""]
    | _ => []
  let after :=
    if (textAfter line t).head?.any isClosingMark then []
    else match (gapAfter? line t).bind gapFault? with
      | none => []
      | some .missing => ["missing space after \",\""]
      | some .extra => ["expected exactly one space after \",\""]
  before ++ after

/-! ## the two checks -/

/-- a finding of a spacing rule that reports under the given id and severity -/
def misspaced (p : Problem) (ruleId : String) (severity : Severity) (t : Token) (message : String) : Diagnostic :=
  { p.found t.line t.column message p.hint with ruleId, severity }

/-- the findings on the operators of a line -/
def operatorFindings (ruleId : String) (severity : Severity) (l : Line) : List Diagnostic :=
  (withPrevious none l.code).filterMap fun (before, t) =>
    (operatorFault? l.text before t).map (misspaced .operatorSpacing ruleId severity t)

/-- the findings on the commas of a line -/
def commaFindings (ruleId : String) (severity : Severity) (l : Line) : List Diagnostic :=
  (l.code.filter fun t => t.lexeme = .punctuation ',').flatMap fun t =>
    (commaFaults l.text t).map (misspaced .commaSpacing ruleId severity t)

def checkOperators (ruleId : String) (severity : Severity) (source : Source) : List Diagnostic :=
  source.lines.flatMap (operatorFindings ruleId severity)

def checkCommas (ruleId : String) (severity : Severity) (source : Source) : List Diagnostic :=
  source.lines.flatMap (commaFindings ruleId severity)

end VixStyle.Rule.Spacing
