/-
The problems that are looked for, each with its rule id, its general wording, a standing hint and its severity and
category. `found` makes a diagnostic of an entry.
-/
import VixStyle.Diagnostic

namespace VixStyle

/-- a kind of problem -/
structure Problem where
  ruleId : String
  message : String
  hint : Option String := none
  severity : Severity := .error
  category : Option String := none
  deriving DecidableEq, Repr

namespace Problem

/-- a problem of this kind at a place, with a wording and a hint of its own -/
def found (p : Problem) (line : Int) (column : Nat) (message : String) (hint : Option String) : Diagnostic :=
  ⟨p.ruleId, message, line, column, p.severity, hint, p.category⟩

def unterminatedString : Problem where
  ruleId := "unterminated-string"
  message := "Unterminated string literal."
  hint := some "Close the string with a double quote on the same line."
  category := some "tokenize"

def malformedDeclaration : Problem where
  ruleId := "malformed-declaration"
  message := "Declaration has no identifiable name."
  hint := some "Follow the declaration keyword with a name, e.g. `var count = 0`."
  category := some "declaration"

def constNaming : Problem where
  ruleId := "const-naming"
  message := "Constant names must be UPPER_SNAKE_CASE."
  category := some "naming"

def staticNaming : Problem where
  ruleId := "static-naming"
  message := "Static names must be UPPER_SNAKE_CASE."
  category := some "naming"

def varNaming : Problem where
  ruleId := "var-naming"
  message := "Variable names should be snake_case."
  severity := .warning
  category := some "naming"

def funcNaming : Problem where
  ruleId := "func-naming"
  message := "Function names should be snake_case."
  severity := .warning
  category := some "naming"

def operatorSpacing : Problem where
  ruleId := "operator-spacing"
  message := "Binary operators need exactly one space on each side."
  hint := some "Write `a = b + c`, not `a=b+c`."
  category := some "spacing"

def commaSpacing : Problem where
  ruleId := "comma-spacing"
  message := "Commas take no space before and exactly one space after."
  hint := some "Write `f(a, b, c)`, not `f(a ,b,c)`."
  severity := .warning
  category := some "spacing"

def indentationConsistency : Problem where
  ruleId := "indentation-consistency"
  message := "Block bodies must be indented exactly one unit deeper than their opener."
  category := some "layout"

def singleVsMultilineIf : Problem where
  ruleId := "single-vs-multiline-if"
  message := "Single-line `if` is only allowed around one simple statement."
  hint := some "Move the body to its own indented lines and close with `end`."
  severity := .warning
  category := some "layout"

end Problem

end VixStyle
