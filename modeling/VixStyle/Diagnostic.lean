/-
Diagnostics: one problem at one place. They are ordered by line, column, rule id and message; `before` is that order.
-/

namespace VixStyle

/-- how grave a problem is; a word other than the two known ones is carried along and has no marker -/
inductive Severity where
  | error
  | warning
  | other (word : String)
  deriving DecidableEq, Repr

namespace Severity

/-- the severity a word names -/
def ofWord (word : String) : Severity :=
  if word = "error" then error else if word = "warning" then warning else other word

def word : Severity → String
  | error => "error"
  | warning => "warning"
  | other word => word

def isKnown : Severity → Bool
  | other _ => false
  | _ => true

end Severity

/-- a problem at a place, with an optional hint and category -/
structure Diagnostic where
  ruleId : String
  message : String
  line : Int
  column : Int
  severity : Severity := .error
  hint : Option String := none
  category : Option String := none
  deriving DecidableEq, Repr

namespace Diagnostic

/-- whether a diagnostic is listed before another -/
def before (a b : Diagnostic) : Bool :=
  a.line < b.line || (a.line == b.line &&
    (a.column < b.column || (a.column == b.column &&
      (a.ruleId < b.ruleId || (a.ruleId == b.ruleId && a.message < b.message)))))

def isError (d : Diagnostic) : Bool := d.severity = .error

end Diagnostic

end VixStyle
