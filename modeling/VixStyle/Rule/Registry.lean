/-
The eight rules that run unless others are given, in the order in which they are listed.
-/
import VixStyle.Rule
import VixStyle.Rule.Indentation
import VixStyle.Rule.Naming
import VixStyle.Rule.OneLineIf
import VixStyle.Rule.Spacing

namespace VixStyle

namespace Rule

/-- the header of the rule that looks for a problem -/
def headerFor (p : Problem) (name category : String) : RuleHeader := ⟨p.ruleId, name, category, p.severity⟩

def constNaming : Rule where
  header := headerFor .constNaming "constNaming" "naming"
  summary := "`const` names must be UPPER_SNAKE_CASE."
  check := fun _ source _ => Naming.checkConst source

def staticNaming : Rule where
  header := headerFor .staticNaming "staticNaming" "naming"
  summary := "`static` names must be UPPER_SNAKE_CASE."
  check := fun _ source _ => Naming.checkStatic source

def varNaming : Rule where
  header := headerFor .varNaming "varNaming" "naming"
  summary := "Variables should be snake_case; all-caps names read as constants."
  check := fun _ source _ => Naming.checkVar source

def funcNaming : Rule where
  header := headerFor .funcNaming "funcNaming" "naming"
  summary := "Function names should be snake_case."
  check := fun _ source _ => Naming.checkFunc source

def operatorSpacing : Rule where
  header := headerFor .operatorSpacing "operatorSpacing" "spacing"
  summary := "Binary operators take exactly one space on each side."
  check := fun h source _ => Spacing.checkOperators h.id h.severity source

def commaSpacing : Rule where
  header := headerFor .commaSpacing "commaSpacing" "spacing"
  summary := "Commas take no space before and exactly one after."
  check := fun h source _ => Spacing.checkCommas h.id h.severity source

def indentationConsistency : Rule where
  header := headerFor .indentationConsistency "indentationConsistency" "layout"
  summary := "Every block body sits exactly one indentation unit deeper than its opener."
  check := fun _ source options => Indentation.check source options
  refuses := Options.unitFault?

def singleVsMultilineIf : Rule where
  header := headerFor .singleVsMultilineIf "singleVsMultilineIf" "layout"
  summary := "A one-line `if ... then ... end` may only wrap a single simple statement."
  check := fun h source options => OneLineIf.check h.id h.severity source options

end Rule

/-- the rules that run unless others are given -/
def defaultRules : List Rule :=
  [.constNaming, .staticNaming, .varNaming, .funcNaming, .operatorSpacing, .commaSpacing, .indentationConsistency,
    .singleVsMultilineIf]

/-- the default rule of a given id -/
def defaultRule? (id : String) : Option Rule := defaultRules.find? fun r => r.header.id == id

/-- the ids of the default rules in ascending order -/
def knownRuleIds : List String := Text.wordSet (defaultRules.map fun r => r.header.id)

end VixStyle
