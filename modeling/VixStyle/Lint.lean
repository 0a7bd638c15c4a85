/-
One lint run over a source: the faults of its lines, its nameless declarations and what the selected rules find, in one
sorted report. The rules are validated before any of them runs, and a run ends at the first selected rule that refuses
the options.
-/
import VixStyle.Report
import VixStyle.Rule.Registry

namespace VixStyle

/-- the diagnostics on unclosed string literals -/
def Source.faultDiagnostics (s : Source) : List Diagnostic :=
  s.faults.map fun e =>
    Problem.unterminatedString.found e.line e.column Problem.unterminatedString.message
      Problem.unterminatedString.hint

/-- the message on a declaration keyword without a name -/
def NamelessDeclaration.message (n : NamelessDeclaration) : String :=
  "`" ++ n.keyword.spelling ++ "` is not followed by a name" ++
    match n.found with
    | none => ""
    | some text => " (found `" ++ String.ofList text ++ "`)"

/-- the diagnostics on declaration keywords without a name -/
def Source.namelessDiagnostics (s : Source) : List Diagnostic :=
  s.namelessDeclarations.map fun n =>
    Problem.malformedDeclaration.found n.line n.column n.message Problem.malformedDeclaration.hint

/-- what the selected rules come to on a source, one after the other -/
def Source.answers [Machine] (s : Source) (options : Options) (rules : List Rule) :
    Except UnitFault (List (List Diagnostic)) :=
  (selectRules rules options).mapM fun r => r.answer s options

/-- all that is found in a source, unsorted, where no selected rule refuses the options -/
def Source.diagnostics (s : Source) (options : Options) (rules : List Rule) : List Diagnostic :=
  s.faultDiagnostics ++ s.namelessDiagnostics ++
    (selectRules rules options).flatMap fun r => r.run s options

/-- the report on all that is found in a source -/
def Source.report (s : Source) (options : Options) (rules : List Rule) : Report := .of (s.diagnostics options rules)

/-- why a source is not checked -/
inductive LintFault where
  | rules (fault : RuleFault)
  | unit (fault : UnitFault)
  deriving DecidableEq, Repr

def LintFault.message : LintFault → String
  | rules fault => fault.message
  | unit fault => fault.message

/-- check a source that has been read -/
def lintSource [Machine] (s : Source) (options : Options) (rules : List Rule) : Except LintFault Report := do
  (validateRules rules).mapError .rules
  let found ← (s.answers options rules).mapError .unit
  return .of (s.faultDiagnostics ++ s.namelessDiagnostics ++ found.flatten)

/-- a run gives the report on all that is found, unless the rules are not accepted or one of them refuses the options -/
theorem lintSource_eq_refusal [Machine] (s : Source) (o : Options) (rules : List Rule) : lintSource s o rules = do
    (validateRules rules).mapError .rules
    match refusal? (selectRules rules o) o with
    | some fault => throw (.unit fault)
    | none => return s.report o rules := by
  rw [lintSource, Source.answers, mapM_answer]
  cases refusal? (selectRules rules o) o <;> rfl

/-- check a text -/
def lint [Machine] (text : List Char) (options : Options) (rules : List Rule) : Except LintFault Report :=
  lintSource (Source.ofText text) options rules

/-- check a text with the default rules -/
def lintDefault [Machine] (text : List Char) (options : Options) : Except LintFault Report :=
  lint text options defaultRules

end VixStyle
