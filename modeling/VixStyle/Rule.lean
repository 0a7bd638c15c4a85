/-
Rules: a header that says what the rule is called and how grave its findings are, and a check from a source to
diagnostics. The check is given the header, so that a rule under another name can report under that name. A rule may refuse
options that it cannot work with; `Rule.answer` is a run that comes to a refusal or to what the check finds.

A header is taken as it is given; `validate` says which lists of rules may run. It names the first rule at fault and, of
several faults of that rule, the first in the order of `RuleFault`.
-/
import VixStyle.Diagnostic
import VixStyle.Options
import VixStyle.Source

namespace VixStyle

/-- what a rule is called -/
structure RuleHeader where
  id : String
  name : String
  category : String
  severity : Severity
  deriving DecidableEq, Repr

/-- a check of a source, and why it cannot work with some options; a check is shown the lines of a source only -/
structure Rule where
  header : RuleHeader
  summary : String := ""
  check : RuleHeader → Source → Options → List Diagnostic
  refuses : [Machine] → Options → Option UnitFault := fun _ => none
  check_congr : ∀ h s s' o, s.lines = s'.lines → check h s o = check h s' o := by rintro _ ⟨_, _⟩ ⟨_, _⟩ _ rfl; rfl

/-- what a rule finds where it does not refuse the options -/
def Rule.run (r : Rule) (source : Source) (options : Options) : List Diagnostic :=
  r.check r.header source options

/-- what a run of a rule comes to: why it refuses the options, or what it finds -/
def Rule.answer [Machine] (r : Rule) (source : Source) (options : Options) : Except UnitFault (List Diagnostic) :=
  match r.refuses options with
  | some fault => .error fault
  | none => .ok (r.run source options)

theorem Rule.answer_eq_ok_iff [Machine] {r : Rule} {s : Source} {o : Options} {found : List Diagnostic} :
    r.answer s o = .ok found ↔ r.refuses o = none ∧ r.run s o = found := by
  unfold Rule.answer
  cases r.refuses o <;> simp

/-- a run of a rule comes to diagnostics exactly if the rule does not refuse the options -/
theorem Rule.exists_answer_iff [Machine] {r : Rule} {s : Source} {o : Options} :
    (∃ found, r.answer s o = .ok found) ↔ r.refuses o = none := by
  simp only [Rule.answer_eq_ok_iff, exists_and_left, exists_eq', and_true]

/-- a rule that reports the same diagnostics on every source -/
def Rule.reporting (header : RuleHeader) (diagnostics : List Diagnostic) : Rule :=
  { header, check := fun _ _ _ => diagnostics }

/-- why some rules cannot work with options: the first that refuses them tells -/
def refusal? [Machine] (rules : List Rule) (options : Options) : Option UnitFault :=
  rules.findSome? fun r => r.refuses options

theorem refusal?_cons [Machine] (r : Rule) (rules : List Rule) (o : Options) :
    refusal? (r :: rules) o = (r.refuses o).or (refusal? rules o) := by
  rw [refusal?, List.findSome?_cons]
  cases r.refuses o <;> rfl

/-- rules run one after the other answer together, unless one of them refuses the options -/
theorem mapM_answer [Machine] (rules : List Rule) (s : Source) (o : Options) :
    rules.mapM (fun r => r.answer s o) =
      match refusal? rules o with
      | some fault => .error fault
      | none => .ok (rules.map fun r => r.run s o) := by
  induction rules with
  | nil => rfl
  | cons r rules ih =>
    rw [List.mapM_cons, ih, Rule.answer, refusal?_cons]
    cases r.refuses o with
    | some fault => rfl
    | none => cases refusal? rules o <;> rfl

/-- the rules that the options enable, in their order -/
def selectRules (rules : List Rule) (options : Options) : List Rule :=
  rules.filter fun r => options.enables r.header.id

/-! ## rule ids -/

/-- a small letter of ASCII -/
def isIdLetter (c : Char) : Bool := 'a' ≤ c && c ≤ 'z'

/-- a small letter or a digit of ASCII -/
def isIdChar (c : Char) : Bool := isIdLetter c || ('0' ≤ c && c ≤ '9')

/-- words of small letters and digits with single hyphens between them; `inWord` says that a word has begun -/
def isHyphenated (inWord : Bool) : List Char → Bool
  | [] => inWord
  | c :: rest =>
    if isIdChar c then isHyphenated true rest
    else c == '-' && inWord && isHyphenated false rest

/-- a rule id: hyphenated words of small letters and digits, the first character a letter -/
def isRuleId (id : String) : Bool :=
  match id.toList with
  | [] => false
  | c :: rest => isIdLetter c && isHyphenated true rest

/-! ## validation -/

/-- what is wrong with a rule -/
inductive RuleFault where
  | malformedId (name id : String)
  | repeatedId (id : String)
  | unknownCategory (name category : String)
  | unknownSeverity (name severity : String)
  deriving DecidableEq, Repr

def RuleFault.message : RuleFault → String
  | malformedId name id => s!"Lint rule `{name}` has invalid id `{id}`; expected kebab-case."
  | repeatedId id => s!"Lint rule id `{id}` is registered more than once."
  | unknownCategory name category =>
    s!"Lint rule `{name}` has invalid category `{category}`; expected naming/spacing/layout."
  | unknownSeverity name severity =>
    s!"Lint rule `{name}` has invalid severity `{severity}`; expected error/warning."

/-- the categories a rule may have -/
def ruleCategories : List String := ["naming", "spacing", "layout"]

/-- the first fault of a rule, when the ids in `seen` belong to earlier rules -/
def RuleHeader.fault? (seen : List String) (h : RuleHeader) : Option RuleFault :=
  if !isRuleId h.id then some (.malformedId h.name h.id)
  else if seen.contains h.id then some (.repeatedId h.id)
  else if !ruleCategories.contains h.category then some (.unknownCategory h.name h.category)
  else if !h.severity.isKnown then some (.unknownSeverity h.name h.severity.word)
  else none

/-- the first fault among rules, when the ids in `seen` belong to earlier rules -/
def faultFrom? (seen : List String) : List RuleHeader → Option RuleFault
  | [] => none
  | h :: more => (h.fault? seen).or (faultFrom? (h.id :: seen) more)

/-- accept a list of rules that may run together, or name its first fault -/
def validateRules (rules : List Rule) : Except RuleFault Unit :=
  match faultFrom? [] (rules.map Rule.header) with
  | some fault => .error fault
  | none => .ok ()

end VixStyle
