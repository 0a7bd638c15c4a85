/-
From settings to options. A key may be written with underscores for its hyphens. All keys have to be known; then each
setting is checked in a fixed order, so the answer does not depend on the order in which the settings were given.
-/
import VixStyle.Rule.Registry
import VixStyle.Setting.Limit

namespace VixStyle.Config

open Setting Text

/-- what is wrong with settings -/
inductive SettingFault where
  | unknownKeys (keys : List String)
  | width (given : Value)
  | style (given : Value)
  | notWords (option : String)
  | unknownRules (option : String) (ids : List String)
  | unknownStatements (names : List String)
  | options (e : OptionsError)
  | limit (l : Limit)

def SettingFault.message : SettingFault → String
  | unknownKeys keys => "unknown option(s): " ++ ", ".intercalate keys
  | width given => "indent-width must be a positive integer, got " ++ given.display
  | style given =>
    "indent-style must be one of " ++ ", ".intercalate (IndentStyle.all.map IndentStyle.name) ++ ", got " ++
      given.display
  | notWords option => option ++ " must be a list of strings"
  | unknownRules option ids => option ++ " has unknown rule id(s): " ++ ", ".intercalate ids
  | unknownStatements names => "single-line-if-statements has unknown kind(s): " ++ ", ".intercalate names
  | options e => e.message
  | limit l => l.message

/-- the keys of settings -/
def knownKeys : List String := ["indent-width", "indent-style", "select", "ignore", "single-line-if-statements"]

/-- a key with hyphens for its underscores -/
def normalKey (key : String) : String := key.map fun c => if c = '_' then '-' else c

/-- the value of a normal key; of two spellings of one key the later counts -/
def lookup? (settings : Table) (key : String) : Option Value :=
  (settings.reverse.find? fun member => normalKey member.1 == key).map Prod.snd

/-- the normal keys that are not known, each once and in order -/
def unknownKeys (settings : Table) : List String :=
  wordSet ((settings.map fun member => normalKey member.1).filter fun key => !knownKeys.contains key)

def width? : Value → Option Int
  | .int n => if 1 ≤ n then some n else none
  | _ => none

def style? : Value → Option IndentStyle
  | .text s => IndentStyle.ofName? s
  | _ => none

/-- a width that is shown -/
def shownWidth (given : Value) : Shown := { value := given }

/-- a style that is shown: first where it is looked up, which is deeper -/
def shownStyle [Machine] (given : Value) : Shown := ⟨given, Machine.lookupRoom⟩

/-- refuse a value with a fault that shows it, unless a limit keeps it from being shown -/
def refuse [Machine] {α : Type} (given : Shown) (fault : Value → SettingFault) : Except SettingFault α :=
  match given.limit? with
  | some l => .error (.limit l)
  | none => .error (fault given.value)

/-- rule ids given for an option, all of them known -/
def ruleIds (option : String) (ids : List String) : Except SettingFault (List String) :=
  match wordSet (ids.filter fun id => !knownRuleIds.contains id) with
  | [] => .ok (wordSet ids)
  | unknown => .error (.unknownRules option unknown)

/-- the words given for an option -/
def words (option : String) (given : Value) : Except SettingFault (List String) :=
  match given.texts? with
  | some list => .ok list
  | none => .error (.notWords option)

/-- the width that settings give -/
def withWidth [Machine] (settings : Table) (o : Options) : Except SettingFault Options :=
  match lookup? settings "indent-width" with
  | none => .ok o
  | some given =>
    match width? given with
    | none => refuse (shownWidth given) .width
    | some n => (o.withWidth n).mapError .options

/-- the style that settings give -/
def withStyle [Machine] (settings : Table) (o : Options) : Except SettingFault Options :=
  match lookup? settings "indent-style" with
  | none => .ok o
  | some given =>
    match style? given with
    | none => refuse (shownStyle given) .style
    | some style => .ok { o with indentStyle := style }

/-- the rules that settings select -/
def withSelect (settings : Table) (o : Options) : Except SettingFault Options :=
  match lookup? settings "select" with
  | none => .ok o
  | some given => do
    let ids ← ruleIds "select" (← words "select" given)
    return { o with enabled := some ids }

/-- the rules that settings ignore -/
def withIgnore (settings : Table) (o : Options) : Except SettingFault Options :=
  match lookup? settings "ignore" with
  | none => .ok o
  | some given => do
    let ids ← ruleIds "ignore" (← words "ignore" given)
    return { o with disabled := ids }

/-- the kinds of statement that settings permit in an `if` on one line -/
def withStatements (settings : Table) (o : Options) : Except SettingFault Options :=
  match lookup? settings "single-line-if-statements" with
  | none => .ok o
  | some given => do
    let names ← words "single-line-if-statements" given
    match unknownStatementNames names with
    | [] => return { o with oneLineStatements := namedStatements names }
    | unknown => throw (.unknownStatements unknown)

/-- the options that settings give -/
def optionsOf [Machine] (settings : Table) : Except SettingFault Options :=
  match unknownKeys settings with
  | [] => do
    let o ← withWidth settings {}
    let o ← withStyle settings o
    let o ← withSelect settings o
    let o ← withIgnore settings o
    withStatements settings o
  | unknown => .error (.unknownKeys unknown)

end VixStyle.Config
