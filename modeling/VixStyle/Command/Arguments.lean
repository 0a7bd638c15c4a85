/-
The command line of the checker: three commands, and what each of them may be told.
-/
import VixStyle.Command.Grammar
import VixStyle.Options
import VixStyle.Path
import VixStyle.Text.Search
import VixStyle.Text.Whole

namespace VixStyle.Command

open Text

/-- the form of a report on files -/
inductive ReportFormat where
  | text | json
  deriving DecidableEq, Repr

namespace ReportFormat

def all : List ReportFormat := [text, json]

def name : ReportFormat → String
  | text => "text"
  | json => "json"

end ReportFormat

/-- the value of an option that may be left blank -/
inductive Given (α : Type) where
  | value (a : α)
  | blank
  deriving DecidableEq, Repr

/-- what a check of files is told; what is not given is left to the settings file -/
structure LintArguments where
  paths : List Path := []
  config : Option (Given Path) := none
  indentWidth : Option (Given Int) := none
  indentStyle : Option (Given IndentStyle) := none
  select : Option (List String) := none
  ignore : Option (List String) := none
  format : ReportFormat := .text
  showHints : Bool := true
  jobs : Given Int := .value 1
  showProgress : Bool := false

/-- what a command does, with its arguments -/
inductive Action where
  | lint (given : LintArguments)
  | rules
  | tokens (file : Path)

/-- a command line that has been read -/
structure Invocation where
  verbose : Bool
  action : Action

/-! ## values -/

/-- a path as the value of an option -/
def pathValue : Option String → Given Path
  | some given => .value (.ofString given)
  | none => .blank

/-- a whole number as the value of an option -/
def wholeValue : Option String → Except ValueFault (Given Int)
  | some given =>
    match whole? given.toList with
    | some n => .ok (.value n)
    | none => .error (.notWhole given)
  | none => .ok .blank

/-- one of a few named values as the value of an option -/
def choice {α : Type} (all : List α) (name : α → String) : Option String → Except ValueFault (Given α)
  | some given =>
    match all.find? fun a => name a == given with
    | some a => .ok (.value a)
    | none => .error (.notAmong given (all.map name))
  | none => .ok .blank

/-- the items between commas, without the white space around them; empty items do not count -/
def commaList (given : Option String) : List String :=
  (((cutAt ',' (given.getD "").toList).map strip).filter fun item => !item.isEmpty).map String.ofList

/-- the form that is asked for; a blank asks for nothing else than the usual -/
def formatValue (given : Option String) : Except ValueFault ReportFormat := do
  match ← choice ReportFormat.all ReportFormat.name given with
  | .value format => return format
  | .blank => return .text

/-! ## grammars -/

/-- the name of the program -/
def programName : String := "vixlint"

/-- a text as the only operand -/
def fillOne {σ : Type} (set : String → σ → σ) (texts : List String) (state : σ) : Except Stop σ :=
  .ok (match texts with
    | text :: _ => set text state
    | [] => state)

def lintGrammar : Grammar LintArguments where
  program := programName ++ " lint"
  options := [
    helpOption,
    ⟨["--config"], .value fun given a => .ok { a with config := some (pathValue given) }⟩,
    ⟨["--indent-width"], .value fun given a => do return { a with indentWidth := some (← wholeValue given) }⟩,
    ⟨["--indent-style"], .value fun given a => do
      return { a with indentStyle := some (← choice IndentStyle.all IndentStyle.name given) }⟩,
    ⟨["--select"], .value fun given a => .ok { a with select := some (commaList given) }⟩,
    ⟨["--ignore"], .value fun given a => .ok { a with ignore := some (commaList given) }⟩,
    ⟨["--format"], .value fun given a => do return { a with format := ← formatValue given }⟩,
    ⟨["--no-hints"], .flag fun a => { a with showHints := false }⟩,
    ⟨["--jobs"], .value fun given a => do return { a with jobs := ← wholeValue given }⟩,
    ⟨["--progress"], .flag fun a => { a with showProgress := true }⟩]
  operands := some ⟨"paths", .many, fun texts a => .ok { a with paths := texts.map .ofString }⟩

def rulesGrammar : Grammar Unit where
  program := programName ++ " rules"
  options := [helpOption]
  operands := none

def tokensGrammar : Grammar Path where
  program := programName ++ " tokens"
  options := [helpOption]
  operands := some ⟨"path", .one, fillOne fun text _ => .ofString text⟩

/-- the names of the commands -/
def commandNames : List String := ["lint", "rules", "tokens"]

/-- a command, and the arguments that it leaves over -/
def readAction (name : String) (arguments : List String) : Except Stop (Action × List String) :=
  match name with
  | "lint" => do
    let (given, extra) ← lintGrammar.read {} arguments
    return (.lint given, extra)
  | "rules" => do
    let (_, extra) ← rulesGrammar.read () arguments
    return (.rules, extra)
  | "tokens" => do
    let (file, extra) ← tokensGrammar.read ⟨"", []⟩ arguments
    return (.tokens file, extra)
  | name => .error (.refused programName (.value "command" (.notAmong name commandNames)))

/-- a command line while it is read -/
structure Draft where
  verbose : Bool := false
  action : Option Action := none
  extra : List String := []

def topGrammar : Grammar Draft where
  program := programName
  options := [helpOption, ⟨["-v", "--verbose"], .flag fun d => { d with verbose := true }⟩]
  operands := some ⟨"command", .all, fun texts d =>
    match texts with
    | [] => .ok d
    | name :: arguments => do
      let (action, extra) ← readAction name arguments
      return { d with action := some action, extra }⟩

/-- read a command line; what the program leaves over is named before what the command leaves over -/
def Invocation.read (arguments : List String) : Except Stop Invocation := do
  let (draft, extra) ← topGrammar.read {} arguments
  match draft.action, extra ++ draft.extra with
  | some action, [] => return ⟨draft.verbose, action⟩
  | none, [] => throw (.refused programName (.missing "command"))
  | _, extra => throw (.refused programName (.unrecognized extra))

/-- the line that help shows for a program -/
def synopsisOf (program : String) : String :=
  if program = lintGrammar.program then lintGrammar.synopsis
  else if program = rulesGrammar.program then rulesGrammar.synopsis
  else if program = tokensGrammar.program then tokensGrammar.synopsis
  else topGrammar.synopsis

end VixStyle.Command
