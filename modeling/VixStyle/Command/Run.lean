/-
Running a command line on a tree of files: `runCommand` answers with the exit status and what is written to the two
output streams. Log lines and complaints go to the stream of errors, in the order in which they arise; without the
verbose flag only warnings are logged.
-/
import VixStyle.Command.Arguments
import VixStyle.Config.Discovery
import VixStyle.FileLint.Output
import VixStyle.Source.Dump

namespace VixStyle.Command

open Config Text

/-- how a command ends: its status, its output, and a complaint for whoever gave the command -/
structure Outcome where
  status : ExitStatus
  output : String := ""
  complaint : Option String := none

/-- why a command has no options to work with -/
inductive OptionsFault where
  | config (fault : ConfigFault)
  | setting (fault : SettingFault)
  | blankStyle
  | blankNumber
  | blankPath

namespace OptionsFault

def message : OptionsFault → String
  | config fault => fault.message
  | setting fault => fault.message
  | blankStyle => "[] is not a valid IndentStyle"
  | blankNumber => "a number is left blank"
  | blankPath => "a path is left blank"

/-- whether the command reports the fault and ends in order -/
def isReported : OptionsFault → Bool
  | config fault => fault.isReported
  | setting _ | blankStyle => true
  | blankNumber | blankPath => false

end OptionsFault

/-- what breaks a command off, so that it has no outcome -/
inductive Breakdown where
  | options (fault : OptionsFault)
  | files (e : LintPathsError)
  | render (e : RenderError)
  | nulInPath

def Breakdown.message : Breakdown → String
  | options fault => fault.message
  | files e => e.message
  | render e => e.message
  | nulInPath => nulMessage

/-- a command that ends with a complaint -/
def Outcome.complain (complaint : String) : Outcome := { status := .fileErrors, complaint := some complaint }

/-- lines, each ended by a line feed -/
def unlines (lines : List String) : String := String.join (lines.map fun line => line ++ "\n")

/-! ## checking files -/

/-- the names of the options that a command line overrides, in ascending order -/
def LintArguments.overrides (a : LintArguments) : List String :=
  (a.ignore.map fun _ => "disabled_rules").toList ++ (a.select.map fun _ => "enabled_rules").toList ++
    (a.indentStyle.map fun _ => "indent_style").toList ++ (a.indentWidth.map fun _ => "indent_width").toList

/-- rule ids that a command line gives for an option -/
def givenIds (option : String) : Option (List String) → Except SettingFault (Option (List String))
  | none => .ok none
  | some ids => (ruleIds option ids).map some

/-- the part of the program that logs about the command line -/
def commandLogSource : String := "vixlint.cli"

/-- words in brackets, each between quotes -/
def displayWords (words : List String) : String := "[" ++ ", ".intercalate (words.map Quoted.quote) ++ "]"

/-- options with the style and the rules that a command line gives -/
def LintArguments.overrideRules (a : LintArguments) (o : Options) : Except OptionsFault Options := do
  let style ← match a.indentStyle with
    | none => Except.ok o.indentStyle
    | some (.value style) => .ok style
    | some .blank => .error .blankStyle
  let select ← (givenIds "--select" a.select).mapError .setting
  let ignore ← (givenIds "--ignore" a.ignore).mapError .setting
  return { o with indentStyle := style, enabled := select.or o.enabled, disabled := ignore.getD o.disabled }

/-- options with the width that a command line gives -/
def LintArguments.overrideWidth (a : LintArguments) (o : Options) : Except OptionsFault Options :=
  match a.indentWidth with
  | none => .ok o
  | some (.value width) => (o.withWidth width).mapError fun e => .setting (.options e)
  | some .blank => .error .blankNumber

/-- options with what a command line overrides; the width is looked at last -/
def LintArguments.override (a : LintArguments) (o : Options) : Logged (Except OptionsFault Options) :=
  match a.overrideRules o with
  | .error fault => return .error fault
  | .ok o =>
    match a.overrides with
    | [] => return .ok o
    | names => do
      .say ⟨.debug, commandLogSource, "Command line overrides: " ++ displayWords names⟩
      return a.overrideWidth o

/-- the options for a command: those of the settings file, with what the command line overrides -/
def LintArguments.options [Machine] (a : LintArguments) (t : FileTree) : Logged (Except OptionsFault Options) := do
  let load := fun given => do
    match ← loadOptions t given (.ofString "") with
    | .error fault => return .error (.config fault)
    | .ok o => a.override o
  match a.config with
  | none => load none
  | some (.value file) => load (some file)
  | some .blank => return .error .blankPath

/-- the output on files in the form that is asked for -/
def LintArguments.render (a : LintArguments) (results : List FileResult) : Except RenderError String :=
  match a.format with
  | .json => .ok (unlines [(resultsDocument results).render])
  | .text => (renderResults results a.showHints).map unlines

/-- check files -/
def runLint [Machine] (t : FileTree) (a : LintArguments) : Logged (Except Breakdown Outcome) := do
  match ← a.options t with
  | .error fault =>
    if fault.isReported then return .ok (.complain ("vixlint: configuration error: " ++ fault.message))
    else return .error (.options fault)
  | .ok options =>
    match a.jobs with
    | .blank => return .error (.options .blankNumber)
    | .value jobs =>
      if jobs < 1 then return .ok (.complain s!"vixlint: --jobs must be at least 1, got {jobs}")
      else
        match ← lintPaths t options defaultRules jobs a.paths with
        | .error e => return .error (.files e)
        | .ok results =>
          return match a.render results with
            | .error e => .error (.render e)
            | .ok output => .ok { status := exitStatus results, output }

/-! ## listing rules and tokens -/

/-- the line of a rule in a list of rules -/
def ruleLine (r : Rule) : String :=
  padRight 26 r.header.id ++ " " ++ padRight 8 r.header.severity.word ++ " " ++ padRight 8 r.header.category ++ " " ++
    r.summary

/-- list the rules -/
def runRules : Outcome := { status := .clean, output := unlines (defaultRules.map ruleLine) }

/-- list the tokens of a file -/
def runTokens (t : FileTree) (file : Path) : Except Breakdown Outcome :=
  match t.readText file with
  | .error .nulInPath => .error .nulInPath
  | .error fault => .ok (.complain (renderFileError file.toText (fault.message file)))
  | .ok text => .ok { status := .clean, output := dumpText (Source.ofText text).lines }

/-! ## the command line -/

/-- do what a command does -/
def Action.run [Machine] (t : FileTree) : Action → Logged (Except Breakdown Outcome)
  | .lint a => runLint t a
  | .rules => return .ok runRules
  | .tokens file => return runTokens t file

/-- what a run leaves behind -/
structure Transcript where
  status : Nat
  output : String
  errors : String
  deriving DecidableEq, Repr

/-- the entries of a log that are written -/
def writtenEntries (verbose : Bool) (entries : List LogEntry) : List LogEntry :=
  entries.filter fun e => verbose || e.level = .warning

/-- the status of a command line that is refused -/
def refusedStatus : Nat := 2

/-- what reading a command line leaves behind when it ends early -/
def Stop.transcript : Stop → Transcript
  | .help program => ⟨0, unlines [synopsisOf program], ""⟩
  | .refused program refusal => ⟨refusedStatus, "", unlines [s!"{program}: error: {refusal.message}"]⟩

/-- run a command line -/
def runCommand [Machine] (t : FileTree) (arguments : List String) : Except Breakdown Transcript :=
  match Invocation.read arguments with
  | .error stop => .ok stop.transcript
  | .ok invocation =>
    let ran := invocation.action.run t
    ran.value.map fun outcome =>
      let log := (writtenEntries invocation.verbose ran.entries).map LogEntry.line
      ⟨outcome.status.code, outcome.output, unlines (log ++ outcome.complaint.toList)⟩

end VixStyle.Command
