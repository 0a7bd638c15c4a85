/-
Checking files: which files some paths stand for, the outcome for each of them, and the exit status of the whole.

A file that cannot be read is an outcome of its own and no error of the run, unless the disk cannot even be asked for it.
-/
import VixStyle.FileTree
import VixStyle.Lint
import VixStyle.Log
import VixStyle.Text.Line

namespace VixStyle

/-! ## outcomes -/

/-- what came of one file -/
inductive FileOutcome where
  | linted (source : Source) (report : Report)
  | unreadable (fault : Option String)

/-- a file with its outcome -/
structure FileResult where
  path : Path
  outcome : FileOutcome

namespace FileResult

def report? (r : FileResult) : Option Report :=
  match r.outcome with
  | .linted _ report => some report
  | .unreadable _ => none

/-- whether the file could not be read -/
def failed (r : FileResult) : Bool := r.report?.isNone

end FileResult

/-- how a run ends -/
inductive ExitStatus where
  | clean | lintErrors | fileErrors
  deriving DecidableEq, Repr

def ExitStatus.code : ExitStatus → Nat
  | clean => 0
  | lintErrors => 1
  | fileErrors => 2

/-- files that could not be read weigh more than errors in files -/
def exitStatus (results : List FileResult) : ExitStatus :=
  if results.any FileResult.failed then .fileErrors
  else if results.any fun r => r.report?.any Report.hasErrors then .lintErrors
  else .clean

/-! ## collecting -/

/-- how the names of source files end -/
def sourceSuffix : String := ".vix"

def isSourceName (name : String) : Bool := sourceSuffix.toList.isSuffixOf name.toList

/-- the source files in a directory at any depth, in order -/
def FileTree.sourcesIn (t : FileTree) (p : Path) : List Path :=
  match t.locate p with
  | .error _ => []
  | .ok place =>
    Path.sort (((t.filesBelow place).filter fun names => names.getLast?.any isSourceName).map p.below)

/-- the files that one path stands for -/
def FileTree.expand (t : FileTree) (p : Path) : List Path := if t.isDirectory p then t.sourcesIn p else [p]

/-- paths without those that came before -/
def firstAppearances (seen : List Path) : List Path → List Path
  | [] => []
  | p :: more => if seen.contains p then firstAppearances seen more else p :: firstAppearances (p :: seen) more

/-- the files that some paths stand for, each once; a path that is too long is taken for a file -/
def FileTree.collect (t : FileTree) (paths : List Path) : List Path :=
  firstAppearances [] (paths.flatMap t.expand)

/-- the files that some paths stand for, or the first path that is too long -/
def FileTree.sources (t : FileTree) (paths : List Path) : Except Path (List Path) :=
  match paths.find? t.isTooLong with
  | some p => .error p
  | none => .ok (t.collect paths)

/-! ## checking -/

/-- the part of the program that logs about files -/
def fileLogSource : String := "vixlint.pipeline.entrypoints"

def fileWarning (message : String) : LogEntry := ⟨.warning, fileLogSource, message⟩

def fileNote (message : String) : LogEntry := ⟨.debug, fileLogSource, message⟩

/-- the text of a file; every line terminator in it is read as a line feed -/
def FileTree.readText (t : FileTree) (p : Path) : Except ReadFault (List Char) :=
  (t.readUtf8 p).map Text.unifyTerminators

/-- why a file has no outcome -/
inductive FileLintFault where
  | nulInPath
  | lint (fault : LintFault)
  deriving DecidableEq, Repr

def FileLintFault.message : FileLintFault → String
  | nulInPath => nulMessage
  | lint fault => fault.message

/-- check one file -/
def lintFile [Machine] (t : FileTree) (options : Options) (rules : List Rule) (p : Path) :
    Logged (Except FileLintFault FileResult) :=
  match t.readText p with
  | .error .nulInPath => return .error .nulInPath
  | .error (.disk fault) => do
    .say (fileWarning s!"Cannot read {p.toText}: {fault.message p}")
    return .ok ⟨p, .unreadable (some s!"cannot read file: {fault.reason}")⟩
  | .error (.undecodable fault) => do
    .say (fileWarning s!"Cannot decode {p.toText} as UTF-8: {fault.message}")
    return .ok ⟨p, .unreadable (some s!"cannot decode as UTF-8: {fault.reason.message}")⟩
  | .ok text => do
    let source := Source.ofText text
    match lintSource source options rules with
    | .error fault => return .error (.lint fault)
    | .ok report => do
      .say (fileNote s!"Linted {p.toText}: {report.errorCount} errors, {report.warningCount} warnings")
      return .ok ⟨p, .linted source report⟩

/-- check files one after the other, up to the first that has no outcome -/
def lintEach [Machine] (t : FileTree) (options : Options) (rules : List Rule) :
    List Path → Logged (Except FileLintFault (List FileResult))
  | [] => return .ok []
  | p :: more => do
    match ← lintFile t options rules p with
    | .error fault => return .error fault
    | .ok result =>
      match ← lintEach t options rules more with
      | .error fault => return .error fault
      | .ok results => return .ok (result :: results)

/-- why a run over paths does not begin or does not end -/
inductive LintPathsError where
  | jobsBelowOne (jobs : Int)
  | tooLong (p : Path)
  | file (fault : FileLintFault)
  deriving DecidableEq, Repr

def LintPathsError.message : LintPathsError → String
  | jobsBelowOne jobs => s!"jobs must be at least 1, got {jobs}"
  | tooLong p => FileFault.nameTooLong.message p
  | file fault => fault.message

/-- log the directories among some paths -/
def noteDirectories (t : FileTree) : List Path → Logged Unit
  | [] => return ()
  | p :: more => do
    if t.isDirectory p then
      .say (fileNote s!"Found {(t.sourcesIn p).length} {sourceSuffix} files under {p.toText}")
    noteDirectories t more

/-- check all files that some paths stand for; the number of jobs changes nothing in the results -/
def lintPaths [Machine] (t : FileTree) (options : Options) (rules : List Rule) (jobs : Int) (paths : List Path) :
    Logged (Except LintPathsError (List FileResult)) :=
  if jobs < 1 then return .error (.jobsBelowOne jobs)
  else
    match t.sources paths with
    | .error p => return .error (.tooLong p)
    | .ok files => do
      noteDirectories t paths
      .say (fileNote s!"Linting {files.length} files with {jobs} job(s)")
      return (← lintEach t options rules files).mapError .file

end VixStyle
