/-
What a throughput measurement works on: the source files under a directory, and how many lines and diagnostics they have
with default options. The same files are checked in every run, so all runs count the same.
-/
import VixStyle.Command.Arguments
import VixStyle.FileLint

namespace VixStyle.Throughput

open Command

/-! ## what is asked for -/

/-- what a measurement is told -/
structure Request where
  root : Path := ⟨"", []⟩
  runs : Given Int := .value 5
  warmups : Given Int := .value 1
  limit : Given Int := .value 0
  profile : Bool := false
  profileLines : Given Int := .value 30
  profileOrder : Given String := .value "tottime"

/-- the name of an order as the value of an option -/
def orderValue : Option String → Given String
  | some name => .value name
  | none => .blank

def grammar : Grammar Request where
  program := "throughput"
  options := [
    helpOption,
    ⟨["--runs"], .value fun given r => do return { r with runs := ← wholeValue given }⟩,
    ⟨["--warmups"], .value fun given r => do return { r with warmups := ← wholeValue given }⟩,
    ⟨["--no-progress"], .flag id⟩,
    ⟨["--profile"], .flag fun r => { r with profile := true }⟩,
    ⟨["--profile-top"], .value fun given r => do return { r with profileLines := ← wholeValue given }⟩,
    ⟨["--profile-sort"], .value fun given r => .ok { r with profileOrder := orderValue given }⟩,
    ⟨["--limit-files"], .value fun given r => do return { r with limit := ← wholeValue given }⟩]
  operands := some ⟨"root", .one, fillOne fun text r => { r with root := .ofString text }⟩

/-! ## what is measured -/

/-- why nothing can be measured -/
inductive Obstacle where
  | tooLong (root : Path)
  | noDirectory (root : Path)
  | noFiles (root : Path)
  | blank
  | unknownOrder (name : String)
  deriving DecidableEq, Repr

def Obstacle.message : Obstacle → String
  | tooLong root => FileFault.nameTooLong.message root
  | noDirectory root => s!"Invalid root directory: {root.toText}"
  | noFiles root => s!"No {sourceSuffix} files found under {root.toText}"
  | blank => "a value is left blank"
  | unknownOrder name => Text.Quoted.quote name

/-- the names of the orders in which a profile may be listed -/
def orderNames : List String := [
  "calls", "ncalls", "cumtime", "cumulative", "filename", "line", "module", "name", "nfl", "pcalls", "stdname", "time",
  "tottime"]

/-- the starts that names of different orders share -/
def sharedStarts : List String := ["c", "cum", "n", "t"]

/-- whether a text names an order, maybe by a start of its name that no other order shares -/
def isOrder (text : String) : Bool :=
  text ≠ "" && !sharedStarts.contains text && orderNames.any fun name => text.toList.isPrefixOf name.toList

/-- the size of a measurement -/
structure Workload where
  root : Path
  files : Nat
  lines : Nat
  diagnostics : Nat
  runs : Int
  warmups : Int
  deriving DecidableEq, Repr

/-- a number that has to be there -/
def number : Given Int → Except Obstacle Int
  | .value n => .ok n
  | .blank => .error .blank

/-- the files for a request; a limit counts only if it is positive -/
def Request.files (r : Request) (t : FileTree) : Except Obstacle (List Path) := do
  if t.isTooLong r.root then throw (.tooLong r.root)
  if !t.isDirectory r.root then throw (.noDirectory r.root)
  match t.collect [r.root] with
  | [] => throw (.noFiles r.root)
  | files =>
    let limit ← number r.limit
    return if 0 < limit then files.take limit.toNat else files

/-- what a profile needs: an order to list it in, and how many lines of it to list -/
def Request.checkProfile (r : Request) : Except Obstacle Unit :=
  match r.profile, r.profileOrder with
  | false, _ => .ok ()
  | true, .blank => .error .blank
  | true, .value name => if isOrder name then (number r.profileLines).map fun _ => () else .error (.unknownOrder name)

/-- the source in a file, if it can be read -/
def source? (t : FileTree) (file : Path) : Option Source :=
  match t.readText file with
  | .ok text => some (.ofText text)
  | .error _ => none

/-- a count summed up over sources -/
def sumOver (count : Source → Nat) (sources : List Source) : Nat := sources.foldr (fun s sum => count s + sum) 0

/-- the size of what a request measures; files that cannot be read count as files only -/
def Request.workload (r : Request) (t : FileTree) : Except Obstacle Workload := do
  let files ← r.files t
  let warmups ← number r.warmups
  let runs ← number r.runs
  r.checkProfile
  let sources := files.filterMap (source? t)
  return {
    root := r.root
    files := files.length
    lines := sumOver (fun s => s.lines.length) sources
    diagnostics := sumOver (fun s => (s.diagnostics {} defaultRules).length) sources
    runs := max runs 1
    warmups := max warmups 0 }

/-- the lines that state the size of a measurement -/
def Workload.render (w : Workload) : List String := [
  s!"Dataset: {w.root.toText}",
  s!"Files: {w.files}",
  s!"Lines: {w.lines}",
  s!"Diagnostics: {w.diagnostics}",
  s!"Runs: {w.runs} (warmups={w.warmups})"]

end VixStyle.Throughput
