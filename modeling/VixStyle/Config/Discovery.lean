/-
Finding the settings file for a directory: the nearest one in the directory itself or above it. In one directory a
dedicated file goes before a shared one, and a shared file counts only if it can be read and mentions the settings.
-/
import VixStyle.Config.File
import VixStyle.Log

namespace VixStyle.Config

/-- the part of the program that logs about settings files -/
def configLogSource : String := "vixlint.config"

def configNote (message : String) : LogEntry := ⟨.debug, configLogSource, message⟩

/-- a list of names and all that is left of it when names are taken off its end -/
def upward (names : List String) : List (List String) :=
  (List.range (names.length + 1)).map fun n => names.take (names.length - n)

/-- whether a shared file holds settings; one that is malformed does not -/
def sharedHoldsSettings [Machine] (t : FileTree) (file : Path) : Logged (Except ConfigFault Bool) :=
  match readDocument t file with
  | .ok document => return mentionsSettings document
  | .error fault => do
    if fault.namesFile then
      .say (configNote s!"Skipping unreadable {file.toText} during config discovery")
      return .ok false
    else return .error fault

/-- the settings file of one directory -/
def fileIn [Machine] (t : FileTree) (directory : List String) : Logged (Except ConfigFault (Option Path)) :=
  let dedicated := FileTree.pathTo (directory ++ [dedicatedName])
  let shared := FileTree.pathTo (directory ++ [sharedName])
  if t.isTooLong dedicated then return .error (.tooLong dedicated)
  else if t.isFile dedicated then return .ok (some dedicated)
  else if t.isTooLong shared then return .error (.tooLong shared)
  else if t.isFile shared then do
    return (← sharedHoldsSettings t shared).map fun holds => if holds then some shared else none
  else return .ok none

/-- the first settings file that some directories have -/
def firstFile [Machine] (t : FileTree) : List (List String) → Logged (Except ConfigFault (Option Path))
  | [] => return .ok none
  | directory :: more => do
    match ← fileIn t directory with
    | .ok none => firstFile t more
    | found => return found

/-- the settings file for a directory -/
def findFile [Machine] (t : FileTree) (start : Path) : Logged (Except ConfigFault (Option Path)) :=
  if start.hasNul then return .error .nulInPath
  else firstFile t (upward (t.resolve start))

/-- the options from a given file, or else from the settings file for a directory; the defaults if there is none -/
def loadOptions [Machine] (t : FileTree) (given : Option Path) (start : Path) :
    Logged (Except ConfigFault Options) := do
  let found ← match given with
    | some file => pure (.ok (some file))
    | none => findFile t start
  match found with
  | .error fault => return .error fault
  | .ok none => do
    .say (configNote "No vixlint configuration found; using defaults")
    return .ok {}
  | .ok (some file) => do
    .say (configNote s!"Loading vixlint configuration from {file.toText}")
    return readOptions t file

end VixStyle.Config
