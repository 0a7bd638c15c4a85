/-
The program: it takes from the disk what a command line needs, runs the command line on that, and writes what the run
leaves behind. Nothing is decided here.
-/
import VixStyle.Command.Run

namespace VixStyle.Main

open Command Config

/-- the text of a path from the root of the disk -/
def absoluteText (names : List String) : String := (FileTree.pathTo names).toText

/-- add what the disk has at a place: the directories that lead there, and a file or the sources below a directory -/
def addPlace (tree : FileTree) (names : List String) : IO FileTree := do
  let disk ← IO.currentDir
  let mut tree := tree
  for length in List.range names.length do
    let place := names.take (length + 1)
    let path := disk / absoluteText place
    if ← path.isDir then tree := tree.addDirectory place
    else if ← path.pathExists then tree := tree.addFile place (← IO.FS.readBinFile path).toList
  let path := disk / absoluteText names
  if ← path.isDir then
    for file in ← path.walkDir do
      if isSourceName file.toString then
        let place := (Path.ofString file.toString).names
        if ← file.isDir then tree := tree.addDirectory place
        else tree := tree.addFile place (← IO.FS.readBinFile file).toList
  return tree

/-- the paths that a command reads -/
def pathsOf : Action → List Path
  | .lint given =>
    match given.config with
    | some (.value file) => file :: given.paths
    | _ => given.paths
  | .rules => []
  | .tokens file => [file]

/-- the settings files that may apply to a directory -/
def settingsPlaces (directory : List String) : List (List String) :=
  (upward directory).flatMap fun names => [names ++ [dedicatedName], names ++ [sharedName]]

/-- what the disk has for a command -/
def readDisk (action : Action) : IO FileTree := do
  let here := (Path.ofString (← IO.currentDir).toString).names
  let tree := (FileTree.empty []).goTo here
  let places := settingsPlaces here ++ (pathsOf action).map tree.resolve
  places.foldlM addPlace tree

end VixStyle.Main

open VixStyle in
/-- run the command line -/
def main (arguments : List String) : IO UInt32 := do
  let tree ← match Command.Invocation.read arguments with
    | .ok invocation => Main.readDisk invocation.action
    | .error _ => pure (FileTree.empty [])
  match Command.runCommand tree arguments with
  | .ok transcript =>
    IO.print transcript.output
    IO.eprint transcript.errors
    return transcript.status.toUInt32
  | .error breakdown =>
    IO.eprintln breakdown.message
    return 1
