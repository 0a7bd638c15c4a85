/-
A tree of files as one value: what a run of the program sees of the disk.

The tree hangs at a place `base` of the disk, which the names from the root of the disk give; above it there are only the
directories that lead to it. Files are found the way a disk finds them: name by name from where one is, where every name
but the last has to be a directory.
-/
import VixStyle.Path
import VixStyle.Text.Quoted
import VixStyle.Text.Utf8

namespace VixStyle

/-- a file with its bytes, or a directory -/
inductive Entry where
  | file (bytes : List UInt8)
  | directory
  deriving DecidableEq, Repr

def Entry.isDirectory : Entry → Bool
  | directory => true
  | file _ => false

/-- why the disk does not open a file -/
inductive FileFault where
  | missing | isDirectory | notDirectory | nameTooLong
  deriving DecidableEq, Repr

namespace FileFault

def number : FileFault → Nat
  | missing => 2
  | notDirectory => 20
  | isDirectory => 21
  | nameTooLong => 36

def reason : FileFault → String
  | missing => "No such file or directory"
  | notDirectory => "Not a directory"
  | isDirectory => "Is a directory"
  | nameTooLong => "File name too long"

/-- the fault with its number and the path that was asked for -/
def message (e : FileFault) (p : Path) : String :=
  s!"[Errno {e.number}] {e.reason}: " ++ Text.Quoted.quote p.toText

end FileFault

/-- why a file cannot be read; a path with a NUL character in it does not get as far as the disk -/
inductive ReadFault where
  | nulInPath
  | disk (fault : FileFault)
  | undecodable (fault : Text.Utf8Fault)
  deriving DecidableEq, Repr

/-- what is said of a path with a NUL character in it -/
def nulMessage : String := "embedded null byte"

/-- the fault of reading the file at a path -/
def ReadFault.message (e : ReadFault) (p : Path) : String :=
  match e with
  | nulInPath => nulMessage
  | disk fault => fault.message p
  | undecodable fault => fault.message

/-- entries by their names from `base` down, and where one is -/
structure FileTree where
  base : List String
  entries : List (List String × Entry)
  here : List String

namespace FileTree

/-- an empty directory tree at a place, with oneself at its top -/
def empty (base : List String) : FileTree := ⟨base, [], base⟩

/-- the names from the root of the disk to a place in the tree -/
def absolute (t : FileTree) (names : List String) : List String := t.base ++ names

/-- the entry at a place, given by names from the root of the disk -/
def entry? (t : FileTree) (names : List String) : Option Entry :=
  if names.isPrefixOf t.base then some .directory
  else if t.base.isPrefixOf names then t.entries.lookup (names.drop t.base.length)
  else none

/-- add an entry that is not there yet -/
def addEntry (names : List String) (entry : Entry) (t : FileTree) : FileTree :=
  if (t.entries.lookup names).isSome then t else { t with entries := t.entries ++ [(names, entry)] }

/-- add a directory and those above it -/
def addDirectory (names : List String) (t : FileTree) : FileTree :=
  ((List.range names.length).map fun n => names.take (n + 1)).foldl (fun t names => t.addEntry names .directory) t

/-- add a file and the directories above it -/
def addFile (names : List String) (bytes : List UInt8) (t : FileTree) : FileTree :=
  let t := t.addDirectory names.dropLast
  { t with entries := t.entries.filter (fun entry => entry.1 ≠ names) ++ [(names, .file bytes)] }

/-- go to a place in the tree -/
def goTo (names : List String) (t : FileTree) : FileTree :=
  { t.addDirectory names with here := t.base ++ names }

/-! ## finding entries -/

/-- the greatest number of bytes in a name -/
def mostNameBytes : Nat := 255

/-- the greatest number of bytes in the text of a path -/
def mostPathBytes : Nat := 4095

/-- go from a place along names -/
def walk (t : FileTree) (place : List String) : List String → Except FileFault (List String)
  | [] => .ok place
  | name :: more =>
    match t.entry? place with
    | some .directory =>
      if mostNameBytes < name.utf8ByteSize then .error .nameTooLong
      else t.walk (if name = ".." then place.dropLast else place ++ [name]) more
    | some (.file _) => .error .notDirectory
    | none => .error .missing

/-- where a path leads -/
def locate (t : FileTree) (p : Path) : Except FileFault (List String) :=
  if mostPathBytes < p.toText.utf8ByteSize then .error .nameTooLong
  else t.walk (if p.root = "" then t.here else []) p.names

/-- the entry that a path leads to -/
def find (t : FileTree) (p : Path) : Except FileFault Entry := do
  match t.entry? (← t.locate p) with
  | some entry => return entry
  | none => throw .missing

def isDirectory (t : FileTree) (p : Path) : Bool :=
  match t.find p with
  | .ok .directory => true
  | _ => false

def isFile (t : FileTree) (p : Path) : Bool :=
  match t.find p with
  | .ok (.file _) => true
  | _ => false

/-- whether a path is too long to ask the disk about it -/
def isTooLong (t : FileTree) (p : Path) : Bool :=
  match t.find p with
  | .error .nameTooLong => !p.hasNul
  | _ => false

/-- the bytes of a file -/
def read (t : FileTree) (p : Path) : Except FileFault (List UInt8) := do
  match ← t.find p with
  | .file bytes => return bytes
  | .directory => throw .isDirectory

/-- the text of a file -/
def readUtf8 (t : FileTree) (p : Path) : Except ReadFault (List Char) := do
  if p.hasNul then throw .nulInPath
  let bytes ← (t.read p).mapError .disk
  (Text.decodeUtf8 bytes).mapError .undecodable

/-- the names below a place of all files in it, at any depth -/
def filesBelow (t : FileTree) (place : List String) : List (List String) :=
  t.entries.filterMap fun (names, entry) =>
    let full := t.absolute names
    if !entry.isDirectory && place.isPrefixOf full then some (full.drop place.length) else none

/-- a path with every pair of points taken back with the name before it, from the root of the disk -/
def resolve (t : FileTree) (p : Path) : List String :=
  p.names.foldl (fun place name => if name = ".." then place.dropLast else place ++ [name])
    (if p.root = "" then t.here else [])

/-- the path from the root of the disk to a place -/
def pathTo (names : List String) : Path := ⟨"/", names⟩

end FileTree

end VixStyle
