/-
The tables of a TOML document while it is read, and which of them may still be opened or extended.

A mark on a path says either that its table has been declared and may not be declared again, or that its value was
written out in full and nothing below it may be added. Tables that a dotted key passes through become declared, too, but
only when the next header comes, so that the dotted keys of one section may go through the same tables.
-/
import VixStyle.Setting.Value

namespace VixStyle.Toml

open Setting

/-- the keys from the top of a document to a table or value -/
abbrev KeyPath := List String

/-- what a mark forbids -/
inductive Mark where
  | declared
  | complete
  deriving DecidableEq, Repr

/-- the document read so far, and the header of the section that is being read -/
structure Document where
  root : Table := []
  marks : List (KeyPath × Mark) := []
  pending : List KeyPath := []
  header : KeyPath := []

/-! ## tables -/

/-- a table with a new value for a key, at the place of the old one -/
def put (key : String) (value : Value) : Table → Table
  | [] => [(key, value)]
  | (k, v) :: more => if k = key then (k, value) :: more else (k, v) :: put key value more

/--
change the table at a path, making the tables on the way that do not exist; a list on the way stands for its last item
if `intoLists` holds; none if something else is in the way
-/
def changeAt (intoLists : Bool) (change : Table → Option Table) : KeyPath → Table → Option Table
  | [], t => change t
  | key :: path, t =>
    match t.lookup key with
    | none => (changeAt intoLists change path []).map fun child => put key (.table child) t
    | some (.table child) => (changeAt intoLists change path child).map fun child => put key (.table child) t
    | some (.list items) =>
      match intoLists, items.getLast? with
      | true, some (.table child) =>
        (changeAt intoLists change path child).map fun child => put key (.list (items.dropLast ++ [.table child])) t
      | _, _ => none
    | some _ => none

/-- add a value under a key that is not there -/
def addNew (key : String) (value : Value) (t : Table) : Option Table :=
  if (t.lookup key).isSome then none else some (put key value t)

/-- add an empty table to the list under a key, which is made if it is not there -/
def addItem (key : String) (t : Table) : Option Table :=
  match t.lookup key with
  | none => some (put key (.list [.table []]) t)
  | some (.list items) => some (put key (.list (items ++ [.table []])) t)
  | some _ => none

/-- the keys before the last one, and the last one -/
def splitLast (path : KeyPath) : Option (KeyPath × String) :=
  path.getLast?.map fun last => (path.dropLast, last)

/-! ## marks -/

/-- whether a mark lies on a path; what is complete is so with everything below it -/
def hasMark (marks : List (KeyPath × Mark)) (mark : Mark) (path : KeyPath) : Bool :=
  !path.isEmpty && marks.any fun (marked, m) =>
    m = mark && (marked == path || (mark = .complete && marked.isPrefixOf path))

/-- the marks without those on a path and below it -/
def unmark (marks : List (KeyPath × Mark)) (path : KeyPath) : List (KeyPath × Mark) :=
  marks.filter fun (marked, _) => !path.isPrefixOf marked

namespace Document

/-- the document at the end of a section -/
def endSection (d : Document) : Document :=
  { d with marks := d.pending.map (fun path => (path, .declared)) ++ d.marks, pending := [] }

/-- open a section for a table -/
def openTable? (path : KeyPath) (d : Document) : Option Document :=
  if hasMark d.marks .declared path ∨ hasMark d.marks .complete path then none
  else (changeAt true some path d.root).map fun root =>
    { d with root, marks := (path, .declared) :: d.marks, header := path }

/-- open a section for a new item of a list of tables -/
def openItem? (path : KeyPath) (d : Document) : Option Document :=
  if hasMark d.marks .complete path then none
  else do
    let (parents, last) ← splitLast path
    let root ← changeAt true (addItem last) parents d.root
    return { d with root, marks := (path, .declared) :: unmark d.marks path, header := path }

/-- whether a value was written out in full -/
def isCompound : Value → Bool
  | .list _ | .table _ => true
  | _ => false

/-- add a value under a dotted key of the section -/
def add? (key : KeyPath) (value : Value) (d : Document) : Option Document := do
  let (parents, last) ← splitLast key
  let through := (List.range parents.length).map fun n => d.header ++ parents.take (n + 1)
  if through.any (hasMark d.marks .declared) then none
  else if hasMark d.marks .complete (d.header ++ parents) then none
  else
    let root ← changeAt true (addNew last value) (d.header ++ parents) d.root
    let marks := if isCompound value then (d.header ++ key, .complete) :: d.marks else d.marks
    return { d with root, marks, pending := through ++ d.pending }

end Document

/-- an inline table while it is read: its members, and the paths that are complete -/
structure InlineTable where
  members : Table := []
  complete : List (KeyPath × Mark) := []

/-- add a value under a dotted key of an inline table -/
def InlineTable.add? (key : KeyPath) (value : Value) (t : InlineTable) : Option InlineTable := do
  let (parents, last) ← splitLast key
  if hasMark t.complete .complete key then none
  else
    let members ← changeAt false (addNew last value) parents t.members
    let complete := if Document.isCompound value then (key, .complete) :: t.complete else t.complete
    return { members, complete }

end VixStyle.Toml
