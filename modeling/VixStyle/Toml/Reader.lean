/-
Reading a TOML document. `read` answers with the table that the document writes, or with the first fault that comes up on
the way from its start: the document is malformed there, or a value goes beyond a limit.

Values nest, and each level takes at least one character, so twice the length of the text bounds the depth of the readers
that call each other; they carry that bound as `fuel`.
-/
import VixStyle.Setting.Limit
import VixStyle.Toml.Document
import VixStyle.Toml.Moment
import VixStyle.Toml.Number
import VixStyle.Toml.Quote

namespace VixStyle.Toml

open Setting

/-! ## blanks, comments and keys -/

/-- the text after a comment, if one comes next; a comment with a control character is malformed -/
def skipComment? : List Char → Option (List Char)
  | '#' :: rest =>
    if (rest.takeWhile (· != '\n')).any isForbidden then none else some (rest.dropWhile (· != '\n'))
  | s => some s

/-- the text after blanks, line feeds and comments -/
def skipFiller? : Nat → List Char → Option (List Char)
  | 0, s => some s
  | fuel + 1, s => do
    let next ← skipComment? (s.dropWhile isSpaceOrNewline)
    if next.length = s.length then some s else skipFiller? fuel next

def isBareKeyChar (c : Char) : Bool := c.isAlphanum || c == '-' || c == '_'

/-- one part of a key -/
def keyPart? (s : List Char) : Option (String × List Char) :=
  match s with
  | '\'' :: rest => (literal? rest).map fun (body, after) => (String.ofList body, after)
  | '"' :: rest => (basic? rest).map fun (body, after) => (String.ofList body, after)
  | s =>
    match s.takeWhile isBareKeyChar with
    | [] => none
    | part => some (String.ofList part, s.dropWhile isBareKeyChar)

/-- the further parts of a key, each after a point -/
def keyParts? : Nat → List Char → Option (KeyPath × List Char)
  | 0, s => some ([], s)
  | fuel + 1, s =>
    match s with
    | '.' :: rest => do
      let (part, rest) ← keyPart? (rest.dropWhile isSpace)
      let (more, rest) ← keyParts? fuel (rest.dropWhile isSpace)
      return (part :: more, rest)
    | s => some ([], s)

/-- a key of one or more parts, with the blanks after it -/
def key? (s : List Char) : Option (KeyPath × List Char) := do
  let (part, rest) ← keyPart? s
  let (more, rest) ← keyParts? s.length (rest.dropWhile isSpace)
  return (part :: more, rest)

/-! ## faults -/

/-- why a document is not read -/
inductive Fault where
  | malformed
  | limit (l : Limit)
  deriving DecidableEq, Repr

/-- a result that is missing only where a document is malformed -/
def wellFormed {α : Type} : Option α → Except Fault α
  | some a => .ok a
  | none => .error .malformed

/-! ## values -/

/-- the value of a number -/
def numeral : Number → Except Fault Value
  | .whole n => .ok (.int n)
  | .real x => .ok (.real x)
  | .tooLong digits => .error (.limit (.digitsRead digits))

/-- a value that holds no other values -/
def scalar (s : List Char) : Except Fault (Value × List Char) :=
  match s with
  | '"' :: _ | '\'' :: _ => do
    let (body, after) ← wellFormed (string? s)
    return (.text (String.ofList body), after)
  | 't' :: 'r' :: 'u' :: 'e' :: rest => .ok (.bool true, rest)
  | 'f' :: 'a' :: 'l' :: 's' :: 'e' :: rest => .ok (.bool false, rest)
  | s =>
    match moment s with
    | .noSuchDay => .error .malformed
    | .found value rest => .ok (value, rest)
    | .noDay =>
      match time? s with
      | some (time, rest) => .ok (.timeOfDay time, rest)
      | none => do
        let (n, rest) ← wellFormed (number? s)
        return (← numeral n, rest)

/-- the room that is left inside a list or an inline table, which takes and needs some -/
def enter (needs : Nat × Nat) (room : Nat) : Except Fault Nat :=
  if room < needs.2 then .error (.limit .depthRead) else .ok (room - needs.1)

mutual

/-- a value -/
def value [Machine] : Nat → Nat → List Char → Except Fault (Value × List Char)
  | 0, _, _ => .error .malformed
  | fuel + 1, room, s =>
    match s with
    | '[' :: rest => do
      let room ← enter Machine.listRoom room
      let (found, rest) ← items fuel room (← wellFormed (skipFiller? rest.length rest))
      return (.list found, rest)
    | '{' :: rest => do
      let room ← enter Machine.tableRoom room
      match rest.dropWhile isSpace with
      | '}' :: after => return (.table [], after)
      | rest =>
        let (t, rest) ← members fuel room {} rest
        return (.table t.members, rest)
    | s => scalar s

/-- the items of a list up to its closing bracket -/
def items [Machine] : Nat → Nat → List Char → Except Fault (List Value × List Char)
  | 0, _, _ => .error .malformed
  | fuel + 1, room, s =>
    match s with
    | ']' :: rest => .ok ([], rest)
    | s => do
      let (item, rest) ← value fuel room s
      match ← wellFormed (skipFiller? rest.length rest) with
      | ']' :: after => return ([item], after)
      | ',' :: rest =>
        let (more, rest) ← items fuel room (← wellFormed (skipFiller? rest.length rest))
        return (item :: more, rest)
      | _ => throw .malformed

/-- the members of an inline table up to its closing brace, of which there is at least one -/
def members [Machine] : Nat → Nat → InlineTable → List Char → Except Fault (InlineTable × List Char)
  | 0, _, _, _ => .error .malformed
  | fuel + 1, room, t, s => do
    let (key, rest) ← wellFormed (key? s)
    let rest ← wellFormed (after? '=' rest)
    let (found, rest) ← value fuel room (rest.dropWhile isSpace)
    let t ← wellFormed (t.add? key found)
    match rest.dropWhile isSpace with
    | '}' :: after => return (t, after)
    | ',' :: rest => members fuel room t (rest.dropWhile isSpace)
    | _ => throw .malformed

end

/-! ## the document -/

/-- a key and its value, added to the document -/
def assignment [Machine] (d : Document) (s : List Char) : Except Fault (Document × List Char) := do
  let (key, rest) ← wellFormed (key? s)
  let rest ← wellFormed (after? '=' rest)
  let (found, rest) ← value (2 * s.length + 2) Machine.roomToRead (rest.dropWhile isSpace)
  return (← wellFormed (d.add? key found), rest)

/-- the header of a section, after its first bracket -/
def header? (d : Document) : List Char → Option (Document × List Char)
  | '[' :: rest => do
    let (path, rest) ← key? (rest.dropWhile isSpace)
    let d ← d.endSection.openItem? path
    return (d, ← after? ']' (← after? ']' rest))
  | rest => do
    let (path, rest) ← key? (rest.dropWhile isSpace)
    let d ← d.endSection.openTable? path
    return (d, ← after? ']' rest)

/-- one statement, of which a blank line and a comment are the empty case -/
def statement [Machine] (d : Document) (s : List Char) : Except Fault (Document × List Char) :=
  match s with
  | [] | '\n' :: _ | '#' :: _ => .ok (d, s)
  | '[' :: rest => wellFormed (header? d rest)
  | s => assignment d s

/-- the statements of a document, one on each line -/
def statements [Machine] : Nat → Document → List Char → Except Fault Document
  | 0, _, _ => .error .malformed
  | fuel + 1, d, s => do
    let (d, rest) ← statement d (s.dropWhile isSpace)
    match ← wellFormed (skipComment? (rest.dropWhile isSpace)) with
    | [] => return d
    | '\n' :: rest => statements fuel d rest
    | _ => throw .malformed

/-- a text with a line feed for every carriage return that stands before one -/
def unifyBreaks : List Char → List Char
  | [] => []
  | '\r' :: '\n' :: rest => '\n' :: unifyBreaks rest
  | c :: rest => c :: unifyBreaks rest

/-- the table that a document writes -/
def read [Machine] (s : List Char) : Except Fault Table :=
  let s := unifyBreaks s
  (statements (s.length + 1) {} s).map Document.root

end VixStyle.Toml
