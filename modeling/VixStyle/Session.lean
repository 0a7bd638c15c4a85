/-
An editing session: named sources that are read once and checked as often as one likes, named lexers, and a buffer of
lines that is checked after every edit.
-/
import VixStyle.Lint
import VixStyle.Token.Lexer

namespace VixStyle

/-! ## names -/

/-- values by name -/
abbrev Names (α : Type) := List (String × α)

/-- names with a value for a name, instead of the one it had -/
def Names.put {α : Type} (names : Names α) (name : String) (value : α) : Names α :=
  (name, value) :: names.filter fun entry => entry.1 ≠ name

/-! ## positions in a buffer -/

/-- the place before which an index inserts; a negative index counts from the end, and all are moved into the buffer -/
def insertionPoint (length : Nat) (index : Int) : Nat :=
  min length (if index < 0 then (length + index).toNat else index.toNat)

/-- the line that an index names; a negative index counts from the end -/
def namedLine? (length : Nat) (index : Int) : Option Nat :=
  let place := if index < 0 then length + index else index
  if 0 ≤ place ∧ place < length then some place.toNat else none

/-- whether an index is small enough to be looked at -/
def isAddressable (index : Int) : Bool := -indexEnd ≤ index && index < indexEnd

/-! ## sessions -/

/-- what a session holds -/
structure Session where
  sources : Names Source := []
  lexers : Names LineLexer := []
  buffer : List (List Char) := []

/-- why a step of a session fails -/
inductive SessionError where
  | unknownName (name : String)
  | placeBeyondIndex
  | lineBeyondIndex
  | noSuchLine
  deriving DecidableEq, Repr

def SessionError.message : SessionError → String
  | unknownName name => Text.Quoted.quote name
  | placeBeyondIndex => "place out of reach"
  | lineBeyondIndex => beyondIndexMessage
  | noSuchLine => "list assignment index out of range"

namespace Session

/-- read a text under a name -/
def putSource (s : Session) (name : String) (text : List Char) : Session :=
  { s with sources := s.sources.put name (.ofText text) }

/-- the source of a name -/
def source (s : Session) (name : String) : Except SessionError Source :=
  match s.sources.lookup name with
  | some source => .ok source
  | none => .error (.unknownName name)

/-- make a lexer under a name -/
def putLexer (s : Session) (name : String) (lexer : LineLexer) : Session :=
  { s with lexers := s.lexers.put name lexer }

/-- run the lexer of a name from the start of its line -/
def runLexer (s : Session) (name : String) :
    Except SessionError ((Except UnclosedString (List Token) × LineLexer) × Session) :=
  match s.lexers.lookup name with
  | none => .error (.unknownName name)
  | some lexer => .ok (lexer.run, s.putLexer name lexer.run.2)

/-- add a line at the end of the buffer -/
def append (s : Session) (line : List Char) : Session := { s with buffer := s.buffer ++ [line] }

/-- insert a line into the buffer -/
def insert (s : Session) (index : Int) (line : List Char) : Except SessionError Session :=
  if isAddressable index then
    let place := insertionPoint s.buffer.length index
    .ok { s with buffer := s.buffer.take place ++ line :: s.buffer.drop place }
  else .error .placeBeyondIndex

/-- remove a line from the buffer -/
def remove (s : Session) (index : Int) : Except SessionError Session :=
  if !isAddressable index then .error .lineBeyondIndex
  else match namedLine? s.buffer.length index with
    | none => .error .noSuchLine
    | some place => .ok { s with buffer := s.buffer.eraseIdx place }

/-- the text of the buffer -/
def bufferText (s : Session) : List Char := ['\n'].intercalate s.buffer

end Session

end VixStyle
