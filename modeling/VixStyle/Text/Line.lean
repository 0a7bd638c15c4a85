/-
Lines of a text and the blanks at their start.

A line ends at a line feed, a carriage return or the two together; nothing else separates lines. A terminator at the very
end of a text starts no further line, so the empty text has no lines (`lines`). Blanks are spaces and tabs.
-/

namespace VixStyle.Text

/-- a space or a tab -/
def isBlank (c : Char) : Bool := c == ' ' || c == '\t'

/-- the run of blanks that starts a line -/
def leadingBlanks (s : List Char) : List Char := s.takeWhile isBlank

/-- every line terminator written as a line feed -/
def unifyTerminators : List Char → List Char
  | [] => []
  | '\r' :: '\n' :: rest => '\n' :: unifyTerminators rest
  | c :: rest => (if c = '\r' then '\n' else c) :: unifyTerminators rest

/-- the lines of a text whose only terminator is the line feed -/
def splitLines : List Char → List (List Char)
  | [] => []
  | c :: rest =>
    if c = '\n' then [] :: splitLines rest
    else match splitLines rest with
      | [] => [[c]]
      | line :: more => (c :: line) :: more

/-- the lines of a text, without their terminators -/
def lines (s : List Char) : List (List Char) := splitLines (unifyTerminators s)

end VixStyle.Text
