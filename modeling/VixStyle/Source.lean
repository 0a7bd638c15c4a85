/-
A source: its text cut into lines and tokens once, and what all checks read from it.
-/
import VixStyle.Declaration

namespace VixStyle

/-- a text with its lines -/
structure Source where
  text : List Char
  lines : List Line
  deriving Repr

namespace Source

/-- the source with a given text -/
def ofText (text : List Char) : Source := ⟨text, Line.readAll (Text.lines text)⟩

def findings (s : Source) : List Finding := s.lines.flatMap Line.findings

/-- the declared names in the order of the source -/
def declarations (s : Source) : List Declaration := s.findings.filterMap Finding.declared?

/-- the declaration keywords without a name in the order of the source -/
def namelessDeclarations (s : Source) : List NamelessDeclaration := s.findings.filterMap Finding.nameless?

/-- the unclosed string literals, at most one for a line -/
def faults (s : Source) : List UnclosedString := s.lines.filterMap Line.fault?

end Source

end VixStyle
