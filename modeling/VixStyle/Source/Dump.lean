/-
A listing of the tokens of a source, for someone who looks into the scanner: a head for each line with its indentation,
then one row per token, then the fault of the line if it has one.
-/
import VixStyle.Source
import VixStyle.Text.Columns
import VixStyle.Text.Quoted

namespace VixStyle

open Text

/-- the row of the token at an index of its line -/
def Token.dumpRow (index : Nat) (t : Token) : String :=
  "     " ++ padZeros 3 index ++ " " ++ padRight 15 t.lexeme.className ++ " col=" ++
    padRight 4 (toString t.column) ++ " text=" ++ String.ofList (Quoted.encode t.text)

/-- the rows of a line -/
def Line.dumpRows (l : Line) : List String :=
  (padZeros 4 l.number ++ " indent=" ++ l.indentation.mix.name ++ ":" ++ toString l.indentation.width) ::
    l.tokens.mapIdx (fun index t => t.dumpRow index) ++
    (l.unclosed.map fun column => s!"     ERROR col={column} {UnclosedString.fault}").toList

/-- the listing of lines, each row ended by a line feed -/
def dumpText (lines : List Line) : String :=
  String.join ((lines.flatMap Line.dumpRows).map fun row => row ++ "\n")

end VixStyle
