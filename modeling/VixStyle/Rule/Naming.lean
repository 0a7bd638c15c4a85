/-
The naming rules. Constants and statics are written in capitals with underscores, variables and functions in small
letters with underscores. Each rule looks at the declarations of its own kind and suggests the name in the right form.
-/
import VixStyle.Diagnostic.Catalogue
import VixStyle.Source

namespace VixStyle.Rule.Naming

/-- the diagnostic of a declaration whose name breaks its convention -/
def misnamed (p : Problem) (d : Declaration) (message hint : String) : Diagnostic :=
  p.found d.line d.column message (some hint)

/-- a name in double quotes -/
def shown (name : List Char) : String := "\"" ++ String.ofList name ++ "\""

/-- the hint to take another name -/
def renameTo (name : List Char) : String := "Rename to `" ++ String.ofList name ++ "`."

/-- the finding on a name that should be in capitals -/
def capitalFinding? (p : Problem) (d : Declaration) : Option Diagnostic :=
  if d.style = .upperSnake then none
  else some (misnamed p d (shown d.name ++ " is not UPPER_SNAKE_CASE") (renameTo (Name.upperSnake d.name)))

/-- the finding on the name of a variable -/
def varFinding? (d : Declaration) : Option Diagnostic :=
  match d.style with
  | .lowerSnake => none
  | .upperSnake =>
    some (misnamed .varNaming d (shown d.name ++ " looks like a constant; variables should be snake_case")
      ("Declare it with `const` or rename to `" ++ String.ofList (Name.lowerSnake d.name) ++ "`."))
  | style =>
    some (misnamed .varNaming d (shown d.name ++ " is " ++ style.label ++ "; variables should be snake_case")
      (renameTo (Name.lowerSnake d.name)))

/-- the finding on the name of a function -/
def funcFinding? (d : Declaration) : Option Diagnostic :=
  if d.style = .lowerSnake then none
  else some (misnamed .funcNaming d (shown d.name ++ " is not snake_case") (renameTo (Name.lowerSnake d.name)))

/-- the declarations of one kind -/
def declarationsOf (kind : DeclarationKind) (source : Source) : List Declaration :=
  source.declarations.filter fun d => d.kind = kind

def checkConst (source : Source) : List Diagnostic :=
  (declarationsOf .constant source).filterMap (capitalFinding? .constNaming)

def checkStatic (source : Source) : List Diagnostic :=
  (declarationsOf .static source).filterMap (capitalFinding? .staticNaming)

def checkVar (source : Source) : List Diagnostic := (declarationsOf .var source).filterMap varFinding?

def checkFunc (source : Source) : List Diagnostic := (declarationsOf .func source).filterMap funcFinding?

end VixStyle.Rule.Naming
