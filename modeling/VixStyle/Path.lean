/-
Paths: a root and a list of names. Repeated slashes, single points and a slash at the end say nothing and are dropped;
two points stay, since only the file tree knows what they mean. Exactly two slashes at the start are a root of their own.
-/
import VixStyle.Text.Search

namespace VixStyle

/-- a path; the root is empty for a path that starts where one is -/
structure Path where
  root : String
  names : List String
  deriving DecidableEq, Repr

namespace Path

/-- the path that a text writes -/
def ofString (s : String) : Path :=
  let chars := s.toList
  let root :=
    match (chars.takeWhile (· == '/')).length with
    | 0 => ""
    | 2 => "//"
    | _ => "/"
  let parts := (Text.cutAt '/' chars).map String.ofList
  ⟨root, parts.filter fun part => part ≠ "" && part ≠ "."⟩

/-- a path as text; the empty path is a point -/
def toText (p : Path) : String :=
  if p.root = "" ∧ p.names = [] then "." else p.root ++ "/".intercalate p.names

/-- whether a path has a NUL character in it, which no disk has in a name -/
def hasNul (p : Path) : Bool := p.names.any fun name => name.toList.contains '\x00'

/-- what paths are compared by -/
def components (p : Path) : List String := if p.root = "" then p.names else p.root :: p.names

/-- the last name of a path, or nothing for a root -/
def name (p : Path) : String := p.names.getLast?.getD ""

/-- a path below another -/
def below (p : Path) (names : List String) : Path := { p with names := p.names ++ names }

/-- whether a list of names comes before another or is the same -/
def namesLe : List String → List String → Bool
  | [], _ => true
  | _ :: _, [] => false
  | a :: as, b :: bs => a < b || (a == b && namesLe as bs)

/-- paths in ascending order of their components -/
def sort (paths : List Path) : List Path := paths.mergeSort fun p q => namesLe p.components q.components

end Path

end VixStyle
