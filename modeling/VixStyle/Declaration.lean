/-
Declarations: the names that a line of tokens introduces, and the declaration keywords that no name follows.

Each `const`, `static`, `var`, `let` or `func` is looked at once (`findingsAt`). It declares one name or, up to the first
item that is no name, a list of names separated by commas; or it is reported as nameless; or it is passed over, because
another keyword speaks for it (`static const`, `static func`) or because the function has no name.
-/
import VixStyle.Line
import VixStyle.Name

namespace VixStyle

/-- what is declared -/
inductive DeclarationKind where
  | constant | static | var | func
  deriving DecidableEq, Repr

def DeclarationKind.name : DeclarationKind → String
  | .constant => "constant"
  | .static => "static"
  | .var => "variable"
  | .func => "function"

/-- what a keyword declares -/
def Keyword.declares? : Keyword → Option DeclarationKind
  | .const_ => some .constant
  | .static_ => some .static
  | .var_ | .let_ => some .var
  | .func_ => some .func
  | _ => none

/-- a name introduced by a declaration keyword -/
structure Declaration where
  name : List Char
  kind : DeclarationKind
  keyword : Keyword
  line : Int
  column : Nat
  deriving DecidableEq, Repr

/-- the convention the declared name follows -/
def Declaration.style (d : Declaration) : NameStyle := Name.style d.name

/-- a declaration keyword without a name, and what stands in the name's place -/
structure NamelessDeclaration where
  keyword : Keyword
  kind : DeclarationKind
  line : Int
  column : Nat
  found : Option (List Char)
  deriving DecidableEq, Repr

/-- what a declaration keyword yields -/
inductive Finding where
  | declared (d : Declaration)
  | nameless (n : NamelessDeclaration)
  deriving DecidableEq, Repr

namespace Finding

def declared? : Finding → Option Declaration
  | declared d => some d
  | nameless _ => none

def nameless? : Finding → Option NamelessDeclaration
  | nameless n => some n
  | declared _ => none

/-- the tokens after a keyword without the second keyword of a `static const` or a `var mut` -/
def afterModifier (kind : DeclarationKind) : List Token → List Token
  | [] => []
  | t :: rest =>
    match kind, t.lexeme with
    | .static, .keyword .var_ | .static, .keyword .const_ | .static, .keyword .let_ => rest
    | .var, .keyword .mut_ => rest
    | _, _ => t :: rest

/-- the further names of a list: each a comma and a name -/
def listedNames : List Token → List (Token × List Char)
  | comma :: item :: rest =>
    match comma.lexeme, item.lexeme with
    | .punctuation ',', .identifier name => (item, name) :: listedNames rest
    | _, _ => []
  | _ => []

/-- the declaration of a name at its token -/
def declaration (kind : DeclarationKind) (keyword : Keyword) (item : Token × List Char) : Declaration :=
  ⟨item.2, kind, keyword, item.1.line, item.1.column⟩

/-- what a keyword yields that stands at `t` and declares `kind`, from the tokens after its modifier -/
def named (kind : DeclarationKind) (keyword : Keyword) (t : Token) : List Token → List Finding
  | [] => [nameless ⟨keyword, kind, t.line, t.column, none⟩]
  | first :: rest =>
    match first.lexeme with
    | .identifier name =>
      let items := if kind = .func then [] else listedNames rest
      ((first, name) :: items).map fun item => declared (declaration kind keyword item)
    | .punctuation '(' =>
      if kind = .func then [] else [nameless ⟨keyword, kind, t.line, t.column, some first.text⟩]
    | _ => [nameless ⟨keyword, kind, t.line, t.column, some first.text⟩]

end Finding

open Finding in
/-- what the token `t` yields between the token before it and the tokens after it -/
def findingsAt (before : Option Token) (t : Token) (rest : List Token) : List Finding :=
  match t.lexeme with
  | .keyword keyword =>
    match keyword.declares? with
    | none => []
    | some kind =>
      if before.any (fun b => b.lexeme = .keyword .static_) ∧ kind ≠ .func then []
      else if kind = .static ∧ rest.head?.any (fun a => a.lexeme = .keyword .func_) then []
      else named kind keyword t (afterModifier kind rest)
  | _ => []

/-- what a row of tokens yields, given the token before it -/
def findingsFrom (before : Option Token) : List Token → List Finding
  | [] => []
  | t :: rest => findingsAt before t rest ++ findingsFrom (some t) rest

/-- what the code of a line yields -/
def Line.findings (l : Line) : List Finding := findingsFrom none l.code

end VixStyle
