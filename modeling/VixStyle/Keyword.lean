/-
The reserved words of Vix and the groups that the checks ask about: words that stand for a value, words that open a block
closed by `end`, words that may also declare without a body, words that start a branch, a case or a statement.
-/

namespace VixStyle

/-- a reserved word -/
inductive Keyword where
  | and_ | as_ | break_ | case_ | class_ | const_ | continue_ | create_ | default_ | do_ | elif_ | else_ | end_ | enum_
  | extern_ | false_ | for_ | from_ | func_ | if_ | impl_ | import_ | in_ | let_ | match_ | mod_ | module_ | mut_
  | none_ | not_ | or_ | pub_ | return_ | scope_ | self_ | static_ | struct_ | then_ | trait_ | true_ | type_ | unsafe_
  | use_ | var_ | while_
  deriving DecidableEq, Repr

namespace Keyword

/-- all reserved words, in alphabetical order -/
def all : List Keyword :=
  [and_, as_, break_, case_, class_, const_, continue_, create_, default_, do_, elif_, else_, end_, enum_, extern_,
    false_, for_, from_, func_, if_, impl_, import_, in_, let_, match_, mod_, module_, mut_, none_, not_, or_, pub_,
    return_, scope_, self_, static_, struct_, then_, trait_, true_, type_, unsafe_, use_, var_, while_]

/-- how a reserved word is written -/
def spelling : Keyword → String
  | and_ => "and" | as_ => "as" | break_ => "break" | case_ => "case" | class_ => "class" | const_ => "const"
  | continue_ => "continue" | create_ => "create" | default_ => "default" | do_ => "do" | elif_ => "elif"
  | else_ => "else" | end_ => "end" | enum_ => "enum" | extern_ => "extern" | false_ => "false" | for_ => "for"
  | from_ => "from" | func_ => "func" | if_ => "if" | impl_ => "impl" | import_ => "import" | in_ => "in"
  | let_ => "let" | match_ => "match" | mod_ => "mod" | module_ => "module" | mut_ => "mut" | none_ => "none"
  | not_ => "not" | or_ => "or" | pub_ => "pub" | return_ => "return" | scope_ => "scope" | self_ => "self"
  | static_ => "static" | struct_ => "struct" | then_ => "then" | trait_ => "trait" | true_ => "true"
  | type_ => "type" | unsafe_ => "unsafe" | use_ => "use" | var_ => "var" | while_ => "while"

/-- the characters of a reserved word -/
def text (k : Keyword) : List Char := k.spelling.toList

/-- the reserved word that is written with these characters -/
def ofText? (s : List Char) : Option Keyword := all.find? fun k => k.text == s

theorem mem_all (k : Keyword) : k ∈ all := by cases k <;> decide

theorem ofText?_text (k : Keyword) : ofText? k.text = some k := by cases k <;> decide

theorem ofText?_eq_some_iff {s : List Char} {k : Keyword} : ofText? s = some k ↔ k.text = s := by
  constructor
  · intro h
    simpa using List.find?_some h
  · rintro rfl
    exact ofText?_text k

/-- a word that stands for a value and can therefore end an operand -/
def isValue : Keyword → Bool
  | true_ | false_ | none_ | self_ => true
  | _ => false

/-- a word that opens a block closed by `end` -/
def opensBlock : Keyword → Bool
  | if_ | func_ | while_ | for_ | match_ | struct_ | enum_ | impl_ | trait_ | class_ | unsafe_ | scope_ => true
  | _ => false

/-- a word that may also declare without a body, on a line that ends with a semicolon -/
def isDeclarable : Keyword → Bool
  | func_ | struct_ | enum_ | trait_ => true
  | _ => false

/-- a word that starts another branch of an `if` -/
def isBranch : Keyword → Bool
  | else_ | elif_ => true
  | _ => false

/-- a word that starts a case of a `match` -/
def isCase : Keyword → Bool
  | case_ | default_ => true
  | _ => false

/-- a word that belongs to a statement and never to an expression -/
def isStatement : Keyword → Bool
  | return_ | break_ | continue_ | var_ | let_ | const_ | static_ | func_ | then_ | end_ | do_ | import_ | use_ => true
  | _ => false

end Keyword

end VixStyle
