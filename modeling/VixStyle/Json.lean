/-
JSON documents and their text: members stay in the order they were given, each on a line of its own and indented by two
spaces for each level; an empty list or object stays on its line. Only the quote, the backslash and the control
characters below the space are escaped.
-/

namespace VixStyle

/-- a JSON document without fractions -/
inductive Json where
  | null
  | bool (b : Bool)
  | int (n : Int)
  | text (s : String)
  | list (items : List Json)
  | object (members : List (String × Json))

namespace Json

/-- the four hexadecimal digits of a small code point -/
def hexDigits (code : Nat) : List Char :=
  [code / 4096, code / 256 % 16, code / 16 % 16, code % 16].map fun d => (Nat.digitChar d)

/-- a character inside a JSON string -/
def escape (c : Char) : List Char :=
  if c = '"' then ['\\', '"']
  else if c = '\\' then ['\\', '\\']
  else if c = '\n' then ['\\', 'n']
  else if c = '\r' then ['\\', 'r']
  else if c = '\t' then ['\\', 't']
  else if c = '\x08' then ['\\', 'b']
  else if c = '\x0c' then ['\\', 'f']
  else if c.toNat < 32 then '\\' :: 'u' :: hexDigits c.toNat
  else [c]

/-- a JSON string -/
def quoted (s : String) : String := String.ofList ('"' :: s.toList.flatMap escape ++ ['"'])

/-- the start of a line at a level -/
def lineStart (level : Nat) : String := "\n" ++ String.ofList (List.replicate (2 * level) ' ')

mutual

/-- a document inside `level` levels -/
def renderAt (level : Nat) : Json → String
  | null => "null"
  | bool b => if b then "true" else "false"
  | int n => toString n
  | text s => quoted s
  | list [] => "[]"
  | list (item :: more) =>
    "[" ++ lineStart (level + 1) ++ renderAt (level + 1) item ++ renderItems (level + 1) more ++ lineStart level ++ "]"
  | object [] => "\x7b\x7d"
  | object ((key, value) :: more) =>
    "\x7b" ++ lineStart (level + 1) ++ quoted key ++ ": " ++ renderAt (level + 1) value ++
      renderMembers (level + 1) more ++ lineStart level ++ "\x7d"

/-- the items of a list after its first -/
def renderItems (level : Nat) : List Json → String
  | [] => ""
  | item :: more => "," ++ lineStart level ++ renderAt level item ++ renderItems level more

/-- the members of an object after its first -/
def renderMembers (level : Nat) : List (String × Json) → String
  | [] => ""
  | (key, value) :: more =>
    "," ++ lineStart level ++ quoted key ++ ": " ++ renderAt level value ++ renderMembers level more

end

/-- the text of a document -/
def render (document : Json) : String := renderAt 0 document

end Json

end VixStyle
