/-
Text between quotes, written so that it stays on one line and shows every character.

The single quote encloses the text unless the text has a single quote and no double quote. The enclosing quote and the
backslash are escaped, tab, line feed and carriage return have escapes of their own, and any other character that is not
printable is written by its code point in the shortest of three hexadecimal forms.
-/
import VixStyle.Text.Printable

namespace VixStyle.Text.Quoted

/-- a number in hexadecimal digits, padded with zeros -/
def hex (width code : Nat) : List Char :=
  let digits := Nat.toDigits 16 code
  List.replicate (width - digits.length) '0' ++ digits

/-- the quote that encloses a text -/
def quoteOf (s : List Char) : Char := if '\'' ∈ s ∧ '"' ∉ s then '"' else '\''

/-- a character inside the given quotes -/
def escape (quote c : Char) : List Char :=
  if c = quote ∨ c = '\\' then ['\\', c]
  else if c = '\t' then ['\\', 't']
  else if c = '\n' then ['\\', 'n']
  else if c = '\r' then ['\\', 'r']
  else if isPrintable c then [c]
  else if c.toNat < 0x100 then '\\' :: 'x' :: hex 2 c.toNat
  else if c.toNat < 0x10000 then '\\' :: 'u' :: hex 4 c.toNat
  else '\\' :: 'U' :: hex 8 c.toNat

/-- a text between quotes -/
def encode (s : List Char) : List Char :=
  quoteOf s :: s.flatMap (escape (quoteOf s)) ++ [quoteOf s]

/-- a text between quotes, as a string -/
def quote (s : String) : String := String.ofList (encode s.toList)

end VixStyle.Text.Quoted
