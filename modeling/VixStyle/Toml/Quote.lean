/-
TOML strings: basic strings with escapes and literal strings without, each on one line or between triple quotes.

The readers take the text after the opening quote and answer with the content and the text after the closing quote, or
with none if the string is malformed. Control characters other than the tab may not occur; line feeds may occur between
triple quotes only.
-/

namespace VixStyle.Toml

/-- a control character that a one-line string or a comment may not hold -/
def isForbidden (c : Char) : Bool := (c.toNat < 32 || c.toNat == 127) && c != '\t'

/-- a character that no string between triple quotes may hold -/
def isForbiddenInLines (c : Char) : Bool := isForbidden c && c != '\n'

def isSpace (c : Char) : Bool := c == ' ' || c == '\t'

def isSpaceOrNewline (c : Char) : Bool := isSpace c || c == '\n'

/-- the value of a hexadecimal digit -/
def hexDigit? (c : Char) : Option Nat :=
  if c.isDigit then some (c.toNat - 48)
  else if 'a' ≤ c ∧ c ≤ 'f' then some (c.toNat - 87)
  else if 'A' ≤ c ∧ c ≤ 'F' then some (c.toNat - 55)
  else none

/-- the character whose code point is written in hexadecimal digits -/
def hexChar? (digits : List Char) : Option Char := do
  let values ← digits.mapM hexDigit?
  let code := values.foldl (fun total d => total * 16 + d) 0
  if code.isValidChar then some (Char.ofNat code) else none

/-- the character that an escape of one letter stands for -/
def escaped? : Char → Option Char
  | 'b' => some '\x08'
  | 't' => some '\t'
  | 'n' => some '\n'
  | 'f' => some '\x0c'
  | 'r' => some '\r'
  | '"' => some '"'
  | '\\' => some '\\'
  | _ => none

/-- an escape after its backslash, and the text after it -/
def escape? : List Char → Option (Char × List Char)
  | [] => none
  | 'u' :: rest => (hexChar? (rest.take 4)).bind fun c => if rest.length < 4 then none else some (c, rest.drop 4)
  | 'U' :: rest => (hexChar? (rest.take 8)).bind fun c => if rest.length < 8 then none else some (c, rest.drop 8)
  | letter :: rest => (escaped? letter).map fun c => (c, rest)

/-- the text after a line break that a backslash hides, with the blanks around it -/
def afterHiddenBreak? (s : List Char) : Option (List Char) :=
  match s.dropWhile isSpace with
  | [] => some []
  | '\n' :: rest => some (rest.dropWhile isSpaceOrNewline)
  | _ => none

/-- whether a backslash before this text hides a line break -/
def hidesBreak (s : List Char) : Bool := s.head?.any isSpaceOrNewline

theorem escape?_length {s rest : List Char} {c : Char} (h : escape? s = some (c, rest)) : rest.length ≤ s.length := by
  unfold escape? at h
  split at h
  · simp at h
  · obtain ⟨x, _, hx⟩ := Option.bind_eq_some_iff.1 h
    split at hx
    · simp at hx
    · simp only [Option.some.injEq, Prod.mk.injEq] at hx; rw [← hx.2]; simp; omega
  · obtain ⟨x, _, hx⟩ := Option.bind_eq_some_iff.1 h
    split at hx
    · simp at hx
    · simp only [Option.some.injEq, Prod.mk.injEq] at hx; rw [← hx.2]; simp; omega
  · obtain ⟨x, _, hx⟩ := Option.map_eq_some_iff.1 h
    simp only [Prod.mk.injEq] at hx
    simp [← hx.2]

theorem afterHiddenBreak?_length {s rest : List Char} (h : afterHiddenBreak? s = some rest) :
    rest.length ≤ s.length := by
  unfold afterHiddenBreak? at h
  have hs := (List.dropWhile_sublist (l := s) isSpace).length_le
  split at h
  · simp only [Option.some.injEq] at h; simp [← h]
  · rename_i r hr
    simp only [Option.some.injEq] at h
    have := (List.dropWhile_sublist (l := r) isSpaceOrNewline).length_le
    rw [hr] at hs
    simp only [List.length_cons] at hs
    rw [← h]
    omega
  · simp at h

/-- a basic string on one line -/
def basic? (s : List Char) : Option (List Char × List Char) :=
  match s with
  | [] => none
  | '"' :: rest => some ([], rest)
  | '\\' :: rest =>
    match _h : escape? rest with
    | none => none
    | some (c, after) => (basic? after).map fun (body, last) => (c :: body, last)
  | c :: rest => if isForbidden c then none else (basic? rest).map fun (body, last) => (c :: body, last)
termination_by s.length
decreasing_by
  · have := escape?_length _h
    simp only [List.length_cons]
    omega
  · simp

/-- up to two quotes that stand at the end of a content before the triple quote that closes it -/
def extraQuotes (quote : Char) : List Char → List Char × List Char
  | a :: b :: rest =>
    if a ≠ quote then ([], a :: b :: rest)
    else if b ≠ quote then ([quote], b :: rest)
    else ([quote, quote], rest)
  | [a] => if a ≠ quote then ([], [a]) else ([quote], [])
  | [] => ([], [])

/-- a basic string between triple quotes -/
def basicLines? (s : List Char) : Option (List Char × List Char) :=
  match s with
  | [] => none
  | '"' :: '"' :: '"' :: rest => some (extraQuotes '"' rest)
  | '\\' :: rest =>
    if hidesBreak rest then
      match _h : afterHiddenBreak? rest with
      | none => none
      | some after => basicLines? after
    else
      match _h : escape? rest with
      | none => none
      | some (c, after) => (basicLines? after).map fun (body, last) => (c :: body, last)
  | c :: rest =>
    if isForbiddenInLines c then none else (basicLines? rest).map fun (body, last) => (c :: body, last)
termination_by s.length
decreasing_by
  · have := afterHiddenBreak?_length _h
    simp only [List.length_cons]
    omega
  · have := escape?_length _h
    simp only [List.length_cons]
    omega
  · simp

/-- a literal string on one line -/
def literal? : List Char → Option (List Char × List Char)
  | [] => none
  | '\'' :: rest => some ([], rest)
  | c :: rest => if isForbidden c then none else (literal? rest).map fun (body, last) => (c :: body, last)

/-- a literal string between triple quotes -/
def literalLines? : List Char → Option (List Char × List Char)
  | [] => none
  | '\'' :: '\'' :: '\'' :: rest => some (extraQuotes '\'' rest)
  | c :: rest =>
    if isForbiddenInLines c then none else (literalLines? rest).map fun (body, last) => (c :: body, last)

/-- a content between triple quotes without the line feed right after the opening -/
def dropFirstBreak : List Char → List Char
  | '\n' :: rest => rest
  | s => s

/-- a string of any of the four forms -/
def string? : List Char → Option (List Char × List Char)
  | '"' :: '"' :: '"' :: rest => basicLines? (dropFirstBreak rest)
  | '\'' :: '\'' :: '\'' :: rest => literalLines? (dropFirstBreak rest)
  | '"' :: rest => basic? rest
  | '\'' :: rest => literal? rest
  | _ => none

end VixStyle.Toml
