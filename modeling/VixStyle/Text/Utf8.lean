/-
Text from bytes in UTF-8. A sequence that is too long, a surrogate and a number beyond the last code point are refused
at the byte where they can be told; `Utf8Fault` says which bytes are at fault and why.
-/

namespace VixStyle.Text

/-- why some bytes are no text -/
inductive Utf8Reason where
  | badStart | badContinuation | endOfData
  deriving DecidableEq, Repr

def Utf8Reason.message : Utf8Reason → String
  | badStart => "invalid start byte"
  | badContinuation => "invalid continuation byte"
  | endOfData => "unexpected end of data"

/-- the bytes at fault: the first of them, where it stands, and how many they are -/
structure Utf8Fault where
  first : UInt8
  position : Nat
  count : Nat
  reason : Utf8Reason
  deriving DecidableEq, Repr

/-- two hexadecimal digits -/
def byteDigits (b : UInt8) : String :=
  String.ofList [Nat.digitChar (b.toNat / 16), Nat.digitChar (b.toNat % 16)]

def Utf8Fault.message (e : Utf8Fault) : String :=
  let bytes :=
    if e.count = 1 then s!"byte 0x{byteDigits e.first} in position {e.position}"
    else s!"bytes in position {e.position}-{e.position + e.count - 1}"
  "'utf-8' codec can't decode " ++ bytes ++ ": " ++ e.reason.message

/-- the bounds of the bytes that may follow a first byte -/
def followers? (b : UInt8) : Option (List (UInt8 × UInt8)) :=
  if b < 0x80 then some []
  else if b < 0xC2 then none
  else if b < 0xE0 then some [(0x80, 0xBF)]
  else if b = 0xE0 then some [(0xA0, 0xBF), (0x80, 0xBF)]
  else if b = 0xED then some [(0x80, 0x9F), (0x80, 0xBF)]
  else if b < 0xF0 then some [(0x80, 0xBF), (0x80, 0xBF)]
  else if b = 0xF0 then some [(0x90, 0xBF), (0x80, 0xBF), (0x80, 0xBF)]
  else if b < 0xF4 then some [(0x80, 0xBF), (0x80, 0xBF), (0x80, 0xBF)]
  else if b = 0xF4 then some [(0x80, 0x8F), (0x80, 0xBF), (0x80, 0xBF)]
  else none

/-- the bits of a first byte that belong to the code point, given the number of bytes that follow -/
def leadBits (b : UInt8) : Nat → Nat
  | 0 => b.toNat
  | 1 => b.toNat % 32
  | 2 => b.toNat % 16
  | _ => b.toNat % 8

/-- read the bytes that have to follow: the code point and the bytes after it, or how many bytes were good and why -/
def readFollowers (code good : Nat) :
    List (UInt8 × UInt8) → List UInt8 → Except (Nat × Utf8Reason) (Nat × List UInt8)
  | [], rest => .ok (code, rest)
  | _ :: _, [] => .error (good, .endOfData)
  | (low, high) :: bounds, b :: rest =>
    if low ≤ b ∧ b ≤ high then readFollowers (code * 64 + b.toNat % 64) (good + 1) bounds rest
    else .error (good, .badContinuation)

theorem readFollowers_length {code good n : Nat} {bounds : List (UInt8 × UInt8)} {s rest : List UInt8}
    (h : readFollowers code good bounds s = .ok (n, rest)) : rest.length ≤ s.length := by
  induction bounds generalizing code good s with
  | nil => simp only [readFollowers, Except.ok.injEq, Prod.mk.injEq] at h; simp [h.2]
  | cons bound bounds ih =>
    cases s with
    | nil => simp [readFollowers] at h
    | cons b s =>
      simp only [readFollowers] at h
      split at h
      · have := ih h
        simp only [List.length_cons]
        omega
      · simp at h

/-- the text of bytes of which `position` others stand before -/
def decodeFrom (position : Nat) (bytes : List UInt8) : Except Utf8Fault (List Char) :=
  match bytes with
  | [] => .ok []
  | b :: rest =>
    match followers? b with
    | none => .error ⟨b, position, 1, .badStart⟩
    | some bounds =>
      match _h : readFollowers (leadBits b bounds.length) 1 bounds rest with
      | .error (good, reason) => .error ⟨b, position, good, reason⟩
      | .ok (code, after) =>
        (decodeFrom (position + 1 + bounds.length) after).map fun more => Char.ofNat code :: more
termination_by bytes.length
decreasing_by
  have := readFollowers_length _h
  simp only [List.length_cons]
  omega

/-- the text that bytes stand for -/
def decodeUtf8 (bytes : List UInt8) : Except Utf8Fault (List Char) := decodeFrom 0 bytes

end VixStyle.Text
