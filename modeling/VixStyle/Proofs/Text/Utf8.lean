/-
UTF-8 there and back.

Main statement, `decodeUtf8_encodeUtf8`: the bytes of a text in UTF-8 are read back as that text, whatever characters it
has. The characters come in four kinds by the number of their bytes (`decodeFrom_encode`). Two of the kinds have first bytes
with narrower bounds for the byte that follows (`followers?_three`, `followers?_four`): those bounds shut out numbers that
fewer bytes would do for, surrogates and numbers beyond the last code point, and a character is none of these.
-/
import Mathlib.Tactic
import VixStyle.Text.Utf8

namespace VixStyle.Text

/-- the bytes of a text -/
def encodeUtf8 (s : List Char) : List UInt8 := s.flatMap String.utf8EncodeChar

@[simp]
theorem encodeUtf8_cons (c : Char) (s : List Char) : encodeUtf8 (c :: s) = String.utf8EncodeChar c ++ encodeUtf8 s :=
  List.flatMap_cons

/-! ## Bytes that follow -/

/-- a byte with the last six bits of a number that is not the first byte of a character -/
def continuation (n : Nat) : UInt8 := UInt8.ofNat (n % 64 + 0x80)

theorem toNat_continuation (n : Nat) : (continuation n).toNat = n % 64 + 128 := by
  rw [continuation, UInt8.toNat_ofNat']
  omega

/-- a byte within its bounds adds its six bits -/
theorem readFollowers_continuation {code good n : Nat} {low high : UInt8} (hlow : low.toNat ≤ n % 64 + 128)
    (hhigh : n % 64 + 128 ≤ high.toNat) (bounds : List (UInt8 × UInt8)) (rest : List UInt8) :
    readFollowers code good ((low, high) :: bounds) (continuation n :: rest) =
      readFollowers (code * 64 + n % 64) (good + 1) bounds rest := by
  have hin : low ≤ continuation n ∧ continuation n ≤ high := by
    rw [UInt8.le_iff_toNat_le, UInt8.le_iff_toNat_le, toNat_continuation]
    exact ⟨hlow, hhigh⟩
  have hbits : (continuation n).toNat % 64 = n % 64 := by
    rw [toNat_continuation]
    omega
  rw [readFollowers, if_pos hin, hbits]

/-- where there are no other bounds, every byte that may follow is in -/
theorem readFollowers_any (code good n : Nat) (bounds : List (UInt8 × UInt8)) (rest : List UInt8) :
    readFollowers code good ((0x80, 0xBF) :: bounds) (continuation n :: rest) =
      readFollowers (code * 64 + n % 64) (good + 1) bounds rest := by
  have hlow : (0x80 : UInt8).toNat = 128 := rfl
  have hhigh : (0xBF : UInt8).toNat = 191 := rfl
  exact readFollowers_continuation (by omega) (by omega) bounds rest

/-! ## First bytes -/

theorem followers?_one : ∀ n < 0x80, followers? (UInt8.ofNat n) = some [] := by decide +kernel

theorem followers?_two : ∀ n < 0x20, 2 ≤ n → followers? (UInt8.ofNat (n + 0xC0)) = some [(0x80, 0xBF)] := by
  decide +kernel

/-- the first of three bytes: numbers below `0x800` are shut out behind `0xE0`, and surrogates behind `0xED` -/
theorem followers?_three : ∀ n < 0x10, followers? (UInt8.ofNat (n + 0xE0)) =
    some [(if n = 0 then 0xA0 else 0x80, if n = 0xD then 0x9F else 0xBF), (0x80, 0xBF)] := by decide +kernel

/-- the first of four bytes: numbers below `0x10000` are shut out behind `0xF0`, and those beyond the last behind `0xF4` -/
theorem followers?_four : ∀ n < 5, followers? (UInt8.ofNat (n + 0xF0)) =
    some [(if n = 0 then 0x90 else 0x80, if n = 4 then 0x8F else 0xBF), (0x80, 0xBF), (0x80, 0xBF)] := by decide +kernel

theorem leadBits_two : ∀ n < 0x20, leadBits (UInt8.ofNat (n + 0xC0)) 1 = n := by decide +kernel

theorem leadBits_three : ∀ n < 0x10, leadBits (UInt8.ofNat (n + 0xE0)) 2 = n := by decide +kernel

theorem leadBits_four : ∀ n < 8, leadBits (UInt8.ofNat (n + 0xF0)) 3 = n := by decide +kernel

/-! ## Characters -/

/-- a first byte with the bytes that follow it gives a character -/
theorem decodeFrom_of_readFollowers {b : UInt8} {bounds : List (UInt8 × UInt8)} {bytes rest : List UInt8} {code : Nat}
    (hbounds : followers? b = some bounds)
    (hread : readFollowers (leadBits b bounds.length) 1 bounds bytes = .ok (code, rest)) (position : Nat) :
    decodeFrom position (b :: bytes) =
      (decodeFrom (position + 1 + bounds.length) rest).map fun more => Char.ofNat code :: more := by
  rw [decodeFrom]
  split
  case h_1 hnone => exact absurd (hbounds.symm.trans hnone) (by simp)
  case h_2 found hfound =>
    obtain rfl := Option.some.inj (hbounds.symm.trans hfound)
    split
    case h_1 hfault => exact absurd (hread.symm.trans hfault) (by simp)
    case h_2 code' rest' hok =>
      obtain ⟨rfl, rfl⟩ := Prod.mk.inj (Except.ok.inj (hread.symm.trans hok))
      rfl

theorem decodeFrom_one {v : Nat} (hv : v ≤ 0x7F) (rest : List UInt8) (position : Nat) :
    decodeFrom position (UInt8.ofNat v :: rest) =
      (decodeFrom (position + 1) rest).map fun more => Char.ofNat v :: more := by
  have hread : readFollowers (leadBits (UInt8.ofNat v) 0) 1 [] rest = .ok (v, rest) := by
    rw [readFollowers, leadBits, UInt8.toNat_ofNat', Nat.mod_eq_of_lt (by omega)]
  exact decodeFrom_of_readFollowers (followers?_one v (by omega)) hread position

theorem decodeFrom_two {v : Nat} (hlow : 0x7F < v) (hhigh : v ≤ 0x7FF) (rest : List UInt8) (position : Nat) :
    decodeFrom position (UInt8.ofNat (v / 64 % 0x20 + 0xC0) :: continuation v :: rest) =
      (decodeFrom (position + 2) rest).map fun more => Char.ofNat v :: more := by
  have hread : readFollowers (leadBits (UInt8.ofNat (v / 64 % 0x20 + 0xC0)) 1) 1 [(0x80, 0xBF)]
      (continuation v :: rest) = .ok (v, rest) := by
    rw [leadBits_two _ (by omega), readFollowers_any, readFollowers]
    congr 2
    omega
  exact decodeFrom_of_readFollowers (followers?_two _ (by omega) (by omega)) hread position

theorem decodeFrom_three {v : Nat} (hlow : 0x7FF < v) (hhigh : v ≤ 0xFFFF) (hsurrogate : v < 0xD800 ∨ 0xDFFF < v)
    (rest : List UInt8) (position : Nat) :
    decodeFrom position
        (UInt8.ofNat (v / 4096 % 0x10 + 0xE0) :: continuation (v / 64) :: continuation v :: rest) =
      (decodeFrom (position + 3) rest).map fun more => Char.ofNat v :: more := by
  have hread : readFollowers (leadBits (UInt8.ofNat (v / 4096 % 0x10 + 0xE0)) 2) 1
      [(if v / 4096 % 0x10 = 0 then 0xA0 else 0x80, if v / 4096 % 0x10 = 0xD then 0x9F else 0xBF), (0x80, 0xBF)]
      (continuation (v / 64) :: continuation v :: rest) = .ok (v, rest) := by
    rw [leadBits_three _ (by omega), readFollowers_continuation, readFollowers_any, readFollowers]
    · congr 2
      omega
    · rw [apply_ite UInt8.toNat, UInt8.toNat_ofNat, UInt8.toNat_ofNat]
      split <;> omega
    · rw [apply_ite UInt8.toNat, UInt8.toNat_ofNat, UInt8.toNat_ofNat]
      split <;> omega
  exact decodeFrom_of_readFollowers (followers?_three _ (by omega)) hread position

theorem decodeFrom_four {v : Nat} (hlow : 0xFFFF < v) (hhigh : v < 0x110000) (rest : List UInt8) (position : Nat) :
    decodeFrom position (UInt8.ofNat (v / 262144 % 0x08 + 0xF0) :: continuation (v / 4096) :: continuation (v / 64) ::
        continuation v :: rest) =
      (decodeFrom (position + 4) rest).map fun more => Char.ofNat v :: more := by
  have hread : readFollowers (leadBits (UInt8.ofNat (v / 262144 % 0x08 + 0xF0)) 3) 1
      [(if v / 262144 % 0x08 = 0 then 0x90 else 0x80, if v / 262144 % 0x08 = 4 then 0x8F else 0xBF), (0x80, 0xBF),
        (0x80, 0xBF)]
      (continuation (v / 4096) :: continuation (v / 64) :: continuation v :: rest) = .ok (v, rest) := by
    rw [leadBits_four _ (by omega), readFollowers_continuation, readFollowers_any, readFollowers_any, readFollowers]
    · congr 2
      omega
    · rw [apply_ite UInt8.toNat, UInt8.toNat_ofNat, UInt8.toNat_ofNat]
      split <;> omega
    · rw [apply_ite UInt8.toNat, UInt8.toNat_ofNat, UInt8.toNat_ofNat]
      split <;> omega
  exact decodeFrom_of_readFollowers (followers?_four _ (by omega)) hread position

/-- **The bytes of a character** are read back as that character, whatever bytes come behind. -/
theorem decodeFrom_encode (c : Char) (rest : List UInt8) (position : Nat) :
    decodeFrom position (String.utf8EncodeChar c ++ rest) =
      (decodeFrom (position + (String.utf8EncodeChar c).length) rest).map fun more => c :: more := by
  have hvalid : c.toNat < 0xD800 ∨ 0xDFFF < c.toNat ∧ c.toNat < 0x110000 := c.valid
  have hself : Char.ofNat c.toNat = c := Char.ofNat_toNat c
  by_cases hone : c.toNat ≤ 0x7F
  · have hbytes : String.utf8EncodeChar c = [UInt8.ofNat c.toNat] := if_pos hone
    have hread := decodeFrom_one hone rest position
    rw [hself] at hread
    rw [hbytes]
    exact hread
  by_cases htwo : c.toNat ≤ 0x7FF
  · have hbytes : String.utf8EncodeChar c = [UInt8.ofNat (c.toNat / 64 % 0x20 + 0xC0), continuation c.toNat] :=
      (if_neg hone).trans (if_pos htwo)
    have hread := decodeFrom_two (not_le.1 hone) htwo rest position
    rw [hself] at hread
    rw [hbytes]
    exact hread
  by_cases hthree : c.toNat ≤ 0xFFFF
  · have hbytes : String.utf8EncodeChar c = [UInt8.ofNat (c.toNat / 4096 % 0x10 + 0xE0), continuation (c.toNat / 64),
        continuation c.toNat] := ((if_neg hone).trans (if_neg htwo)).trans (if_pos hthree)
    have hread := decodeFrom_three (not_le.1 htwo) hthree (by omega) rest position
    rw [hself] at hread
    rw [hbytes]
    exact hread
  · have hbytes : String.utf8EncodeChar c = [UInt8.ofNat (c.toNat / 262144 % 0x08 + 0xF0),
        continuation (c.toNat / 4096), continuation (c.toNat / 64), continuation c.toNat] :=
      ((if_neg hone).trans (if_neg htwo)).trans (if_neg hthree)
    have hread := decodeFrom_four (not_le.1 hthree) (by omega) rest position
    rw [hself] at hread
    rw [hbytes]
    exact hread

/-! ## Texts -/

theorem decodeFrom_encodeUtf8 (s : List Char) (position : Nat) : decodeFrom position (encodeUtf8 s) = .ok s := by
  induction s generalizing position with
  | nil => exact decodeFrom.eq_1 position
  | cons c s ih =>
    rw [encodeUtf8_cons, decodeFrom_encode, ih]
    rfl

/-- **A text is read back from its bytes.** -/
theorem decodeUtf8_encodeUtf8 (s : List Char) : decodeUtf8 (encodeUtf8 s) = .ok s := decodeFrom_encodeUtf8 s 0

end VixStyle.Text
