/-
No character has two cases, and no digit has one.

The tables of cases and digits are sets of code points. Two such sets are told apart by their masks (`maskOf`): numbers
with a bit for each code point, which have no bit in common (`not_holds_of_land`).
-/
import Mathlib
import VixStyle.Text.Letter
import VixStyle.Text.LetterCase

namespace VixStyle.Text

/-! ## Sets of code points as numbers -/

/-- the code points of a run -/
def CodeRun.codes (run : CodeRun) : List Nat :=
  (List.range ((run.last - run.first) / run.stride + 1)).map fun k => run.first + run.stride * k

/-- the number that has a bit for each code point of a list -/
def maskOf (codes : List Nat) : Nat := codes.foldr (fun code mask => 1 <<< code ||| mask) 0

/-- the number that has a bit for each code point of a table -/
def CodeTable.mask (table : CodeTable) : Nat := maskOf (table.flatMap CodeRun.codes)

theorem CodeRun.mem_codes_of_holds {run : CodeRun} {code : Nat} (h : run.holds code = true) : code ∈ run.codes := by
  simp only [CodeRun.holds, Bool.and_eq_true, decide_eq_true_eq, beq_iff_eq] at h
  obtain ⟨⟨hfirst, hlast⟩, hstride⟩ := h
  refine List.mem_map.2 ⟨(code - run.first) / run.stride, List.mem_range.2 ?_, ?_⟩
  · exact Nat.lt_succ_of_le (Nat.div_le_div_right (Nat.sub_le_sub_right hlast _))
  · rw [Nat.mul_div_cancel' (Nat.dvd_of_mod_eq_zero hstride)]
    exact Nat.add_sub_of_le hfirst

theorem testBit_maskOf {codes : List Nat} {code : Nat} (h : code ∈ codes) : (maskOf codes).testBit code = true := by
  induction codes with
  | nil => cases h
  | cons c codes ih =>
    rw [maskOf, List.foldr_cons, Nat.testBit_or]
    rcases List.mem_cons.1 h with rfl | h
    · simp
    · exact Bool.or_eq_true_iff.2 (Or.inr (ih h))

theorem CodeTable.testBit_mask {table : CodeTable} {c : Char} (h : table.holds c = true) :
    table.mask.testBit c.toNat = true := by
  obtain ⟨run, hrun, hholds⟩ := List.any_eq_true.1 h
  exact testBit_maskOf (List.mem_flatMap.2 ⟨run, hrun, CodeRun.mem_codes_of_holds hholds⟩)

/-- **Tables whose masks have no bit in common** have no character in common. -/
theorem CodeTable.not_holds_of_land {t u : CodeTable} (h : t.mask &&& u.mask = 0) {c : Char} (ht : t.holds c = true) :
    u.holds c = false := by
  by_contra hu
  have hboth : (t.mask &&& u.mask).testBit c.toNat = true := by
    rw [Nat.testBit_and, CodeTable.testBit_mask ht, CodeTable.testBit_mask (by simpa using hu)]
    rfl
  rw [h, Nat.zero_testBit] at hboth
  cases hboth

/-! ## Cases -/

theorem upperTable_land_lowerTable : upperTable.mask &&& lowerTable.mask = 0 := by decide +kernel

theorem digitTable_land_cases : digitTable.mask &&& upperTable.mask = 0 ∧ digitTable.mask &&& lowerTable.mask = 0 := by
  decide +kernel

theorem isUpper_iff_toNat {c : Char} : c.isUpper = true ↔ 65 ≤ c.toNat ∧ c.toNat ≤ 90 := by
  simp [Char.isUpper, UInt32.le_iff_toNat_le, ← Char.toNat_val]

theorem isLower_iff_toNat {c : Char} : c.isLower = true ↔ 97 ≤ c.toNat ∧ c.toNat ≤ 122 := by
  simp [Char.isLower, UInt32.le_iff_toNat_le, ← Char.toNat_val]

/-- **An upper-case character is no lower-case one.** -/
theorem isLower_of_isUpper {c : Char} (h : isUpper c = true) : isLower c = false := by
  unfold isUpper at h
  unfold isLower
  split_ifs at h ⊢ with hascii
  · by_contra hlower
    have hhigh := isUpper_iff_toNat.1 h
    have hlow := isLower_iff_toNat.1 (by simpa using hlower)
    omega
  · exact CodeTable.not_holds_of_land upperTable_land_lowerTable h

theorem isUpper_of_isLower {c : Char} (h : isLower c = true) : isUpper c = false := by
  by_contra hupper
  rw [isLower_of_isUpper (by simpa using hupper)] at h
  cases h

/-- a character with a case has one of the two -/
theorem hasCase_iff {c : Char} : hasCase c = true ↔ isUpper c = true ∨ isLower c = true := Bool.or_eq_true_iff

/-- **Digits and underscores have no case.** -/
theorem hasCase_of_isDigit {c : Char} (h : isDigit c = true ∨ c = '_') : hasCase c = false := by
  rcases h with h | rfl
  · unfold isDigit at h
    unfold hasCase isUpper isLower
    split_ifs at h ⊢ with hascii
    · have hdigit : 48 ≤ c.toNat ∧ c.toNat ≤ 57 := Char.isDigit_iff_toNat.1 h
      refine Bool.or_eq_false_iff.2 ⟨?_, ?_⟩
      · exact Bool.eq_false_iff.2 fun hupper => by have := isUpper_iff_toNat.1 hupper; omega
      · exact Bool.eq_false_iff.2 fun hlower => by have := isLower_iff_toNat.1 hlower; omega
    · rw [CodeTable.not_holds_of_land digitTable_land_cases.1 h, CodeTable.not_holds_of_land digitTable_land_cases.2 h]
      rfl
  · decide

end VixStyle.Text
