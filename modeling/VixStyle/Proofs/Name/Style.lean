/-
The convention of a name, told by its letters.

A name is taken as snake case exactly if no letter of it is upper case (`style_eq_lowerSnake_iff`), and as written in
capitals exactly if some letter is upper case and none is lower case (`style_eq_upperSnake_iff`). The leading underscores,
which `Name.style` puts aside, need no mention: they have no case, as little as digits.
-/
import Mathlib.Data.List.TakeWhile
import VixStyle.Name
import VixStyle.Proofs.Text.LetterCase

namespace VixStyle.Name

open Text

/-- the letters with a case are among those behind the leading underscores -/
theorem mem_casedLetters {name : List Char} {c : Char} : c ∈ casedLetters name ↔ c ∈ name ∧ hasCase c = true := by
  rw [casedLetters, List.mem_filter]
  refine and_congr_left fun hcase => ⟨fun h => (List.dropWhile_suffix _).subset h, fun h => ?_⟩
  have hsplit : lead name ++ body name = name := List.takeWhile_append_dropWhile
  rw [← hsplit] at h
  refine (List.mem_append.1 h).resolve_left fun hlead => ?_
  have hunderscore : c = '_' := by simpa [isUnderscore] using List.mem_takeWhile_imp hlead
  rw [hasCase_of_isDigit (Or.inr hunderscore)] at hcase
  cases hcase

theorem all_isLower_casedLetters_iff {name : List Char} :
    (casedLetters name).all isLower = true ↔ ∀ c ∈ name, isUpper c = false := by
  rw [List.all_eq_true]
  constructor
  · intro h c hc
    by_contra hupper
    have hupper : isUpper c = true := by simpa using hupper
    have hlower := h c (mem_casedLetters.2 ⟨hc, hasCase_iff.2 (Or.inl hupper)⟩)
    rw [isLower_of_isUpper hupper] at hlower
    cases hlower
  · intro h c hc
    obtain ⟨hmem, hcase⟩ := mem_casedLetters.1 hc
    exact (hasCase_iff.1 hcase).resolve_left (by simp [h c hmem])

theorem all_isUpper_casedLetters_iff {name : List Char} :
    (casedLetters name).all isUpper = true ↔ ∀ c ∈ name, isLower c = false := by
  rw [List.all_eq_true]
  constructor
  · intro h c hc
    by_contra hlower
    have hlower : isLower c = true := by simpa using hlower
    have hupper := h c (mem_casedLetters.2 ⟨hc, hasCase_iff.2 (Or.inr hlower)⟩)
    rw [isUpper_of_isLower hlower] at hupper
    cases hupper
  · intro h c hc
    obtain ⟨hmem, hcase⟩ := mem_casedLetters.1 hc
    exact (hasCase_iff.1 hcase).resolve_right (by simp [h c hmem])

/-- **Snake case** is the convention of the names without upper-case letters. -/
theorem style_eq_lowerSnake_iff {name : List Char} : style name = .lowerSnake ↔ ∀ c ∈ name, isUpper c = false := by
  rw [← all_isLower_casedLetters_iff]
  unfold style
  split_ifs <;> simp_all

/-- **Capitals** are the convention of the names with an upper-case letter and no lower-case one. -/
theorem style_eq_upperSnake_iff {name : List Char} :
    style name = .upperSnake ↔ (∃ c ∈ name, isUpper c = true) ∧ ∀ c ∈ name, isLower c = false := by
  have hsome : (∃ c ∈ name, isUpper c = true) ↔ ¬ (casedLetters name).all isLower = true := by
    rw [all_isLower_casedLetters_iff]
    simp
  rw [hsome, ← all_isUpper_casedLetters_iff]
  unfold style
  split_ifs <;> simp_all

end VixStyle.Name
