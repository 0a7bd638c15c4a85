/-
Sets of words.

`wordSet` gives the words of a list in ascending order, each once (`mem_wordSet`, `ascending_wordSet`). Such a list is known by
its words, so two lists with the same words give the same set (`wordSet_congr`), and a set is its own set (`wordSet_wordSet`).
-/
import Mathlib.Data.List.Sort
import Mathlib.Data.String.Basic
import VixStyle.Text.Order

namespace VixStyle.Text

variable {word w : String} {ws xs ys : List String}

theorem mem_insertWord : w ∈ insertWord word ws ↔ w = word ∨ w ∈ ws := by
  induction ws with
  | nil => simp [insertWord]
  | cons v more ih =>
    rw [insertWord]
    split_ifs with hlt heq
    · exact List.mem_cons
    · simp [heq]
    · rw [List.mem_cons, ih, List.mem_cons, or_left_comm]

theorem mem_wordSet : w ∈ wordSet ws ↔ w ∈ ws := by
  induction ws with
  | nil => rfl
  | cons v more ih => rw [wordSet, List.foldr_cons, ← wordSet, mem_insertWord, ih, List.mem_cons]

theorem ascending_insertWord (h : ws.Pairwise (· < ·)) : (insertWord word ws).Pairwise (· < ·) := by
  induction ws with
  | nil => exact List.pairwise_singleton _ word
  | cons v more ih =>
    obtain ⟨hv, hmore⟩ := List.pairwise_cons.1 h
    rw [insertWord]
    split_ifs with hlt heq
    · exact List.pairwise_cons.2 ⟨List.forall_mem_cons.2 ⟨hlt, fun w hw => hlt.trans (hv w hw)⟩, h⟩
    · exact h
    · refine List.pairwise_cons.2 ⟨fun w hw => ?_, ih hmore⟩
      rcases mem_insertWord.1 hw with rfl | hw
      · exact lt_of_le_of_ne (not_lt.1 hlt) (Ne.symm heq)
      · exact hv w hw

theorem ascending_wordSet (ws : List String) : (wordSet ws).Pairwise (· < ·) := by
  induction ws with
  | nil => exact .nil
  | cons v more ih => exact ascending_insertWord ih

/-- **A set is known by its words.** -/
theorem wordSet_congr (h : ∀ w, w ∈ xs ↔ w ∈ ys) : wordSet xs = wordSet ys := by
  refine (ascending_wordSet xs).eq_of_mem_iff (ascending_wordSet ys) fun w => ?_
  rw [mem_wordSet, mem_wordSet, h]

theorem wordSet_wordSet (ws : List String) : wordSet (wordSet ws) = wordSet ws :=
  wordSet_congr fun _ => mem_wordSet

theorem wordSet_eq_nil_iff : wordSet ws = [] ↔ ws = [] := by
  simp only [List.eq_nil_iff_forall_not_mem, mem_wordSet]

end VixStyle.Text
