/-
Which `end` closes a block, told from how many blocks are open.

The height of a row of parts is how many more blocks it opens than it closes. Main statement, `matchingEnd?_eq_some_iff`:
the `end` that the count finds for an opener is the first part at which the height from the opener on falls to zero
(`ClosedAt`). There is at most one such part, and it is an `end` (`ClosedAt.unique`, `ClosedAt.closes`).

`opens_if_iff` says which tokens open an `if`: every `if` but one that follows an `else`.
-/
import VixStyle.Proofs.Indentation.Closing

namespace VixStyle

namespace BlockPart

/-! ## Height -/

/-- by how much a part changes the number of open blocks -/
def step : BlockPart → Int
  | opens _ => 1
  | closes => -1
  | inert => 0

/-- how many more blocks a row opens than it closes -/
def height (parts : List BlockPart) : Int := (parts.map step).sum

@[simp] theorem height_nil : height [] = 0 := rfl

@[simp] theorem height_cons (part : BlockPart) (parts : List BlockPart) :
    height (part :: parts) = part.step + height parts := rfl

theorem height_append (front back : List BlockPart) : height (front ++ back) = height front + height back := by
  simp [height]

/-- a part either ends the count, where it brings the depth to zero, or hands the new depth on -/
theorem closingOffset?_cons {depth : Int} (hdepth : 0 < depth) (part : BlockPart) (parts : List BlockPart) :
    closingOffset? depth (part :: parts) =
      if depth + part.step = 0 then some 0 else (closingOffset? (depth + part.step) parts).map (· + 1) := by
  cases part with
  | opens word => rw [if_neg (by simp only [step]; omega)]; rfl
  | closes =>
    have hone : depth + closes.step = 0 ↔ depth = 1 := by simp only [step]; omega
    simp only [closingOffset?, hone]
    rfl
  | inert => rw [if_neg (by simp only [step]; omega), step, add_zero]; rfl

/-- **The count stops at the first part behind which nothing is open.** -/
theorem closingOffset?_eq_some_iff {depth : Int} (hdepth : 0 < depth) {parts : List BlockPart} {k : Nat} :
    closingOffset? depth parts = some k ↔
      k < parts.length ∧ (∀ m ≤ k, 0 < depth + height (parts.take m)) ∧ depth + height (parts.take (k + 1)) = 0 := by
  induction parts generalizing depth k with
  | nil => simp [closingOffset?]
  | cons part parts ih =>
    have hlow : -1 ≤ part.step := by cases part <;> simp [step]
    rw [closingOffset?_cons hdepth]
    split_ifs with hzero
    · -- the part closes the block, so no later part is the first one to do so
      constructor
      · intro hk
        obtain rfl := Option.some.inj hk
        refine ⟨Nat.succ_pos _, fun m hm => ?_, by simpa using hzero⟩
        obtain rfl := Nat.le_zero.1 hm
        simpa using hdepth
      · rintro ⟨-, habove, -⟩
        cases k with
        | zero => rfl
        | succ k =>
          have hone := habove 1 (by omega)
          simp at hone
          omega
    · have hpos : 0 < depth + part.step := by omega
      constructor
      · intro hk
        obtain ⟨n, hn, rfl⟩ := Option.map_eq_some_iff.1 hk
        obtain ⟨hlt, habove, hend⟩ := (ih hpos).1 hn
        refine ⟨Nat.succ_lt_succ hlt, fun m hm => ?_, by simpa [add_assoc] using hend⟩
        cases m with
        | zero => simpa using hdepth
        | succ m => simpa [add_assoc] using habove m (Nat.le_of_succ_le_succ hm)
      · rintro ⟨hlt, habove, hend⟩
        cases k with
        | zero => exact absurd (by simpa using hend) hzero
        | succ k =>
          refine Option.map_eq_some_iff.2 ⟨k, (ih hpos).2 ⟨Nat.lt_of_succ_lt_succ hlt, fun m hm => ?_, ?_⟩, rfl⟩
          · simpa [add_assoc] using habove (m + 1) (Nat.succ_le_succ hm)
          · simpa [add_assoc] using hend

/-! ## The end of a block -/

/-- the part at `j` closes the block that is opened at `i` -/
structure ClosedAt (parts : List BlockPart) (i j : Nat) : Prop where
  within : i < j ∧ j < parts.length
  /-- before `j` the block is open -/
  above : ∀ m, i < m → m ≤ j → 0 < height ((parts.take m).drop i)
  /-- behind `j` nothing is open -/
  zero : height ((parts.take (j + 1)).drop i) = 0

namespace ClosedAt

variable {parts : List BlockPart} {i j : Nat}

theorem unique {j' : Nat} (h : ClosedAt parts i j) (h' : ClosedAt parts i j') : j = j' := by
  rcases Nat.lt_trichotomy j j' with hlt | heq | hlt
  · have hpos := h'.above (j + 1) (Nat.lt_succ_of_lt h.within.1) hlt
    rw [h.zero] at hpos
    exact absurd hpos (lt_irrefl 0)
  · exact heq
  · have hpos := h.above (j' + 1) (Nat.lt_succ_of_lt h'.within.1) hlt
    rw [h'.zero] at hpos
    exact absurd hpos (lt_irrefl 0)

/-- where the height falls to zero stands an `end` -/
theorem closes (h : ClosedAt parts i j) : parts[j]? = some BlockPart.closes := by
  obtain ⟨hi, hj⟩ := h.within
  have hlast := h.zero
  have hopen := h.above j hi le_rfl
  rw [List.take_add_one, List.getElem?_eq_getElem hj, Option.toList_some,
    List.drop_append_of_le_length (by rw [List.length_take]; omega), height_append] at hlast
  rw [List.getElem?_eq_getElem hj]
  cases hpart : parts[j] with
  | closes => rfl
  | opens word => rw [hpart] at hlast; simp [step] at hlast; omega
  | inert => rw [hpart] at hlast; simp [step] at hlast; omega

end ClosedAt

/-- the height of a row from an opener on -/
theorem height_from_opener {parts : List BlockPart} {i : Nat} {word : Keyword} (h : parts[i]? = some (opens word)) (m : Nat) :
    height ((parts.take (i + 1 + m)).drop i) = 1 + height ((parts.drop (i + 1)).take m) := by
  obtain ⟨hi, hpart⟩ := List.getElem?_eq_some_iff.1 h
  rw [List.drop_take, List.drop_eq_getElem_cons hi, hpart, show i + 1 + m - i = m + 1 by omega, List.take_succ_cons,
    height_cons]
  rfl

/-- **The count finds the `end` of an opener**, and none if nothing closes its block. -/
theorem matchingEnd?_eq_some_iff {parts : List BlockPart} {i j : Nat} {word : Keyword}
    (h : parts[i]? = some (opens word)) : matchingEnd? parts i = some j ↔ ClosedAt parts i j := by
  have hbehind : ∀ {k}, ClosedAt parts i (i + 1 + k) ↔ closingOffset? 1 (parts.drop (i + 1)) = some k := by
    intro k
    rw [closingOffset?_eq_some_iff one_pos, List.length_drop]
    constructor
    · intro hclosed
      refine ⟨by have := hclosed.within; omega, fun m hm => ?_, ?_⟩
      · rw [← height_from_opener h]
        exact hclosed.above _ (by omega) (by omega)
      · rw [← height_from_opener h]
        exact hclosed.zero
    · rintro ⟨hlt, habove, hzero⟩
      refine ⟨by omega, fun m him hm => ?_, ?_⟩
      · obtain ⟨m, rfl⟩ : ∃ n, m = i + 1 + n := Nat.exists_eq_add_of_le him
        rw [height_from_opener h]
        exact habove m (by omega)
      · rw [add_assoc, height_from_opener h]
        exact hzero
  rw [Rule.Indentation.matchingEnd?_of_opens h, Option.map_eq_some_iff]
  constructor
  · rintro ⟨k, hk, rfl⟩
    exact hbehind.2 hk
  · intro hclosed
    obtain ⟨k, rfl⟩ : ∃ n, j = i + 1 + n := Nat.exists_eq_add_of_le hclosed.within.1
    exact ⟨k, hbehind.1 hclosed, rfl⟩

end BlockPart

/-- the inner block is closed by the first `end`, the outer one by the second -/
example : BlockPart.ClosedAt [.opens .if_, .inert, .opens .while_, .closes, .closes] 0 4 :=
  (BlockPart.matchingEnd?_eq_some_iff (rfl : _ = some (BlockPart.opens .if_))).1 (by decide)

/-! ## Which tokens open an `if` -/

/-- each token has its part from the token before it -/
theorem blockPartsFrom_eq (before : Option Token) (declares : Bool) (ts : List Token) :
    blockPartsFrom before declares ts = (withPrevious before ts).map fun p => blockPart p.1 declares p.2 := by
  induction ts generalizing before with
  | nil => rfl
  | cons t ts ih => rw [blockPartsFrom, withPrevious, List.map_cons, ih]

theorem blockPart_eq_opens_if_iff {before : Option Token} {declares : Bool} {t : Token} :
    blockPart before declares t = .opens .if_ ↔
      t.lexeme = .keyword .if_ ∧ ∀ b ∈ before, b.lexeme ≠ .keyword .else_ := by
  have hif : Keyword.if_.opensBlock = true ∧ Keyword.if_.isDeclarable = false := by decide
  have hbefore : (before.any fun b => b.lexeme = .keyword .else_) = true ↔ ∃ b ∈ before, b.lexeme = .keyword .else_ := by
    simp [Option.any_eq_true]
  unfold blockPart
  constructor
  · intro h
    split at h
    · cases h
    · rename_i word _ hlexeme
      split_ifs at h with hopens hafter
      obtain rfl := BlockPart.opens.inj h
      exact ⟨hlexeme, fun b hb helse => hafter ⟨rfl, hbefore.2 ⟨b, hb, helse⟩⟩⟩
    · cases h
  · rintro ⟨hword, hnot⟩
    have hafter : ¬ (before.any fun b => b.lexeme = .keyword .else_) = true := fun h =>
      (hbefore.1 h).elim fun b hb => hnot b hb.1 hb.2
    simp [hword, hif, hafter]

/-- a token that opens an `if`: the word `if`, but not behind an `else` -/
structure OpensIf (ts : List Token) (i : Nat) (t : Token) : Prop where
  token : ts[i]? = some t
  word : t.lexeme = .keyword .if_
  before : ∀ k b, i = k + 1 → ts[k]? = some b → b.lexeme ≠ .keyword .else_

theorem opens_if_iff {ts : List Token} {i : Nat} {t : Token} (ht : ts[i]? = some t) :
    (blockParts ts)[i]? = some (.opens .if_) ↔ OpensIf ts i t := by
  rw [blockParts, blockPartsFrom_eq, List.getElem?_map, getElem?_withPrevious, ht, Option.map_some, Option.map_some,
    Option.some_inj, blockPart_eq_opens_if_iff]
  constructor
  · rintro ⟨hword, hbefore⟩
    refine ⟨ht, hword, ?_⟩
    rintro k b rfl hb
    exact hbefore b (by simpa using hb)
  · rintro ⟨-, hword, hbefore⟩
    refine ⟨hword, fun b hb => ?_⟩
    cases i with
    | zero => simp at hb
    | succ i => exact hbefore i b rfl (by simpa using hb)

end VixStyle
