/-
Blocks that further marks close.

Some opens and closes leave blocks open, and the marks behind them close some of these. Main statement, `closedBehind_iff`: a
block that is left open is closed behind exactly if its opener and a close behind can be found with balanced marks between
them (`ClosedBehind`).

- `lifo_cases`: marks close nothing that was open before them, or they are balanced up to a first close that does.
- `open_split`: what stands behind the opener of a block that is left open closes nothing that was open before.
- `lifo_kept`: what is open in the end was opened by the marks, or it is an outer part of what was open before.
-/
import VixStyle.Proofs.Indentation.Closing

namespace VixStyle.Mark

/-! ## Marks that close nothing from before -/

section Within

variable {pending left final : List (Keyword × Token)} {ms more : List Mark}

theorem lifo_append_of_eq (h : lifo pending ms = ([], left)) (more : List Mark) :
    lifo pending (ms ++ more) = lifo left more := by
  rw [lifo_append, h]
  rfl

/-- marks without a stray close have none in front -/
theorem lifo_front (h : lifo pending (ms ++ more) = ([], final)) :
    ∃ left, lifo pending ms = ([], left) ∧ lifo left more = ([], final) := by
  have hstrays : (lifo pending ms).1 = [] := by
    rw [lifo_append] at h
    exact (List.append_eq_nil_iff.1 (congrArg Prod.fst h)).1
  have hfront : lifo pending ms = ([], (lifo pending ms).2) := by rw [← hstrays]
  exact ⟨_, hfront, (lifo_append_of_eq hfront more).symm.trans h⟩

/-- blocks that lie further out stay as they are -/
theorem lifo_under (h : lifo pending ms = ([], left)) (under : List (Keyword × Token)) :
    lifo (pending ++ under) ms = ([], left ++ under) := by
  induction ms generalizing pending with
  | nil =>
    obtain rfl : pending = left := congrArg Prod.snd h
    rfl
  | cons m ms ih =>
    cases m with
    | opens word t =>
      have hmore : lifo ((word, t) :: pending) ms = ([], left) := h
      exact ih hmore
    | closes t =>
      cases pending with
      | nil => cases congrArg Prod.fst h
      | cons p pending => exact ih h

end Within

/-- **Marks close nothing from before them**, or they are balanced up to a first close that does. -/
theorem lifo_cases (ms : List Mark) : (∃ left, lifo [] ms = ([], left)) ∨
    ∃ inside t back, ms = inside ++ closes t :: back ∧ Balanced inside := by
  induction ms using List.reverseRecOn with
  | nil => exact Or.inl ⟨[], rfl⟩
  | append_singleton ms m ih =>
    rcases ih with ⟨left, hleft⟩ | ⟨inside, t, back, rfl, hinside⟩
    · have hlast := lifo_append_of_eq hleft [m]
      cases m with
      | opens word t => exact Or.inl ⟨_, hlast⟩
      | closes t =>
        cases left with
        | nil => exact Or.inr ⟨ms, t, [], rfl, hleft⟩
        | cons p left => exact Or.inl ⟨left, hlast⟩
    · exact Or.inr ⟨inside, t, back ++ [m], by simp, hinside⟩

/-! ## Blocks that are left open -/

/-- **Behind the opener of a block that is left open**, marks close nothing from before, and leave open what lies over it. -/
theorem open_split {ms : List Mark} {above under : List (Keyword × Token)} {p : Keyword × Token}
    (h : (lifo [] ms).2 = above ++ p :: under) :
    ∃ front inside, ms = front ++ opens p.1 p.2 :: inside ∧ (lifo [] front).2 = under ∧ lifo [] inside = ([], above) := by
  induction ms using List.reverseRecOn generalizing above with
  | nil => cases above <;> cases h
  | append_singleton ms m ih =>
    rw [lifo_append] at h
    cases m with
    | opens word t =>
      have h : (word, t) :: (lifo [] ms).2 = above ++ p :: under := h
      cases above with
      | nil =>
        obtain ⟨rfl, hunder⟩ := List.cons.inj h
        exact ⟨ms, [], rfl, hunder, rfl⟩
      | cons q above =>
        obtain ⟨rfl, hlater⟩ := List.cons.inj h
        obtain ⟨front, inside, rfl, hfront, hinside⟩ := ih hlater
        exact ⟨front, inside ++ [opens word t], by simp, hfront, lifo_append_of_eq hinside _⟩
    | closes t =>
      cases hopen : (lifo [] ms).2 with
      | nil =>
        rw [hopen] at h
        cases above <;> cases h
      | cons q outer =>
        rw [hopen] at h
        have houter : outer = above ++ p :: under := h
        have hbefore : (lifo [] ms).2 = (q :: above) ++ p :: under := by rw [hopen, houter, List.cons_append]
        obtain ⟨front, inside, rfl, hfront, hinside⟩ := ih hbefore
        exact ⟨front, inside ++ [closes t], by simp, hfront, lifo_append_of_eq hinside _⟩

/-- **What is open in the end** was opened by the marks, or is an outer part of what was open before. -/
theorem lifo_kept (pending : List (Keyword × Token)) (ms : List Mark) :
    ∃ opened kept, (lifo pending ms).2 = opened ++ kept ∧ kept <:+ pending ∧ ∀ p ∈ opened, opens p.1 p.2 ∈ ms := by
  induction ms generalizing pending with
  | nil => exact ⟨[], pending, rfl, List.suffix_refl pending, by simp⟩
  | cons m ms ih =>
    cases m with
    | opens word t =>
      obtain ⟨opened, kept, hleft, hkept, hopened⟩ := ih ((word, t) :: pending)
      have hlater : ∀ p ∈ opened, opens p.1 p.2 ∈ opens word t :: ms := fun p hp => List.mem_cons_of_mem _ (hopened p hp)
      rcases List.suffix_cons_iff.1 hkept with rfl | hkept
      · refine ⟨opened ++ [(word, t)], pending, by simpa [lifo] using hleft, List.suffix_refl pending, ?_⟩
        intro p hp
        rcases List.mem_append.1 hp with hp | hp
        · exact hlater p hp
        · obtain rfl := List.mem_singleton.1 hp
          exact List.mem_cons_self
      · exact ⟨opened, kept, hleft, hkept, hlater⟩
    | closes t =>
      cases pending with
      | nil =>
        obtain ⟨opened, kept, hleft, hkept, hopened⟩ := ih []
        exact ⟨opened, kept, hleft, hkept, fun p hp => List.mem_cons_of_mem _ (hopened p hp)⟩
      | cons q outer =>
        obtain ⟨opened, kept, hleft, hkept, hopened⟩ := ih outer
        exact ⟨opened, kept, hleft, hkept.trans (List.suffix_cons q outer), fun p hp => List.mem_cons_of_mem _ (hopened p hp)⟩

/-! ## Blocks that are closed behind -/

/--
the block that is opened in some marks is closed in those behind them: between its opener and a close, the marks match without
a rest
-/
def ClosedBehind (ms more : List Mark) (p : Keyword × Token) : Prop :=
  ∃ front inside inside' t back, ms = front ++ opens p.1 p.2 :: inside ∧ more = inside' ++ closes t :: back ∧
    Balanced (inside ++ inside')

/-- **A block is closed behind** exactly if it is open up to there and not open in the end. -/
theorem closedBehind_iff {ms more : List Mark} (hopen : (lifo [] ms).2.Nodup)
    (hmore : ∀ p ∈ (lifo [] ms).2, opens p.1 p.2 ∉ more) {p : Keyword × Token} :
    ClosedBehind ms more p ↔ p ∈ (lifo [] ms).2 ∧ p ∉ (lifo (lifo [] ms).2 more).2 := by
  constructor
  · rintro ⟨front, inside, inside', t, back, rfl, rfl, hbalanced⟩
    obtain ⟨above, habove, hclosed⟩ := lifo_front hbalanced
    -- under the block lies what was open at its opener, and nothing but this is left when the block is closed
    have hleft : (lifo [] (front ++ opens p.1 p.2 :: inside)).2 = above ++ p :: (lifo [] front).2 := by
      rw [lifo_append, lifo]
      exact congrArg Prod.snd (lifo_under habove _)
    have hrest : lifo (above ++ p :: (lifo [] front).2) (inside' ++ closes t :: back) = lifo (lifo [] front).2 back := by
      rw [lifo_append_of_eq (lifo_under hclosed _)]
      rfl
    rw [hleft] at hopen hmore ⊢
    have hmem : p ∈ above ++ p :: (lifo [] front).2 := List.mem_append_right _ List.mem_cons_self
    refine ⟨hmem, ?_⟩
    obtain ⟨opened, kept, hfinal, hkept, hopened⟩ := lifo_kept (lifo [] front).2 back
    rw [hrest, hfinal]
    intro hp
    rcases List.mem_append.1 hp with hp | hp
    · apply hmore p hmem
      exact List.mem_append_right _ (List.mem_cons_of_mem _ (hopened p hp))
    · have hunder := (List.nodup_append.1 hopen).2.1
      exact (List.nodup_cons.1 hunder).1 (hkept.subset hp)
  · rintro ⟨hp, hgone⟩
    obtain ⟨above, under, hleft⟩ := List.append_of_mem hp
    obtain ⟨front, inside, rfl, hfront, hinside⟩ := open_split hleft
    rcases lifo_cases (inside ++ more) with ⟨final, hfinal⟩ | ⟨whole, t, back, hsplit, hbalanced⟩
    · -- then the block is never closed
      obtain ⟨left, hhere, hlater⟩ := lifo_front hfinal
      obtain rfl : left = above := congrArg Prod.snd (hhere.symm.trans hinside)
      apply absurd _ hgone
      rw [hleft, lifo_under hlater]
      exact List.mem_append_right _ List.mem_cons_self
    · -- the first close beyond the opener does not stand among the first marks, for these leave the block open
      rcases List.append_eq_append_iff.1 hsplit with ⟨inside', rfl, hback⟩ | ⟨rest, rfl, hback⟩
      · exact ⟨front, inside, inside', t, back, rfl, hback, hbalanced⟩
      · cases rest with
        | nil => exact ⟨front, whole, [], t, back, by rw [List.append_nil], hback.symm, by rwa [List.append_nil]⟩
        | cons m rest =>
          obtain ⟨rfl, -⟩ := List.cons.inj hback
          rw [lifo_append_of_eq hbalanced] at hinside
          cases congrArg Prod.fst hinside

end VixStyle.Mark
