/-
Where a piece of a text stands among the lines of the text.

A text ends on some line, behind some characters of it, and what comes next goes on with this line up to a terminator
(`EndsBehind`). So when one piece of a line is put in the place of another one, no other line changes.
- `exists_endsBehind`: each text ends somewhere.
- `exists_text_around`: each piece of a line stands somewhere in the text.
-/
import VixStyle.Proofs.Text.Terminator

namespace VixStyle.Text

/-- no terminator of a line stands in the text -/
def Unbroken (s : List Char) : Prop := ∀ c ∈ s, c ≠ '\r' ∧ c ≠ '\n'

/-- characters put in front of the first line, or on a line of their own if there is none -/
def ontoFirst (s : List Char) : List (List Char) → List (List Char)
  | [] => [s]
  | line :: more => (s ++ line) :: more

theorem ontoFirst_append (s s' : List Char) (texts : List (List Char)) :
    ontoFirst s (ontoFirst s' texts) = ontoFirst (s ++ s') texts := by
  cases texts with
  | nil => rfl
  | cons line more => exact congrArg (· :: more) (List.append_assoc s s' line).symm

/-- characters put in front of a first line that stays the same, whichever they are -/
theorem exists_ontoFirst (texts : List (List Char)) : ∃ y below, ∀ s, ontoFirst s texts = (s ++ y) :: below := by
  cases texts with
  | nil => exact ⟨[], [], fun s => congrArg (· :: []) (List.append_nil s).symm⟩
  | cons y below => exact ⟨y, below, fun s => rfl⟩

/-! ## Lines, character by character -/

section Lines

variable {c : Char} {rest : List Char}

theorem lines_terminator {e : Terminator} (h : e = .carriageReturn → ∀ more, rest ≠ '\n' :: more) :
    lines (e.chars ++ rest) = [] :: lines rest := by
  rw [lines, unifyTerminators_terminator h, splitLines, if_pos rfl]
  rfl

theorem lines_cons (hreturn : c ≠ '\r') (hfeed : c ≠ '\n') : lines (c :: rest) = ontoFirst [c] (lines rest) := by
  have hc : '\r' ∉ [c] := by simpa using hreturn.symm
  have hunify : unifyTerminators (c :: rest) = c :: unifyTerminators rest := unifyTerminators_append hc rest
  rw [lines, hunify, splitLines, if_neg hfeed, lines]
  cases splitLines (unifyTerminators rest) <;> rfl

theorem lines_append {s : List Char} (hs : Unbroken s) (hne : s ≠ []) (rest : List Char) :
    lines (s ++ rest) = ontoFirst s (lines rest) := by
  induction s with
  | nil => exact absurd rfl hne
  | cons c s ih =>
    obtain ⟨⟨hreturn, hfeed⟩, hs⟩ := List.forall_mem_cons.1 hs
    rw [List.cons_append, lines_cons hreturn hfeed]
    cases s with
    | nil => rfl
    | cons d s => rw [ih hs (List.cons_ne_nil d s), ontoFirst_append, List.singleton_append]

end Lines

/-- a text is empty, or starts with a whole terminator or with a character that goes on with its line -/
@[elab_as_elim]
theorem text_induction {P : List Char → Prop} (nil : P [])
    (terminator : ∀ (e : Terminator) (rest : List Char), (e = .carriageReturn → ∀ more, rest ≠ '\n' :: more) → P rest →
      P (e.chars ++ rest))
    (cons : ∀ (c : Char) (rest : List Char), c ≠ '\r' → c ≠ '\n' → P rest → P (c :: rest)) (text : List Char) : P text := by
  induction text using unifyTerminators.induct with
  | case1 => exact nil
  | case2 rest ih => exact terminator .both rest nofun ih
  | case3 c rest hnot ih =>
    by_cases hreturn : c = '\r'
    · exact hreturn ▸ terminator .carriageReturn rest (fun _ more => hnot more hreturn) ih
    by_cases hfeed : c = '\n'
    · exact hfeed ▸ terminator .feed rest nofun ih
    exact cons c rest hreturn hfeed ih

/-- **No terminator stands in a line.** -/
theorem unbroken_of_mem_lines {text line : List Char} (h : line ∈ lines text) : Unbroken line := by
  induction text using text_induction generalizing line with
  | nil => cases h
  | terminator e rest he ih =>
    rw [lines_terminator he] at h
    rcases List.mem_cons.1 h with rfl | h
    · exact fun c hc => nomatch hc
    · exact ih h
  | cons c rest hreturn hfeed ih =>
    rw [lines_cons hreturn hfeed] at h
    cases hlines : lines rest with
    | nil =>
      rw [hlines] at h
      obtain rfl := List.mem_singleton.1 h
      simpa [Unbroken] using And.intro hreturn hfeed
    | cons first more =>
      rw [hlines] at h ih
      rcases List.mem_cons.1 h with rfl | h
      · exact List.forall_mem_cons.2 ⟨⟨hreturn, hfeed⟩, ih List.mem_cons_self⟩
      · exact ih (List.mem_cons_of_mem first h)

/-! ## The end of a text -/

/-- a text ends on the line that follows `above`, behind `x`: what comes next goes on with this line -/
def EndsBehind (above : List (List Char)) (x before : List Char) : Prop :=
  ∀ s after, Unbroken s → s ≠ [] → lines (before ++ (s ++ after)) = above ++ ontoFirst (x ++ s) (lines after)

namespace EndsBehind

variable {above : List (List Char)} {x before : List Char}

theorem nil : EndsBehind [] [] [] := fun _ after hs hne => lines_append hs hne after

theorem terminator (h : EndsBehind above x before) {e : Terminator}
    (he : e = .carriageReturn → ∀ more, before ≠ '\n' :: more) : EndsBehind ([] :: above) x (e.chars ++ before) := by
  intro s after hs hne
  have hrest : e = .carriageReturn → ∀ more, before ++ (s ++ after) ≠ '\n' :: more := by
    intro hreturn more heq
    cases before with
    | nil =>
      cases s with
      | nil => exact hne rfl
      | cons c s => exact (hs c List.mem_cons_self).2 (List.cons.inj heq).1
    | cons c before => exact he hreturn before (congrArg (· :: before) (List.cons.inj heq).1)
  rw [List.append_assoc, lines_terminator hrest, h s after hs hne]
  rfl

theorem cons (h : EndsBehind above x before) {c : Char} (hreturn : c ≠ '\r') (hfeed : c ≠ '\n') :
    (above = [] → EndsBehind [] (c :: x) (c :: before)) ∧
      ∀ line more, above = line :: more → EndsBehind ((c :: line) :: more) x (c :: before) := by
  refine ⟨?_, ?_⟩
  · rintro rfl s after hs hne
    rw [List.cons_append, lines_cons hreturn hfeed, h s after hs hne]
    exact ontoFirst_append [c] (x ++ s) (lines after)
  · rintro line more rfl s after hs hne
    rw [List.cons_append, lines_cons hreturn hfeed, h s after hs hne]
    rfl

end EndsBehind

/-- **Each text ends on some line.** -/
theorem exists_endsBehind (before : List Char) : ∃ above x, EndsBehind above x before := by
  induction before using text_induction with
  | nil => exact ⟨[], [], .nil⟩
  | terminator e rest he ih =>
    obtain ⟨above, x, h⟩ := ih
    exact ⟨[] :: above, x, h.terminator he⟩
  | cons c rest hreturn hfeed ih =>
    obtain ⟨above, x, h⟩ := ih
    obtain ⟨hfirst, hlater⟩ := h.cons hreturn hfeed
    cases above with
    | nil => exact ⟨[], c :: x, hfirst rfl⟩
    | cons line more => exact ⟨(c :: line) :: more, x, hlater line more rfl⟩

/-- what the first line starts with, the text starts with -/
theorem prefix_of_lines {text m y : List Char} {below : List (List Char)} (h : lines text = (m ++ y) :: below) :
    m <+: text := by
  induction text using text_induction generalizing m with
  | nil => cases h
  | terminator e rest he ih =>
    rw [lines_terminator he] at h
    obtain ⟨rfl, -⟩ := List.append_eq_nil_iff.1 (List.cons.inj h).1.symm
    exact List.nil_prefix
  | cons c rest hreturn hfeed ih =>
    rw [lines_cons hreturn hfeed] at h
    cases m with
    | nil => exact List.nil_prefix
    | cons d m =>
      cases hlines : lines rest with
      | nil =>
        rw [hlines] at h
        obtain ⟨rfl, hm⟩ := List.cons.inj (List.cons.inj h).1
        obtain ⟨rfl, -⟩ := List.append_eq_nil_iff.1 hm.symm
        exact List.prefix_append [c] rest
      | cons first more =>
        rw [hlines] at h
        obtain ⟨hfirst, rfl⟩ := List.cons.inj h
        obtain ⟨rfl, hm⟩ := List.cons.inj hfirst
        exact List.cons_prefix_cons.2 ⟨rfl, ih (hlines.trans (congrArg (· :: more) hm))⟩

/-- **A piece of a line** stands somewhere in the text. -/
theorem exists_text_around {text x m y : List Char} {above below : List (List Char)} (hm : m ≠ [])
    (h : lines text = above ++ (x ++ (m ++ y)) :: below) :
    ∃ before after, text = before ++ (m ++ after) ∧ EndsBehind above x before := by
  have hnone : ∀ x : List Char, x ++ (m ++ y) ≠ [] := fun x hempty =>
    hm (List.append_eq_nil_iff.1 (List.append_eq_nil_iff.1 hempty).2).1
  induction text using text_induction generalizing above x with
  | nil => simp [lines, unifyTerminators, splitLines] at h
  | terminator e rest he ih =>
    rw [lines_terminator he] at h
    cases above with
    | nil => exact absurd (List.cons.inj h).1.symm (hnone x)
    | cons line above =>
      obtain ⟨rfl, hrest⟩ := List.cons.inj h
      obtain ⟨before, after, rfl, hends⟩ := ih hrest
      refine ⟨e.chars ++ before, after, (List.append_assoc _ _ _).symm, hends.terminator fun hreturn more hmore => ?_⟩
      exact he hreturn (more ++ (m ++ after)) (congrArg (· ++ (m ++ after)) hmore)
  | cons c rest hreturn hfeed ih =>
    have hcons := h
    rw [lines_cons hreturn hfeed] at hcons
    cases above with
    | nil =>
      cases x with
      | nil =>
        obtain ⟨after, hafter⟩ := prefix_of_lines (m := m) h
        exact ⟨[], after, hafter.symm, .nil⟩
      | cons d x =>
        cases hlines : lines rest with
        | nil =>
          rw [hlines] at hcons
          exact absurd (List.cons.inj (List.cons.inj hcons).1).2.symm (hnone x)
        | cons first more =>
          rw [hlines] at hcons
          obtain ⟨hfirst, rfl⟩ := List.cons.inj hcons
          obtain ⟨rfl, rfl⟩ := List.cons.inj hfirst
          have hrest : lines rest = [] ++ (x ++ (m ++ y)) :: more := hlines
          obtain ⟨before, after, rfl, hends⟩ := ih hrest
          exact ⟨c :: before, after, rfl, (hends.cons hreturn hfeed).1 rfl⟩
    | cons line above =>
      cases hlines : lines rest with
      | nil =>
        rw [hlines] at hcons
        simp [ontoFirst] at hcons
      | cons first more =>
        rw [hlines] at hcons
        obtain ⟨rfl, rfl⟩ := List.cons.inj hcons
        have hrest : lines rest = (first :: above) ++ (x ++ (m ++ y)) :: below := hlines
        obtain ⟨before, after, rfl, hends⟩ := ih hrest
        exact ⟨c :: before, after, rfl, (hends.cons hreturn hfeed).2 first above rfl⟩

end VixStyle.Text
