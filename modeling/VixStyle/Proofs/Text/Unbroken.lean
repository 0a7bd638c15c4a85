/-
Texts on one line, and texts cut at a mark.

A text without terminators stays so in capitals and in small letters, whichever letters it has (`unbroken_toUpper`,
`unbroken_toLower`); so a name on one line is converted to names on one line. No mapping of letters comes near the
terminators: the tables of these mappings are looked through for that, once each.

What stands in front of the first of its marks is known from the whole text (`append_mark_inj`). So lines are known from the
text that they make (`endedLines_inj`).
-/
import VixStyle.Proofs.Name.Snake
import VixStyle.Proofs.Text.Place

namespace VixStyle

namespace Text

/-! ## Texts on one line -/

-- by the members of the text, not by all characters that there are
instance (s : List Char) : Decidable (Unbroken s) := List.decidableBAll (fun c => c ≠ '\r' ∧ c ≠ '\n') s

theorem unbroken_nil : Unbroken [] := List.forall_mem_nil _

theorem Unbroken.append {s t : List Char} (hs : Unbroken s) (ht : Unbroken t) : Unbroken (s ++ t) :=
  List.forall_mem_append.2 ⟨hs, ht⟩

theorem Unbroken.subset {s t : List Char} (ht : Unbroken t) (h : s ⊆ t) : Unbroken s := fun c hc => ht c (h hc)

theorem Unbroken.feed_notMem {s : List Char} (h : Unbroken s) : '\n' ∉ s := fun hmem => (h _ hmem).2 rfl

/-- a text that stands on one line -/
def OneLine (s : String) : Prop := Unbroken s.toList

theorem OneLine.append {a b : String} (ha : OneLine a) (hb : OneLine b) : OneLine (a ++ b) := by
  unfold OneLine
  rw [String.toList_append]
  exact Unbroken.append ha hb

theorem oneLine_ofList {s : List Char} (h : Unbroken s) : OneLine (String.ofList s) := by
  unfold OneLine
  rwa [String.toList_ofList]

/-- the characters of a number are digits, after a minus that may come first -/
theorem mem_toString_int {n : Int} {c : Char} (h : c ∈ (toString n).toList) : c = '-' ∨ c.isDigit = true := by
  have hdigits : ∀ {k : Nat}, c ∈ k.repr.toList → c.isDigit = true := by
    intro k hc
    rw [Nat.toList_repr] at hc
    exact Nat.isDigit_of_mem_toDigits (by decide) (by decide) hc
  rw [Int.toString_eq_repr, Int.repr_eq_if] at h
  split at h
  · exact Or.inr (hdigits h)
  · rw [String.toList_append] at h
    rcases List.mem_append.1 h with h | h
    · exact Or.inl (List.mem_singleton.1 h)
    · exact Or.inr (hdigits h)

theorem notMem_toString_int {c : Char} (hminus : c ≠ '-') (hdigit : c.isDigit = false) (n : Int) :
    c ∉ (toString n).toList := by
  intro h
  rcases mem_toString_int h with h | h
  · exact hminus h
  · rw [hdigit] at h
    cases h

theorem oneLine_int (n : Int) : OneLine (toString n) := by
  intro c hc
  constructor
  · rintro rfl
    exact notMem_toString_int (by decide) (by decide) n hc
  · rintro rfl
    exact notMem_toString_int (by decide) (by decide) n hc

theorem oneLine_nat (n : Nat) : OneLine (toString n) := oneLine_int n

/-! ## Capitals and small letters -/

theorem ofNat_unbroken {code : Nat} (h : 13 < code) : Char.ofNat code ≠ '\r' ∧ Char.ofNat code ≠ '\n' := by
  have hcode : (Char.ofNat code).toNat = code ∨ (Char.ofNat code).toNat = 0 := by
    rw [Char.toNat_ofNat]
    split
    · exact Or.inl rfl
    · exact Or.inr rfl
  constructor <;> intro heq <;> rw [heq] at hcode <;> simp at hcode <;> omega

/-- letters are shifted far behind the terminators -/
theorem shiftChar_unbroken {map : List CaseRun} (hmap : ∀ e ∈ map, 13 < (e.run.first : Int) + e.offset) {c : Char}
    (hc : c ≠ '\r' ∧ c ≠ '\n') :
    shiftChar c ((caseOffset? map c).getD 0) ≠ '\r' ∧ shiftChar c ((caseOffset? map c).getD 0) ≠ '\n' := by
  unfold caseOffset?
  cases hfind : map.find? fun entry => entry.run.holds c.toNat with
  | none => simpa [shiftChar] using hc
  | some e =>
    have hhigh := hmap e (List.mem_of_find?_eq_some hfind)
    have hholds := List.find?_some hfind
    simp only [CodeRun.holds, Bool.and_eq_true, decide_eq_true_eq] at hholds
    refine ofNat_unbroken ?_
    simp only [Option.map_some, Option.getD_some]
    omega

theorem upperMap_high : ∀ e ∈ upperMap, 13 < (e.run.first : Int) + e.offset := by decide +kernel

theorem lowerMap_high : ∀ e ∈ lowerMap, 13 < (e.run.first : Int) + e.offset := by decide +kernel

theorem upperExpansions_high : ∀ e ∈ upperExpansions, ∀ code ∈ e.2, 13 < code := by decide +kernel

theorem ascii_unbroken {c : Char} (hascii : isAscii c = true) (hc : c ≠ '\r' ∧ c ≠ '\n') :
    (c.toUpper ≠ '\r' ∧ c.toUpper ≠ '\n') ∧ c.toLower ≠ '\r' ∧ c.toLower ≠ '\n' := by
  have hall : ∀ code < 128, Char.ofNat code ≠ '\r' ∧ Char.ofNat code ≠ '\n' →
      ((Char.ofNat code).toUpper ≠ '\r' ∧ (Char.ofNat code).toUpper ≠ '\n') ∧
        (Char.ofNat code).toLower ≠ '\r' ∧ (Char.ofNat code).toLower ≠ '\n' := by decide +kernel
  have hself := hall c.toNat (of_decide_eq_true hascii)
  rw [Char.ofNat_toNat] at hself
  exact hself hc

theorem unbroken_upperChar {c : Char} (hc : c ≠ '\r' ∧ c ≠ '\n') : Unbroken (upperChar c) := by
  unfold upperChar
  split
  · exact List.forall_mem_singleton.2 (ascii_unbroken ‹_› hc).1
  · split
    · rename_i codes hfind
      have hcodes := upperExpansions_high _ (List.mem_of_find?_eq_some hfind)
      exact List.forall_mem_map.2 fun code hcode => ofNat_unbroken (hcodes code hcode)
    · exact List.forall_mem_singleton.2 (shiftChar_unbroken upperMap_high hc)

theorem unbroken_lowerChar {c : Char} (hc : c ≠ '\r' ∧ c ≠ '\n') : Unbroken (lowerChar c) := by
  unfold lowerChar
  split
  · exact List.forall_mem_singleton.2 (ascii_unbroken ‹_› hc).2
  · split
    · simp [Unbroken]
    · exact List.forall_mem_singleton.2 (shiftChar_unbroken lowerMap_high hc)

theorem unbroken_toUpper {s : List Char} (h : Unbroken s) : Unbroken (toUpper s) := by
  intro c hc
  obtain ⟨d, hd, hc⟩ := List.mem_flatMap.1 hc
  exact unbroken_upperChar (h d hd) c hc

theorem unbroken_lowerAfter (before : List Char) {s : List Char} (h : Unbroken s) : Unbroken (lowerAfter before s) := by
  induction s generalizing before with
  | nil => exact unbroken_nil
  | cons c s ih =>
    obtain ⟨hc, hs⟩ := List.forall_mem_cons.1 h
    rw [lowerAfter]
    refine Unbroken.append ?_ (ih _ hs)
    split
    · split <;> simp [Unbroken]
    · exact unbroken_lowerChar hc

theorem unbroken_toLower {s : List Char} (h : Unbroken s) : Unbroken (toLower s) := unbroken_lowerAfter [] h

end Text

namespace Name

open Text

variable {name : List Char}

theorem unbroken_joinWords {ws : List (List Char)} (h : ∀ word ∈ ws, Unbroken word) : Unbroken (joinWords ws) := by
  induction ws using joinWords.induct with
  | case1 => exact unbroken_nil
  | case2 word => exact h word List.mem_cons_self
  | case3 word more hne ih =>
    obtain ⟨hword, hmore⟩ := List.forall_mem_cons.1 h
    rw [joinWords]
    · exact hword.append (List.forall_mem_cons.2 ⟨by decide, ih hmore⟩)
    · exact hne

theorem unbroken_of_mem_words (h : Unbroken name) : ∀ word ∈ words name, Unbroken word := by
  intro word hword c hc
  have hmem : c ∈ (words name).flatten := List.mem_flatten_of_mem hword hc
  rw [flatten_words] at hmem
  exact h c (List.mem_of_mem_filter hmem)

/-- a name with its words in another form -/
theorem unbroken_converted {form : List Char → List Char} (hform : ∀ word, Unbroken word → Unbroken (form word))
    (h : Unbroken name) : Unbroken (lead name ++ joinWords ((words name).map form)) := by
  refine Unbroken.append (h.subset (List.takeWhile_sublist _).subset) (unbroken_joinWords ?_)
  exact List.forall_mem_map.2 fun word hword => hform word (unbroken_of_mem_words h word hword)

theorem unbroken_upperSnake (h : Unbroken name) : Unbroken (upperSnake name) :=
  unbroken_converted (fun _ => unbroken_toUpper) h

theorem unbroken_lowerSnake (h : Unbroken name) : Unbroken (lowerSnake name) :=
  unbroken_converted (fun _ => unbroken_toLower) h

end Name

namespace Text

/-! ## Marks -/

/-- **What stands in front of its first mark** is known from the whole text, and so is what stands behind it. -/
theorem append_mark_inj {mark : Char} {s t a b : List Char} (hs : mark ∉ s) (ht : mark ∉ t)
    (h : s ++ mark :: a = t ++ mark :: b) : s = t ∧ a = b := by
  induction s generalizing t with
  | nil =>
    cases t with
    | nil => exact ⟨rfl, (List.cons.inj h).2⟩
    | cons c t => exact absurd ((List.cons.inj h).1 ▸ List.mem_cons_self) ht
  | cons c s ih =>
    cases t with
    | nil => exact absurd ((List.cons.inj h).1 ▸ List.mem_cons_self) hs
    | cons d t =>
      obtain ⟨rfl, htail⟩ := List.cons.inj h
      obtain ⟨rfl, hrest⟩ := ih (fun hmem => hs (List.mem_cons_of_mem _ hmem))
        (fun hmem => ht (List.mem_cons_of_mem _ hmem)) htail
      exact ⟨rfl, hrest⟩

/-- the text of some lines, each ended by a line feed -/
def endedLines (lines : List (List Char)) : List Char := lines.flatMap (· ++ ['\n'])

/-- **Lines are known from the text that they make.** -/
theorem endedLines_inj {lines lines' : List (List Char)} (hlines : ∀ line ∈ lines, Unbroken line)
    (hlines' : ∀ line ∈ lines', Unbroken line) (h : endedLines lines = endedLines lines') : lines = lines' := by
  induction lines generalizing lines' with
  | nil =>
    cases lines' with
    | nil => rfl
    | cons line more => simp [endedLines] at h
  | cons line more ih =>
    cases lines' with
    | nil => simp [endedLines] at h
    | cons line' more' =>
      obtain ⟨hline, hmore⟩ := List.forall_mem_cons.1 hlines
      obtain ⟨hline', hmore'⟩ := List.forall_mem_cons.1 hlines'
      have hcut : line ++ '\n' :: endedLines more = line' ++ '\n' :: endedLines more' := by
        simpa [endedLines] using h
      obtain ⟨rfl, hrest⟩ := append_mark_inj hline.feed_notMem hline'.feed_notMem hcut
      rw [ih hmore hmore' hrest]

end Text

end VixStyle
