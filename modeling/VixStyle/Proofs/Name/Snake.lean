/-
The snake-case forms of names of ASCII letters, digits and underscores.

Behind the underscores that start a name, a conversion changes the case of letters and moves underscores, and nothing else
(`filter_recased`). So it gives a name of the same kind, with the same start (`head?_recased`), in the convention that it is
made for: `style_upperSnake`, `style_lowerSnake`.
-/
import VixStyle.Proofs.Name.Style

namespace VixStyle.Name

open Text

/-! ## Words -/

/-- all but underscores -/
def solid (s : List Char) : List Char := s.filter fun c => !isUnderscore c

/-- the first word of a run starts with the first character -/
theorem exists_humps (c : Char) (rest : List Char) : ∃ word more, humps (c :: rest) = (c :: word) :: more := by
  unfold humps
  split
  · split
    · exact ⟨[], _, rfl⟩
    · exact ⟨_, _, rfl⟩
  · exact ⟨[], [], rfl⟩

theorem humps_cons_cons {a b : Char} {r word : List Char} {more : List (List Char)} (h : humps (b :: r) = word :: more) :
    humps (a :: b :: r) = if isCut a b r.head? then [a] :: word :: more else (a :: word) :: more := by
  rw [humps.eq_def]
  simp only [h]

theorem flatten_humps (s : List Char) : (humps s).flatten = s := by
  induction s with
  | nil => rfl
  | cons a rest ih =>
    cases rest with
    | nil => rfl
    | cons b r =>
      obtain ⟨word, more, hwords⟩ := exists_humps b r
      rw [hwords] at ih
      rw [humps_cons_cons hwords]
      split <;> exact congrArg (a :: ·) ih

theorem nil_notMem_humps (s : List Char) : [] ∉ humps s := by
  induction s with
  | nil => exact List.not_mem_nil
  | cons a rest ih =>
    cases rest with
    | nil => exact List.not_mem_cons_of_ne_of_not_mem (List.cons_ne_nil a []).symm List.not_mem_nil
    | cons b r =>
      obtain ⟨word, more, hwords⟩ := exists_humps b r
      rw [hwords] at ih
      rw [humps_cons_cons hwords]
      split <;> simp_all

theorem chunks_of_underscore {c : Char} (hc : isUnderscore c = true) (rest : List Char) :
    chunks (c :: rest) = chunks rest := by
  rw [chunks.eq_def]
  exact if_pos hc

theorem chunks_of_not_underscore {c : Char} (hc : ¬ isUnderscore c = true) (rest : List Char) :
    chunks (c :: rest) = match rest, chunks rest with
      | d :: _, chunk :: more => if isUnderscore d then [c] :: chunk :: more else (c :: chunk) :: more
      | _, _ => [[c]] := by
  rw [chunks.eq_def]
  exact if_neg hc

/-- the first run of a name that starts with no underscore starts with the first character -/
theorem exists_chunks {c : Char} (hc : ¬ isUnderscore c = true) (rest : List Char) :
    ∃ chunk more, chunks (c :: rest) = (c :: chunk) :: more := by
  rw [chunks_of_not_underscore hc]
  split
  · split
    · exact ⟨[], _, rfl⟩
    · exact ⟨_, _, rfl⟩
  · exact ⟨[], [], rfl⟩

/-- a character before an underscore is a run of its own so far -/
theorem chunks_before_underscore {c d : Char} (hc : ¬ isUnderscore c = true) (hd : isUnderscore d = true)
    (r : List Char) : chunks (c :: d :: r) = [c] :: chunks (d :: r) := by
  rw [chunks_of_not_underscore hc]
  cases chunks (d :: r) with
  | nil => rfl
  | cons chunk more => exact if_pos hd

theorem chunks_cons_cons {c d : Char} {r chunk : List Char} {more : List (List Char)} (hc : ¬ isUnderscore c = true)
    (hd : ¬ isUnderscore d = true) (h : chunks (d :: r) = chunk :: more) :
    chunks (c :: d :: r) = (c :: chunk) :: more := by
  rw [chunks_of_not_underscore hc, h]
  exact if_neg hd

theorem flatten_chunks (name : List Char) : (chunks name).flatten = solid name := by
  induction name with
  | nil => rfl
  | cons c rest ih =>
    by_cases hc : isUnderscore c = true
    · rw [chunks_of_underscore hc, ih, solid, solid, List.filter_cons_of_neg (by simpa using hc)]
    rw [solid, List.filter_cons_of_pos (by simpa using hc), ← solid, ← ih]
    cases rest with
    | nil =>
      rw [chunks_of_not_underscore hc]
      rfl
    | cons d r =>
      by_cases hd : isUnderscore d = true
      · rw [chunks_before_underscore hc hd]
        rfl
      · obtain ⟨chunk, more, hchunks⟩ := exists_chunks hd r
        rw [chunks_cons_cons hc hd hchunks, hchunks]
        rfl

/-- **The words of a name**, one behind the other, are the name without its underscores. -/
theorem flatten_words (name : List Char) : (words name).flatten = solid name := by
  rw [words, List.flatMap_def, List.flatten_flatten, List.map_map, ← flatten_chunks]
  exact congrArg List.flatten ((List.map_congr_left fun chunk _ => flatten_humps chunk).trans (List.map_id _))

theorem nil_notMem_words (name : List Char) : [] ∉ words name := by
  intro h
  obtain ⟨chunk, -, hmem⟩ := List.mem_flatMap.1 h
  exact nil_notMem_humps chunk hmem

/-! ## Joined words -/

theorem solid_append (s t : List Char) : solid (s ++ t) = solid s ++ solid t := List.filter_append ..

theorem solid_joinWords (ws : List (List Char)) : solid (joinWords ws) = solid ws.flatten := by
  fun_induction joinWords ws with
  | case1 => rfl
  | case2 word => rw [List.flatten_singleton]
  | case3 word more _ ih => rw [List.flatten_cons, solid_append, solid_append, ← ih]; rfl

theorem head?_joinWords {ws : List (List Char)} (h : [] ∉ ws) : (joinWords ws).head? = ws.flatten.head? := by
  have hcons : ∀ word ∈ ws, ∀ s : List Char, (word ++ s).head? = word.head? := by
    intro word hword s
    obtain ⟨c, more, rfl⟩ := List.exists_cons_of_ne_nil fun hnil : word = [] => h (hnil ▸ hword)
    rfl
  cases ws with
  | nil => rfl
  | cons word more =>
    rw [List.flatten_cons, hcons word List.mem_cons_self]
    cases more with
    | nil => rfl
    | cons _ _ => exact hcons word List.mem_cons_self _

/-! ## Conversions -/

/-- the snake-case form of a name, its characters changed one by one -/
def recased (f : Char → Char) (name : List Char) : List Char := lead name ++ joinWords ((words name).map (List.map f))

/-- a change of letters to letters, and of nothing else -/
def Recasing (f : Char → Char) : Prop := ∀ c : Char, f c = c ∨ c.isAlpha = true ∧ (f c).isAlpha = true

theorem recasing_toUpper : Recasing Char.toUpper := by
  intro c
  by_cases h : c.isLower = true
  · exact Or.inr (by simp [Char.isAlpha, h])
  · exact Or.inl (Char.toUpper_eq_of_not_isLower h)

theorem recasing_toLower : Recasing Char.toLower := by
  intro c
  by_cases h : c.isUpper = true
  · exact Or.inr (by simp [Char.isAlpha, h])
  · exact Or.inl (Char.toLower_eq_of_not_isUpper h)

section Recased

variable {f : Char → Char} (hf : Recasing f)

include hf

theorem Recasing.isUnderscore (c : Char) : isUnderscore (f c) = isUnderscore c := by
  have hne : ∀ {d : Char}, d.isAlpha = true → Name.isUnderscore d = false := by
    intro d hd
    by_contra h
    obtain rfl : d = '_' := by simpa [Name.isUnderscore] using h
    cases hd
  rcases hf c with h | ⟨h, h'⟩
  · rw [h]
  · rw [hne h, hne h']

theorem Recasing.isAlphanum {c : Char} (h : c.isAlphanum = true) : (f c).isAlphanum = true := by
  rcases hf c with heq | ⟨-, halpha⟩
  · rwa [heq]
  · simp [Char.isAlphanum, halpha]

theorem solid_map (s : List Char) : solid (s.map f) = (solid s).map f := by
  rw [solid, List.filter_map, solid]
  exact congrArg (List.map f) (List.filter_congr fun c _ => by simp [hf.isUnderscore])

/-- **A conversion changes characters one by one**, apart from the underscores that it moves. -/
theorem solid_recased (name : List Char) : solid (recased f name) = (solid name).map f := by
  have hlead : solid (lead name) = [] := List.filter_eq_nil_iff.2 fun c hc => by simpa using List.mem_takeWhile_imp hc
  have hwords : solid (words name).flatten = solid name := by
    rw [flatten_words, solid, solid, List.filter_filter]
    simp only [Bool.and_self]
  rw [recased, solid_append, hlead, List.nil_append, solid_joinWords, ← List.map_flatten, solid_map hf, hwords]

/-- a converted name starts like the name -/
theorem head?_recased (name : List Char) : (recased f name).head? = name.head?.map f := by
  have hwords : (joinWords ((words name).map (List.map f))).head? = (solid name).head?.map f := by
    have hne : [] ∉ (words name).map (List.map f) := by
      intro hmem
      obtain ⟨word, hword, hnil⟩ := List.mem_map.1 hmem
      exact nil_notMem_words name (List.map_eq_nil_iff.1 hnil ▸ hword)
    rw [head?_joinWords hne, ← List.map_flatten, flatten_words, List.head?_map]
  cases name with
  | nil => rfl
  | cons c rest =>
    rw [recased, lead, List.takeWhile_cons]
    split
    case isTrue hc =>
      have hfc : f c = c := by
        have hkept := hf.isUnderscore c
        rw [hc] at hkept
        exact (by simpa [isUnderscore] using hkept : f c = '_').trans (by simpa [isUnderscore] using hc : c = '_').symm
      rw [List.cons_append, List.head?_cons, List.head?_cons, Option.map_some, hfc]
    case isFalse hc =>
      rw [List.nil_append, hwords, solid, List.filter_cons_of_pos (by simpa using hc)]
      rfl

/-- the characters of a converted name -/
theorem mem_recased_iff {name : List Char} {c : Char} (hc : c ≠ '_') :
    c ∈ recased f name ↔ ∃ d ∈ name, d ≠ '_' ∧ f d = c := by
  have hsolid : ∀ s : List Char, ∀ d, d ∈ solid s ↔ d ∈ s ∧ d ≠ '_' := by simp [solid, isUnderscore]
  have hmem : c ∈ recased f name ↔ c ∈ solid (recased f name) := by simp [hsolid, hc]
  rw [hmem, solid_recased hf, List.mem_map]
  simp [hsolid, and_assoc]

end Recased

/-! ## ASCII letters, digits and underscores -/

/-- a name made of ASCII letters, ASCII digits and underscores -/
def Plain (name : List Char) : Prop := ∀ c ∈ name, c.isAlphanum = true ∨ c = '_'

instance (name : List Char) : Decidable (Plain name) :=
  decidable_of_iff (name.all fun c => c.isAlphanum || c == '_') (by simp [Plain])

theorem isAscii_of_plain {c : Char} (h : c.isAlphanum = true ∨ c = '_') : isAscii c = true := by
  rcases h with h | rfl
  · have hlt : c.toNat < 128 := by
      simp only [Char.isAlphanum, Char.isAlpha, Bool.or_eq_true] at h
      rcases h with (h | h) | h
      · exact lt_of_le_of_lt (isUpper_iff_toNat.1 h).2 (by decide)
      · exact lt_of_le_of_lt (isLower_iff_toNat.1 h).2 (by decide)
      · exact lt_of_le_of_lt (Char.isDigit_iff_toNat.1 h).2 (by decide)
    simpa [isAscii] using hlt
  · decide

theorem isUpper_of_isAscii {c : Char} (h : isAscii c = true) : isUpper c = c.isUpper := if_pos h

theorem isLower_of_isAscii {c : Char} (h : isAscii c = true) : isLower c = c.isLower := if_pos h

theorem toUpper_of_isAscii {s : List Char} (h : ∀ c ∈ s, isAscii c = true) : toUpper s = s.map Char.toUpper := by
  induction s with
  | nil => rfl
  | cons c rest ih =>
    obtain ⟨hc, hrest⟩ := List.forall_mem_cons.1 h
    rw [toUpper, List.flatMap_cons, upperChar, if_pos hc, ← toUpper, ih hrest]
    rfl

theorem lowerAfter_of_isAscii (before : List Char) {s : List Char} (h : ∀ c ∈ s, isAscii c = true) :
    lowerAfter before s = s.map Char.toLower := by
  induction s generalizing before with
  | nil => rfl
  | cons c rest ih =>
    obtain ⟨hc, hrest⟩ := List.forall_mem_cons.1 h
    have hsigma : ¬ (c == 'Σ') = true := by
      intro heq
      obtain rfl : c = 'Σ' := by simpa using heq
      exact absurd hc (by decide)
    rw [lowerAfter, if_neg hsigma, lowerChar, if_pos hc, ih _ hrest]
    rfl

section Plain

variable {name : List Char} (h : Plain name)

include h

theorem isAscii_of_mem_words : ∀ word ∈ words name, ∀ c ∈ word, isAscii c = true := by
  intro word hword c hc
  have hmem : c ∈ solid name := flatten_words name ▸ List.mem_flatten_of_mem hword hc
  exact isAscii_of_plain (h c (List.mem_of_mem_filter hmem))

theorem upperSnake_eq : upperSnake name = recased Char.toUpper name := by
  have hwords := List.map_congr_left fun word hword => toUpper_of_isAscii (isAscii_of_mem_words h word hword)
  rw [upperSnake, hwords, recased]

theorem lowerSnake_eq : lowerSnake name = recased Char.toLower name := by
  have hwords := List.map_congr_left fun word hword => lowerAfter_of_isAscii [] (isAscii_of_mem_words h word hword)
  rw [recased, ← hwords]
  rfl

theorem plain_recased {f : Char → Char} (hf : Recasing f) : Plain (recased f name) := by
  intro c hc
  by_cases hne : c = '_'
  · exact Or.inr hne
  · obtain ⟨d, hd, hne', rfl⟩ := (mem_recased_iff hf hne).1 hc
    exact Or.inl (hf.isAlphanum ((h d hd).resolve_right hne'))

theorem plain_upperSnake : Plain (upperSnake name) := by
  rw [upperSnake_eq h]
  exact plain_recased h recasing_toUpper

theorem plain_lowerSnake : Plain (lowerSnake name) := by
  rw [lowerSnake_eq h]
  exact plain_recased h recasing_toLower

/-- **The form in capitals** of a name with a letter is in capitals. -/
theorem style_upperSnake (hletter : ∃ c ∈ name, c.isAlpha = true) : style (upperSnake name) = .upperSnake := by
  have hplain := plain_upperSnake h
  rw [upperSnake_eq h] at hplain ⊢
  refine style_eq_upperSnake_iff.2 ⟨?_, fun c hc => ?_⟩
  · obtain ⟨d, hd, halpha⟩ := hletter
    have hne : d ≠ '_' := by
      rintro rfl
      cases halpha
    have hne' : d.toUpper ≠ '_' := by
      have hkept := recasing_toUpper.isUnderscore d
      simpa [isUnderscore, hne] using hkept
    have hmem := (mem_recased_iff recasing_toUpper hne').2 ⟨d, hd, hne, rfl⟩
    refine ⟨d.toUpper, hmem, ?_⟩
    rw [isUpper_of_isAscii (isAscii_of_plain (hplain _ hmem)), Char.isUpper_toUpper_eq_isAlpha, halpha]
  · rw [isLower_of_isAscii (isAscii_of_plain (hplain c hc))]
    by_cases hne : c = '_'
    · rw [hne]
      rfl
    · obtain ⟨d, -, -, rfl⟩ := (mem_recased_iff recasing_toUpper hne).1 hc
      exact Char.isLower_toUpper_eq_false d

/-- **The form in small letters** of a name is snake case. -/
theorem style_lowerSnake : style (lowerSnake name) = .lowerSnake := by
  have hplain := plain_lowerSnake h
  rw [lowerSnake_eq h] at hplain ⊢
  refine style_eq_lowerSnake_iff.2 fun c hc => ?_
  rw [isUpper_of_isAscii (isAscii_of_plain (hplain c hc))]
  by_cases hne : c = '_'
  · rw [hne]
    rfl
  · obtain ⟨d, -, -, rfl⟩ := (mem_recased_iff recasing_toLower hne).1 hc
    exact Char.isUpper_toLower_eq_false d

end Plain

end VixStyle.Name
