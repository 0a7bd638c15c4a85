/-
The words of a name, and what its snake-case forms keep.

A name is cut at its underscores and at the boundaries between two letters, and nowhere else (`CutInto`). Main statement,
`words_told`, on names of ASCII letters, digits and underscores: the words of a name are those that it is cut into, a
snake-case form moves underscores and changes the case of letters and nothing else (`Converted`), and the form in small
letters has the words of the name in small letters, so it can be converted again.

- `words_iff_cutInto`: of every name, the words are the one way to cut it.
- `words_recased`: words without capitals are found again between underscores.
-/
import VixStyle.Proofs.Name.Snake

namespace VixStyle.Name

open Text

/-! ## Cutting a name -/

/-- two letters between which a word ends, with what stands behind them: a capital behind a small letter or a digit, or a
capital behind a capital and before a small letter -/
def Boundary (a b : Char) (after : List Char) : Prop :=
  ((a.isLower = true ∨ a.isDigit = true) ∧ b.isUpper = true) ∨
    (a.isUpper = true ∧ b.isUpper = true ∧ ∃ c rest, after = c :: rest ∧ c.isLower = true)

/-- a word at the start of a name, with the rest of the name -/
structure WordBefore (word rest : List Char) : Prop where
  nonempty : word ≠ []
  solid : '_' ∉ word
  /-- no boundary inside -/
  whole : ∀ u a b v, word = u ++ a :: b :: v → ¬ Boundary a b (v ++ rest)
  /-- the name ends with the word, or an underscore or a boundary follows -/
  ended : ∀ u a b after, word = u ++ [a] → rest = b :: after → b = '_' ∨ Boundary a b after

/-- a name cut at its underscores and at the boundaries in it, and nowhere else -/
inductive CutInto : List Char → List (List Char) → Prop
  | nil : CutInto [] []
  | underscore {rest : List Char} {ws : List (List Char)} (h : CutInto rest ws) : CutInto ('_' :: rest) ws
  | word {word rest : List Char} {ws : List (List Char)} (hword : WordBefore word rest) (h : CutInto rest ws) :
    CutInto (word ++ rest) (word :: ws)

theorem not_isUnderscore_iff {c : Char} : ¬ isUnderscore c = true ↔ c ≠ '_' := by simp [isUnderscore]

theorem Boundary.isUpper {a b : Char} {after : List Char} (h : Boundary a b after) : b.isUpper = true := by
  rcases h with ⟨-, hb⟩ | ⟨-, hb, -⟩ <;> exact hb

theorem Boundary.ne_underscore {a b : Char} {after : List Char} (h : Boundary a b after) : b ≠ '_' := by
  rintro rfl
  exact absurd h.isUpper (by decide)

/-- a word without its first letter -/
theorem WordBefore.tail {a b : Char} {v rest : List Char} (h : WordBefore (a :: b :: v) rest) : WordBefore (b :: v) rest where
  nonempty := List.cons_ne_nil b v
  solid := fun hmem => h.solid (List.mem_cons_of_mem a hmem)
  whole := fun u c d w hw => h.whole (a :: u) c d w (congrArg (a :: ·) hw)
  ended := fun u c d after hw => h.ended (a :: u) c d after (congrArg (a :: ·) hw)

/-! ## The words that are found -/

/-- an ASCII letter or digit needs no second look -/
theorem isAscii_and_of_isAlphanum {c : Char} {p : Char → Bool} (hp : p c = true → c.isAlphanum = true) :
    (isAscii c && p c) = p c := by
  cases h : p c with
  | false => rw [Bool.and_false]
  | true => rw [Bool.and_true, isAscii_of_plain (Or.inl (hp h))]

theorem isSmall_eq (c : Char) : isSmall c = c.isLower :=
  isAscii_and_of_isAlphanum (p := Char.isLower) fun h => by simp [Char.isAlphanum, Char.isAlpha, h]

theorem isCapital_eq (c : Char) : isCapital c = c.isUpper :=
  isAscii_and_of_isAlphanum (p := Char.isUpper) fun h => by simp [Char.isAlphanum, Char.isAlpha, h]

theorem isSmallOrDigit_eq (c : Char) : isSmallOrDigit c = (c.isLower || c.isDigit) :=
  isAscii_and_of_isAlphanum (p := fun c => c.isLower || c.isDigit) fun h => by
    rcases Bool.or_eq_true_iff.1 h with h | h <;> simp [Char.isAlphanum, Char.isAlpha, h]

/-- words are cut at the boundaries -/
theorem isCut_iff {a b : Char} {after : List Char} : isCut a b after.head? = true ↔ Boundary a b after := by
  unfold isCut Boundary
  simp only [isSmallOrDigit_eq, isCapital_eq, Bool.or_eq_true, Bool.and_eq_true, Option.any_eq_true, isSmall_eq, and_assoc]
  refine or_congr_right (and_congr_right fun _ => and_congr_right fun _ => ?_)
  cases after with
  | nil => simp
  | cons c rest => simp

theorem words_of_underscore (rest : List Char) : words ('_' :: rest) = words rest := by
  rw [words, chunks_of_underscore rfl, words]

section Letter

variable {a : Char} (ha : a ≠ '_')

include ha

theorem words_singleton : words [a] = [[a]] := by
  rw [words, chunks_of_not_underscore (not_isUnderscore_iff.2 ha)]
  rfl

theorem words_before_underscore (rest : List Char) : words (a :: '_' :: rest) = [a] :: words rest := by
  rw [words, chunks_before_underscore (not_isUnderscore_iff.2 ha) rfl, List.flatMap_cons, ← words, words_of_underscore]
  rfl

/-- the first word starts with the first letter -/
theorem exists_words (rest : List Char) : ∃ word more, words (a :: rest) = (a :: word) :: more := by
  obtain ⟨chunk, chunks', hchunks⟩ := exists_chunks (not_isUnderscore_iff.2 ha) rest
  obtain ⟨word, more, hhumps⟩ := exists_humps a chunk
  rw [words, hchunks, List.flatMap_cons, hhumps]
  exact ⟨word, _, rfl⟩

/-- what follows a letter in its run is what follows it in the name, up to an underscore -/
theorem any_head?_chunk {rest chunk : List Char} {more : List (List Char)} (h : chunks (a :: rest) = (a :: chunk) :: more) :
    chunk.head?.any isSmall = rest.head?.any isSmall := by
  cases rest with
  | nil =>
    rw [chunks_of_not_underscore (not_isUnderscore_iff.2 ha)] at h
    obtain ⟨rfl⟩ := h
    rfl
  | cons d r =>
    by_cases hd : d = '_'
    · subst hd
      rw [chunks_before_underscore (not_isUnderscore_iff.2 ha) rfl] at h
      obtain ⟨hchunk, -⟩ := List.cons.inj h
      rw [← (List.cons.inj hchunk).2]
      exact (by decide : isSmall '_' = false).symm
    · obtain ⟨chunk', more', hchunk'⟩ := exists_chunks (not_isUnderscore_iff.2 hd) r
      rw [chunks_cons_cons (not_isUnderscore_iff.2 ha) (not_isUnderscore_iff.2 hd) hchunk'] at h
      obtain ⟨hchunk, -⟩ := List.cons.inj h
      rw [← (List.cons.inj hchunk).2]
      rfl

/-- **One letter before a run**: it is a word of its own at a boundary, and else it starts the first word. -/
theorem words_cons_cons {b : Char} (hb : b ≠ '_') {r word : List Char} {more : List (List Char)}
    (h : words (b :: r) = word :: more) :
    words (a :: b :: r) = if isCut a b r.head? then [a] :: word :: more else (a :: word) :: more := by
  obtain ⟨chunk, others, hchunks⟩ := exists_chunks (not_isUnderscore_iff.2 hb) r
  obtain ⟨first, parts, hhumps⟩ := exists_humps b chunk
  rw [words, hchunks, List.flatMap_cons, hhumps, List.cons_append] at h
  obtain ⟨rfl, rfl⟩ := List.cons.inj h
  have hcut : isCut a b chunk.head? = isCut a b r.head? := by
    unfold isCut
    rw [any_head?_chunk hb hchunks]
  rw [words, chunks_cons_cons (not_isUnderscore_iff.2 ha) (not_isUnderscore_iff.2 hb) hchunks, List.flatMap_cons,
    humps_cons_cons hhumps, hcut]
  split <;> rfl

end Letter

/-- a word at the start of a name is its first word, by induction along the word -/
theorem words_append {word rest : List Char} (h : WordBefore word rest) : words (word ++ rest) = word :: words rest := by
  induction word with
  | nil => exact absurd rfl h.nonempty
  | cons a w ih =>
    have ha : a ≠ '_' := fun heq => h.solid (heq ▸ List.mem_cons_self)
    cases w with
    | nil =>
      cases rest with
      | nil => exact words_singleton ha
      | cons b after =>
        rcases h.ended [] a b after rfl rfl with rfl | hboundary
        · rw [words_of_underscore]
          exact words_before_underscore ha after
        · obtain ⟨word, more, hwords⟩ := exists_words hboundary.ne_underscore after
          rw [List.singleton_append, words_cons_cons ha hboundary.ne_underscore hwords, if_pos (isCut_iff.2 hboundary), hwords]
    | cons b v =>
      have hb : b ≠ '_' := fun heq => h.solid (heq ▸ List.mem_cons_of_mem a List.mem_cons_self)
      have hwhole : ¬ isCut a b (v ++ rest).head? = true := fun hcut => h.whole [] a b v rfl (isCut_iff.1 hcut)
      rw [List.cons_append, List.cons_append, words_cons_cons (r := v ++ rest) ha hb (ih h.tail),
        if_neg hwhole]

/-- **Only one way to cut a name**: into its words, by induction on the cuts. -/
theorem words_of_cutInto {name : List Char} {ws : List (List Char)} (h : CutInto name ws) : words name = ws := by
  induction h with
  | nil => rfl
  | underscore _ ih => rw [words_of_underscore, ih]
  | word hword _ ih => rw [words_append hword, ih]

/-- the first word of a name that starts with no underscore -/
theorem CutInto.exists_word {b : Char} {r : List Char} {ws : List (List Char)} (hb : b ≠ '_') (h : CutInto (b :: r) ws) :
    ∃ v rest more, ws = (b :: v) :: more ∧ r = v ++ rest ∧ WordBefore (b :: v) rest ∧ CutInto rest more := by
  generalize hs : b :: r = s at h
  cases h with
  | nil => cases hs
  | underscore _ => exact absurd (List.cons.inj hs).1 hb
  | @word word rest ws hword h =>
    obtain ⟨c, v, rfl⟩ := List.exists_cons_of_ne_nil hword.nonempty
    obtain ⟨rfl, rfl⟩ := List.cons.inj hs
    exact ⟨v, rest, ws, rfl, rfl, hword, h⟩

/-- a letter is a word before the end, an underscore or a boundary -/
theorem wordBefore_singleton {a : Char} (ha : a ≠ '_') {rest : List Char}
    (hrest : ∀ b after, rest = b :: after → b = '_' ∨ Boundary a b after) : WordBefore [a] rest where
  nonempty := List.cons_ne_nil a []
  solid := fun hmem => ha (List.mem_singleton.1 hmem).symm
  whole := fun u c d v hw => by
    have hlength := congrArg List.length hw
    simp only [List.length_append, List.length_cons, List.length_nil] at hlength
    omega
  ended := fun u c b after hw => by
    obtain rfl : a = c := by simpa using congrArg List.getLast? hw
    exact hrest b after

/-- a letter that is no boundary makes the word behind it longer -/
theorem WordBefore.cons {a b : Char} (ha : a ≠ '_') {v rest : List Char} (h : WordBefore (b :: v) rest)
    (hab : ¬ Boundary a b (v ++ rest)) : WordBefore (a :: b :: v) rest where
  nonempty := List.cons_ne_nil a _
  solid := fun hmem => (List.mem_cons.1 hmem).elim (fun heq => ha heq.symm) h.solid
  whole := fun u c d w hw => by
    cases u with
    | nil =>
      simp only [List.nil_append, List.cons.injEq] at hw
      obtain ⟨rfl, rfl, rfl⟩ := hw
      exact hab
    | cons e u => exact h.whole u c d w (List.cons.inj hw).2
  ended := fun u c d after hw => by
    cases u with
    | nil => cases (List.cons.inj hw).2
    | cons e u => exact h.ended u c d after (List.cons.inj hw).2

/-- **Every name can be cut**, by induction along the name: a letter is put before the cuts of the rest. -/
theorem exists_cutInto (name : List Char) : ∃ ws, CutInto name ws := by
  induction name with
  | nil => exact ⟨[], .nil⟩
  | cons a rest ih =>
    obtain ⟨ws, hws⟩ := ih
    by_cases ha : a = '_'
    · exact ⟨ws, ha ▸ .underscore hws⟩
    cases rest with
    | nil => exact ⟨[a] :: ws, .word (wordBefore_singleton ha fun b after h => by cases h) hws⟩
    | cons b r =>
      by_cases hb : b = '_' ∨ Boundary a b r
      · refine ⟨[a] :: ws, .word (wordBefore_singleton ha ?_) hws⟩
        rintro c after heq
        obtain ⟨rfl, rfl⟩ := List.cons.inj heq
        exact hb
      · obtain ⟨hunderscore, hboundary⟩ := not_or.1 hb
        obtain ⟨v, rest, more, rfl, rfl, hword, hmore⟩ := hws.exists_word hunderscore
        exact ⟨(a :: b :: v) :: more, .word (hword.cons ha hboundary) hmore⟩

/-- **The words of a name** are those that it is cut into. -/
theorem words_iff_cutInto {name : List Char} {ws : List (List Char)} : words name = ws ↔ CutInto name ws := by
  refine ⟨?_, words_of_cutInto⟩
  rintro rfl
  obtain ⟨ws, hws⟩ := exists_cutInto name
  rwa [words_of_cutInto hws]

/-! ## Words between underscores -/

/-- a word that is not empty and holds no underscore -/
def Clean (word : List Char) : Prop := word ≠ [] ∧ '_' ∉ word

theorem clean_of_mem_words {name : List Char} : ∀ word ∈ words name, Clean word := by
  intro word hword
  refine ⟨fun hnil => nil_notMem_words name (hnil ▸ hword), fun hmem => ?_⟩
  have hsolid : '_' ∈ solid name := flatten_words name ▸ List.mem_flatten_of_mem hword hmem
  simp [solid, isUnderscore] at hsolid

theorem clean_map {f : Char → Char} (hf : Recasing f) {word : List Char} (h : Clean word) : Clean (word.map f) := by
  refine ⟨fun hnil => h.1 (List.map_eq_nil_iff.1 hnil), fun hmem => ?_⟩
  obtain ⟨c, hc, heq⟩ := List.mem_map.1 hmem
  have hkept := hf.isUnderscore c
  rw [heq] at hkept
  have hne : ¬ isUnderscore c = true := not_isUnderscore_iff.2 fun heq => h.2 (heq ▸ hc)
  exact hne hkept.symm

theorem joinWords_cons {word : List Char} {more : List (List Char)} (h : more ≠ []) :
    joinWords (word :: more) = word ++ '_' :: joinWords more := by
  cases more with
  | nil => exact absurd rfl h
  | cons _ _ => rfl

/-- neighbours of which one is no underscore -/
def Apart (a b : Char) : Prop := ¬ (a = '_' ∧ b = '_')

section Joined

variable {ws : List (List Char)} (hws : ∀ word ∈ ws, Clean word)

include hws

/-- no underscore stands first in joined words -/
theorem joinWords_head : ∀ c ∈ (joinWords ws).head?, c ≠ '_' := by
  intro c hc
  rw [head?_joinWords fun hnil => (hws [] hnil).1 rfl] at hc
  obtain ⟨word, hword, hmem⟩ := List.mem_flatten.1 (List.mem_of_mem_head? hc)
  rintro rfl
  exact (hws word hword).2 hmem

/-- joined words hold something, if there are any -/
theorem joinWords_ne_nil (hne : ws ≠ []) : joinWords ws ≠ [] := by
  intro hnil
  have hhead := head?_joinWords fun hmem => (hws [] hmem).1 rfl
  obtain ⟨word, more, rfl⟩ := List.exists_cons_of_ne_nil hne
  rw [hnil, List.head?_nil, eq_comm, List.head?_eq_none_iff, List.flatten_cons, List.append_eq_nil_iff] at hhead
  exact (hws word List.mem_cons_self).1 hhead.1

/-- no underscore stands last in joined words -/
theorem joinWords_getLast : ∀ c ∈ (joinWords ws).getLast?, c ≠ '_' := by
  induction ws using joinWords.induct with
  | case1 => simp [joinWords]
  | case2 word =>
    rintro c hc rfl
    exact (hws word List.mem_cons_self).2 (List.mem_of_mem_getLast? hc)
  | case3 word more hmore ih =>
    obtain ⟨-, hmore'⟩ := List.forall_mem_cons.1 hws
    have hlast : (joinWords (word :: more)).getLast? = (joinWords more).getLast? := by
      rw [joinWords_cons hmore, List.getLast?_append_cons, List.getLast?_cons_of_ne_nil (joinWords_ne_nil hmore' hmore)]
    rw [hlast]
    exact ih hmore'

/-- of two neighbours in joined words, one is no underscore -/
theorem joinWords_isChain : (joinWords ws).IsChain Apart := by
  have hword : ∀ word ∈ ws, word.IsChain Apart := by
    intro word hmem
    have hpairwise : word.Pairwise Apart :=
      List.pairwise_of_forall_mem_list fun a ha b _ hboth => (hws word hmem).2 (hboth.1 ▸ ha)
    exact hpairwise.isChain
  induction ws using joinWords.induct with
  | case1 => exact .nil
  | case2 word => exact hword word List.mem_cons_self
  | case3 word more hmore ih =>
    obtain ⟨hfirst, hmore'⟩ := List.forall_mem_cons.1 hws
    rw [joinWords_cons hmore, List.isChain_append, List.isChain_cons]
    refine ⟨hword word List.mem_cons_self, ⟨?behind, ?more⟩, ?before⟩
    case behind => exact fun c hc hboth => joinWords_head hmore' c hc hboth.2
    case more => exact ih hmore' fun w hw => hword w (List.mem_cons_of_mem word hw)
    case before => exact fun c hc _ _ hboth => hfirst.2 (hboth.1 ▸ List.mem_of_mem_getLast? hc)

end Joined

/-! ## Conversions -/

/-- a snake-case form of a name, for the change of case that it is made with -/
structure Converted (case : List Char → List Char) (name converted : List Char) : Prop where
  /-- the underscores that start the name stay -/
  lead : lead converted = lead name
  /-- behind them, no two underscores stand together and none stands last -/
  undoubled : ¬ ['_', '_'] <:+: body converted
  untrailed : (body converted).getLast? ≠ some '_'
  /-- without underscores, only the case of letters is changed -/
  solid : solid converted = case (solid name)

section Recased

variable {f : Char → Char} (hf : Recasing f) (name : List Char)

include hf

theorem clean_recased : ∀ word ∈ (words name).map (List.map f), Clean word := by
  intro word hword
  obtain ⟨w, hw, rfl⟩ := List.mem_map.1 hword
  exact clean_map hf (clean_of_mem_words w hw)

/-- the underscores in front of joined words are those that were put there -/
theorem lead_body_recased :
    lead (recased f name) = lead name ∧ body (recased f name) = joinWords ((words name).map (List.map f)) := by
  have hlead : ∀ c ∈ lead name, isUnderscore c = true := fun _ => List.mem_takeWhile_imp
  have hhead := joinWords_head (clean_recased hf name)
  rw [recased, lead, body, List.takeWhile_append_of_pos hlead, List.dropWhile_append_of_pos hlead]
  generalize joinWords ((words name).map (List.map f)) = joined at hhead
  cases joined with
  | nil => exact ⟨List.append_nil _, rfl⟩
  | cons c rest =>
    have hc : ¬ isUnderscore c = true := not_isUnderscore_iff.2 (hhead c rfl)
    rw [List.takeWhile_cons_of_neg hc, List.dropWhile_cons_of_neg hc]
    exact ⟨List.append_nil _, rfl⟩

/-- **A snake-case form** moves underscores and changes letters one by one. -/
theorem converted_recased {case : List Char → List Char} (hcase : case (solid name) = (solid name).map f) :
    Converted case name (recased f name) := by
  obtain ⟨hlead, hbody⟩ := lead_body_recased hf name
  have hclean := clean_recased hf name
  refine { lead := hlead, undoubled := ?undoubled, untrailed := ?untrailed, solid := ?solid }
  case undoubled =>
    rw [hbody]
    intro hdoubled
    have hapart := List.IsChain.infix (joinWords_isChain hclean) hdoubled
    exact List.isChain_pair.1 hapart ⟨rfl, rfl⟩
  case untrailed =>
    rw [hbody]
    exact fun hlast => joinWords_getLast hclean '_' hlast rfl
  case solid => rw [solid_recased hf, hcase]

end Recased

/-- a word without capitals, before an underscore or the end -/
theorem wordBefore_of_small {word rest : List Char} (hword : Clean word) (hsmall : ∀ c ∈ word, c.isUpper = false)
    (hrest : ∀ c ∈ rest.head?, c = '_') : WordBefore word rest where
  nonempty := hword.1
  solid := hword.2
  whole := fun u a b v hw hboundary => by
    have hb := hsmall b (by simp [hw])
    rw [hboundary.isUpper] at hb
    cases hb
  ended := fun u a b after _ hafter => Or.inl (hrest b (by simp [hafter]))

/-- **Joined words without capitals** are found again. -/
theorem cutInto_joinWords {ws : List (List Char)} (hws : ∀ word ∈ ws, Clean word ∧ ∀ c ∈ word, c.isUpper = false) :
    CutInto (joinWords ws) ws := by
  induction ws using joinWords.induct with
  | case1 => exact .nil
  | case2 word =>
    obtain ⟨hclean, hsmall⟩ := hws word List.mem_cons_self
    have hword : CutInto (word ++ []) [word] := .word (wordBefore_of_small hclean hsmall (by simp)) .nil
    rwa [List.append_nil] at hword
  | case3 word more hmore ih =>
    obtain ⟨⟨hclean, hsmall⟩, hmore'⟩ := List.forall_mem_cons.1 hws
    rw [joinWords_cons hmore]
    exact .word (wordBefore_of_small hclean hsmall (by simp)) (.underscore (ih hmore'))

/-- underscores in front of a name are no words -/
theorem CutInto.behind_underscores {us s : List Char} {ws : List (List Char)} (hus : ∀ c ∈ us, isUnderscore c = true)
    (h : CutInto s ws) : CutInto (us ++ s) ws := by
  induction us with
  | nil => exact h
  | cons c us ih =>
    obtain ⟨hc, hrest⟩ := List.forall_mem_cons.1 hus
    obtain rfl : c = '_' := by simpa [isUnderscore] using hc
    exact .underscore (ih hrest)

/-- **The words of a form in small letters** are those of the name in small letters. -/
theorem words_recased_toLower (name : List Char) :
    words (recased Char.toLower name) = (words name).map (List.map Char.toLower) := by
  refine words_of_cutInto (CutInto.behind_underscores (fun _ => List.mem_takeWhile_imp) (cutInto_joinWords ?_))
  intro word hword
  refine ⟨clean_recased recasing_toLower name word hword, fun c hc => ?_⟩
  obtain ⟨w, -, rfl⟩ := List.mem_map.1 hword
  obtain ⟨d, -, rfl⟩ := List.mem_map.1 hc
  exact Char.isUpper_toLower_eq_false d

/-- a form of the form in small letters, in a case that does not depend on the case before -/
theorem recased_recased_toLower {f : Char → Char} (hf : ∀ c, f c.toLower = f c) (name : List Char) :
    recased f (recased Char.toLower name) = recased f name := by
  have hcomp : f ∘ Char.toLower = f := funext hf
  calc recased f (recased Char.toLower name)
      = lead (recased Char.toLower name) ++ joinWords ((words (recased Char.toLower name)).map (List.map f)) := rfl
    _ = lead name ++ joinWords (((words name).map (List.map Char.toLower)).map (List.map f)) := by
        rw [(lead_body_recased recasing_toLower name).1, words_recased_toLower]
    _ = lead name ++ joinWords ((words name).map (List.map f)) := by rw [List.map_map, List.map_comp_map, hcomp]

/-! ## Main result -/

/--
**Name conversion moves case and underscores only**, for every name of ASCII letters, digits and underscores.
-/
theorem words_told {name : List Char} (h : Plain name) :
    (∀ ws, words name = ws ↔ CutInto name ws) ∧ [] ∉ words name ∧ (words name).flatten = solid name ∧
      Converted toLower name (lowerSnake name) ∧ Converted toUpper name (upperSnake name) ∧
        words (lowerSnake name) = (words name).map toLower ∧ lowerSnake (lowerSnake name) = lowerSnake name ∧
          upperSnake (lowerSnake name) = upperSnake name := by
  have hascii : ∀ c ∈ solid name, isAscii c = true := fun c hc => isAscii_of_plain (h c (List.mem_of_mem_filter hc))
  have hplain := plain_lowerSnake h
  refine ⟨fun ws => words_iff_cutInto, nil_notMem_words name, flatten_words name, ?lower, ?upper, ?words, ?idem, ?again⟩
  case lower =>
    rw [lowerSnake_eq h]
    exact converted_recased recasing_toLower name (lowerAfter_of_isAscii [] hascii)
  case upper =>
    rw [upperSnake_eq h]
    exact converted_recased recasing_toUpper name (toUpper_of_isAscii hascii)
  case words =>
    rw [lowerSnake_eq h, words_recased_toLower]
    exact List.map_congr_left fun word hword => (lowerAfter_of_isAscii [] (isAscii_of_mem_words h word hword)).symm
  case idem =>
    rw [lowerSnake_eq hplain, lowerSnake_eq h]
    exact recased_recased_toLower Char.toLower_toLower_eq_toLower name
  case again =>
    rw [upperSnake_eq hplain, upperSnake_eq h, lowerSnake_eq h]
    exact recased_recased_toLower Char.toUpper_toLower_eq_toUpper name

/-- acronyms, digits and underscores -/
theorem words_told_acronym :
    Plain "__HTTPServer2Go__x1".toList ∧
      CutInto "__HTTPServer2Go__x1".toList ["HTTP".toList, "Server2".toList, "Go".toList, "x1".toList] ∧
      lowerSnake "__HTTPServer2Go__x1".toList = "__http_server2_go_x1".toList ∧
      Converted toLower "__HTTPServer2Go__x1".toList (lowerSnake "__HTTPServer2Go__x1".toList) := by
  have hplain : Plain "__HTTPServer2Go__x1".toList := by decide +kernel
  obtain ⟨hcut, -, -, hconverted, -⟩ := words_told hplain
  exact ⟨hplain, (hcut _).1 (by decide +kernel), by decide +kernel, hconverted⟩

end VixStyle.Name
