/-
The block that an `end` closes: on its line by counting, and in the walk by the stack.

`BlockPart.matchingEnd?` counts opens and closes from one token of a line on; the walk has one stack for the whole source,
with frames of earlier lines and of cases on it. Main statement, `matchers_agree`: the two agree on every opener of every
line. The frame that the walk pushes at the opener is taken away at the `end` that the count finds, and it is still there
after the line if the count finds none. From the opener to its `end` the opens and closes are balanced, and no shorter part
of them is.

`Walk.stackAfter` is the stack in the middle of a line. In a source that was read a frame is known by its place (`Holds`).
- `nest_of_closing`, `mem_nest_of_open`: what lies on a frame is blocks of the same line, so the count is the height over it.
- `holds_iff`: the stacks of a line that hold the frame of an opener.
- `tight_of_closing`: the row from an opener to its `end`.
-/
import VixStyle.Proofs.Indentation.Sites

namespace VixStyle

/-- opens and closes that match without a rest -/
def Mark.Balanced (ms : List Mark) : Prop := Mark.lifo [] ms = ([], [])

/-- the opens and closes of a line from the token `i` to the token `j` -/
def Line.marksBetween (l : Line) (i j : Nat) : List Mark :=
  (((l.code.zip (blockParts l.code)).drop i).take (j + 1 - i)).filterMap Mark.of?

namespace Rule.Indentation

/-! ## The stack in the middle of a line -/

/-- the stack once the first token of a line has been seen -/
def afterFirst (p : Place) (depth : Nat) (first : Token) (rest : List Token) : List Frame :=
  match caseFrame? p depth first with
  | some f => f :: p.stack
  | none => if first.lexeme = .keyword .end_ then p.stack
      else (nestToken depth first (firstPart first rest) p.stack).1

/-- the stack once some tokens of the code of a line have been seen -/
def Walk.stackAfter (w : Walk) (l : Line) (count : Nat) : List Frame :=
  match l.code, count with
  | first :: rest, count + 1 =>
    (nest (w.depthOf l first) (afterFirst (w.placeOf first) (w.depthOf l first) first rest)
      ((laterParts first rest).take count)).1
  | _, _ => w.stack

/-- the frame that was opened at a token -/
def Frame.IsOf (f : Frame) (t : Token) : Prop := f.line = t.line ∧ f.column = t.column

/-- a stack has the frame of a token -/
def Holds (stack : List Frame) (t : Token) : Prop := ∃ f ∈ stack, f.IsOf t

theorem nest_append_fst (depth : Nat) (stack : List Frame) (parts more : List (Token × BlockPart)) :
    (nest depth stack (parts ++ more)).1 = (nest depth (nest depth stack parts).1 more).1 := by
  induction parts generalizing stack with
  | nil => rfl
  | cons p parts ih =>
    obtain ⟨t, part⟩ := p
    simp only [List.cons_append, nest, ih]

theorem nested_fst (p : Place) (depth : Nat) (first : Token) (rest : List Token) :
    (nested p depth first rest).1 = (nest depth (afterFirst p depth first rest) (laterParts first rest)).1 := by
  unfold nested afterFirst
  cases caseFrame? p depth first with
  | some f => rfl
  | none =>
    dsimp only
    split_ifs <;> rfl

namespace Walk

variable (w : Walk) (l : Line)

/-- **The stack after all tokens** is the stack after the line. -/
theorem stackAfter_length : w.stackAfter l l.code.length = (w.step l).1.stack := by
  unfold stackAfter step
  cases hcode : l.code with
  | nil => rfl
  | cons first rest =>
    have hlength : (laterParts first rest).length ≤ rest.length := by simp [laterParts]
    simp only [List.length_cons, stepCode_eq, nested_fst, List.take_of_length_le hlength]

theorem stackAfter_add {first : Token} {rest : List Token} (hcode : l.code = first :: rest) (count more : Nat) :
    w.stackAfter l (count + 1 + more) =
      (nest (w.depthOf l first) (w.stackAfter l (count + 1)) (((laterParts first rest).drop count).take more)).1 := by
  have hsum : count + 1 + more = count + more + 1 := by omega
  rw [hsum]
  simp only [stackAfter, hcode]
  rw [List.take_add, nest_append_fst]

end Walk

/-! ## Where frames come from -/

theorem dropCase_suffix (stack : List Frame) : dropCase stack <:+ stack := by
  cases stack with
  | nil => exact List.suffix_refl _
  | cons f more =>
    simp only [dropCase]
    split_ifs
    · exact List.suffix_cons f more
    · exact List.suffix_refl _

theorem closeBlock_suffix (stack : List Frame) : (closeBlock stack).2 <:+ stack := by
  have hdrop := dropCase_suffix stack
  unfold closeBlock
  cases hstack : dropCase stack with
  | nil => exact List.nil_suffix
  | cons f outer =>
    rw [hstack] at hdrop
    exact (List.suffix_cons f outer).trans hdrop

/-- finding the place of a line takes frames away and adds none -/
theorem place_suffix (stack : List Frame) (first : Lexeme) : (place stack first).stack <:+ stack := by
  by_cases hend : first = .keyword .end_
  · rw [hend, place_of_end, closing_stack]
    exact closeBlock_suffix stack
  by_cases hcase : ∃ word, first = .keyword word ∧ word.isCase = true
  · obtain ⟨word, rfl, hword⟩ := hcase
    rw [place_of_case hword, inside_stack]
    exact dropCase_suffix stack
  · rw [(place_of_other hend (fun word hword => Bool.eq_false_iff.2 fun hc => hcase ⟨word, hword, hc⟩) stack).1]

/-- a frame that is there after a token was there before or is the one of the token -/
theorem mem_nestToken {depth : Nat} {t : Token} {part : BlockPart} {stack : List Frame} {f : Frame}
    (h : f ∈ (nestToken depth t part stack).1) : f ∈ stack ∨ f.IsOf t := by
  cases part with
  | opens word =>
    rcases List.mem_cons.1 h with rfl | h
    · exact Or.inr ⟨rfl, rfl⟩
    · exact Or.inl h
  | closes =>
    rw [nestToken_closes] at h
    exact Or.inl ((closeBlock_suffix stack).subset h)
  | inert => exact Or.inl h

theorem mem_nest {depth : Nat} {parts : List (Token × BlockPart)} {stack : List Frame} {f : Frame}
    (h : f ∈ (nest depth stack parts).1) : f ∈ stack ∨ ∃ t ∈ parts.map Prod.fst, f.IsOf t := by
  induction parts generalizing stack with
  | nil => exact Or.inl h
  | cons p parts ih =>
    obtain ⟨t, part⟩ := p
    rcases ih h with hbefore | ⟨u, hu, hf⟩
    · rcases mem_nestToken hbefore with hstack | hf
      · exact Or.inl hstack
      · exact Or.inr ⟨t, List.mem_cons_self, hf⟩
    · exact Or.inr ⟨u, List.mem_cons_of_mem t hu, hf⟩

theorem mem_afterFirst {p : Place} {depth : Nat} {first : Token} {rest : List Token} {f : Frame}
    (h : f ∈ afterFirst p depth first rest) : f ∈ p.stack ∨ f.IsOf first := by
  unfold afterFirst at h
  cases hcase : caseFrame? p depth first with
  | some c =>
    obtain ⟨word, m, -, -, -, -, rfl⟩ := caseFrame?_eq_some hcase
    rw [hcase] at h
    rcases List.mem_cons.1 h with rfl | h
    · exact Or.inr ⟨rfl, rfl⟩
    · exact Or.inl h
  | none =>
    rw [hcase] at h
    dsimp only at h
    split_ifs at h
    · exact Or.inl h
    · exact mem_nestToken h

theorem map_fst_laterParts (first : Token) (rest : List Token) : (laterParts first rest).map Prod.fst = rest :=
  List.map_fst_zip (length_blockPartsFrom _ _ _).ge

/-- **A frame in the middle of a line** was there before the line, or is of one of the tokens that have been seen. -/
theorem Walk.mem_stackAfter {w : Walk} {l : Line} {count : Nat} {f : Frame} (h : f ∈ w.stackAfter l count) :
    f ∈ w.stack ∨ ∃ t ∈ l.code.take count, f.IsOf t := by
  unfold Walk.stackAfter at h
  split at h
  · rename_i first rest count hcode
    rcases mem_nest h with hfirst | ⟨t, ht, hf⟩
    · rcases mem_afterFirst hfirst with hplace | hf
      · exact Or.inl ((place_suffix w.stack first.lexeme).subset hplace)
      · exact Or.inr ⟨first, by simp [hcode], hf⟩
    · rw [List.map_take, map_fst_laterParts] at ht
      exact Or.inr ⟨t, by simp [hcode, ht], hf⟩
  · exact Or.inl h

/-! ## From an opener to its end -/

theorem closeBlock_block {f : Frame} (hf : f.word.isCase = false) (outer : List Frame) :
    closeBlock (f :: outer) = (some f, outer) := by
  simp [closeBlock, dropCase, hf]

section Above

variable {depth : Nat} {f : Frame} (under : List Frame)

/-- **A frame is closed where the count says**, if the blocks above it are as many as are open to the count. -/
theorem nest_of_closing (hf : f.word.isCase = false) {parts : List (Token × BlockPart)} (hparts : OpensBlocks parts)
    (above : List Frame) (habove : ∀ g ∈ above, g.word.isCase = false) {k : Nat}
    (hk : BlockPart.closingOffset? (above.length + 1) (parts.map Prod.snd) = some k) :
    nest depth (above ++ f :: under) (parts.take (k + 1)) = (under, []) := by
  induction parts generalizing above k with
  | nil => cases hk
  | cons p parts ih =>
    obtain ⟨t, part⟩ := p
    cases part with
    | opens word =>
      obtain ⟨k, hcount, rfl⟩ := Option.map_eq_some_iff.1 hk
      have hpush : ∀ g ∈ (⟨word, t.line, t.column, depth⟩ :: above : List Frame), g.word.isCase = false :=
        List.forall_mem_cons.2 ⟨hparts.head, habove⟩
      have hlater := ih hparts.tail _ hpush (by simpa using hcount)
      simpa [List.take_succ_cons, nest, nestToken] using hlater
    | closes =>
      simp only [List.map_cons, BlockPart.closingOffset?] at hk
      cases above with
      | nil =>
        obtain rfl : 0 = k := by simpa using hk
        simp [nest, nestToken, closeBlock_block hf]
      | cons g above =>
        obtain ⟨hg, habove⟩ := List.forall_mem_cons.1 habove
        rw [if_neg (by simp; omega)] at hk
        obtain ⟨k, hk, rfl⟩ := Option.map_eq_some_iff.1 hk
        have hlater := ih hparts.tail _ habove (by simpa using hk)
        simpa [List.take_succ_cons, nest, nestToken, closeBlock_block hg] using hlater
    | inert =>
      obtain ⟨k, hcount, rfl⟩ := Option.map_eq_some_iff.1 hk
      simpa [List.take_succ_cons, nest, nestToken] using ih hparts.tail _ habove hcount

/-- **A frame stays** as long as the count has not come to an end. -/
theorem mem_nest_of_open {parts : List (Token × BlockPart)} (hparts : OpensBlocks parts) (above : List Frame)
    (habove : ∀ g ∈ above, g.word.isCase = false) {n : Nat}
    (hn : ∀ k, BlockPart.closingOffset? (above.length + 1) (parts.map Prod.snd) = some k → n ≤ k) :
    f ∈ (nest depth (above ++ f :: under) (parts.take n)).1 := by
  induction parts generalizing above n with
  | nil => simp [nest]
  | cons p parts ih =>
    obtain ⟨t, part⟩ := p
    cases n with
    | zero => simp [nest]
    | succ n =>
      have hlater : ∀ (d : Int), (∀ k, (BlockPart.closingOffset? d (parts.map Prod.snd)).map (· + 1) = some k → n + 1 ≤ k) →
          ∀ k, BlockPart.closingOffset? d (parts.map Prod.snd) = some k → n ≤ k := by
        intro d h k hk
        exact Nat.le_of_succ_le_succ (h (k + 1) (by rw [hk]; rfl))
      cases part with
      | opens word =>
        have hpush : ∀ g ∈ (⟨word, t.line, t.column, depth⟩ :: above : List Frame), g.word.isCase = false :=
          List.forall_mem_cons.2 ⟨hparts.head, habove⟩
        simpa [List.take_succ_cons, nest, nestToken] using ih hparts.tail _ hpush (by simpa using hlater _ hn)
      | closes =>
        simp only [List.map_cons, BlockPart.closingOffset?] at hn
        cases above with
        | nil =>
          have hzero := hn 0 (by simp)
          omega
        | cons g above =>
          obtain ⟨hg, habove⟩ := List.forall_mem_cons.1 habove
          rw [if_neg (by simp; omega)] at hn
          simpa [List.take_succ_cons, nest, nestToken, closeBlock_block hg] using
            ih hparts.tail _ habove (by simpa using hlater _ hn)
      | inert => simpa [List.take_succ_cons, nest, nestToken] using ih hparts.tail _ habove (hlater _ hn)

end Above

/-! ## An opener of a line -/

/-- the tokens of a line behind one of them, with their parts -/
theorem map_drop_zip_blockParts (ts : List Token) (n : Nat) :
    ((ts.zip (blockParts ts)).drop n).map Prod.fst = ts.drop n ∧
      ((ts.zip (blockParts ts)).drop n).map Prod.snd = (blockParts ts).drop n := by
  have hlength := length_blockParts ts
  rw [List.map_drop, List.map_drop, List.map_fst_zip hlength.ge, List.map_snd_zip hlength.le]
  exact ⟨rfl, rfl⟩

/-- the count from an opener on, as a count of what is behind it -/
theorem matchingEnd?_of_opens {parts : List BlockPart} {i : Nat} {word : Keyword} (h : parts[i]? = some (.opens word)) :
    BlockPart.matchingEnd? parts i = (BlockPart.closingOffset? 1 (parts.drop (i + 1))).map fun k => i + 1 + k := by
  obtain ⟨hi, hpart⟩ := List.getElem?_eq_some_iff.1 h
  rw [BlockPart.matchingEnd?, List.drop_eq_getElem_cons hi, hpart, BlockPart.closingOffset?, Option.map_map]
  congr 1
  funext k
  simp only [Function.comp_apply]
  omega

/-- the `end` of an opener stands behind it -/
theorem matchingEnd?_within {ts : List Token} {i j : Nat} {word : Keyword} (h : (blockParts ts)[i]? = some (.opens word))
    (hj : BlockPart.matchingEnd? (blockParts ts) i = some j) : i < j ∧ j < ts.length := by
  rw [matchingEnd?_of_opens h] at hj
  obtain ⟨k, hk, rfl⟩ := Option.map_eq_some_iff.1 hj
  have hlt := BlockPart.closingOffset?_lt hk
  rw [List.length_drop, length_blockParts] at hlt
  omega

/-- tokens before another one of a line stand to the left of it, those behind it to the right -/
theorem columns_about {l : Line} (hread : l.WasRead) {i : Nat} {t : Token} (ht : l.code[i]? = some t) :
    (∀ u ∈ l.code.take i, u.column < t.column) ∧ ∀ u ∈ l.code.drop (i + 1), t.column < u.column := by
  obtain ⟨hi, rfl⟩ := List.getElem?_eq_some_iff.1 ht
  have hordered : (l.code.take i ++ l.code[i] :: l.code.drop (i + 1)).Pairwise fun t u => t.column < u.column := by
    rw [← List.drop_eq_getElem_cons hi, List.take_append_drop]
    exact Line.ordered_code hread
  obtain ⟨-, hback, hfront⟩ := List.pairwise_append.1 hordered
  exact ⟨fun u hu => hfront u hu _ List.mem_cons_self, (List.pairwise_cons.1 hback).1⟩

theorem opensBlocks_code (l : Line) : OpensBlocks (l.code.zip (blockParts l.code)) :=
  opensBlocks_from none (endsWithSemicolon l.code) l.code

theorem OpensBlocks.drop {parts : List (Token × BlockPart)} (h : OpensBlocks parts) (n : Nat) :
    OpensBlocks (parts.drop n) :=
  fun p hp => h p (List.mem_of_mem_drop hp)

section Opener

variable {w : Walk} {l : Line} {i : Nat} {t : Token} {word : Keyword}

theorem isCase_of_opens (ht : l.code[i]? = some t) (hopens : (blockParts l.code)[i]? = some (.opens word)) :
    word.isCase = false := by
  have hpart : (l.code.zip (blockParts l.code))[i]? = some (t, .opens word) := List.getElem?_zip_eq_some.2 ⟨ht, hopens⟩
  exact opensBlocks_code l _ (List.mem_of_getElem? hpart) word rfl

/-- the walk pushes the frame of an opener on what it has -/
theorem stackAfter_of_opens (ht : l.code[i]? = some t) (hopens : (blockParts l.code)[i]? = some (.opens word)) :
    ∃ depth under, w.stackAfter l (i + 1) = ⟨word, t.line, t.column, depth⟩ :: under ∧
      (∀ f ∈ under, f ∈ w.stack ∨ ∃ u ∈ l.code.take i, f.IsOf u) ∧
      ∀ more, w.stackAfter l (i + 1 + more) = (nest depth (⟨word, t.line, t.column, depth⟩ :: under)
        (((l.code.zip (blockParts l.code)).drop (i + 1)).take more)).1 := by
  cases hcode : l.code with
  | nil => simp [hcode] at ht
  | cons first rest =>
    have hmore := w.stackAfter_add l hcode i
    suffices hpush : ∃ under, w.stackAfter l (i + 1) = ⟨word, t.line, t.column, w.depthOf l first⟩ :: under ∧
        ∀ f ∈ under, f ∈ w.stack ∨ ∃ u ∈ l.code.take i, f.IsOf u by
      obtain ⟨under, hunder, hfrom⟩ := hpush
      refine ⟨w.depthOf l first, under, hunder, hcode ▸ hfrom, fun more => ?_⟩
      rw [hmore more, hunder, zip_blockParts, List.drop_succ_cons]
    rw [hcode] at ht hopens
    cases i with
    | zero =>
      obtain rfl : first = t := by simpa using ht
      have hpart : firstPart first rest = .opens word := by simpa [blockParts, blockPartsFrom, firstPart] using hopens
      have hend : first.lexeme ≠ .keyword .end_ := fun h => by simp [firstPart_of_end rest h] at hpart
      have hcase : ∀ v, first.lexeme = .keyword v → v.isCase = false := fun v hv =>
        Bool.eq_false_iff.2 fun hc => by simp [firstPart_of_case rest hv hc] at hpart
      refine ⟨(w.placeOf first).stack, ?_, fun f hf => Or.inl ((place_suffix w.stack first.lexeme).subset hf)⟩
      simp [Walk.stackAfter, hcode, afterFirst, caseFrame?_of_not_case hcase, hend, hpart, nestToken, nest]
    | succ i =>
      refine ⟨w.stackAfter l (i + 1), ?_, fun f hf => Walk.mem_stackAfter hf⟩
      have hpart : (laterParts first rest)[i]? = some (t, .opens word) :=
        List.getElem?_zip_eq_some.2 ⟨by simpa using ht, by simpa [blockParts, blockPartsFrom] using hopens⟩
      obtain ⟨hi, hpart⟩ := List.getElem?_eq_some_iff.1 hpart
      have hone := w.stackAfter_add l hcode i 1
      rw [hone, List.drop_eq_getElem_cons hi, hpart]
      rfl

/-- a frame that was there before an opener is not the one of the opener -/
theorem not_isOf_of_before (hread : l.WasRead) (hstack : ∀ f ∈ w.stack, f.line < l.number) (ht : l.code[i]? = some t)
    {f : Frame} (hf : f ∈ w.stack ∨ ∃ u ∈ l.code.take i, f.IsOf u) : ¬ f.IsOf t := by
  intro hft
  rcases hf with hf | ⟨u, hu, hfu⟩
  · have hline : t.line = l.number := (Line.numbered_of_wasRead hread).code t (List.mem_of_getElem? ht)
    exact (hstack f hf).ne (hft.1.trans hline)
  · exact ((columns_about hread ht).1 u hu).ne (hfu.2.symm.trans hft.2)

/-- a frame that is pushed behind an opener is not the one of the opener -/
theorem not_isOf_of_behind (hread : l.WasRead) (ht : l.code[i]? = some t) {f : Frame} {u : Token}
    (hu : u ∈ l.code.drop (i + 1)) (hfu : f.IsOf u) : ¬ f.IsOf t := by
  intro hft
  exact ((columns_about hread ht).2 u hu).ne (hft.2.symm.trans hfu.2)

theorem not_holds_until (hread : l.WasRead) (hstack : ∀ f ∈ w.stack, f.line < l.number) (ht : l.code[i]? = some t)
    {count : Nat} (hi : count ≤ i) : ¬ Holds (w.stackAfter l count) t := by
  rintro ⟨f, hf, hft⟩
  refine not_isOf_of_before hread hstack ht ?_ hft
  rcases Walk.mem_stackAfter hf with hf | ⟨u, hu, hfu⟩
  · exact Or.inl hf
  · exact Or.inr ⟨u, (List.take_subset_take_left l.code hi) hu, hfu⟩

theorem holds_while_open (ht : l.code[i]? = some t) (hopens : (blockParts l.code)[i]? = some (.opens word)) {more : Nat}
    (hopen : ∀ k, BlockPart.closingOffset? 1 ((blockParts l.code).drop (i + 1)) = some k → more ≤ k) :
    Holds (w.stackAfter l (i + 1 + more)) t := by
  obtain ⟨depth, under, -, -, hmore⟩ := stackAfter_of_opens (w := w) ht hopens
  refine ⟨⟨word, t.line, t.column, depth⟩, ?_, rfl, rfl⟩
  rw [hmore more]
  refine mem_nest_of_open under ((opensBlocks_code l).drop (i + 1)) [] (by simp) fun k hk => hopen k ?_
  rwa [(map_drop_zip_blockParts l.code (i + 1)).2] at hk

/-- behind its `end` the frame is gone, and later tokens push other frames -/
theorem not_holds_behind_end (hread : l.WasRead) (hstack : ∀ f ∈ w.stack, f.line < l.number) (ht : l.code[i]? = some t)
    (hopens : (blockParts l.code)[i]? = some (.opens word)) {k more : Nat}
    (hk : BlockPart.closingOffset? 1 ((blockParts l.code).drop (i + 1)) = some k) (hlt : k < more) :
    ¬ Holds (w.stackAfter l (i + 1 + more)) t := by
  rintro ⟨f, hf, hft⟩
  obtain ⟨depth, under, -, hunder, hmore⟩ := stackAfter_of_opens (w := w) ht hopens
  obtain ⟨later, rfl⟩ : ∃ later, more = k + 1 + later := Nat.exists_eq_add_of_le hlt
  obtain ⟨htokens, hparts⟩ := map_drop_zip_blockParts l.code (i + 1)
  have hclosed : nest depth (⟨word, t.line, t.column, depth⟩ :: under)
      (((l.code.zip (blockParts l.code)).drop (i + 1)).take (k + 1)) = (under, []) := by
    refine nest_of_closing under (isCase_of_opens ht hopens) ((opensBlocks_code l).drop (i + 1)) [] (by simp) ?_
    rw [hparts]
    exact hk
  rw [hmore, List.take_add, nest_append_fst, hclosed] at hf
  rcases mem_nest hf with hf | ⟨u, hu, hfu⟩
  · exact not_isOf_of_before hread hstack ht (hunder f hf) hft
  · rw [List.map_take, List.map_drop, htokens] at hu
    exact not_isOf_of_behind hread ht (List.mem_of_mem_drop (List.mem_of_mem_take hu)) hfu hft

/-- **The stacks of a line that hold the frame of an opener** are those behind it, up to the `end` that the count finds. -/
theorem holds_iff (hread : l.WasRead) (hstack : ∀ f ∈ w.stack, f.line < l.number) (ht : l.code[i]? = some t)
    (hopens : (blockParts l.code)[i]? = some (.opens word)) (count : Nat) : Holds (w.stackAfter l count) t ↔
      i < count ∧ ∀ j, BlockPart.matchingEnd? (blockParts l.code) i = some j → count ≤ j := by
  rcases Nat.lt_or_ge i count with hi | hi
  · obtain ⟨more, rfl⟩ := Nat.exists_eq_add_of_le hi
    rw [matchingEnd?_of_opens hopens]
    constructor
    · intro hholds
      refine ⟨hi, fun j hj => ?_⟩
      obtain ⟨k, hk, rfl⟩ := Option.map_eq_some_iff.1 hj
      by_contra hbehind
      exact not_holds_behind_end hread hstack ht hopens hk (by omega) hholds
    · rintro ⟨-, hall⟩
      refine holds_while_open ht hopens fun k hk => ?_
      have hle := hall (i + 1 + k) (by rw [hk]; rfl)
      omega
  · exact iff_of_false (not_holds_until hread hstack ht hi) fun h => absurd h.1 (Nat.not_lt.2 hi)

end Opener

/-! ## The row from an opener to its end -/

/-- the row from an opener to its `end` is balanced, and no part of it that starts at the opener and is shorter is so -/
structure Tight (ms : List Mark) : Prop where
  balanced : Mark.Balanced ms
  least : ∀ front, front <+: ms → front ≠ [] → Mark.Balanced front → front = ms

/-- **An opener and what is behind it up to the `end` of the count** is balanced there for the first time. -/
theorem tight_of_closing {word : Keyword} (hword : word.isCase = false) (t : Token) {parts : List (Token × BlockPart)}
    (hparts : OpensBlocks parts) {k : Nat} (hk : BlockPart.closingOffset? 1 (parts.map Prod.snd) = some k) :
    Tight (.opens word t :: (parts.take (k + 1)).filterMap Mark.of?) := by
  -- a walk with the frame of the opener alone keeps to the matching of what is behind it
  have hagrees : ∀ n, Agrees (nest 0 [⟨word, t.line, t.column, 0⟩] (parts.take n)).1
        (Mark.lifo [(word, t)] ((parts.take n).filterMap Mark.of?)).2 ∧
      (nest 0 [⟨word, t.line, t.column, 0⟩] (parts.take n)).2 =
        (Mark.lifo [(word, t)] ((parts.take n).filterMap Mark.of?)).1.map strayAt := fun n =>
    nest_agrees 0 (agrees_nil.push hword t 0) fun p hp => hparts p (List.mem_of_mem_take hp)
  refine ⟨?_, fun front hfront hne hbalanced => ?_⟩
  · have hclosed : nest 0 [⟨word, t.line, t.column, 0⟩] (parts.take (k + 1)) = ([], []) :=
      nest_of_closing [] hword hparts [] (by simp) (by simpa using hk)
    obtain ⟨hstack, hstrays⟩ := hagrees (k + 1)
    rw [hclosed] at hstack hstrays
    exact Prod.ext (List.map_eq_nil_iff.1 hstrays.symm) (List.map_eq_nil_iff.1 hstack.spots.symm)
  · obtain rfl | ⟨behind, rfl, hbehind⟩ := List.prefix_cons_iff.1 hfront
    · exact absurd rfl hne
    obtain ⟨seen, hseen, rfl⟩ := List.prefix_filterMap_iff.1 hbehind
    obtain ⟨hcut, hle⟩ := List.prefix_take_iff.1 hseen
    rw [List.prefix_iff_eq_take.1 hcut] at hbalanced ⊢
    rcases Nat.lt_or_ge k seen.length with hlast | hopen
    · rw [Nat.le_antisymm hle hlast]
    · have hstays : ⟨word, t.line, t.column, 0⟩ ∈ (nest 0 [⟨word, t.line, t.column, 0⟩] (parts.take seen.length)).1 := by
        refine mem_nest_of_open [] hparts [] (by simp) fun m hm => ?_
        obtain rfl : k = m := Option.some.inj (hk.symm.trans hm)
        exact hopen
      have hspots := (hagrees seen.length).1.spots
      have hnil : (Mark.lifo [(word, t)] ((parts.take seen.length).filterMap Mark.of?)).2 = [] := congrArg Prod.snd hbalanced
      rw [hnil, List.map_nil, List.map_eq_nil_iff] at hspots
      have hcase := List.filter_eq_nil_iff.1 hspots _ hstays
      exact absurd hword (by simpa using hcase)

/-- the opens and closes from an opener on -/
theorem marksBetween_of_opens {l : Line} {i : Nat} {t : Token} {word : Keyword} (ht : l.code[i]? = some t)
    (hopens : (blockParts l.code)[i]? = some (.opens word)) (k : Nat) : l.marksBetween i (i + 1 + k) =
      .opens word t :: (((l.code.zip (blockParts l.code)).drop (i + 1)).take (k + 1)).filterMap Mark.of? := by
  have hzip : (l.code.zip (blockParts l.code))[i]? = some (t, .opens word) := List.getElem?_zip_eq_some.2 ⟨ht, hopens⟩
  obtain ⟨hi, hpart⟩ := List.getElem?_eq_some_iff.1 hzip
  have hcount : i + 1 + k + 1 - i = k + 1 + 1 := by omega
  rw [Line.marksBetween, List.drop_eq_getElem_cons hi, hpart, hcount]
  rfl

/-! ## The two matchers -/

/-- the count and the walk agree on the `end` of the block that is opened at a token of a line -/
structure MatchersAgree (w : Walk) (l : Line) (i : Nat) (t : Token) : Prop where
  /-- the walk pushes a frame at the token -/
  pushed : ¬ Holds (w.stackAfter l i) t ∧ Holds (w.stackAfter l (i + 1)) t
  /-- the `end` that the count finds is the token at which the walk takes the frame away -/
  removed : ∀ j, BlockPart.matchingEnd? (blockParts l.code) i = some j ↔
    Holds (w.stackAfter l j) t ∧ ¬ Holds (w.stackAfter l (j + 1)) t
  /-- the count finds none exactly if the frame is there after the line -/
  left : BlockPart.matchingEnd? (blockParts l.code) i = none ↔ Holds (w.step l).1.stack t
  /-- the part of the line that the count finds is balanced, and no shorter one from the opener on is so -/
  tight : ∀ j, BlockPart.matchingEnd? (blockParts l.code) i = some j → Tight (l.marksBetween i j)
  /-- the rule on one-line `if`s counts the same tokens -/
  length : BlockPart.closingOffset? 1 ((blockParts l.code).drop (i + 1)) =
    (BlockPart.matchingEnd? (blockParts l.code) i).map (· - (i + 1))

theorem matchersAgree_of_opens {w : Walk} {l : Line} {i : Nat} {t : Token} {word : Keyword} (hread : l.WasRead)
    (hstack : ∀ f ∈ w.stack, f.line < l.number) (ht : l.code[i]? = some t)
    (hopens : (blockParts l.code)[i]? = some (.opens word)) : MatchersAgree w l i t := by
  have hholds := holds_iff hread hstack ht hopens
  have hbehind : ∀ j, BlockPart.matchingEnd? (blockParts l.code) i = some j → i < j ∧ j < l.code.length :=
    fun j hj => matchingEnd?_within hopens hj
  refine { pushed := ?pushed, removed := fun j => ?removed, left := ?left, tight := fun j hj => ?tight, length := ?length }
  case pushed =>
    rw [hholds, hholds]
    exact ⟨fun h => lt_irrefl _ h.1, Nat.lt_succ_self i, fun j hj => (hbehind j hj).1⟩
  case removed =>
    rw [hholds, hholds]
    constructor
    · intro hj
      refine ⟨⟨(hbehind j hj).1, fun m hm => ?_⟩, fun h => ?_⟩
      · rw [Option.some.inj (hj.symm.trans hm)]
      · exact absurd (h.2 j hj) (Nat.not_succ_le_self j)
    · rintro ⟨⟨hi, hle⟩, hnot⟩
      cases hend : BlockPart.matchingEnd? (blockParts l.code) i with
      | none => exact absurd ⟨Nat.lt_succ_of_lt hi, fun m hm => by simp [hend] at hm⟩ hnot
      | some m =>
        have hjm := hle m hend
        have hmj : ¬ j + 1 ≤ m := fun h => hnot ⟨Nat.lt_succ_of_lt hi, fun n hn => by
          rwa [← Option.some.inj (hend.symm.trans hn)]⟩
        rw [show m = j by omega]
  case left =>
    rw [← w.stackAfter_length l, hholds]
    constructor
    · intro hnone
      exact ⟨(List.getElem?_eq_some_iff.1 ht).1, fun m hm => by simp [hnone] at hm⟩
    · intro h
      refine Option.eq_none_iff_forall_ne_some.2 fun m hm => ?_
      exact absurd (h.2 m hm) (Nat.not_le_of_lt (hbehind m hm).2)
  case tight =>
    rw [matchingEnd?_of_opens hopens] at hj
    obtain ⟨k, hk, rfl⟩ := Option.map_eq_some_iff.1 hj
    rw [marksBetween_of_opens ht hopens]
    refine tight_of_closing (isCase_of_opens ht hopens) t ((opensBlocks_code l).drop (i + 1)) ?_
    rw [(map_drop_zip_blockParts l.code (i + 1)).2]
    exact hk
  case length =>
    have hback : (fun j => j - (i + 1)) ∘ (fun k => i + 1 + k) = id := by
      funext k
      simp
    rw [matchingEnd?_of_opens hopens, Option.map_map, hback, Option.map_id]
    rfl

/-- **The two matchers agree** on every opener of every line of a source, whatever the walk carries there. -/
theorem matchers_agree (options : Options) {texts : List (List Char)} {before after : List Line} {l : Line}
    (hlines : Line.readAll texts = before ++ l :: after) {i : Nat} {t : Token} {word : Keyword}
    (ht : l.code[i]? = some t) (hopens : (blockParts l.code)[i]? = some (.opens word)) :
    MatchersAgree ((Walk.start options).run before).1 l i t := by
  have hmem : l ∈ Line.readAll texts := hlines ▸ List.mem_append_right before List.mem_cons_self
  have hearlier : ∀ m ∈ before, m.Numbered ∧ m.number < l.number := by
    intro m hm
    have hordered : (before ++ l :: after).Pairwise fun l m => l.number < m.number := by
      rw [← hlines]
      exact Line.ordered_readFrom 1 texts
    refine ⟨Line.numbered_readAll m (hlines ▸ List.mem_append_left _ hm), ?_⟩
    exact (List.pairwise_append.1 hordered).2.2 m hm l List.mem_cons_self
  have hstart : Within (· < l.number) (Walk.start options).stack := fun f hf => by cases hf
  have hstack := (Walk.run_within hstart hearlier).1
  exact matchersAgree_of_opens (Line.wasRead_readAll l hmem) hstack ht hopens

/-- an `if` in a case of a `match` that is still open, with another block in it -/
theorem matchers_agree_case :
    MatchersAgree ((Walk.start {}).run [Line.read 1 "match x".toList]).1
        (Line.read 2 "  case 1: if a then while b do c() end end end".toList) 3 ⟨.keyword .if_, 2, 11⟩ ∧
      BlockPart.matchingEnd? (blockParts (Line.read 2 "  case 1: if a then while b do c() end end end".toList).code) 3 =
        some 13 := by
  have hlines : Line.readAll ["match x".toList, "  case 1: if a then while b do c() end end end".toList] =
      [Line.read 1 "match x".toList] ++ Line.read 2 "  case 1: if a then while b do c() end end end".toList :: [] := rfl
  have hopens : (blockParts (Line.read 2 "  case 1: if a then while b do c() end end end".toList).code)[3]? =
      some (.opens .if_) := by decide +kernel
  exact ⟨matchers_agree {} hlines (by decide +kernel) hopens, by decide +kernel⟩

end Rule.Indentation

end VixStyle
