/-
The shape of the stack in every state of the indentation walk.

`Reached` are the stacks that the walk has: between two lines, where the place of a line has been found, and between two
tokens of a line. Main statement, `cases_on_top`: in all of them a case stands on a `match`, and a block or nothing stands
on a case. So `closeBlock` gives back a block wherever the stack is not empty, and takes away this block and at most the
case on it.

`Stacked` is the invariant. Frames are only ever taken from the top, which keeps it (`Stacked.of_suffix`); what is left are
the two ways to push a frame, `Stacked.cons_block` and `Stacked.cons_case`.
-/
import VixStyle.Proofs.Indentation.Closing

namespace VixStyle.Rule.Indentation

/-! ## Blocks and cases -/

theorem CasesOnMatch.of_suffix {stack more : List Frame} (h : CasesOnMatch more) (hsuffix : stack <:+ more) :
    CasesOnMatch stack := by
  obtain ⟨above, rfl⟩ := hsuffix
  induction above with
  | nil => exact h
  | cons f above ih => exact ih h.2

/-- a stack of open blocks, and of cases that stand on their `match` -/
structure Stacked (stack : List Frame) : Prop where
  cases : CasesOnMatch stack
  words : ∀ f ∈ stack, f.word.isCase = true ∨ f.word.opensBlock = true

namespace Stacked

variable {stack outer : List Frame} {f m : Frame}

theorem nil : Stacked [] := ⟨trivial, fun f hf => by cases hf⟩

/-- taking frames away from the top leaves blocks and cases in order -/
theorem of_suffix {more : List Frame} (h : Stacked more) (hsuffix : stack <:+ more) : Stacked stack :=
  ⟨h.cases.of_suffix hsuffix, fun f hf => h.words f (hsuffix.subset hf)⟩

theorem cons_block (h : Stacked outer) (hf : f.word.opensBlock = true) : Stacked (f :: outer) :=
  ⟨h.cases.cons_block (isCase_of_opensBlock hf), List.forall_mem_cons.2 ⟨Or.inr hf, h.words⟩⟩

theorem cons_case (h : Stacked (m :: outer)) (hm : m.word = .match_) (hf : f.word.isCase = true) :
    Stacked (f :: m :: outer) :=
  ⟨⟨fun _ => ⟨m, outer, rfl, hm⟩, h.cases⟩, List.forall_mem_cons.2 ⟨Or.inl hf, h.words⟩⟩

/-- what stands on a case is a block -/
theorem above_case (h : Stacked (m :: f :: outer)) (hf : f.word.isCase = true) : m.word.opensBlock = true := by
  refine (h.words m List.mem_cons_self).resolve_left fun hm => ?_
  obtain ⟨g, more, houter, hg⟩ := h.cases.1 hm
  obtain ⟨rfl, rfl⟩ := List.cons.inj houter
  rw [hg] at hf
  cases hf

/-- closing takes a block off a stack that is not empty, and at most the case on it -/
theorem closeBlock_cons (h : Stacked (f :: outer)) :
    ∃ above b rest, closeBlock (f :: outer) = (some b, rest) ∧ f :: outer = above ++ b :: rest ∧ above.length ≤ 1 ∧
      (∀ c ∈ above, c.word.isCase = true) ∧ b.word.opensBlock = true := by
  by_cases hf : f.word.isCase = true
  · obtain ⟨m, rest, rfl, hm⟩ := h.cases.1 hf
    have hopens : m.word.opensBlock = true := by
      rw [hm]
      rfl
    exact ⟨[f], m, rest, by simp [closeBlock, dropCase, hf], rfl, le_rfl, List.forall_mem_singleton.2 hf, hopens⟩
  · have hopens : f.word.opensBlock = true := (h.words f List.mem_cons_self).resolve_left hf
    exact ⟨[], f, outer, closeBlock_block (isCase_of_opensBlock hopens) outer, rfl, Nat.zero_le 1,
      List.forall_mem_nil _, hopens⟩

end Stacked

/-! ## What a line does -/

/-- a token keeps a stack of blocks and cases, as it opens no case -/
theorem Stacked.nestToken {stack : List Frame} (h : Stacked stack) (depth : Nat) (t : Token) {part : BlockPart}
    (hopens : ∀ word, part = .opens word → word.opensBlock = true) : Stacked (nestToken depth t part stack).1 := by
  cases part with
  | opens word => exact h.cons_block (hopens word rfl)
  | closes =>
    rw [nestToken_closes]
    exact h.of_suffix (closeBlock_suffix stack)
  | inert => exact h

theorem Stacked.nest {stack : List Frame} (h : Stacked stack) (depth : Nat) {parts : List (Token × BlockPart)}
    (hopens : ∀ p ∈ parts, ∀ word, p.2 = .opens word → word.opensBlock = true) : Stacked (nest depth stack parts).1 := by
  induction parts generalizing stack with
  | nil => exact h
  | cons p parts ih =>
    obtain ⟨hhere, hlater⟩ := List.forall_mem_cons.1 hopens
    exact ih (h.nestToken depth p.1 hhere) hlater

/-- a line that opens a case has its `match` on top once its place has been found -/
theorem place_of_caseFrame? {stack : List Frame} {depth : Nat} {first : Token} {f : Frame}
    (h : caseFrame? (place stack first.lexeme) depth first = some f) :
    f.word.isCase = true ∧ ∃ m outer, (place stack first.lexeme).stack = m :: outer ∧ m.word = .match_ := by
  obtain ⟨word, m, hword, hcase, hanchor, hm, rfl⟩ := caseFrame?_eq_some h
  rw [hword, place_of_case hcase] at hanchor ⊢
  rw [inside_anchor] at hanchor
  rw [inside_stack]
  obtain ⟨outer, houter⟩ := List.head?_eq_some_iff.1 hanchor
  exact ⟨hcase, m, outer, houter, hm⟩

theorem Stacked.afterFirst {stack : List Frame} (h : Stacked stack) (depth : Nat) (first : Token) (rest : List Token) :
    Stacked (afterFirst (place stack first.lexeme) depth first rest) := by
  have hplace : Stacked (place stack first.lexeme).stack := h.of_suffix (place_suffix stack first.lexeme)
  unfold Indentation.afterFirst
  cases hcase : caseFrame? (place stack first.lexeme) depth first with
  | some f =>
    obtain ⟨hf, m, outer, houter, hm⟩ := place_of_caseFrame? hcase
    dsimp only
    rw [houter] at hplace ⊢
    exact hplace.cons_case hm hf
  | none =>
    dsimp only
    split_ifs
    · exact hplace
    · exact hplace.nestToken depth first fun word hword => opensBlock_of_blockPart hword

namespace Walk

variable {w : Walk}

/-- **The tokens of a line keep the stack**, however many of them have been seen. -/
theorem stacked_stackAfter (h : Stacked w.stack) (l : Line) (count : Nat) : Stacked (w.stackAfter l count) := by
  unfold stackAfter
  split
  · rename_i first rest count hcode
    refine (h.afterFirst _ first rest).nest _ fun p hp word hword => ?_
    exact opensBlock_of_mem (List.mem_of_mem_take hp) hword
  · exact h

theorem stacked_step (h : Stacked w.stack) (l : Line) : Stacked (w.step l).1.stack :=
  w.stackAfter_length l ▸ stacked_stackAfter h l l.code.length

/-- all lines keep the stack, by induction over the lines -/
theorem stacked_run (h : Stacked w.stack) (lines : List Line) : Stacked (w.run lines).1.stack := by
  induction lines generalizing w with
  | nil => exact h
  | cons l lines ih => exact ih (stacked_step h l)

end Walk

/-! ## Every state of the walk -/

/-- the stacks that the walk over a source has, one for each of its states -/
inductive Reached (options : Options) (source : Source) : List Frame → Prop
  /-- between two lines, before the first one and behind the last one -/
  | between {before after : List Line} (h : source.lines = before ++ after) :
    Reached options source ((Walk.start options).run before).1.stack
  /-- where the place of a line has been found and none of its tokens has been seen -/
  | placed {before after : List Line} {l : Line} {first : Token} {rest : List Token}
    (h : source.lines = before ++ l :: after) (hcode : l.code = first :: rest) :
    Reached options source (((Walk.start options).run before).1.placeOf first).stack
  /-- between two tokens of a line -/
  | within {before after : List Line} {l : Line} (h : source.lines = before ++ l :: after) (count : Nat) :
    Reached options source (((Walk.start options).run before).1.stackAfter l count)

theorem Reached.stacked {options : Options} {source : Source} {stack : List Frame} (h : Reached options source stack) :
    Stacked stack := by
  have hrun (before : List Line) : Stacked ((Walk.start options).run before).1.stack := Walk.stacked_run Stacked.nil before
  cases h with
  | between => exact hrun _
  | placed => exact (hrun _).of_suffix (place_suffix _ _)
  | within => exact Walk.stacked_stackAfter (hrun _) _ _

/-- cases stand on their `match` and under a block or nothing, and closing takes away exactly one block -/
structure CasesOnTop (stack : List Frame) : Prop where
  onMatch : ∀ above f below, stack = above ++ f :: below → f.word.isCase = true →
    ∃ m outer, below = m :: outer ∧ m.word = .match_
  underBlock : ∀ above g f below, stack = above ++ g :: f :: below → f.word.isCase = true →
    g.word.opensBlock = true ∧ g.word.isCase = false
  noCase : ∀ b, (closeBlock stack).1 = some b → b.word.opensBlock = true ∧ b.word.isCase = false
  oneBlock : stack ≠ [] → ∃ above b rest, closeBlock stack = (some b, rest) ∧ stack = above ++ b :: rest ∧
    above.length ≤ 1 ∧ ∀ c ∈ above, c.word.isCase = true
  noneLeft : (closeBlock stack).1 = none ↔ stack = []

theorem Stacked.casesOnTop {stack : List Frame} (h : Stacked stack) : CasesOnTop stack where
  onMatch := by
    rintro above f below rfl hf
    exact (h.of_suffix (List.suffix_append above _)).cases.1 hf
  underBlock := by
    rintro above g f below rfl hf
    have hg := (h.of_suffix (List.suffix_append above _)).above_case hf
    exact ⟨hg, isCase_of_opensBlock hg⟩
  noCase := by
    intro b hb
    cases stack with
    | nil => cases hb
    | cons f outer =>
      obtain ⟨-, c, rest, hclose, -, -, -, hopens⟩ := h.closeBlock_cons
      rw [hclose] at hb
      obtain rfl : c = b := Option.some.inj hb
      exact ⟨hopens, isCase_of_opensBlock hopens⟩
  oneBlock := by
    intro hne
    cases stack with
    | nil => exact absurd rfl hne
    | cons f outer =>
      obtain ⟨above, b, rest, hclose, hstack, hlength, habove, -⟩ := h.closeBlock_cons
      exact ⟨above, b, rest, hclose, hstack, hlength, habove⟩
  noneLeft := by
    cases stack with
    | nil => exact ⟨fun _ => rfl, fun _ => rfl⟩
    | cons f outer =>
      obtain ⟨-, b, rest, hclose, -⟩ := h.closeBlock_cons
      simp [hclose]

/-- **Cases live on top of their `match`** in every state that the walk reaches. -/
theorem cases_on_top {options : Options} {source : Source} {stack : List Frame} (h : Reached options source stack) :
    CasesOnTop stack :=
  h.stacked.casesOnTop

/-- inside a block of a case -/
theorem cases_on_top_nested :
    (((Walk.start {}).run [Line.read 1 "match x".toList]).1.stackAfter (Line.read 2 "  case 1 if a do".toList) 3).map
        Frame.word = [.if_, .case_, .match_] ∧
      CasesOnTop (((Walk.start {}).run [Line.read 1 "match x".toList]).1.stackAfter
        (Line.read 2 "  case 1 if a do".toList) 3) := by
  have hlines : (Source.ofText "match x\n  case 1 if a do".toList).lines =
      [Line.read 1 "match x".toList] ++ Line.read 2 "  case 1 if a do".toList :: [] := by decide +kernel
  exact ⟨by decide +kernel, cases_on_top (.within hlines 3)⟩

end VixStyle.Rule.Indentation
