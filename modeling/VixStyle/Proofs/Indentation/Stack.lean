/-
What the indentation walk does to its stack.

`CasesOnMatch` is the invariant of the stack: a case stands directly on its `match`, so never on another case.
`blocks` are the frames of a stack that are no cases. Under the invariant the cases are invisible to the matching of
blocks: closing takes away the innermost of the blocks (`closeBlock_cases`), and finding the place of a line that does
not start with `end` takes away none (`place_agrees`).

`Agrees stack pending` says that the blocks of a stack are those that are open to the matching of `Mark.lifo`. Main
statement, `line_agrees`: the tokens of a line, wherever the walk puts the line, keep the two in agreement, and the walk
finds a stray `end` exactly where the matching has a close that closes nothing.
-/
import Mathlib.Tactic
import VixStyle.Proofs.Block.Matching
import VixStyle.Rule.Indentation

namespace VixStyle.Rule.Indentation

/-! ## The stack -/

/-- a case stands on its `match` -/
def CasesOnMatch : List Frame → Prop
  | [] => True
  | f :: outer => (f.word.isCase = true → ∃ m more, outer = m :: more ∧ m.word = .match_) ∧ CasesOnMatch outer

/-- the frames that are blocks -/
def blocks (stack : List Frame) : List Frame := stack.filter fun f => !f.word.isCase

theorem blocks_cons_of_case {f : Frame} {outer : List Frame} (h : f.word.isCase = true) :
    blocks (f :: outer) = blocks outer := by
  simp [blocks, h]

theorem blocks_cons_of_block {f : Frame} {outer : List Frame} (h : f.word.isCase = false) :
    blocks (f :: outer) = f :: blocks outer := by
  simp [blocks, h]

theorem CasesOnMatch.cons_block {f : Frame} {outer : List Frame} (ho : CasesOnMatch outer)
    (h : f.word.isCase = false) : CasesOnMatch (f :: outer) :=
  ⟨fun hf => absurd (h ▸ hf) Bool.false_ne_true, ho⟩

theorem isCase_of_opensBlock {word : Keyword} (h : word.opensBlock = true) : word.isCase = false := by
  cases word <;> first | rfl | cases h

theorem dropCase_spec {stack : List Frame} (h : CasesOnMatch stack) :
    CasesOnMatch (dropCase stack) ∧ blocks (dropCase stack) = blocks stack := by
  cases stack with
  | nil => exact ⟨h, rfl⟩
  | cons f outer =>
    simp only [dropCase]
    split_ifs with hf
    · exact ⟨h.2, (blocks_cons_of_case hf).symm⟩
    · exact ⟨h, rfl⟩

/-- no case is on top once the one on top is gone -/
theorem dropCase_head {stack outer : List Frame} {f : Frame} (h : CasesOnMatch stack)
    (hd : dropCase stack = f :: outer) : f.word.isCase = false := by
  cases stack with
  | nil => cases hd
  | cons g more =>
    simp only [dropCase] at hd
    split_ifs at hd with hg
    · obtain ⟨m, rest, rfl, hm⟩ := h.1 hg
      obtain ⟨rfl, rfl⟩ := List.cons.inj hd
      rw [hm]
      rfl
    · obtain ⟨rfl, rfl⟩ := List.cons.inj hd
      exact Bool.eq_false_iff.2 hg

/-- **Closing takes away the innermost block**, whatever case stands on it; where there is none, the stack is empty -/
theorem closeBlock_cases {stack : List Frame} (h : CasesOnMatch stack) :
    (closeBlock stack = (none, []) ∧ blocks stack = []) ∨
      ∃ f outer, closeBlock stack = (some f, outer) ∧ blocks stack = f :: blocks outer ∧ CasesOnMatch outer := by
  obtain ⟨hcases, hblocks⟩ := dropCase_spec h
  cases hd : dropCase stack with
  | nil =>
    rw [hd] at hblocks
    exact Or.inl ⟨by simp [closeBlock, hd], hblocks.symm⟩
  | cons f outer =>
    rw [hd] at hcases hblocks
    refine Or.inr ⟨f, outer, by simp [closeBlock, hd], ?_, hcases.2⟩
    rw [← hblocks, blocks_cons_of_block (dropCase_head h hd)]

/-! ## The stack and the matching -/

/-- the word of a frame and where it stands -/
def Frame.spot (f : Frame) : Keyword × Int × Nat := (f.word, f.line, f.column)

/-- the word of a token and where it stands -/
def spotOf (p : Keyword × Token) : Keyword × Int × Nat := (p.1, p.2.line, p.2.column)

/-- the blocks of a stack are those that are open to the matching -/
structure Agrees (stack : List Frame) (pending : List (Keyword × Token)) : Prop where
  cases : CasesOnMatch stack
  spots : (blocks stack).map Frame.spot = pending.map spotOf

theorem agrees_nil : Agrees [] [] := ⟨trivial, rfl⟩

theorem Agrees.push {stack : List Frame} {pending : List (Keyword × Token)} (h : Agrees stack pending)
    {word : Keyword} (hword : word.isCase = false) (t : Token) (depth : Nat) :
    Agrees (⟨word, t.line, t.column, depth⟩ :: stack) ((word, t) :: pending) := by
  refine ⟨h.cases.cons_block hword, ?_⟩
  rw [blocks_cons_of_block hword, List.map_cons, h.spots]
  rfl

theorem Agrees.pushCase {outer : List Frame} {pending : List (Keyword × Token)} {f m : Frame}
    (h : Agrees (m :: outer) pending) (hf : f.word.isCase = true) (hm : m.word = .match_) :
    Agrees (f :: m :: outer) pending :=
  ⟨⟨fun _ => ⟨m, outer, rfl, hm⟩, h.cases⟩, (blocks_cons_of_case hf).symm ▸ h.spots⟩

theorem Agrees.dropCase {stack : List Frame} {pending : List (Keyword × Token)} (h : Agrees stack pending) :
    Agrees (dropCase stack) pending := by
  obtain ⟨hcases, hblocks⟩ := dropCase_spec h.cases
  exact ⟨hcases, hblocks ▸ h.spots⟩

/-- closing a block is closing the innermost pending one -/
theorem Agrees.close {stack : List Frame} {pending : List (Keyword × Token)} (h : Agrees stack pending) :
    (closeBlock stack = (none, []) ∧ pending = []) ∨
      ∃ f outer p pending', closeBlock stack = (some f, outer) ∧ pending = p :: pending' ∧ f.spot = spotOf p ∧
        Agrees outer pending' := by
  have hspots := h.spots
  rcases closeBlock_cases h.cases with ⟨hclose, hblocks⟩ | ⟨f, outer, hclose, hblocks, hcases⟩
  · rw [hblocks] at hspots
    exact Or.inl ⟨hclose, List.map_eq_nil_iff.1 hspots.symm⟩
  · rw [hblocks, List.map_cons] at hspots
    cases pending with
    | nil => cases hspots
    | cons p pending' =>
      obtain ⟨hspot, hrest⟩ := List.cons.inj hspots
      exact Or.inr ⟨f, outer, p, pending', hclose, rfl, hspot, hcases, hrest⟩

/-- the finding on an `end` that closes nothing -/
def strayAt (t : Token) : Finding := ⟨t.line, t.column, .strayEnd⟩

/-- the tokens of a line find nothing but closes that close nothing -/
theorem nest_strays {depth : Nat} {stack : List Frame} {parts : List (Token × BlockPart)} {f : Finding}
    (hf : f ∈ (nest depth stack parts).2) : ∃ t part, (t, part) ∈ parts ∧ f = strayAt t := by
  induction parts generalizing stack with
  | nil => cases hf
  | cons p parts ih =>
    obtain ⟨t, part⟩ := p
    rcases List.mem_append.1 hf with hhere | hlater
    · refine ⟨t, part, List.mem_cons_self, ?_⟩
      cases part with
      | opens word => cases hhere
      | closes =>
        dsimp only [nestToken] at hhere
        split at hhere
        · exact List.mem_singleton.1 hhere
        · cases hhere
      | inert => cases hhere
    · obtain ⟨u, part', hu, hat⟩ := ih hlater
      exact ⟨u, part', List.mem_cons_of_mem _ hu, hat⟩

/-- tokens that open blocks and no cases -/
def OpensBlocks (parts : List (Token × BlockPart)) : Prop :=
  ∀ p ∈ parts, ∀ word, p.2 = .opens word → word.isCase = false

theorem OpensBlocks.head {t : Token} {word : Keyword} {parts : List (Token × BlockPart)}
    (h : OpensBlocks ((t, .opens word) :: parts)) : word.isCase = false :=
  h _ List.mem_cons_self word rfl

theorem OpensBlocks.tail {p : Token × BlockPart} {parts : List (Token × BlockPart)} (h : OpensBlocks (p :: parts)) :
    OpensBlocks parts :=
  fun q hq => h q (List.mem_cons_of_mem _ hq)

theorem nest_agrees (depth : Nat) {stack : List Frame} {pending : List (Keyword × Token)}
    (h : Agrees stack pending) {parts : List (Token × BlockPart)} (hparts : OpensBlocks parts) :
    Agrees (nest depth stack parts).1 (Mark.lifo pending (parts.filterMap Mark.of?)).2 ∧
      (nest depth stack parts).2 = (Mark.lifo pending (parts.filterMap Mark.of?)).1.map strayAt := by
  induction parts generalizing stack pending with
  | nil => exact ⟨h, rfl⟩
  | cons p parts ih =>
    obtain ⟨t, part⟩ := p
    have hlater : OpensBlocks parts := hparts.tail
    cases part with
    | opens word => exact ih (h.push hparts.head t depth) hlater
    | closes =>
      rcases h.close with ⟨hclose, rfl⟩ | ⟨f, outer, p, pending', hclose, rfl, -, hrest⟩
      · obtain ⟨ih1, ih2⟩ := ih agrees_nil hlater
        simp only [nest, nestToken, hclose, List.filterMap_cons, Mark.of?, Mark.lifo, List.map_cons]
        exact ⟨ih1, congrArg (strayAt t :: ·) ih2⟩
      · simp only [nest, nestToken, hclose, List.filterMap_cons, Mark.of?, Mark.lifo, List.nil_append]
        exact ih hrest hlater
    | inert => exact ih h hlater

/-! ## A line -/

theorem opensBlock_of_blockPart {before : Option Token} {declares : Bool} {t : Token} {word : Keyword}
    (h : blockPart before declares t = .opens word) : word.opensBlock = true := by
  unfold blockPart at h
  split at h
  · cases h
  · rename_i word' _ _
    split_ifs at h with h1
    cases h
    simpa using h1
  · cases h

/-- a token that opens a block in a row of tokens has a word that opens blocks -/
theorem opensBlock_of_mem {before : Option Token} {declares : Bool} {code : List Token} {p : Token × BlockPart}
    (hp : p ∈ code.zip (blockPartsFrom before declares code)) {word : Keyword} (hword : p.2 = .opens word) :
    word.opensBlock = true := by
  induction code generalizing before with
  | nil => cases hp
  | cons t rest ih =>
    rcases List.mem_cons.1 hp with rfl | hp
    · exact opensBlock_of_blockPart hword
    · exact ih hp

theorem opensBlocks_from (before : Option Token) (declares : Bool) (code : List Token) :
    OpensBlocks (code.zip (blockPartsFrom before declares code)) :=
  fun _ hp _ hword => isCase_of_opensBlock (opensBlock_of_mem hp hword)

/-- the part of the first token of a line -/
def firstPart (first : Token) (rest : List Token) : BlockPart :=
  blockPart none (endsWithSemicolon (first :: rest)) first

/-- the tokens of a line after the first, with their parts -/
def laterParts (first : Token) (rest : List Token) : List (Token × BlockPart) :=
  rest.zip (blockPartsFrom (some first) (endsWithSemicolon (first :: rest)) rest)

theorem zip_blockParts (first : Token) (rest : List Token) :
    (first :: rest).zip (blockParts (first :: rest)) = (first, firstPart first rest) :: laterParts first rest := rfl

theorem opensBlocks_laterParts (first : Token) (rest : List Token) : OpensBlocks (laterParts first rest) :=
  opensBlocks_from _ _ rest

theorem opensBlocks_line (first : Token) (rest : List Token) :
    OpensBlocks ((first, firstPart first rest) :: laterParts first rest) :=
  opensBlocks_from none (endsWithSemicolon (first :: rest)) (first :: rest)

theorem firstPart_of_end {first : Token} (rest : List Token) (h : first.lexeme = .keyword .end_) :
    firstPart first rest = .closes := by
  simp [firstPart, blockPart, h]

theorem firstPart_of_case {first : Token} {word : Keyword} (rest : List Token) (h : first.lexeme = .keyword word)
    (hword : word.isCase = true) : firstPart first rest = .inert := by
  cases word with
  | case_ => simp [firstPart, blockPart, h, Keyword.opensBlock]
  | default_ => simp [firstPart, blockPart, h, Keyword.opensBlock]
  | _ => cases hword

/-- the frame of a case is one on top of the `match` that its line hangs on -/
theorem caseFrame?_eq_some {p : Place} {depth : Nat} {first : Token} {f : Frame}
    (h : caseFrame? p depth first = some f) :
    ∃ word m, first.lexeme = .keyword word ∧ word.isCase = true ∧ p.anchor = some m ∧ m.word = .match_ ∧
      f = ⟨word, first.line, first.column, depth⟩ := by
  unfold caseFrame? at h
  split at h
  · rename_i word hword
    split_ifs at h with hcase
    obtain ⟨m, hm, hmatch⟩ := (Option.any_eq_true _ _).1 hcase.2
    exact ⟨word, m, hword, hcase.1, hm, by simpa using hmatch, (Option.some.inj h).symm⟩
  · cases h

theorem caseFrame?_of_end {first : Token} (p : Place) (depth : Nat) (h : first.lexeme = .keyword .end_) :
    caseFrame? p depth first = none := by
  simp [caseFrame?, h, Keyword.isCase]

theorem inside_stack (stack : List Frame) : (Place.inside stack).stack = stack := by
  cases stack <;> rfl

theorem inside_anchor (stack : List Frame) : (Place.inside stack).anchor = stack.head? := by
  cases stack <;> rfl

theorem closing_stack (stack : List Frame) : (Place.closing stack).stack = (closeBlock stack).2 := by
  unfold Place.closing
  rcases closeBlock stack with ⟨_ | _, rest⟩ <;> rfl

/-- a token that closes a block takes it off the stack -/
theorem nestToken_closes (depth : Nat) (t : Token) (stack : List Frame) :
    (nestToken depth t .closes stack).1 = (closeBlock stack).2 := by
  unfold nestToken
  rcases closeBlock stack with ⟨_ | _, rest⟩ <;> rfl

theorem place_of_end (stack : List Frame) : place stack (.keyword .end_) = Place.closing stack := rfl

theorem place_of_case {word : Keyword} (hcase : word.isCase = true) (stack : List Frame) :
    place stack (.keyword word) = Place.inside (dropCase stack) := by
  cases word <;> first | rfl | cases hcase

/-- the place of a line that starts with no `end` and no case takes nothing off the stack -/
theorem place_of_other {first : Lexeme} (hend : first ≠ .keyword .end_)
    (hcase : ∀ word, first = .keyword word → word.isCase = false) (stack : List Frame) :
    (place stack first).stack = stack ∧ (place stack first).anchor = stack.head? := by
  cases first with
  | keyword word =>
    have hword : word ≠ .end_ := fun e => hend (congrArg Lexeme.keyword e)
    have hnot : ¬ word.isCase = true := by simp [hcase word rfl]
    unfold place
    dsimp only
    rw [if_neg hword, if_neg hnot]
    split_ifs
    · cases stack <;> exact ⟨rfl, rfl⟩
    · exact ⟨inside_stack stack, inside_anchor stack⟩
  | _ => exact ⟨inside_stack stack, inside_anchor stack⟩

/-- finding the place of a line that starts with no `end` leaves the blocks alone -/
theorem place_agrees {stack : List Frame} {pending : List (Keyword × Token)} (h : Agrees stack pending)
    {first : Lexeme} (hend : first ≠ .keyword .end_) :
    Agrees (place stack first).stack pending ∧ (place stack first).anchor = (place stack first).stack.head? := by
  by_cases hcase : ∃ word, first = .keyword word ∧ word.isCase = true
  · obtain ⟨word, rfl, hword⟩ := hcase
    rw [place_of_case hword, inside_stack, inside_anchor]
    exact ⟨h.dropCase, rfl⟩
  · obtain ⟨hstack, hanchor⟩ := place_of_other hend
      (fun word hword => Bool.eq_false_iff.2 fun hc => hcase ⟨word, hword, hc⟩) stack
    rw [hstack]
    exact ⟨h, hanchor⟩

/-- the stack after a line and the strays on it, given the place and the depth of the line -/
def nested (p : Place) (depth : Nat) (first : Token) (rest : List Token) : List Frame × List Finding :=
  match caseFrame? p depth first with
  | some f => nest depth (f :: p.stack) (laterParts first rest)
  | none => nest depth p.stack (if first.lexeme = .keyword .end_ then laterParts first rest
      else (first, firstPart first rest) :: laterParts first rest)

/-- the stray `end` that a line may start with -/
def strayFirst (p : Place) (first : Token) : List Finding :=
  if first.lexeme = .keyword .end_ ∧ p.anchor = none then [strayAt first] else []

theorem mem_strayFirst {p : Place} {first : Token} {f : Finding} (hf : f ∈ strayFirst p first) : f = strayAt first := by
  unfold strayFirst at hf
  split_ifs at hf
  · exact List.mem_singleton.1 hf
  · cases hf

theorem mem_nested {p : Place} {depth : Nat} {first : Token} {rest : List Token} {f : Finding}
    (hf : f ∈ (nested p depth first rest).2) : ∃ t ∈ first :: rest, f = strayAt t := by
  have hlater : ∀ q ∈ laterParts first rest, q.1 ∈ first :: rest := fun q hq =>
    List.mem_cons_of_mem first (List.of_mem_zip hq).1
  obtain ⟨parts, stack, hparts, hfound⟩ : ∃ (parts : List (Token × BlockPart)) (stack : List Frame),
      (∀ q ∈ parts, q.1 ∈ first :: rest) ∧ f ∈ (nest depth stack parts).2 := by
    unfold nested at hf
    split at hf
    · exact ⟨_, _, hlater, hf⟩
    · refine ⟨_, _, ?_, hf⟩
      split_ifs
      · exact hlater
      · exact List.forall_mem_cons.2 ⟨List.mem_cons_self, hlater⟩
  obtain ⟨t, part, ht, hat⟩ := nest_strays hfound
  exact ⟨t, hparts _ ht, hat⟩

/-- the marks of a line with code -/
def codeMarks (first : Token) (rest : List Token) : List Mark :=
  ((first, firstPart first rest) :: laterParts first rest).filterMap Mark.of?

theorem codeMarks_of_end {first : Token} (rest : List Token) (h : first.lexeme = .keyword .end_) :
    codeMarks first rest = .closes first :: (laterParts first rest).filterMap Mark.of? := by
  rw [codeMarks, firstPart_of_end rest h]
  rfl

theorem codeMarks_of_case {first : Token} {word : Keyword} (rest : List Token) (h : first.lexeme = .keyword word)
    (hword : word.isCase = true) : codeMarks first rest = (laterParts first rest).filterMap Mark.of? := by
  rw [codeMarks, firstPart_of_case rest h hword]
  rfl

/-- **A line of code matches its blocks.** Whatever depth the line is given, the blocks on the stack stay those that are
open to the matching, and the strays are the closes that close nothing. -/
theorem line_agrees {stack : List Frame} {pending : List (Keyword × Token)} (h : Agrees stack pending) (depth : Nat)
    (first : Token) (rest : List Token) :
    Agrees (nested (place stack first.lexeme) depth first rest).1 (Mark.lifo pending (codeMarks first rest)).2 ∧
      strayFirst (place stack first.lexeme) first ++ (nested (place stack first.lexeme) depth first rest).2 =
        (Mark.lifo pending (codeMarks first rest)).1.map strayAt := by
  have hlater := opensBlocks_laterParts first rest
  by_cases hend : first.lexeme = .keyword .end_
  · have hplace : place stack first.lexeme = Place.closing stack := by rw [hend, place_of_end]
    rw [hplace, codeMarks_of_end rest hend]
    simp only [nested, caseFrame?_of_end _ depth hend, strayFirst, hend, true_and]
    rcases h.close with ⟨hclose, rfl⟩ | ⟨f, outer, p, pending', hclose, rfl, -, hrest⟩
    · obtain ⟨hagrees, hfound⟩ := nest_agrees depth agrees_nil hlater
      simp only [Place.closing, hclose, if_pos, Mark.lifo, List.map_cons]
      exact ⟨hagrees, congrArg (strayAt first :: ·) hfound⟩
    · simp only [Place.closing, hclose, reduceCtorEq, if_false, List.nil_append, Mark.lifo]
      exact nest_agrees depth hrest hlater
  · obtain ⟨hagrees, hanchor⟩ := place_agrees h hend
    have hstray : strayFirst (place stack first.lexeme) first = [] := by simp [strayFirst, hend]
    rw [hstray, List.nil_append]
    unfold nested
    split
    · rename_i f hf
      obtain ⟨word, m, hword, hcase, hm, hmatch, rfl⟩ := caseFrame?_eq_some hf
      rw [codeMarks_of_case rest hword hcase]
      generalize (place stack first.lexeme).stack = inner at hagrees hanchor
      cases inner with
      | nil => rw [hm] at hanchor; cases hanchor
      | cons g outer =>
        obtain rfl : m = g := Option.some.inj (hm.symm.trans hanchor)
        exact nest_agrees depth (hagrees.pushCase hcase hmatch) hlater
    · rw [if_neg hend]
      exact nest_agrees depth hagrees (opensBlocks_line first rest)

end VixStyle.Rule.Indentation
