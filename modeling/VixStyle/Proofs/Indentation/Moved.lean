/-
The walk over a source that is moved.

What the walk does to its stack depends on the words of the frames and on the lexemes of the tokens. It does not depend on
where they stand, nor on how deep the frames are, nor on what string literals say. So it does the same with other frames and
tokens in their places, if their words are the same and their lexemes are alike (`Moves`). Main statements, stage by stage:
`place_map` for the place of a line, `nested_moved` for its tokens. How deep a line belongs is read off the frame that it hangs
on (`place_expected`).
-/
import VixStyle.Proofs.Indentation.Matching
import VixStyle.Proofs.Token.Lexemes

namespace VixStyle.Rule.Indentation

/-! ## Other frames -/

section Frames

variable {g : Frame → Frame} (hg : ∀ f, (g f).word = f.word)

include hg

theorem dropCase_map (stack : List Frame) : dropCase (stack.map g) = (dropCase stack).map g := by
  cases stack with
  | nil => rfl
  | cons f more =>
    rw [List.map_cons, dropCase, dropCase, hg]
    split <;> rfl

theorem closeBlock_map (stack : List Frame) :
    closeBlock (stack.map g) = ((closeBlock stack).1.map g, (closeBlock stack).2.map g) := by
  unfold closeBlock
  rw [dropCase_map hg]
  cases dropCase stack <;> rfl

omit hg in
theorem inside_map (stack : List Frame) : (Place.inside (stack.map g)).stack = (Place.inside stack).stack.map g ∧
    (Place.inside (stack.map g)).anchor = (Place.inside stack).anchor.map g := by
  cases stack <;> exact ⟨rfl, rfl⟩

/-- **Among other frames** a line hangs on the frame that is in the place of its own one. -/
theorem place_map (stack : List Frame) (first : Lexeme) :
    (place (stack.map g) first).stack = (place stack first).stack.map g ∧
      (place (stack.map g) first).anchor = (place stack first).anchor.map g := by
  unfold place
  split
  · split_ifs
    · unfold Place.closing
      rw [closeBlock_map hg]
      rcases closeBlock stack with ⟨_ | _, rest⟩ <;> exact ⟨rfl, rfl⟩
    · cases stack <;> exact ⟨rfl, rfl⟩
    · rw [dropCase_map hg]
      exact inside_map _
    · exact inside_map stack
  · exact inside_map stack

end Frames

/-- how much deeper than its frame a line belongs -/
def levelsInside (first : Lexeme) : Nat :=
  match first with
  | .keyword word => if word = .end_ ∨ word.isBranch then 0 else 1
  | _ => 1

/-- the depth of a line that hangs on a frame, if it does -/
def depthUnder (anchor : Option Frame) (first : Lexeme) : Nat := anchor.elim 0 fun f => f.depth + levelsInside first

theorem inside_expected (stack : List Frame) {first : Lexeme} (h : levelsInside first = 1) :
    (Place.inside stack).expected = depthUnder (Place.inside stack).anchor first := by
  cases stack with
  | nil => rfl
  | cons f more => simp [Place.inside, depthUnder, h]

/-- **How deep a line belongs** is told by the frame that it hangs on. -/
theorem place_expected (stack : List Frame) (first : Lexeme) :
    (place stack first).expected = depthUnder (place stack first).anchor first := by
  cases first with
  | keyword word =>
    unfold place
    dsimp only
    split_ifs with hend hbranch
    · unfold Place.closing
      rcases closeBlock stack with ⟨_ | f, rest⟩
      · rfl
      · simp [depthUnder, levelsInside, hend]
    · cases stack with
      | nil => rfl
      | cons f more => simp [depthUnder, levelsInside, hbranch]
    · exact inside_expected _ (by simp [levelsInside, hend, hbranch])
    · exact inside_expected _ (by simp [levelsInside, hend, hbranch])
  | _ => exact inside_expected stack rfl

/-! ## Other tokens -/

/--
other frames and tokens, and the findings that are made on the tokens of a line; the frame that a token pushes at one
depth goes to the frame that the other token pushes at another depth
-/
structure Moves (frame : Frame → Frame) (token : Token → Token) (found : Finding → Finding) (code : List Token)
    (depth moved : Nat) : Prop where
  word : ∀ f, (frame f).word = f.word
  lexeme : ∀ t, (token t).lexeme.Alike t.lexeme
  pushed : ∀ t ∈ code, ∀ word, frame ⟨word, t.line, t.column, depth⟩ = ⟨word, (token t).line, (token t).column, moved⟩
  stray : ∀ t ∈ code, strayAt (token t) = found (strayAt t)

section Tokens

variable {frame : Frame → Frame} {token : Token → Token} {found : Finding → Finding} {code : List Token}
  {depth moved : Nat} (h : Moves frame token found code depth moved)

include h

theorem nestToken_moved {t : Token} (ht : t ∈ code) (part : BlockPart) (stack : List Frame) :
    nestToken moved (token t) part (stack.map frame) =
      ((nestToken depth t part stack).1.map frame, (nestToken depth t part stack).2.map found) := by
  cases part with
  | opens word =>
    simp only [nestToken, List.map_cons, List.map_nil]
    rw [h.pushed t ht word]
  | closes =>
    have hstray : (⟨(token t).line, (token t).column, .strayEnd⟩ : Finding) = found ⟨t.line, t.column, .strayEnd⟩ :=
      h.stray t ht
    unfold nestToken
    dsimp only
    rw [closeBlock_map h.word, hstray]
    rcases closeBlock stack with ⟨_ | _, rest⟩ <;> rfl
  | inert => rfl

theorem nest_moved (stack : List Frame) {parts : List (Token × BlockPart)} (hparts : ∀ p ∈ parts, p.1 ∈ code) :
    nest moved (stack.map frame) (parts.map (Prod.map token id)) =
      ((nest depth stack parts).1.map frame, (nest depth stack parts).2.map found) := by
  induction parts generalizing stack with
  | nil => rfl
  | cons p parts ih =>
    obtain ⟨t, part⟩ := p
    obtain ⟨ht, hlater⟩ := List.forall_mem_cons.1 hparts
    simp only [List.map_cons, Prod.map, id_eq, nest, nestToken_moved h ht, ih _ hlater, List.map_append]

theorem firstPart_moved (first : Token) (rest : List Token) :
    firstPart (token first) (rest.map token) = firstPart first rest := by
  unfold firstPart
  rw [← List.map_cons, endsWithSemicolon_map h.lexeme]
  exact blockPart_map h.lexeme none _ first

theorem laterParts_moved (first : Token) (rest : List Token) :
    laterParts (token first) (rest.map token) = (laterParts first rest).map (Prod.map token id) := by
  have hparts := blockPartsFrom_map h.lexeme (some first) (endsWithSemicolon (first :: rest)) rest
  unfold laterParts
  rw [← List.map_cons, endsWithSemicolon_map h.lexeme]
  rw [Option.map_some] at hparts
  rw [hparts, List.zip_map_left]

variable {p p' : Place} (hanchor : p'.anchor = p.anchor.map frame)

include hanchor

theorem caseFrame?_moved {first : Token} (hfirst : first ∈ code) :
    caseFrame? p' moved (token first) = (caseFrame? p depth first).map frame := by
  have hany : p'.anchor.any (fun f => f.word = .match_) = p.anchor.any fun f => f.word = .match_ := by
    rw [hanchor, Option.any_map]
    simp only [h.word]
  unfold caseFrame?
  rcases (h.lexeme first).eq_or_strings with heq | ⟨written, written', heq, heq'⟩
  · rw [heq, hany]
    split
    · rename_i word _
      split_ifs
      · exact congrArg some (h.pushed first hfirst word).symm
      · rfl
    · rfl
  · rw [heq, heq']
    rfl

theorem strayFirst_moved {first : Token} (hfirst : first ∈ code) :
    strayFirst p' (token first) = (strayFirst p first).map found := by
  unfold strayFirst
  simp only [(h.lexeme first).eq_iff (m := .keyword .end_) nofun, hanchor, Option.map_eq_none_iff, h.stray first hfirst]
  split <;> rfl

/-- **Over other tokens** a line does to other frames what it does to its own ones. -/
theorem nested_moved {first : Token} {rest : List Token} (hcode : code = first :: rest)
    (hstack : p'.stack = p.stack.map frame) : nested p' moved (token first) (rest.map token) =
      ((nested p depth first rest).1.map frame, (nested p depth first rest).2.map found) := by
  have hfirst : first ∈ code := hcode ▸ List.mem_cons_self
  have hlater : ∀ q ∈ laterParts first rest, q.1 ∈ code := fun q hq =>
    hcode ▸ List.mem_cons_of_mem first (List.of_mem_zip hq).1
  have hall : ∀ q ∈ (first, firstPart first rest) :: laterParts first rest, q.1 ∈ code := by
    rintro q (_ | ⟨_, hq⟩)
    · exact hfirst
    · exact hlater q hq
  unfold nested
  have hend : (token first).lexeme = .keyword .end_ ↔ first.lexeme = .keyword .end_ := (h.lexeme first).eq_iff nofun
  rw [caseFrame?_moved h hanchor hfirst, laterParts_moved h, firstPart_moved h, hstack]
  simp only [hend]
  cases caseFrame? p depth first with
  | some f => exact nest_moved h (f :: p.stack) hlater
  | none =>
    dsimp only [Option.map_none]
    split_ifs
    · exact nest_moved h p.stack hlater
    · exact nest_moved h p.stack hall

end Tokens

end VixStyle.Rule.Indentation
