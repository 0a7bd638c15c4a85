/-
Spacing can be put right without touching tokens.

`evened` puts the gaps of a line right: no space before a comma, one after it unless a bracket closes there, one on each
side of an operator between operands; the leading blanks and all other gaps stay. Main statement, `evened_silent`: where no
comma follows a comma or such an operator, the line that comes out has the same lexemes, and the rules on spacing are
silent on it. Where a comma does follow one of these, the rules want two things of one gap.

- `spread_even`: gaps that are put right keep lexemes apart. None goes but before a mark that no lexeme can take in.
- `silent_of_even`: the rules are silent where all gaps are wanted, by induction on the segments of a line.
- `evenFrom_evenFrom`: gaps that were put right are the wanted ones.
-/
import Mathlib.Tactic
import VixStyle.Proofs.Source.Columns
import VixStyle.Proofs.Spacing.Gaps

namespace VixStyle.Rule.Spacing

open Text Grammar

/-! ## Putting gaps right -/

/-- what a token is to the rules on spacing -/
inductive Spot where
  | comma | closing | checked | other
  deriving DecidableEq, Repr

/-- what a token is, given the code before it -/
def spot (before : Option Token) (t : Token) : Spot :=
  if t.lexeme = .punctuation ',' then .comma
  else if t.lexeme.isClosingBracket then .closing
  else if isCheckedOperator before t then .checked
  else .other

/-- what the tokens of a row are, given the code before the row -/
def spotsFrom (before : Option Token) : List Token → List Spot
  | [] => []
  | t :: more => spot before t :: spotsFrom (if t.lexeme.isCode then some t else before) more

/-- the gap that is wanted before a token, given what stands before it; leading blanks are left alone -/
def wanted : Option Spot → Spot → List Char → List Char
  | none, _, gap => gap
  | some _, .comma, _ => []
  | some .comma, .closing, _ => []
  | some .comma, _, _ => [' ']
  | some .checked, _, _ => [' ']
  | some _, .checked, _ => [' ']
  | some _, _, gap => gap

/-- the wanted gaps in the place of others; what stands after the last token is left alone -/
def evenFrom (before : Option Spot) : List Spot → List (List Char) → List (List Char)
  | s :: spots, gap :: gaps => wanted before s gap :: evenFrom (some s) spots gaps
  | _, gaps => gaps

/-- the gaps of a line, put right -/
def evenGaps (text : List Char) (tokens : List Token) : List (List Char) :=
  evenFrom none (spotsFrom none tokens) (gaps text tokens)

/-- a line with its gaps put right -/
def evened (text : List Char) (tokens : List Token) : List Char := weave (evenGaps text tokens) tokens

/-- one gap between two tokens can do for both: it cannot before a comma if the token before wants a space behind it -/
def Compatible (a b : Spot) : Prop := b = .comma → a ≠ .comma ∧ a ≠ .checked

instance (a b : Spot) : Decidable (Compatible a b) := inferInstanceAs (Decidable (b = .comma → a ≠ .comma ∧ a ≠ .checked))

/-! ## Wanted gaps -/

theorem wanted_wanted (before : Option Spot) (s : Spot) (gap : List Char) :
    wanted before s (wanted before s gap) = wanted before s gap := by
  rcases before with _ | a
  · rfl
  · cases a <;> cases s <;> rfl

theorem isBlank_of_mem_wanted {before : Option Spot} {s : Spot} {gap : List Char} (hgap : ∀ c ∈ gap, isBlank c = true) :
    ∀ c ∈ wanted before s gap, isBlank c = true := by
  rcases before with _ | a
  · exact hgap
  · cases a <;> cases s <;> first | exact hgap | simp [wanted, isBlank]

/-- no gap goes but before a comma or a closing bracket -/
theorem eq_nil_of_wanted {before : Option Spot} {s : Spot} {gap : List Char} (h : wanted before s gap = []) :
    gap = [] ∨ s = .comma ∨ s = .closing := by
  rcases before with _ | a
  · exact .inl h
  · cases a <;> cases s <;> simp_all [wanted]

theorem wanted_checked (a : Spot) (gap : List Char) : wanted (some a) .checked gap = [' '] := by cases a <;> rfl

theorem wanted_behind_checked {s : Spot} (h : Compatible .checked s) (gap : List Char) :
    wanted (some .checked) s gap = [' '] := by
  cases s with
  | comma => exact absurd rfl (h rfl).2
  | _ => rfl

theorem wanted_comma (a : Spot) (gap : List Char) : wanted (some a) .comma gap = [] := by cases a <;> rfl

theorem wanted_behind_comma {s : Spot} (h : Compatible .comma s) (gap : List Char) :
    wanted (some .comma) s gap = [' '] ∨ wanted (some .comma) s gap = [] ∧ s = .closing := by
  cases s with
  | comma => exact absurd rfl (h rfl).1
  | closing => exact .inr ⟨rfl, rfl⟩
  | _ => exact .inl rfl

theorem length_evenFrom (before : Option Spot) (spots : List Spot) (gaps : List (List Char)) :
    (evenFrom before spots gaps).length = gaps.length := by
  fun_induction evenFrom before spots gaps with
  | case1 before s spots gap gaps ih => rw [List.length_cons, List.length_cons, ih]
  | case2 => rfl

theorem evenFrom_concat {before : Option Spot} {spots : List Spot} {gaps : List (List Char)} (tail : List Char)
    (h : gaps.length = spots.length) : evenFrom before spots (gaps ++ [tail]) = evenFrom before spots gaps ++ [tail] := by
  induction spots generalizing before gaps with
  | nil =>
    obtain rfl := List.length_eq_zero_iff.1 h
    rfl
  | cons s spots ih =>
    obtain ⟨gap, gaps, rfl⟩ := List.exists_cons_of_length_eq_add_one h
    rw [List.cons_append, evenFrom, evenFrom, ih (Nat.succ.inj h), List.cons_append]

theorem evenFrom_evenFrom (before : Option Spot) (spots : List Spot) (gaps : List (List Char)) :
    evenFrom before spots (evenFrom before spots gaps) = evenFrom before spots gaps := by
  induction spots generalizing before gaps with
  | nil => rfl
  | cons s spots ih =>
    cases gaps with
    | nil => rfl
    | cons gap gaps => rw [evenFrom, evenFrom, wanted_wanted, ih]

/-! ## Spots -/

theorem isCheckedOperator_congr {b b' : Option Token} {t t' : Token} (hb : b.map Token.lexeme = b'.map Token.lexeme)
    (ht : t.lexeme = t'.lexeme) : isCheckedOperator b t = isCheckedOperator b' t' := by
  have hends : ∀ b : Option Token, endsOperand b = (b.map Token.lexeme).any Lexeme.endsOperand := by
    intro b
    rw [Option.any_map]
    rfl
  have hbinary : isBinaryAfter b t = isBinaryAfter b' t' := by
    unfold isBinaryAfter
    rw [hends b, hends b', hb, ht]
    cases b <;> cases b' <;> first | rfl | cases hb
  unfold isCheckedOperator
  rw [hbinary, ht]

theorem spot_congr {b b' : Option Token} {t t' : Token} (hb : b.map Token.lexeme = b'.map Token.lexeme)
    (ht : t.lexeme = t'.lexeme) : spot b t = spot b' t' := by
  unfold spot
  rw [isCheckedOperator_congr hb ht, ht]

/-- spots are settled by lexemes -/
theorem spotsFrom_congr {b b' : Option Token} {ts us : List Token} (hb : b.map Token.lexeme = b'.map Token.lexeme)
    (h : ts.map Token.lexeme = us.map Token.lexeme) : spotsFrom b ts = spotsFrom b' us := by
  induction ts generalizing b b' us with
  | nil =>
    obtain rfl := List.map_eq_nil_iff.1 h.symm
    rfl
  | cons t ts ih =>
    obtain ⟨u, us, rfl, hu, hus⟩ := List.map_eq_cons_iff.1 h.symm
    have hnext : (if t.lexeme.isCode then some t else b).map Token.lexeme =
        (if u.lexeme.isCode then some u else b').map Token.lexeme := by
      rw [hu]
      split
      · exact congrArg some hu.symm
      · exact hb
    rw [spotsFrom, spotsFrom, spot_congr hb hu.symm, ih hnext hus.symm]

theorem length_spotsFrom (b : Option Token) (ts : List Token) : (spotsFrom b ts).length = ts.length := by
  induction ts generalizing b with
  | nil => rfl
  | cons t ts ih => rw [spotsFrom, List.length_cons, List.length_cons, ih]

theorem spot_eq_comma_iff {b : Option Token} {t : Token} : spot b t = .comma ↔ t.lexeme = .punctuation ',' := by
  unfold spot
  split
  · simp [*]
  · split
    · simp [*]
    · split <;> simp [*]

theorem isClosingBracket_of_spot {b : Option Token} {t : Token} (h : spot b t = .closing) :
    t.lexeme.isClosingBracket = true := by
  unfold spot at h
  split at h
  · cases h
  · split at h
    · assumption
    · split at h <;> cases h

theorem spot_of_isCheckedOperator {b : Option Token} {t : Token} (h : isCheckedOperator b t = true) :
    spot b t = .checked := by
  obtain ⟨op, hop⟩ : ∃ op, t.lexeme = .operator op := by
    unfold isCheckedOperator at h
    split at h
    · exact ⟨_, ‹_›⟩
    · cases h
  unfold spot
  rw [hop, h]
  rfl

theorem exists_mark_of_isClosingBracket {l : Lexeme} (h : l.isClosingBracket = true) :
    ∃ mark, l = .punctuation mark ∧ isClosingMark mark = true := by
  cases l with
  | punctuation mark => exact ⟨mark, rfl, h⟩
  | _ => cases h

/-- nothing takes in a comma or a closing bracket -/
theorem detached_of_spot {b : Option Token} {t : Token} (h : spot b t = .comma ∨ spot b t = .closing) :
    t.lexeme.Detached := by
  rcases h with h | h
  · rw [spot_eq_comma_iff.1 h]
    exact detached_mark (by decide)
  · obtain ⟨mark, hl, hmark⟩ := exists_mark_of_isClosingBracket (isClosingBracket_of_spot h)
    rw [hl]
    refine detached_mark ?_
    rcases (by simpa [isClosingMark, or_assoc] using hmark : mark = ')' ∨ mark = ']' ∨ mark = '}') with rfl | rfl | rfl
    all_goals decide

/-! ## The lexemes stay -/

/-- **Gaps that are put right keep lexemes apart.** -/
theorem spread_even (free : Bool) (n : Int) (column : Nat) {segments : List Segment}
    (hgaps : ∀ s ∈ segments, ∀ c ∈ s.gap, isBlank c = true) (before : Option Spot) (b : Option Token) :
    Spread free segments
      (respace (evenFrom before (spotsFrom b (placed n column segments)) (segments.map Segment.gap)) segments) := by
  induction segments generalizing free column before b with
  | nil => exact .nil
  | cons s segments ih =>
    obtain ⟨hgap, hgaps⟩ := List.forall_mem_cons.1 hgaps
    refine .cons (isBlank_of_mem_wanted hgap) (fun _ hold => ?_) (ih false _ hgaps _ _)
    refine or_iff_not_imp_left.2 fun hempty => ?_
    exact detached_of_spot ((eq_nil_of_wanted (not_not.1 hempty)).resolve_left hold)

theorem count_spotsFrom (n : Int) (segments : List Segment) :
    (segments.map Segment.gap).length = (spotsFrom none (placed n 1 segments)).length := by
  have hplaced := congrArg List.length (placed_lexemes n 1 segments)
  rw [List.length_map, List.length_map] at hplaced
  rw [length_spotsFrom, hplaced, List.length_map]

/-- the gaps of a line put right are those of its segments put right -/
theorem evenGaps_of (n : Int) (text : List Char) : evenGaps text (placed n 1 (Segmentation.of text).segments) =
    evenFrom none (spotsFrom none (placed n 1 (Segmentation.of text).segments))
      ((Segmentation.of text).segments.map Segment.gap) ++ [(Segmentation.of text).tail] := by
  rw [evenGaps, gaps_of, evenFrom_concat _ (count_spotsFrom n _)]

/-- **A line with its gaps put right** has the same lexemes, with those gaps between them. -/
theorem lex_evened {n : Int} {text : List Char} {ts : List Token} (h : lex n text = .ok ts) :
    ∃ us, lex n (evened text ts) = .ok us ∧ us.map Token.lexeme = ts.map Token.lexeme ∧
      gaps (evened text ts) us = evenGaps text ts := by
  obtain ⟨hclosed, rfl⟩ := lex_eq_ok h
  let segments := (Segmentation.of text).segments
  let inner := evenFrom none (spotsFrom none (placed n 1 segments)) (segments.map Segment.gap)
  have hspaced : (Segmentation.of text).Spaced := Segmentation.spaced_ofFrom true text
  have hinner : inner.length = segments.length := by rw [length_evenFrom, List.length_map]
  have hspread : Spread true segments (respace inner segments) := spread_even true n 1 hspaced.gap none none
  have hcut : Segmentation.of (evened text (placed n 1 segments)) =
      ⟨respace inner segments, (Segmentation.of text).tail, true⟩ := by
    rw [evened, evenGaps_of]
    exact Segmentation.of_weave hclosed hinner hspread hspaced.tail Segmentation.tail_of_lineComment
  have hgaps := gaps_of n (evened text (placed n 1 segments))
  rw [hcut, map_gap_respace hinner] at hgaps
  have hread : lex n (evened text (placed n 1 segments)) = .ok (placed n 1 (respace inner segments)) := by
    unfold lex
    rw [hcut]
    rfl
  refine ⟨placed n 1 (respace inner segments), hread, ?_, ?_⟩
  · rw [placed_lexemes, hspread.lexemes, placed_lexemes]
  · rw [hgaps, evenGaps_of]

/-! ## The rules are silent -/

section Silent

variable {line front gap tail : List Char} {l : Lexeme} {more : List Segment}
  (hline : line = front ++ gap ++ l.text ++ (more.flatMap Segment.text ++ tail)) (hgap : ∀ c ∈ gap, isBlank c = true)
  (hfront : front = [] ∨ EndsSolid front) (hmore : Solid more) (htail : ∀ c ∈ tail, isBlank c = true) (n : Int)

include hline hgap hfront hmore htail

/-- an operator with one space on each side where a token stands -/
theorem operatorFault?_eq_none (hbefore : front ≠ [] → gap = [' ']) (hafter : ∀ s ∈ more.head?, s.gap = [' '])
    (b : Option Token) : operatorFault? line b ⟨l, n, (front ++ gap).length + 1⟩ = none := by
  have hleft : (gapBefore? line ⟨l, n, (front ++ gap).length + 1⟩).bind gapFault? = none := by
    refine Option.bind_eq_none_iff.2 fun g hg => ?_
    obtain ⟨hne, rfl⟩ := gap_of_gapBefore? hline n hgap hfront hg
    rw [hbefore hne]
    rfl
  have hright : (gapAfter? line ⟨l, n, (front ++ gap).length + 1⟩).bind gapFault? = none := by
    refine Option.bind_eq_none_iff.2 fun g hg => ?_
    obtain ⟨s, later, rfl, rfl⟩ := gap_of_gapAfter? hline n rfl hmore htail hg
    rw [hafter s rfl]
    rfl
  unfold operatorFault?
  rw [hleft, hright]
  split <;> rfl

/-- a comma with no space before it, and behind it one space, a closing bracket or nothing -/
theorem commaFaults_eq_nil (hbefore : front ≠ [] → gap = [])
    (hafter : ∀ s ∈ more.head?, s.gap = [' '] ∨ s.gap = [] ∧ s.lexeme.isClosingBracket = true) :
    commaFaults line ⟨l, n, (front ++ gap).length + 1⟩ = [] := by
  have hleft : ∀ g ∈ gapBefore? line ⟨l, n, (front ++ gap).length + 1⟩, g = [] := by
    intro g hg
    obtain ⟨hne, rfl⟩ := gap_of_gapBefore? hline n hgap hfront hg
    exact hbefore hne
  have hright : (textAfter line ⟨l, n, (front ++ gap).length + 1⟩).head?.any isClosingMark = true ∨
      (gapAfter? line ⟨l, n, (front ++ gap).length + 1⟩).bind gapFault? = none := by
    refine or_iff_not_imp_left.2 fun hopen => Option.bind_eq_none_iff.2 fun g hg => ?_
    obtain ⟨s, later, rfl, rfl⟩ := gap_of_gapAfter? hline n rfl hmore htail hg
    rcases hafter s rfl with hspace | ⟨hnone, hclosing⟩
    · rw [hspace]
      rfl
    · obtain ⟨mark, hl, hmark⟩ := exists_mark_of_isClosingBracket hclosing
      refine absurd ?_ hopen
      rw [textAfter_behind hline]
      simpa [Segment.text, hnone, hl, Lexeme.text] using hmark
  unfold commaFaults
  dsimp only
  refine List.append_eq_nil_iff.2 ⟨?_, ?_⟩
  · split
    · rename_i c g hg
      exact absurd (hleft (c :: g) hg) (List.cons_ne_nil c g)
    · rfl
  · rcases hright with hright | hright
    · exact if_pos hright
    · rw [hright]
      exact ite_self _

/-- **A token with wanted gaps on both sides**, where one gap does for it and the next token. -/
theorem silent_at {b : Option Token}
    (hbefore : front ≠ [] → ∃ a, wanted (some a) (spot b ⟨l, n, (front ++ gap).length + 1⟩) gap = gap)
    (hafter : ∀ s ∈ more.head?, ∃ u : Token, u.lexeme = s.lexeme ∧ ∃ b',
      Compatible (spot b ⟨l, n, (front ++ gap).length + 1⟩) (spot b' u) ∧
        wanted (some (spot b ⟨l, n, (front ++ gap).length + 1⟩)) (spot b' u) s.gap = s.gap) :
    operatorFault? line b ⟨l, n, (front ++ gap).length + 1⟩ = none ∧
      (l = .punctuation ',' → commaFaults line ⟨l, n, (front ++ gap).length + 1⟩ = []) := by
  refine ⟨?_, fun hcomma => ?_⟩
  · by_cases hchecked : isCheckedOperator b ⟨l, n, (front ++ gap).length + 1⟩ = true
    · rw [spot_of_isCheckedOperator hchecked] at hbefore hafter
      refine operatorFault?_eq_none hline hgap hfront hmore htail n (fun hne => ?_) (fun s hs => ?_) b
      · obtain ⟨a, ha⟩ := hbefore hne
        rw [← ha, wanted_checked]
      · obtain ⟨u, -, b', hcompatible, hwanted⟩ := hafter s hs
        rw [← hwanted, wanted_behind_checked hcompatible]
    · exact if_neg hchecked
  · rw [spot_eq_comma_iff.2 hcomma] at hbefore hafter
    refine commaFaults_eq_nil hline hgap hfront hmore htail n (fun hne => ?_) fun s hs => ?_
    · obtain ⟨a, ha⟩ := hbefore hne
      rw [← ha, wanted_comma]
    · obtain ⟨u, hu, b', hcompatible, hwanted⟩ := hafter s hs
      rw [← hwanted, ← hu]
      exact (wanted_behind_comma hcompatible s.gap).imp_right (And.imp_right isClosingBracket_of_spot)

end Silent

/-- the first of some segments has the gap that is wanted, and that gap does for the token before it too -/
theorem head_of_even {n : Int} {column : Nat} {segments : List Segment} {a : Spot} {b : Option Token}
    (heven : evenFrom (some a) (spotsFrom b (placed n column segments)) (segments.map Segment.gap) =
      segments.map Segment.gap)
    (hspots : (a :: spotsFrom b (placed n column segments)).IsChain Compatible) :
    ∀ s ∈ segments.head?, ∃ u : Token, u.lexeme = s.lexeme ∧ ∃ b', Compatible a (spot b' u) ∧
      wanted (some a) (spot b' u) s.gap = s.gap := by
  intro s hs
  obtain ⟨later, rfl⟩ := List.head?_eq_some_iff.1 hs
  exact ⟨_, rfl, b, (List.isChain_cons_cons.1 hspots).1, (List.cons.inj heven).1⟩

/-- **The rules on spacing are silent where all gaps are wanted**, by induction on the segments behind a text. -/
theorem silent_of_even {line tail : List Char} (htail : ∀ c ∈ tail, isBlank c = true) (n : Int) {segments : List Segment}
    (hsolid : Solid segments) {front : List Char} (hline : line = front ++ segments.flatMap Segment.text ++ tail)
    {before : Option Spot} (hfront : segments ≠ [] → before = none ∧ front = [] ∨ before ≠ none ∧ EndsSolid front)
    {b : Option Token} (heven : evenFrom before (spotsFrom b (placed n (front.length + 1) segments))
      (segments.map Segment.gap) = segments.map Segment.gap)
    (hspots : (spotsFrom b (placed n (front.length + 1) segments)).IsChain Compatible) :
    (∀ p ∈ withPrevious b ((placed n (front.length + 1) segments).filter fun t => t.lexeme.isCode),
      operatorFault? line p.1 p.2 = none) ∧
    ∀ t ∈ placed n (front.length + 1) segments, t.lexeme = .punctuation ',' → commaFaults line t = [] := by
  induction hsolid generalizing front before b with
  | nil => exact ⟨fun p hp => absurd hp List.not_mem_nil, fun t ht => absurd ht List.not_mem_nil⟩
  | @cons gap l more hgap hne hfirst hlast hmore ih =>
    rw [placed_cons_behind] at heven hspots ⊢
    obtain ⟨hwanted, hevenMore⟩ := List.cons.inj heven
    have hedge := hfront (List.cons_ne_nil _ _)
    have hhere : line = front ++ gap ++ l.text ++ (more.flatMap Segment.text ++ tail) := by
      simpa [Segment.text] using hline
    have hleft : front ≠ [] → ∃ a, wanted (some a) (spot b ⟨l, n, (front ++ gap).length + 1⟩) gap = gap := by
      intro hnonempty
      obtain ⟨a, rfl⟩ := Option.ne_none_iff_exists'.1 (hedge.resolve_left fun h => hnonempty h.2).1
      exact ⟨a, hwanted⟩
    obtain ⟨hoperator, hcomma⟩ := silent_at hhere hgap (hedge.imp And.right And.right) hmore htail n hleft
      (head_of_even hevenMore hspots)
    have hlater : line = front ++ gap ++ l.text ++ more.flatMap Segment.text ++ tail := by
      simpa [Segment.text] using hline
    obtain ⟨hoperators, hcommas⟩ := ih hlater (fun h => .inr ⟨Option.some_ne_none _, (hlast h).append _⟩) hevenMore
      hspots.tail
    refine ⟨fun p hp => ?_, List.forall_mem_cons.2 ⟨hcomma, hcommas⟩⟩
    rw [List.filter_cons] at hp
    split at hp
    case isTrue hcode =>
      rw [if_pos hcode] at hoperators
      rcases List.mem_cons.1 hp with rfl | hp
      · exact hoperator
      · exact hoperators p hp
    case isFalse hcode =>
      rw [if_neg hcode] at hoperators
      exact hoperators p hp

/-- **The rules on spacing are silent on a line whose gaps are the wanted ones.** -/
theorem findings_eq_nil_of_even {n : Int} {line : List Char} {ts : List Token} (hts : (Line.read n line).tokens = ts)
    (heven : evenGaps line ts = gaps line ts) (hspots : (spotsFrom none ts).IsChain Compatible) (ruleId : String)
    (severity : Severity) : operatorFindings ruleId severity (Line.read n line) = [] ∧
      commaFindings ruleId severity (Line.read n line) = [] := by
  have hplaced : ts = placed n 1 (Segmentation.of line).segments := hts.symm.trans (Line.tokens_read n line)
  have hline : line = [] ++ (Segmentation.of line).segments.flatMap Segment.text ++ (Segmentation.of line).tail :=
    (Segmentation.text_of line).symm
  rw [hplaced, evenGaps_of, gaps_of] at heven
  rw [hplaced] at hspots
  obtain ⟨hoperators, hcommas⟩ := silent_of_even (Segmentation.spaced_ofFrom true line).tail n
    (Segmentation.solid_ofFrom true line) hline (fun _ => .inl ⟨rfl, rfl⟩) (List.append_cancel_right heven) hspots
  unfold operatorFindings commaFindings Line.code
  rw [hts, hplaced, Line.text_read]
  refine ⟨List.filterMap_eq_nil_iff.2 fun p hp => ?_, List.flatMap_eq_nil_iff.2 fun t ht => ?_⟩
  · exact congrArg (Option.map (misspaced .operatorSpacing ruleId severity p.2)) (hoperators p hp)
  · obtain ⟨hcode, hcomma⟩ := List.mem_filter.1 ht
    rw [hcommas t (List.mem_of_mem_filter hcode) (of_decide_eq_true hcomma)]
    rfl

/-! ## Main result -/

/--
**Spacing can be put right without touching tokens.** Where no comma follows a comma or an operator that is checked, the line
with its gaps put right has the same lexemes in the same order, its gaps are those, and the rules on spacing find nothing.
-/
theorem evened_silent {n : Int} {text : List Char} {ts : List Token} (h : lex n text = .ok ts)
    (hspots : (spotsFrom none ts).IsChain Compatible) :
    (∃ us, lex n (evened text ts) = .ok us ∧ us.map Token.lexeme = ts.map Token.lexeme ∧
      gaps (evened text ts) us = evenGaps text ts) ∧
    ∀ ruleId severity, operatorFindings ruleId severity (Line.read n (evened text ts)) = [] ∧
      commaFindings ruleId severity (Line.read n (evened text ts)) = [] := by
  obtain ⟨us, hread, hlexemes, hgaps⟩ := lex_evened h
  have hsame : spotsFrom none us = spotsFrom none ts := spotsFrom_congr rfl hlexemes
  have htokens : (Line.read n (evened text ts)).tokens = us := by simp [Line.read, hread]
  -- wanted gaps are wanted again, since the lexemes settle what is wanted
  have heven : evenGaps (evened text ts) us = gaps (evened text ts) us := by
    rw [evenGaps, hgaps, hsame]
    exact evenFrom_evenFrom none _ _
  rw [← hsame] at hspots
  exact ⟨⟨us, hread, hlexemes, hgaps⟩, findings_eq_nil_of_even htokens heven hspots⟩

/-- a comma before a sign, one before a comment, and a sign behind an operator that is checked -/
theorem evened_silent_signs : ∃ ts, lex 3 "\tf( a,b ,-1 )=x*-2 ,// c".toList = .ok ts ∧
    (spotsFrom none ts).IsChain Compatible ∧
    evened "\tf( a,b ,-1 )=x*-2 ,// c".toList ts = "\tf( a, b, -1 ) = x * -2, // c".toList ∧
    commaFindings "comma-spacing" .warning (Line.read 3 "\tf( a, b, -1 ) = x * -2, // c".toList) = [] := by
  let ts : List Token := [⟨.identifier ['f'], 3, 2⟩, ⟨.punctuation '(', 3, 3⟩, ⟨.identifier ['a'], 3, 5⟩,
    ⟨.punctuation ',', 3, 6⟩, ⟨.identifier ['b'], 3, 7⟩, ⟨.punctuation ',', 3, 9⟩, ⟨.operator .sub, 3, 10⟩,
    ⟨.number ['1'], 3, 11⟩, ⟨.punctuation ')', 3, 13⟩, ⟨.operator .assign, 3, 14⟩, ⟨.identifier ['x'], 3, 15⟩,
    ⟨.operator .mul, 3, 16⟩, ⟨.operator .sub, 3, 17⟩, ⟨.number ['2'], 3, 18⟩, ⟨.punctuation ',', 3, 20⟩,
    ⟨.comment "// c".toList, 3, 21⟩]
  have hread : lex 3 "\tf( a,b ,-1 )=x*-2 ,// c".toList = .ok ts := by decide +kernel
  have hspots : (spotsFrom none ts).IsChain Compatible := by decide +kernel
  have hevened : evened "\tf( a,b ,-1 )=x*-2 ,// c".toList ts = "\tf( a, b, -1 ) = x * -2, // c".toList := by
    decide +kernel
  have hsilent := ((evened_silent hread hspots).2 "comma-spacing" .warning).2
  rw [hevened] at hsilent
  exact ⟨ts, hread, hspots, hevened, hsilent⟩

end VixStyle.Rule.Spacing
