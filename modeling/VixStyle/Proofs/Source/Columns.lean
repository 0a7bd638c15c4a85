/-
Where the tokens of a line and the names that it declares stand.

The code tokens of a line that was read stand in the line (`column_within`), one behind the other (`ordered_code`). Declared
names and nameless keywords stand where tokens stand, each where another stands (`columns_findings`): a keyword yields
only what stands behind it and before the next keyword that is looked at. This is shown by cutting the tokens behind the
keyword into a front, which declares nothing by itself and holds the names, and the rest (`findingsAt_cut`).
-/
import VixStyle.Proofs.Source.Later

namespace VixStyle

open scoped List

/-- what is made of some of a list stands where the list has it -/
theorem map_filterMap_sublist {α β γ : Type} {g : α → Option β} {h : β → γ} {k : α → γ}
    (hg : ∀ x, ∀ y ∈ g x, h y = k x) (xs : List α) : (xs.filterMap g).map h <+ xs.map k := by
  induction xs with
  | nil => exact List.Sublist.slnil
  | cons x xs ih =>
    cases hx : g x with
    | none =>
      rw [List.filterMap_cons_none hx]
      exact ih.cons (k x)
    | some y =>
      rw [List.filterMap_cons_some hx, List.map_cons, List.map_cons, hg x y hx]
      exact ih.cons_cons (k x)

/-! ## Tokens of a line -/

/-- a line that was read from a text -/
def Line.WasRead (l : Line) : Prop := l = Line.read l.number l.text

namespace Line

theorem text_read (number : Int) (text : List Char) : (read number text).text = text := by
  unfold read
  split <;> rfl

theorem wasRead_read (number : Int) (text : List Char) : (read number text).WasRead := by
  unfold WasRead
  rw [number_read, text_read]

/-- the lines of a text are read in their order, numbered from a number on -/
theorem getElem?_of_mem_readFrom {number : Int} {texts : List (List Char)} {l : Line} (h : l ∈ readFrom number texts) :
    ∃ i : Nat, texts[i]? = some l.text ∧ l.number = number + i ∧ l.WasRead := by
  induction texts generalizing number with
  | nil => cases h
  | cons text texts ih =>
    rcases List.mem_cons.1 h with rfl | h
    · exact ⟨0, by rw [text_read]; rfl, by rw [number_read]; simp, wasRead_read number text⟩
    · obtain ⟨i, htext, hnumber, hread⟩ := ih h
      refine ⟨i + 1, htext, ?_, hread⟩
      rw [hnumber]
      push_cast
      ring

theorem wasRead_readAll {texts : List (List Char)} : ∀ l ∈ readAll texts, l.WasRead := by
  intro l hl
  obtain ⟨-, -, -, hread⟩ := getElem?_of_mem_readFrom hl
  exact hread

section WasRead

variable {l : Line} (h : l.WasRead)

include h

theorem tiles_of_wasRead : Tiles l.number l.text l.tokens := by
  have htiles := (read_tiles l.number l.text).1
  rwa [← h] at htiles

/-- **Tokens stand in their line.** -/
theorem column_within {t : Token} (ht : t ∈ l.tokens) : 1 ≤ t.column ∧ t.column ≤ l.text.length := by
  obtain ⟨hlow, hpiece⟩ := (tiles_of_wasRead h).standing t ht
  refine ⟨hlow, ?_⟩
  have hlength : 0 < (between l.text t.column t.endColumn).length := by
    rw [hpiece]
    exact List.length_pos_iff.2 ((tiles_of_wasRead h).nonempty t ht)
  unfold between at hlength
  rw [List.length_drop, List.length_take] at hlength
  omega

/-- **Tokens stand one behind the other.** -/
theorem ordered_code : l.code.Pairwise fun t u => t.column < u.column := by
  have htiles := tiles_of_wasRead h
  have hordered : l.tokens.Pairwise fun t u => t.column < u.column := by
    refine htiles.ordered.imp_of_mem fun {t u} ht _ htu => ?_
    have hlength := List.length_pos_iff.2 (htiles.nonempty t ht)
    have hend : t.endColumn = t.column + t.text.length := rfl
    omega
  exact hordered.filter _

theorem numbered_of_wasRead : l.Numbered := (tiles_of_wasRead h).numbered

/-- an unclosed string literal is a token of the code -/
theorem token_of_fault {e : UnclosedString} (he : l.fault? = some e) : ∃ t ∈ l.code, t.column = e.column := by
  obtain ⟨written, hlast, -⟩ := (read_tiles l.number l.text).2 e (h ▸ he)
  rw [← h] at hlast
  exact ⟨_, List.mem_filter.2 ⟨List.mem_of_getLast? hlast, rfl⟩, rfl⟩

end WasRead

end Line

/-! ## Declared names -/

/-- a token that no declaration starts with -/
def Token.DeclaresNothing (t : Token) : Prop := ∀ keyword, t.lexeme = .keyword keyword → keyword.declares? = none

namespace Finding

/-- the column of the name or of the keyword -/
def column : Finding → Nat
  | declared d => d.column
  | nameless d => d.column

/-- tokens cut in two: those in front declare nothing -/
def Cut (ts front back : List Token) : Prop := ts = front ++ back ∧ ∀ t ∈ front, t.DeclaresNothing

theorem Cut.cons {t : Token} (ht : t.DeclaresNothing) {ts front back : List Token} (h : Cut ts front back) :
    Cut (t :: ts) (t :: front) back := by
  obtain ⟨rfl, hfront⟩ := h
  exact ⟨rfl, List.forall_mem_cons.2 ⟨ht, hfront⟩⟩

theorem cut_nil (ts : List Token) : Cut ts [] ts := ⟨rfl, fun _ h => by cases h⟩

/-- the names of a list stand in front of what declares something else -/
theorem listedNames_cut (ts : List Token) :
    ∃ front back, Cut ts front back ∧ (listedNames ts).map Prod.fst <+ front := by
  induction ts using listedNames.induct with
  | case1 comma item rest name hitem hcomma ih =>
    obtain ⟨front, back, hcut, hnames⟩ := ih
    have hquiet : comma.DeclaresNothing := fun k hk => by rw [hcomma] at hk; cases hk
    have hquiet' : item.DeclaresNothing := fun k hk => by rw [hitem] at hk; cases hk
    refine ⟨comma :: item :: front, back, (hcut.cons hquiet').cons hquiet, ?_⟩
    simp only [listedNames, hcomma, hitem, List.map_cons]
    exact (hnames.cons_cons item).cons comma
  | case2 comma item rest hnot =>
    refine ⟨[], comma :: item :: rest, cut_nil _, ?_⟩
    simp only [listedNames]
    exact List.nil_sublist _
  | case3 ts hnot =>
    refine ⟨[], ts, cut_nil ts, ?_⟩
    obtain _ | ⟨a, _ | ⟨b, rest⟩⟩ := ts
    · exact List.nil_sublist _
    · exact List.nil_sublist _
    · exact (hnot a b rest rfl).elim

/-- what a keyword yields stands at the keyword or in front of what declares something else -/
theorem named_cut (kind : DeclarationKind) (keyword : Keyword) (t : Token) (ts : List Token) :
    ∃ front back, Cut ts front back ∧ (named kind keyword t ts).map column <+ (t :: front).map Token.column := by
  cases ts with
  | nil => exact ⟨[], [], cut_nil [], List.Sublist.refl _⟩
  | cons first rest =>
    simp only [named]
    split
    · rename_i name hname
      have hquiet : first.DeclaresNothing := fun k hk => by rw [hname] at hk; cases hk
      obtain ⟨front, back, hcut, hitems⟩ : ∃ front back, Cut rest front back ∧
          (if kind = .func then [] else listedNames rest).map Prod.fst <+ front := by
        split
        · exact ⟨[], rest, cut_nil rest, List.nil_sublist _⟩
        · exact listedNames_cut rest
      have hcolumns : ((first, name) :: if kind = .func then [] else listedNames rest).map
          (column ∘ fun item => declared (declaration kind keyword item)) =
            (((first, name) :: if kind = .func then [] else listedNames rest).map Prod.fst).map Token.column := by
        rw [List.map_map]
        rfl
      refine ⟨first :: front, back, hcut.cons hquiet, ?_⟩
      rw [List.map_map, hcolumns]
      exact ((hitems.cons_cons first).map Token.column).cons t.column
    · refine ⟨[], first :: rest, cut_nil _, ?_⟩
      split
      · exact List.nil_sublist _
      · exact List.Sublist.refl _
    · exact ⟨[], first :: rest, cut_nil _, List.Sublist.refl _⟩

/-- the token that `afterModifier` takes away is a second keyword, which is not looked at by itself -/
theorem afterModifier_cases {kind : DeclarationKind} {t : Token} {keyword : Keyword}
    (ht : t.lexeme = .keyword keyword) (hkind : keyword.declares? = some kind) (rest : List Token) :
    afterModifier kind rest = rest ∨
      ∃ second more, rest = second :: more ∧ afterModifier kind rest = more ∧ findingsAt (some t) second more = [] := by
  have hstatic : kind = .static → t.lexeme = .keyword .static_ := by
    rintro rfl
    cases keyword <;> first | exact ht | cases hkind
  cases rest with
  | nil => exact Or.inl rfl
  | cons second more =>
    simp only [afterModifier]
    split
    · rename_i hsecond
      exact Or.inr ⟨second, more, rfl, rfl, by simp [findingsAt, hsecond, hstatic rfl, Keyword.declares?]⟩
    · rename_i hsecond
      exact Or.inr ⟨second, more, rfl, rfl, by simp [findingsAt, hsecond, hstatic rfl, Keyword.declares?]⟩
    · rename_i hsecond
      exact Or.inr ⟨second, more, rfl, rfl, by simp [findingsAt, hsecond, hstatic rfl, Keyword.declares?]⟩
    · rename_i hsecond
      exact Or.inr ⟨second, more, rfl, rfl, by simp [findingsAt, hsecond, Keyword.declares?]⟩
    · exact Or.inl rfl

end Finding

theorem findingsAt_of_declaresNothing {t : Token} (ht : t.DeclaresNothing) (before : Option Token) (rest : List Token) :
    findingsAt before t rest = [] := by
  unfold findingsAt
  split
  · rename_i keyword hkeyword
    rw [ht keyword hkeyword]
  · rfl

/-- tokens in front that declare nothing do not matter, but for the one before the others -/
theorem findingsFrom_cut {ts front back : List Token} (h : Finding.Cut ts front back) (before : Option Token) :
    ∃ last, findingsFrom before ts = findingsFrom last back := by
  obtain ⟨rfl, hfront⟩ := h
  induction front generalizing before with
  | nil => exact ⟨before, rfl⟩
  | cons t front ih =>
    obtain ⟨ht, hfront⟩ := List.forall_mem_cons.1 hfront
    obtain ⟨last, hlast⟩ := ih (some t) hfront
    refine ⟨last, ?_⟩
    rw [List.cons_append, findingsFrom, findingsAt_of_declaresNothing ht]
    exact hlast

/-- a token yields nothing, or what its keyword names -/
theorem findingsAt_cases (before : Option Token) (t : Token) (rest : List Token) :
    findingsAt before t rest = [] ∨ ∃ keyword kind, t.lexeme = .keyword keyword ∧ keyword.declares? = some kind ∧
      findingsAt before t rest = Finding.named kind keyword t (Finding.afterModifier kind rest) := by
  unfold findingsAt
  split
  · rename_i keyword hkeyword
    split
    · exact Or.inl rfl
    · rename_i kind hkind
      split_ifs
      · exact Or.inl rfl
      · exact Or.inl rfl
      · exact Or.inr ⟨keyword, kind, hkeyword, hkind, rfl⟩
  · exact Or.inl rfl

/-- **What a token yields** stands at it or in front of all that the further tokens yield. -/
theorem findingsAt_cut (before : Option Token) (t : Token) (rest : List Token) :
    ∃ front back last, rest = front ++ back ∧ findingsFrom (some t) rest = findingsFrom last back ∧
      (findingsAt before t rest).map Finding.column <+ (t :: front).map Token.column := by
  obtain hnone | ⟨keyword, kind, hkeyword, hkind, hnamed⟩ := findingsAt_cases before t rest
  · rw [hnone]
    exact ⟨[], rest, some t, rfl, rfl, List.nil_sublist _⟩
  rw [hnamed]
  obtain hsame | ⟨second, more, rfl, hmore, hquiet⟩ := Finding.afterModifier_cases hkeyword hkind rest
  · obtain ⟨front, back, hcut, hcolumns⟩ := Finding.named_cut kind keyword t rest
    obtain ⟨last, hlast⟩ := findingsFrom_cut hcut (some t)
    rw [hsame]
    exact ⟨front, back, last, hcut.1, hlast, hcolumns⟩
  · obtain ⟨front, back, hcut, hcolumns⟩ := Finding.named_cut kind keyword t more
    obtain ⟨last, hlast⟩ := findingsFrom_cut hcut (some second)
    refine ⟨second :: front, back, last, congrArg (second :: ·) hcut.1, ?_, ?_⟩
    · rw [findingsFrom, hquiet]
      exact hlast
    · rw [hmore]
      exact hcolumns.trans (((List.sublist_cons_self second front).cons_cons t).map Token.column)

/-- **Findings stand where tokens stand**, each where another stands. -/
theorem columns_findingsFrom (before : Option Token) (ts : List Token) :
    (findingsFrom before ts).map Finding.column <+ ts.map Token.column := by
  -- the rest behind the names of a keyword is shorter, but not by one token
  induction hn : ts.length using Nat.strong_induction_on generalizing before ts with
  | _ n ih =>
    cases ts with
    | nil => exact List.nil_sublist _
    | cons t rest =>
      obtain ⟨front, back, last, rfl, hback, hhere⟩ := findingsAt_cut before t rest
      have hshort : back.length < n := by
        rw [← hn, List.length_cons, List.length_append]
        omega
      rw [findingsFrom, List.map_append, hback, ← List.cons_append, List.map_append]
      exact hhere.append (ih back.length hshort last back rfl)

/-- the findings of a line stand where tokens of its code stand -/
theorem Line.columns_findings (l : Line) : l.findings.map Finding.column <+ l.code.map Token.column :=
  columns_findingsFrom none l.code

end VixStyle
