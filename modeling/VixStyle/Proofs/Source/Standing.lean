/-
Which token of a source a diagnostic is about.

A token is known by its line and column (`Line.index_eq`), and so is its line by its number (`Line.eq_of_number`). So a
diagnostic stands at one token (`Line.token_eq_of_at`). A check that goes line by line reports of a token what it finds of it
on its line (`LineByLine.mem_at_iff`), and it reports from the start of the source to its end if it does so on each line
(`LineByLine.ordered`).
-/
import VixStyle.Proofs.Source.Columns

namespace VixStyle

/-! ## Tokens -/

/-- lines that are read together are told apart by their numbers -/
theorem Line.eq_of_number {texts : List (List Char)} {l m : Line} (hl : l ∈ readAll texts) (hm : m ∈ readAll texts)
    (h : l.number = m.number) : l = m := by
  have hnumbers : ((readAll texts).map Line.number).Nodup :=
    List.pairwise_map.2 ((ordered_readFrom 1 texts).imp fun h => h.ne)
  exact List.inj_on_of_nodup_map hnumbers hl hm h

/-- the tokens of a line are told apart by their columns -/
theorem Line.index_eq {l : Line} (hread : l.WasRead) {i j : Nat} {t u : Token} (ht : l.code[i]? = some t)
    (hu : l.code[j]? = some u) (h : t.column = u.column) : i = j := by
  obtain ⟨hi, rfl⟩ := List.getElem?_eq_some_iff.1 ht
  obtain ⟨hj, rfl⟩ := List.getElem?_eq_some_iff.1 hu
  have hordered := List.pairwise_iff_getElem.1 (Line.ordered_code hread)
  rcases Nat.lt_trichotomy i j with hlt | heq | hlt
  · exact absurd h (hordered i j hi hj hlt).ne
  · exact heq
  · exact absurd h (hordered j i hj hi hlt).ne'

/-- two tokens of a line have no column in common -/
theorem Line.apart_of_ne {l : Line} (hread : l.WasRead) {t u : Token} (ht : t ∈ l.tokens) (hu : u ∈ l.tokens) (hne : t ≠ u) :
    t.endColumn ≤ u.column ∨ u.endColumn ≤ t.column := by
  have hsymm : Std.Symm fun t u : Token => t.endColumn ≤ u.column ∨ u.endColumn ≤ t.column := ⟨fun _ _ => Or.symm⟩
  have hordered : l.tokens.Pairwise fun t u => t.endColumn ≤ u.column ∨ u.endColumn ≤ t.column :=
    (Line.tiles_of_wasRead hread).ordered.imp Or.inl
  exact hordered.forall ht hu hne

/-! ## Diagnostics -/

/-- a diagnostic at a token -/
structure Diagnostic.At (e : Diagnostic) (t : Token) : Prop where
  line : e.line = t.line
  column : e.column = t.column

/-- at one place of a source stands one token -/
theorem Line.token_eq_of_at {texts : List (List Char)} {l m : Line} (hl : l ∈ readAll texts) (hm : m ∈ readAll texts)
    {t u : Token} (ht : t ∈ l.code) (hu : u ∈ m.code) {e : Diagnostic} (het : e.At t) (heu : e.At u) : t = u := by
  have hnumber : l.number = m.number := by
    rw [← (numbered_readAll l hl).code t ht, ← (numbered_readAll m hm).code u hu, ← het.line, heu.line]
  obtain rfl := eq_of_number hl hm hnumber
  obtain ⟨i, hi⟩ := List.mem_iff_getElem?.1 ht
  obtain ⟨j, hj⟩ := List.mem_iff_getElem?.1 hu
  obtain rfl := index_eq (wasRead_readAll l hl) hi hj (Int.ofNat_inj.1 (het.column.symm.trans heu.column))
  exact Option.some.inj (hi.symm.trans hj)

/-- where a diagnostic stands: places further up come first, and on one line those further to the left -/
def Diagnostic.place (e : Diagnostic) : ℤ ×ₗ ℤ := toLex (e.line, e.column)

namespace LineByLine

variable {check : Source → List Diagnostic} {find : Line → List Diagnostic} (h : LineByLine check find)
  {text : List Char} {texts : List (List Char)}

include h

/-- **What is reported of a token** is what is found of it on its line. -/
theorem mem_at_iff {l : Line} (hl : l ∈ Line.readAll texts) {t : Token} (ht : t ∈ l.code) {e : Diagnostic} (hat : e.At t) :
    e ∈ check ⟨text, Line.readAll texts⟩ ↔ e ∈ find l := by
  rw [h.check_eq, List.mem_flatMap]
  constructor
  · rintro ⟨m, hm, he⟩
    have hnumber : m.number = l.number := by
      rw [← h.line m (Line.numbered_readAll m hm) e he, hat.line, (Line.numbered_readAll l hl).code t ht]
    rwa [← Line.eq_of_number hm hl hnumber]
  · exact fun he => ⟨l, hl, he⟩

/-- **Reports on different lines stand in the order of the lines**, so only those on one line have to be compared. -/
theorem pairwise {R : Diagnostic → Diagnostic → Prop} (hlines : ∀ d e, d.line < e.line → R d e)
    (hfind : ∀ l ∈ Line.readAll texts, (find l).Pairwise R) : (check ⟨text, Line.readAll texts⟩).Pairwise R := by
  have hline : ∀ l ∈ Line.readAll texts, ∀ d ∈ find l, d.line = l.number :=
    fun l hl => h.line l (Line.numbered_readAll l hl)
  rw [h.check_eq]
  refine List.pairwise_flatMap.2 ⟨hfind, ?_⟩
  refine (Line.ordered_readFrom 1 texts).imp_of_mem fun {l m} hl hm hlt d hd e he => hlines d e ?_
  rwa [hline l hl d hd, hline m hm e he]

/-- **Reports stand in the order of the source** if those on each line do. -/
theorem ordered (hfind : ∀ l ∈ Line.readAll texts, (find l).Pairwise fun d e => d.column < e.column) :
    (check ⟨text, Line.readAll texts⟩).Pairwise fun d e => d.place < e.place := by
  have hline : ∀ l ∈ Line.readAll texts, ∀ d ∈ find l, d.line = l.number :=
    fun l hl => h.line l (Line.numbered_readAll l hl)
  refine h.pairwise (fun d e hlt => Prod.Lex.toLex_lt_toLex.2 (Or.inl hlt)) fun l hl => ?_
  refine (hfind l hl).imp_of_mem fun {d e} hd he hlt => ?_
  exact Prod.Lex.toLex_lt_toLex.2 (Or.inr ⟨(hline l hl d hd).trans (hline l hl e he).symm, hlt⟩)

end LineByLine

end VixStyle
