/-
How diagnostics are sorted.

Diagnostics come in the order of their keys: line, column, rule id and message (`before_iff`), and those of one key keep
their order. So sorting goes one diagnostic at a time (`sortDiagnostics_cons`): the first of a list stands before all that
are not before it. From this come the laws.
- `sortDiagnostics_split`: diagnostics of which some stand before all others are sorted part by part.
- `sortDiagnostics_map`: what does not change the order does not change how they are sorted.
- `sortDiagnostics_forall₂`: neither does what changes diagnostics one by one, seen as pairs of them.
- `sortDiagnostics_filter`: to leave some out before or after sorting is the same.
- `sortDiagnostics_of_ties`: only the order of those of one key matters.
Where no two keys are the same, there is one way only to put diagnostics in order (`eq_sortDiagnostics`).
-/
import Mathlib.Data.Prod.Lex
import Mathlib.Data.String.Basic
import Mathlib.Tactic
import VixStyle.Report

namespace VixStyle

namespace Diagnostic

/-- what diagnostics are sorted by -/
def key (d : Diagnostic) : Int ×ₗ Int ×ₗ String ×ₗ String :=
  toLex (d.line, toLex (d.column, toLex (d.ruleId, d.message)))

theorem before_iff {a b : Diagnostic} : a.before b = true ↔ a.key < b.key := by
  simp only [before, key, Prod.Lex.toLex_lt_toLex, Bool.or_eq_true, Bool.and_eq_true, decide_eq_true_eq, beq_iff_eq]

theorem not_before_iff {a b : Diagnostic} : (!b.before a) = true ↔ a.key ≤ b.key := by
  rw [Bool.not_eq_true', ← Bool.not_eq_true, before_iff, not_lt]

/-- two diagnostics with the columns and ids of two others are in the order of these, if their lines are and, where messages
decide, their messages -/
theorem before_congr {a b a' b' : Diagnostic} (hcolumnA : a'.column = a.column) (hcolumnB : b'.column = b.column)
    (hruleA : a'.ruleId = a.ruleId) (hruleB : b'.ruleId = b.ruleId) (hlt : a'.line < b'.line ↔ a.line < b.line)
    (heq : a'.line = b'.line ↔ a.line = b.line)
    (hmessage : a.line = b.line → a.column = b.column → a.ruleId = b.ruleId →
      (a'.message < b'.message ↔ a.message < b.message)) : a'.before b' = a.before b := by
  rw [Bool.eq_iff_iff, before_iff, before_iff]
  simp only [key, Prod.Lex.toLex_lt_toLex, hcolumnA, hcolumnB, hruleA, hruleB, hlt, heq]
  apply or_congr_right
  apply and_congr_right
  intro hline
  apply or_congr_right
  apply and_congr_right
  intro hcolumn
  apply or_congr_right
  apply and_congr_right
  intro hrule
  exact hmessage hline hcolumn hrule

/-- what keeps places and ids keeps the order of two diagnostics if it keeps that of their messages where messages decide -/
theorem before_map {f : Diagnostic → Diagnostic} (hcolumn : ∀ d, (f d).column = d.column)
    (hrule : ∀ d, (f d).ruleId = d.ruleId) {a b : Diagnostic} (hlt : (f a).line < (f b).line ↔ a.line < b.line)
    (heq : (f a).line = (f b).line ↔ a.line = b.line)
    (hmessage : a.line = b.line → a.column = b.column → a.ruleId = b.ruleId →
      ((f a).message < (f b).message ↔ a.message < b.message)) : (f a).before (f b) = a.before b :=
  before_congr (hcolumn a) (hcolumn b) (hrule a) (hrule b) hlt heq hmessage

end Diagnostic

/-! ## One diagnostic at a time -/

theorem le_trans_before (a b c : Diagnostic) (hab : (!b.before a) = true) (hbc : (!c.before b) = true) :
    (!c.before a) = true := by
  rw [Diagnostic.not_before_iff] at *
  exact hab.trans hbc

theorem le_total_before (a b : Diagnostic) : ((!b.before a) || !a.before b) = true := by
  rw [Bool.or_eq_true, Diagnostic.not_before_iff, Diagnostic.not_before_iff]
  exact le_total _ _

/-- sorted diagnostics with one more, which goes before all that are not before it -/
def insertDiagnostic (d : Diagnostic) : List Diagnostic → List Diagnostic
  | [] => [d]
  | b :: more => if b.before d then b :: insertDiagnostic d more else d :: b :: more

section Insert

variable {d : Diagnostic} {front back : List Diagnostic}

theorem insert_append_of_not_before (h : ∀ b ∈ back, b.before d = false) :
    insertDiagnostic d (front ++ back) = insertDiagnostic d front ++ back := by
  induction front with
  | nil =>
    cases back with
    | nil => rfl
    | cons b back => simp [insertDiagnostic, h b List.mem_cons_self]
  | cons a front ih =>
    simp only [List.cons_append, insertDiagnostic, ih]
    split <;> rfl

theorem insert_append_of_before (h : ∀ b ∈ front, b.before d = true) :
    insertDiagnostic d (front ++ back) = front ++ insertDiagnostic d back := by
  induction front with
  | nil => rfl
  | cons a front ih =>
    rw [List.cons_append, insertDiagnostic, if_pos (h a List.mem_cons_self),
      ih fun b hb => h b (List.mem_cons_of_mem a hb), List.cons_append]

end Insert

/-- **Sorting goes one diagnostic at a time.** -/
theorem sortDiagnostics_cons (d : Diagnostic) (ds : List Diagnostic) :
    sortDiagnostics (d :: ds) = insertDiagnostic d (sortDiagnostics ds) := by
  unfold sortDiagnostics
  obtain ⟨front, back, hall, hold, hfront⟩ := List.mergeSort_cons le_trans_before le_total_before d ds
  have hsorted := List.pairwise_mergeSort le_trans_before le_total_before (d :: ds)
  rw [hall, List.pairwise_append, List.pairwise_cons] at hsorted
  have hback : ∀ b ∈ back, b.before d = false := by
    intro b hb
    simpa using hsorted.2.1.1 b hb
  rw [hall, hold, insert_append_of_before (by simpa using hfront)]
  have hempty : insertDiagnostic d ([] ++ back) = insertDiagnostic d [] ++ back := insert_append_of_not_before hback
  exact congrArg (front ++ ·) hempty.symm

/-- sorting in a form that can be evaluated -/
theorem sortDiagnostics_eq_foldr (ds : List Diagnostic) : sortDiagnostics ds = ds.foldr insertDiagnostic [] := by
  induction ds with
  | nil => simp [sortDiagnostics]
  | cons d ds ih => rw [sortDiagnostics_cons, ih, List.foldr_cons]

/-! ## Laws of sorting -/

theorem mem_sortDiagnostics {d : Diagnostic} {ds : List Diagnostic} : d ∈ sortDiagnostics ds ↔ d ∈ ds :=
  List.mem_mergeSort

/-- **Diagnostics of which some stand before all others** are sorted part by part. -/
theorem sortDiagnostics_split {p : Diagnostic → Bool} {ds : List Diagnostic}
    (h : ∀ a ∈ ds, ∀ b ∈ ds, p a = true → p b = false → a.before b = true) :
    sortDiagnostics ds = sortDiagnostics (ds.filter p) ++ sortDiagnostics (ds.filter fun d => !p d) := by
  induction ds with
  | nil => simp [sortDiagnostics]
  | cons d ds ih =>
    have hds : ∀ a ∈ ds, ∀ b ∈ ds, p a = true → p b = false → a.before b = true := fun a ha b hb =>
      h a (List.mem_cons_of_mem d ha) b (List.mem_cons_of_mem d hb)
    rw [sortDiagnostics_cons, ih hds]
    cases hp : p d with
    | true =>
      rw [List.filter_cons_of_pos hp, List.filter_cons_of_neg (by simp [hp]), sortDiagnostics_cons]
      refine insert_append_of_not_before fun b hb => ?_
      obtain ⟨hb, hpb⟩ := List.mem_filter.1 (mem_sortDiagnostics.1 hb)
      have hdb := h d List.mem_cons_self b (List.mem_cons_of_mem d hb) hp (by simpa using hpb)
      rw [← Bool.not_eq_true, Diagnostic.before_iff]
      exact (Diagnostic.before_iff.1 hdb).asymm
    | false =>
      rw [List.filter_cons_of_neg (by simp [hp]), List.filter_cons_of_pos (by simp [hp]), sortDiagnostics_cons]
      refine insert_append_of_before fun a ha => ?_
      obtain ⟨ha, hpa⟩ := List.mem_filter.1 (mem_sortDiagnostics.1 ha)
      exact h a (List.mem_cons_of_mem d ha) d List.mem_cons_self hpa hp

/-- **What keeps the order of diagnostics** may be done before they are sorted or after. -/
theorem sortDiagnostics_map {f : Diagnostic → Diagnostic} {ds : List Diagnostic}
    (h : ∀ a ∈ ds, ∀ b ∈ ds, (f a).before (f b) = a.before b) :
    sortDiagnostics (ds.map f) = (sortDiagnostics ds).map f := by
  unfold sortDiagnostics
  rw [List.map_mergeSort]
  intro a ha b hb
  rw [h b hb a ha]

/-- **Diagnostics that belong together pair by pair** and are in the same order are sorted in the same way. -/
theorem sortDiagnostics_forall₂ {R : Diagnostic → Diagnostic → Prop} {ds es : List Diagnostic} (h : List.Forall₂ R ds es)
    (horder : ∀ a ∈ ds, ∀ a' ∈ es, R a a' → ∀ b ∈ ds, ∀ b' ∈ es, R b b' → a'.before b' = a.before b) :
    List.Forall₂ R (sortDiagnostics ds) (sortDiagnostics es) := by
  obtain ⟨hlength, hpairs⟩ := List.forall₂_iff_zip.1 h
  have hfirst : (ds.zip es).map Prod.fst = ds := List.map_fst_zip hlength.le
  have hsecond : (ds.zip es).map Prod.snd = es := List.map_snd_zip hlength.ge
  have hkept : ∀ p ∈ ds.zip es, ∀ q ∈ ds.zip es, p.2.before q.2 = p.1.before q.1 := by
    rintro ⟨a, a'⟩ hp ⟨b, b'⟩ hq
    obtain ⟨ha, ha'⟩ := List.of_mem_zip hp
    obtain ⟨hb, hb'⟩ := List.of_mem_zip hq
    exact horder a ha a' ha' (hpairs hp) b hb b' hb' (hpairs hq)
  -- both lists are sorted by sorting the pairs
  have hsorted : ((ds.zip es).mergeSort fun p q => !q.1.before p.1).map Prod.fst = sortDiagnostics ds := by
    rw [List.map_mergeSort (s := fun a b : Diagnostic => !b.before a) fun _ _ _ _ => rfl, hfirst]
    rfl
  have hsorted' : ((ds.zip es).mergeSort fun p q => !q.1.before p.1).map Prod.snd = sortDiagnostics es := by
    rw [List.map_mergeSort (s := fun a b : Diagnostic => !b.before a)
      fun p hp q hq => congrArg not (hkept q hq p hp).symm, hsecond]
    rfl
  rw [← hsorted, ← hsorted', List.forall₂_map_left_iff, List.forall₂_map_right_iff, List.forall₂_same]
  intro p hp
  exact hpairs (List.mem_mergeSort.1 hp)

/-! ## Sorted diagnostics -/

theorem sorted_sortDiagnostics (ds : List Diagnostic) : (sortDiagnostics ds).Pairwise fun a b => a.key ≤ b.key := by
  have hsorted : (sortDiagnostics ds).Pairwise fun a b => (!b.before a) = true :=
    List.pairwise_mergeSort le_trans_before le_total_before ds
  exact hsorted.imp Diagnostic.not_before_iff.1

theorem perm_sortDiagnostics (ds : List Diagnostic) : (sortDiagnostics ds).Perm ds := List.mergeSort_perm ds _

/-- a diagnostic that is put into sorted ones, some of which are then left out -/
theorem filter_insertDiagnostic (p : Diagnostic → Bool) (d : Diagnostic) {ds : List Diagnostic}
    (hds : ds.Pairwise fun a b => a.key ≤ b.key) :
    (insertDiagnostic d ds).filter p = if p d then insertDiagnostic d (ds.filter p) else ds.filter p := by
  induction ds with
  | nil => cases hp : p d <;> simp [insertDiagnostic, hp]
  | cons b more ih =>
    obtain ⟨hb, hmore⟩ := List.pairwise_cons.1 hds
    cases hbd : b.before d with
    | true =>
      rw [insertDiagnostic, if_pos hbd]
      cases hpb : p b with
      | true =>
        rw [List.filter_cons_of_pos hpb, List.filter_cons_of_pos hpb, ih hmore, insertDiagnostic, if_pos hbd]
        split <;> rfl
      | false =>
        have hnot : ¬ p b = true := by simp [hpb]
        rw [List.filter_cons_of_neg hnot, List.filter_cons_of_neg hnot, ih hmore]
    | false =>
      -- none of the others is before `d`, so `d` goes first, whichever of them are left
      have hfirst : ∀ c ∈ (b :: more).filter p, c.before d = false := by
        have hdb : d.key ≤ b.key := by
          rw [← Diagnostic.not_before_iff, hbd]
          rfl
        intro c hc
        have hbc : b.key ≤ c.key := by
          rcases List.mem_cons.1 (List.mem_of_mem_filter hc) with rfl | hc
          · exact le_refl _
          · exact hb c hc
        simpa using Diagnostic.not_before_iff.2 (hdb.trans hbc)
      have hinsert : insertDiagnostic d ([] ++ (b :: more).filter p) = insertDiagnostic d [] ++ (b :: more).filter p :=
        insert_append_of_not_before hfirst
      rw [List.nil_append] at hinsert
      rw [insertDiagnostic, if_neg (by simp [hbd]), hinsert]
      cases hpd : p d with
      | true => exact List.filter_cons_of_pos hpd
      | false => exact List.filter_cons_of_neg (by simp [hpd])

/-- **Leaving some out** may be done before diagnostics are sorted or after. -/
theorem sortDiagnostics_filter (p : Diagnostic → Bool) (ds : List Diagnostic) :
    sortDiagnostics (ds.filter p) = (sortDiagnostics ds).filter p := by
  induction ds with
  | nil => simp [sortDiagnostics]
  | cons d ds ih =>
    rw [sortDiagnostics_cons, filter_insertDiagnostic p d (sorted_sortDiagnostics ds)]
    cases hp : p d with
    | true => rw [List.filter_cons_of_pos hp, sortDiagnostics_cons, ih, if_pos rfl]
    | false => rw [List.filter_cons_of_neg (by simp [hp]), ih, if_neg (by simp)]

section Ties

variable {ds es : List Diagnostic} (hties : ∀ k, (ds.filter fun d => d.key = k) = es.filter fun d => d.key = k)

include hties

theorem mem_iff_of_ties (d : Diagnostic) : d ∈ ds ↔ d ∈ es := by
  have hd := congrArg (d ∈ ·) (hties d.key)
  simpa using hd

/-- sorted diagnostics are the same if those of each key are, in their order -/
theorem eq_of_ties (hds : ds.Pairwise fun a b => a.key ≤ b.key) (hes : es.Pairwise fun a b => a.key ≤ b.key) :
    ds = es := by
  induction ds generalizing es with
  | nil =>
    cases es with
    | nil => rfl
    | cons e es => simpa using mem_iff_of_ties hties e
  | cons d ds ih =>
    cases es with
    | nil => simpa using mem_iff_of_ties hties d
    | cons e es =>
      obtain ⟨hd, hds'⟩ := List.pairwise_cons.1 hds
      obtain ⟨he, hes'⟩ := List.pairwise_cons.1 hes
      -- the two first ones have one key, for each of them is in the other list
      have hkey : d.key = e.key := by
        have hed : e.key ≤ d.key := by
          rcases List.mem_cons.1 ((mem_iff_of_ties hties d).1 List.mem_cons_self) with rfl | hmem
          · exact le_refl _
          · exact he d hmem
        have hde : d.key ≤ e.key := by
          rcases List.mem_cons.1 ((mem_iff_of_ties hties e).2 List.mem_cons_self) with rfl | hmem
          · exact le_refl _
          · exact hd e hmem
        exact le_antisymm hde hed
      have hfirst : d = e := by
        have hd := hties d.key
        rw [List.filter_cons_of_pos (by simp), List.filter_cons_of_pos (by simp [hkey])] at hd
        exact (List.cons.inj hd).1
      have hrest : ∀ k, (ds.filter fun d => d.key = k) = es.filter fun d => d.key = k := by
        intro k
        have hk := hties k
        rw [← hfirst] at hk
        by_cases hdk : d.key = k
        · rw [List.filter_cons_of_pos (by simp [hdk]), List.filter_cons_of_pos (by simp [hdk])] at hk
          exact (List.cons.inj hk).2
        · rwa [List.filter_cons_of_neg (by simp [hdk]), List.filter_cons_of_neg (by simp [hdk])] at hk
      rw [hfirst, ih hrest hds' hes']

/-- **Only the order of diagnostics of one key matters** to how diagnostics are sorted. -/
theorem sortDiagnostics_of_ties : sortDiagnostics ds = sortDiagnostics es := by
  refine eq_of_ties (fun k => ?_) (sorted_sortDiagnostics ds) (sorted_sortDiagnostics es)
  rw [← sortDiagnostics_filter, ← sortDiagnostics_filter, hties k]

end Ties

section Distinct

variable {ds : List Diagnostic} (hkeys : ds.Pairwise fun a b => a.key ≠ b.key)

include hkeys

/-- **Where keys differ**, they ascend strictly once diagnostics are sorted. -/
theorem strict_sortDiagnostics : (sortDiagnostics ds).Pairwise fun a b => a.key < b.key := by
  have hsorted : (sortDiagnostics ds).Pairwise fun a b => a.key ≠ b.key :=
    (perm_sortDiagnostics ds).symm.pairwise hkeys fun h => h.symm
  exact (sorted_sortDiagnostics ds).imp₂ (fun _ _ hle hne => lt_of_le_of_ne hle hne) hsorted

/-- **Where keys differ**, diagnostics can be put in order in one way only. -/
theorem eq_sortDiagnostics {es : List Diagnostic} (hperm : es.Perm ds) (hsorted : es.Pairwise fun a b => a.key ≤ b.key) :
    es = sortDiagnostics ds := by
  have hes : es.Pairwise fun a b => a.key ≠ b.key := hperm.symm.pairwise hkeys fun h => h.symm
  refine List.Perm.eq_of_pairwise (fun a b _ _ hab hba => absurd hab hba.asymm)
    (hsorted.imp₂ (fun _ _ hle hne => lt_of_le_of_ne hle hne) hes) (strict_sortDiagnostics hkeys)
    (hperm.trans (perm_sortDiagnostics ds).symm)

end Distinct

end VixStyle
