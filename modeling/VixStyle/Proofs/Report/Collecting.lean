/-
Reports on groups of diagnostics.

Main statement, `report_of_groups`: the report on some groups arranges all their diagnostics. It has each of them as often as
the groups have it, in the order of their keys, and those of one key stand as they were given; its counts are the sums of
the counts of reports on the single groups. Where a key tells what diagnostic it belongs to, the order in which the groups
and their members were given does not show.

Keys have texts in them. How these are ordered is said here by numbers alone, the code points of their characters
(`Diagnostic.codeKey`).
-/
import VixStyle.Proofs.Report.Sorting

namespace VixStyle

/-! ## Texts as numbers -/

namespace Text

/-- the code points of a text -/
def codes (s : String) : List Nat := s.toList.map Char.toNat

theorem map_toNat_lt_iff (s t : List Char) : s.map Char.toNat < t.map Char.toNat ↔ s < t := by
  induction s generalizing t with
  | nil => cases t <;> simp
  | cons c s ih =>
    cases t with
    | nil => simp
    | cons d t =>
      have hlt : c.toNat < d.toNat ↔ c < d := Iff.rfl
      have heq : c.toNat = d.toNat ↔ c = d := Char.toNat_inj
      rw [List.map_cons, List.map_cons, List.cons_lt_cons_iff, List.cons_lt_cons_iff, ih, hlt, heq]

/-- **Texts are ordered by the code points of their characters.** -/
theorem strictMono_codes : StrictMono codes := by
  intro s t h
  exact (map_toNat_lt_iff s.toList t.toList).2 (String.lt_iff_toList_lt.1 h)

end Text

namespace Diagnostic

/-- what diagnostics are sorted by, in numbers -/
def codeKey (d : Diagnostic) : Int ×ₗ Int ×ₗ List Nat ×ₗ List Nat :=
  toLex (d.line, toLex (d.column, toLex (Text.codes d.ruleId, Text.codes d.message)))

variable {a b : Diagnostic}

theorem codeKey_lt_iff : a.codeKey < b.codeKey ↔ a.key < b.key := by
  simp only [codeKey, key, Prod.Lex.toLex_lt_toLex, Text.strictMono_codes.lt_iff_lt,
    Text.strictMono_codes.injective.eq_iff]

theorem codeKey_le_iff : a.codeKey ≤ b.codeKey ↔ a.key ≤ b.key := by
  rw [← not_lt, codeKey_lt_iff, not_lt]

theorem codeKey_eq_iff : a.codeKey = b.codeKey ↔ a.key = b.key := by
  rw [le_antisymm_iff, le_antisymm_iff, codeKey_le_iff, codeKey_le_iff]

end Diagnostic

/-! ## Sorting what is sorted -/

theorem sortDiagnostics_of_sorted {ds : List Diagnostic} (h : ds.Pairwise fun a b => a.key ≤ b.key) :
    sortDiagnostics ds = ds :=
  List.mergeSort_of_pairwise (h.imp Diagnostic.not_before_iff.2)

/-- **Those of one key** stand as they were given. -/
theorem filter_sortDiagnostics_of_tied {p : Diagnostic → Bool} (hp : ∀ a b, p a = true → p b = true → a.key = b.key)
    (ds : List Diagnostic) : (sortDiagnostics ds).filter p = ds.filter p := by
  rw [← sortDiagnostics_filter]
  refine sortDiagnostics_of_sorted (List.pairwise_of_forall_mem_list fun a ha b hb => ?_)
  exact (hp a b (List.mem_filter.1 ha).2 (List.mem_filter.1 hb).2).le

/-- **Where a key tells the diagnostic**, those that are the same up to their order are sorted in one way. -/
theorem sortDiagnostics_perm {ds es : List Diagnostic} (hkeys : ∀ a ∈ ds, ∀ b ∈ ds, a.key = b.key → a = b)
    (hperm : es.Perm ds) : sortDiagnostics es = sortDiagnostics ds := by
  have hsame : (sortDiagnostics es).Perm (sortDiagnostics ds) :=
    (perm_sortDiagnostics es).trans (hperm.trans (perm_sortDiagnostics ds).symm)
  refine hsame.eq_of_pairwise ?_ (sorted_sortDiagnostics es) (sorted_sortDiagnostics ds)
  intro a b ha hb hab hba
  exact hkeys a (hperm.mem_iff.1 (mem_sortDiagnostics.1 ha)) b (mem_sortDiagnostics.1 hb) (le_antisymm hab hba)

/-! ## Reports -/

/-- a report holds some diagnostics in the order of their keys, ties as they were given, and counts them -/
structure Report.Arranges (r : Report) (ds : List Diagnostic) : Prop where
  perm : r.diagnostics.Perm ds
  ascending : r.diagnostics.Pairwise fun a b => a.codeKey ≤ b.codeKey
  ties : ∀ k, (r.diagnostics.filter fun d => d.codeKey = k) = ds.filter fun d => d.codeKey = k
  errors : r.errorCount = ds.countP fun d => d.severity = .error
  total : r.errorCount + r.warningCount = ds.length

theorem errorCount_of (ds : List Diagnostic) : (Report.of ds).errorCount = ds.countP Diagnostic.isError :=
  (perm_sortDiagnostics ds).countP_eq _

theorem warningCount_of (ds : List Diagnostic) : (Report.of ds).warningCount = ds.countP fun d => !d.isError := by
  have hlength : (Report.of ds).diagnostics.length = ds.length := (perm_sortDiagnostics ds).length_eq
  have hsplit := List.length_eq_countP_add_countP Diagnostic.isError (l := ds)
  simp only [Bool.not_eq_true, Bool.decide_eq_false] at hsplit
  rw [Report.warningCount, errorCount_of, hlength]
  omega

theorem arranges_of (ds : List Diagnostic) : (Report.of ds).Arranges ds where
  perm := perm_sortDiagnostics ds
  ascending := (sorted_sortDiagnostics ds).imp Diagnostic.codeKey_le_iff.2
  ties k := by
    refine filter_sortDiagnostics_of_tied (fun a b ha hb => ?_) ds
    exact Diagnostic.codeKey_eq_iff.1 ((of_decide_eq_true ha).trans (of_decide_eq_true hb).symm)
  errors := errorCount_of ds
  total := by
    rw [Report.errorCount_add_warningCount]
    exact (perm_sortDiagnostics ds).length_eq

/--
**A report is faithful to what it is made of.** The report on some groups arranges all their diagnostics. Both its counts
are the sums of those of the single groups. Where diagnostics of one key are the same, groups and members given in any
other order have the same report.
-/
theorem report_of_groups (groups : List (List Diagnostic)) :
    (Report.of groups.flatten).Arranges groups.flatten ∧
      (Report.of groups.flatten).errorCount = (groups.map fun group => (Report.of group).errorCount).sum ∧
      (Report.of groups.flatten).warningCount = (groups.map fun group => (Report.of group).warningCount).sum ∧
      ((∀ a ∈ groups.flatten, ∀ b ∈ groups.flatten, a.codeKey = b.codeKey → a = b) →
        ∀ groups' : List (List Diagnostic), groups'.flatten.Perm groups.flatten →
          Report.of groups'.flatten = Report.of groups.flatten) := by
  refine ⟨arranges_of groups.flatten, ?_, ?_, fun hkeys groups' hperm => ?_⟩
  · simp only [errorCount_of, List.countP_flatten]
  · simp only [warningCount_of, List.countP_flatten]
  · refine congrArg Report.mk (sortDiagnostics_perm (fun a ha b hb hkey => ?_) hperm)
    exact hkeys a ha b hb (Diagnostic.codeKey_eq_iff.2 hkey)

/-- an error and two warnings, two of them at one place; the one that stands first comes from the second group -/
def scatteredGroups : List (List Diagnostic) :=
  [[⟨"b-rule", "z", 2, 1, .error, none, none⟩, ⟨"b-rule", "é", 1, 7, .warning, none, none⟩],
    [⟨"b-rule", "z", 1, 7, .warning, none, none⟩]]

/-- the groups in the opposite order have the same report, in which `z` stands before `é` -/
theorem report_of_groups_scattered :
    (∀ a ∈ scatteredGroups.flatten, ∀ b ∈ scatteredGroups.flatten, a.codeKey = b.codeKey → a = b) ∧
      scatteredGroups.reverse.flatten.Perm scatteredGroups.flatten ∧
      Report.of scatteredGroups.reverse.flatten = Report.of scatteredGroups.flatten ∧
      (Report.of scatteredGroups.flatten).diagnostics.map (fun d => (d.line, d.message)) =
        [(1, "z"), (1, "é"), (2, "z")] ∧
      (Report.of scatteredGroups.flatten).warningCount = 2 := by
  have hkeys : ∀ a ∈ scatteredGroups.flatten, ∀ b ∈ scatteredGroups.flatten, a.codeKey = b.codeKey → a = b := by
    decide +kernel
  have hperm : scatteredGroups.reverse.flatten.Perm scatteredGroups.flatten := by decide +kernel
  obtain ⟨harranges, herrors, hwarnings, hsame⟩ := report_of_groups scatteredGroups
  refine ⟨hkeys, hperm, hsame hkeys _ hperm, ?_, ?_⟩
  · rw [Report.of, sortDiagnostics_eq_foldr]
    decide +kernel
  · rw [hwarnings]
    simp only [warningCount_of]
    decide +kernel

end VixStyle
