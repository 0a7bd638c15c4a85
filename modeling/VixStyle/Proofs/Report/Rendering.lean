/-
Reports read back from their text.

A diagnostic is `Worded` if it is of one of the problems that are looked for and what it says stands on one line. Main
statement, `Report.eq_of_render_eq`: a report of such diagnostics is known from its text with hints, whatever the messages and
hints hold beside terminators.

- `Worded.render_eq`: a diagnostic is shown in one or two lines (`Diagnostic.shownLines`).
- `Worded.eq_of_head`: the first line tells all but the hint. No number has a colon or a blank in it, and no rule id has
  a colon, so these cut the line, and the rule id tells the rest of the problem.
- `eq_of_shownLines`: a line with a hint goes on with blanks where a first line has its marker.
-/
import VixStyle.Diagnostic.Catalogue
import VixStyle.Proofs.Text.Unbroken
import VixStyle.Report.Text

namespace VixStyle

open Text

/-! ## Problems -/

namespace Problem

/-- the kinds of problems that are looked for -/
def all : List Problem :=
  [unterminatedString, malformedDeclaration, constNaming, staticNaming, varNaming, funcNaming, operatorSpacing, commaSpacing,
    indentationConsistency, singleVsMultilineIf]

/-- **A problem is known from its rule id.** -/
theorem eq_of_ruleId : ∀ p ∈ all, ∀ q ∈ all, p.ruleId = q.ruleId → p = q := by decide

theorem colon_notMem_ruleId : ∀ p ∈ all, ':' ∉ p.ruleId.toList := by decide

theorem oneLine_ruleId : ∀ p ∈ all, OneLine p.ruleId := by
  simp only [all, List.forall_mem_cons]
  refine ⟨?_, ?_, ?_, ?_, ?_, ?_, ?_, ?_, ?_, ?_, List.forall_mem_nil _⟩ <;> exact oneLine_ofList (by decide)

theorem isKnown_severity : ∀ p ∈ all, p.severity.isKnown = true := by decide

end Problem

/-! ## The lines of a diagnostic -/

namespace Severity

/-- the marker of a severity that has one -/
def shownMarker : Severity → String
  | warning => warningMarker
  | _ => errorMarker

theorem marker_eq {s : Severity} (h : s.isKnown = true) : s.marker = .ok s.shownMarker := by
  cases s with
  | error => rfl
  | warning => rfl
  | other word => cases h

/-- a marker is a word of its own -/
theorem shownMarker_cases (s : Severity) : s.shownMarker = errorMarker ∨ s.shownMarker = warningMarker := by
  cases s with
  | warning => exact Or.inr rfl
  | error => exact Or.inl rfl
  | other word => exact Or.inl rfl

theorem blank_notMem_shownMarker (s : Severity) : ' ' ∉ s.shownMarker.toList := by
  rcases s.shownMarker_cases with h | h <;> rw [h] <;> decide

theorem oneLine_shownMarker (s : Severity) : OneLine s.shownMarker := by
  rcases s.shownMarker_cases with h | h <;> rw [h] <;> exact oneLine_ofList (by decide)

end Severity

namespace Diagnostic

/-- the diagnostic is of a problem that is looked for, and its message and its hint stand on one line each -/
structure Worded (d : Diagnostic) : Prop where
  problem : ∃ p ∈ Problem.all, d.ruleId = p.ruleId ∧ d.severity = p.severity ∧ d.category = p.category
  message : OneLine d.message
  hint : ∀ hint ∈ d.hint, hint ≠ "" ∧ OneLine hint

/-- the first line of a diagnostic -/
def head (d : Diagnostic) : String := s!"  {d.severity.shownMarker} {d.line}:{d.column} {d.ruleId}: {d.message}"

/-- the line of a hint -/
def hintLine (hint : String) : String := "      hint: " ++ hint

/-- the lines that a diagnostic is shown in -/
def shownLines (d : Diagnostic) : List (List Char) := d.head.toList :: (d.hint.map fun hint => (hintLine hint).toList).toList

/-- the text that a diagnostic is shown as -/
def shown (d : Diagnostic) : String :=
  match d.hint with
  | some hint => s!"{d.head}\n      hint: {hint}"
  | none => d.head

theorem toList_head (d : Diagnostic) : d.head.toList =
    "  ".toList ++ (d.severity.shownMarker.toList ++ ' ' :: ((toString d.line).toList ++ ':' ::
      ((toString d.column).toList ++ ' ' :: (d.ruleId.toList ++ ':' :: ' ' :: d.message.toList)))) := by
  unfold head
  simp only [String.toList_append, List.append_assoc]
  rfl

theorem endedLines_shownLines (d : Diagnostic) : d.shown.toList ++ ['\n'] = endedLines d.shownLines := by
  unfold shown shownLines endedLines
  cases d.hint with
  | none => simp
  | some hint =>
    have hself : ∀ text : String, toString text = text := fun _ => rfl
    simp [hintLine, hself]

section Worded

variable {d e : Diagnostic} (hd : d.Worded)

include hd

theorem Worded.render_eq : d.render true = .ok d.shown := by
  obtain ⟨p, hp, -, hseverity, -⟩ := hd.problem
  have hmarker := Severity.marker_eq (hseverity ▸ Problem.isKnown_severity p hp)
  unfold render shown
  rw [hmarker]
  cases hhint : d.hint with
  | none => rfl
  | some hint =>
    have hne : (true && decide (hint ≠ "")) = true := by simpa using (hd.hint hint hhint).1
    change Except.ok (if (true && decide (hint ≠ "")) = true then _ else _) = _
    rw [if_pos hne]
    rfl

theorem Worded.oneLine_head : OneLine d.head := by
  obtain ⟨p, hp, hid, -⟩ := hd.problem
  have hruleId : OneLine d.ruleId := hid ▸ Problem.oneLine_ruleId p hp
  have hblank : OneLine " " := oneLine_ofList (by decide)
  have hmarked := ((oneLine_ofList (by decide) : OneLine "  ").append (Severity.oneLine_shownMarker d.severity)).append hblank
  have hplaced := ((hmarked.append (oneLine_int d.line)).append (oneLine_ofList (by decide) : OneLine ":")).append
    (oneLine_int d.column)
  exact (((hplaced.append hblank).append hruleId).append (oneLine_ofList (by decide))).append hd.message

theorem Worded.unbroken_shownLines : ∀ line ∈ d.shownLines, Unbroken line := by
  refine List.forall_mem_cons.2 ⟨hd.oneLine_head, fun line hline => ?_⟩
  obtain ⟨hint, hhint, rfl⟩ := Option.map_eq_some_iff.1 (Option.mem_toList.1 hline)
  exact (oneLine_ofList (by decide)).append (hd.hint hint hhint).2

/-- **The first line tells all but the hint.** -/
theorem Worded.eq_of_head (he : e.Worded) (h : d.head = e.head) (hhint : d.hint = e.hint) : d = e := by
  obtain ⟨p, hp, hid, hseverity, hcategory⟩ := hd.problem
  obtain ⟨q, hq, hid', hseverity', hcategory'⟩ := he.problem
  have hnumber : ∀ {c : Char} (n : Int), c = ':' ∨ c = ' ' → c ∉ (toString n).toList := by
    rintro c n (rfl | rfl)
    · exact notMem_toString_int (by decide) (by decide) n
    · exact notMem_toString_int (by decide) (by decide) n
  have hcut := congrArg String.toList h
  rw [toList_head, toList_head] at hcut
  obtain ⟨-, hcut⟩ := append_mark_inj (Severity.blank_notMem_shownMarker _) (Severity.blank_notMem_shownMarker _)
    (List.append_cancel_left hcut)
  obtain ⟨hline, hcut⟩ := append_mark_inj (hnumber _ (Or.inl rfl)) (hnumber _ (Or.inl rfl)) hcut
  obtain ⟨hcolumn, hcut⟩ := append_mark_inj (hnumber (d.column : Int) (Or.inr rfl)) (hnumber (e.column : Int) (Or.inr rfl)) hcut
  obtain ⟨hruleId, hcut⟩ := append_mark_inj (hid ▸ Problem.colon_notMem_ruleId p hp)
    (hid' ▸ Problem.colon_notMem_ruleId q hq) hcut
  have hruleId : d.ruleId = e.ruleId := String.toList_inj.1 hruleId
  have hmessage : d.message = e.message := String.toList_inj.1 (List.cons.inj hcut).2
  have hline : d.line = e.line := Int.repr_injective (String.toList_inj.1 hline)
  have hcolumn : d.column = e.column := Int.repr_injective (String.toList_inj.1 hcolumn)
  -- the rule id tells severity and category
  obtain rfl := Problem.eq_of_ruleId p hp q hq (hid.symm.trans (hruleId.trans hid'))
  obtain ⟨_, _, _, _, _, _, _⟩ := d
  obtain ⟨_, _, _, _, _, _, _⟩ := e
  simp only [Diagnostic.mk.injEq]
  exact ⟨hruleId, hmessage, hline, hcolumn, hseverity.trans hseverity'.symm, hhint, hcategory.trans hcategory'.symm⟩

end Worded

/-- a first line has its marker where a hint has blanks -/
theorem hintLine_ne_head (hint : String) (d : Diagnostic) : hintLine hint ≠ d.head := by
  intro h
  have hthird := congrArg (fun line : String => (line.toList.drop 2).head?) h
  simp only [toList_head, hintLine, String.toList_append] at hthird
  rcases d.severity.shownMarker_cases with hmarker | hmarker
  · rw [hmarker] at hthird
    exact absurd hthird (by simp [errorMarker])
  · rw [hmarker] at hthird
    exact absurd hthird (by simp [warningMarker])

/-- **Diagnostics are known from their lines.** -/
theorem eq_of_shownLines {ds es : List Diagnostic} (hds : ∀ d ∈ ds, d.Worded) (hes : ∀ e ∈ es, e.Worded)
    (h : ds.flatMap shownLines = es.flatMap shownLines) : ds = es := by
  -- what follows a first line is a hint, or it belongs to the next diagnostic
  have hnext : ∀ (hint : String) (rest : List (List Char)) (more : List Diagnostic),
      (hintLine hint).toList :: rest ≠ more.flatMap shownLines := by
    intro hint rest more heq
    cases more with
    | nil => cases heq
    | cons d more => exact hintLine_ne_head hint d (String.toList_inj.1 (List.cons.inj heq).1)
  induction ds generalizing es with
  | nil =>
    cases es with
    | nil => rfl
    | cons e es => cases h
  | cons d ds ih =>
    cases es with
    | nil => cases h
    | cons e es =>
      obtain ⟨hd, hds⟩ := List.forall_mem_cons.1 hds
      obtain ⟨he, hes⟩ := List.forall_mem_cons.1 hes
      obtain ⟨hhead, htail⟩ := List.cons.inj h
      have hhead := String.toList_inj.1 hhead
      cases hhint : d.hint with
      | none =>
        cases hhint' : e.hint with
        | none =>
          rw [hhint, hhint'] at htail
          rw [hd.eq_of_head he hhead (hhint.trans hhint'.symm), ih hds hes htail]
        | some hint =>
          rw [hhint, hhint'] at htail
          exact absurd htail.symm (hnext hint _ ds)
      | some hint =>
        cases hhint' : e.hint with
        | none =>
          rw [hhint, hhint'] at htail
          exact absurd htail (hnext hint _ es)
        | some hint' =>
          rw [hhint, hhint'] at htail
          obtain ⟨hsame, hrest⟩ := List.cons.inj htail
          have hsame : hint = hint' := by simpa [hintLine, String.toList_inj] using hsame
          rw [hd.eq_of_head he hhead (by rw [hhint, hhint', hsame]), ih hds hes hrest]

end Diagnostic

/-! ## The text of a report -/

/-- a text of lines, with a line feed behind the last one too -/
theorem toList_intercalate_feed (first : String) (more : List String) :
    ("\n".intercalate (first :: more)).toList ++ ['\n'] =
      first.toList ++ '\n' :: more.flatMap fun line => line.toList ++ ['\n'] := by
  induction more generalizing first with
  | nil => simp
  | cons line more ih =>
    rw [String.intercalate_cons_cons, String.toList_append, List.append_assoc, ih line]
    simp

theorem mapM_eq_ok {α β ε : Type} {f : α → Except ε β} {g : α → β} {xs : List α} (h : ∀ x ∈ xs, f x = .ok (g x)) :
    xs.mapM f = .ok (xs.map g) := by
  induction xs with
  | nil => rfl
  | cons x xs ih =>
    obtain ⟨hx, hxs⟩ := List.forall_mem_cons.1 h
    rw [List.mapM_cons, hx, ih hxs]
    rfl

namespace Report

variable {r r' : Report}

/-- what stands behind the name in the text of a report, with a line feed at its end -/
def afterName (r : Report) : List Char :=
  if r.isClean then ": no style issues\n".toList else '\n' :: endedLines (r.diagnostics.flatMap Diagnostic.shownLines)

/-- **The text of a report**: its marker, the name, and what is behind it -/
theorem exists_render (h : ∀ d ∈ r.diagnostics, d.Worded) (name : String) : ∃ text, r.render name true = .ok text ∧
    text.toList ++ ['\n'] = r.marker.toList ++ ' ' :: (name.toList ++ r.afterName) := by
  have hself : ∀ text : String, toString text = text := fun _ => rfl
  unfold render afterName marker
  cases hclean : r.isClean with
  | true =>
    refine ⟨_, rfl, ?_⟩
    simp [hself]
  | false =>
    have hbody : r.diagnostics.mapM (fun d => d.render true) = .ok (r.diagnostics.map Diagnostic.shown) :=
      mapM_eq_ok fun d hd => (h d hd).render_eq
    simp only [hbody, Bool.false_eq_true, if_false]
    refine ⟨_, rfl, ?_⟩
    have hlines : (r.diagnostics.map Diagnostic.shown).flatMap (fun line => line.toList ++ ['\n']) =
        endedLines (r.diagnostics.flatMap Diagnostic.shownLines) := by
      rw [List.flatMap_map, endedLines, List.flatMap_assoc]
      exact List.flatMap_congr fun d _ => d.endedLines_shownLines
    rw [toList_intercalate_feed, hlines]
    simp [hself]

/-- a marker is a word of its own, and that of a clean report belongs to no other -/
theorem marker_told (r : Report) : ' ' ∉ r.marker.toList ∧ (r.isClean = true ↔ r.marker = passMarker) := by
  unfold marker
  cases r.isClean <;> cases r.hasErrors <;> decide

/-- what stands behind the name tells the diagnostics -/
theorem eq_of_afterName (h : ∀ d ∈ r.diagnostics, d.Worded) (h' : ∀ d ∈ r'.diagnostics, d.Worded)
    (hclean : r.isClean = r'.isClean) (hafter : r.afterName = r'.afterName) : r = r' := by
  have hunbroken : ∀ {ds : List Diagnostic}, (∀ d ∈ ds, d.Worded) →
      ∀ line ∈ ds.flatMap Diagnostic.shownLines, Unbroken line := by
    intro ds hds line hline
    obtain ⟨d, hd, hline⟩ := List.mem_flatMap.1 hline
    exact (hds d hd).unbroken_shownLines line hline
  obtain ⟨ds⟩ := r
  obtain ⟨es⟩ := r'
  refine congrArg Report.mk ?_
  unfold afterName at hafter
  rw [← hclean] at hafter
  cases hempty : (Report.mk ds).isClean with
  | true =>
    have hnone : ds = [] := List.isEmpty_iff.1 hempty
    have hnone' : es = [] := List.isEmpty_iff.1 (hclean.symm.trans hempty)
    rw [hnone, hnone']
  | false =>
    rw [hempty] at hafter
    simp only [Bool.false_eq_true, if_false, List.cons.injEq, true_and] at hafter
    exact Diagnostic.eq_of_shownLines h h' (endedLines_inj (hunbroken h) (hunbroken h') hafter)

/-- **A report is known from its text.** -/
theorem eq_of_render_eq (h : ∀ d ∈ r.diagnostics, d.Worded) (h' : ∀ d ∈ r'.diagnostics, d.Worded) {name : String}
    (hrender : r.render name true = r'.render name true) : r = r' := by
  obtain ⟨text, htext, hparts⟩ := exists_render h name
  obtain ⟨text', htext', hparts'⟩ := exists_render h' name
  obtain ⟨hblank, hclean⟩ := r.marker_told
  obtain ⟨hblank', hclean'⟩ := r'.marker_told
  obtain rfl : text = text' := Except.ok.inj (htext.symm.trans (hrender.trans htext'))
  obtain ⟨hmarker, hrest⟩ := append_mark_inj hblank hblank' (hparts.symm.trans hparts')
  refine eq_of_afterName h h' ?_ (List.append_cancel_left hrest)
  rw [Bool.eq_iff_iff, hclean, hclean', String.toList_inj.1 hmarker]

end Report

end VixStyle
