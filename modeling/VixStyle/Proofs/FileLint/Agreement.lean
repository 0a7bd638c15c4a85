/-
Text, document and exit status say the same of a run over files.

Main statement, `outputs_agree`. The totals in the summary of the document are those that can be read off the last line of
the text, and those of its entries: their number, the sums over the entries of files that could be read, and the number of
the others (`Totals.ofDocument?`, `Totals.ofLine?`, `Totals.ofEntries?`). The exit status follows from them. The block of a
file in the text has the marker that its entry in the document asks for (`HeadAgrees`). There is a text whenever all
diagnostics are of the known severities, and checking paths with rules that report in these comes to such results.

- `ofLine?_render`: the numbers in the line of totals are read back.
- `foldl_count`: counting from file to file comes to the sums, by induction on the files.
- `marker_cases`: the marker of a file, read off its document.
-/
import VixStyle.FileLint.Output
import VixStyle.Proofs.FileLint.Outcome
import VixStyle.Proofs.Lint.Selection
import VixStyle.Proofs.Lint.Severity

namespace VixStyle

/-! ## What a document says -/

namespace Json

/-- the member of an object under a key -/
def member? (key : String) : Json → Option Json
  | object members => members.lookup key
  | _ => none

/-- the count that a document is -/
def count? : Json → Option Nat
  | int n => n.toNat?
  | _ => none

/-- the items of a document that is a list -/
def items? : Json → Option (List Json)
  | list items => some items
  | _ => none

/-- a count in the summary of a document -/
def summed? (key : String) (document : Json) : Option Nat :=
  ((document.member? "summary").bind (member? key)).bind count?

/-- whether the entry of a file says that the file could not be read -/
def isFault (entry : Json) : Bool := (entry.member? "error").isSome

end Json

namespace Totals

/-- the totals in the summary of a document -/
def ofDocument? (document : Json) : Option Totals := do
  return ⟨← document.summed? "files", ← document.summed? "error", ← document.summed? "warning",
    ← document.summed? "failed_files"⟩

/-- the totals of the entries of files: how many there are, the sums over those that were read, and how many were not -/
def ofEntries? (entries : List Json) : Option Totals := do
  let read := entries.filter fun entry => !entry.isFault
  return ⟨entries.length, (← read.mapM (Json.summed? "error")).sum, (← read.mapM (Json.summed? "warning")).sum,
    entries.countP Json.isFault⟩

end Totals

/-! ## What a line of totals says -/

namespace Text

/-- the number that digits write, if there are any -/
def numberOf? (digits : List Char) : Option Nat := if digits = [] then none else some (Nat.ofDigitChars 10 digits 0)

/-- the numbers in a text from left to right, `digits` being those that stand right before it -/
def numbersFrom (digits : List Char) : List Char → List Nat
  | [] => (numberOf? digits).toList
  | c :: rest =>
    if c.isDigit then numbersFrom (digits ++ [c]) rest else (numberOf? digits).toList ++ numbersFrom [] rest

theorem numbersFrom_digits {digits : List Char} (h : ∀ c ∈ digits, c.isDigit = true) (earlier after : List Char) :
    numbersFrom earlier (digits ++ after) = numbersFrom (earlier ++ digits) after := by
  induction digits generalizing earlier with
  | nil => rw [List.nil_append, List.append_nil]
  | cons c digits ih =>
    rw [List.cons_append, numbersFrom, if_pos (h c List.mem_cons_self), ih (fun d hd => h d (List.mem_cons_of_mem c hd)),
      List.append_assoc, List.singleton_append]

theorem numbersFrom_plain {front : List Char} (h : ∀ c ∈ front, c.isDigit = false) (after : List Char) :
    numbersFrom [] (front ++ after) = numbersFrom [] after := by
  induction front with
  | nil => rfl
  | cons c front ih =>
    rw [List.cons_append, numbersFrom, if_neg (by simp [h c List.mem_cons_self]),
      ih fun d hd => h d (List.mem_cons_of_mem c hd)]
    rfl

end Text

open Text

theorem toList_counted (n : Nat) (noun : String) :
    (counted n noun).toList = Nat.toDigits 10 n ++ ' ' :: (noun.toList ++ if n = 1 then [] else ['s']) := by
  have hnumber : (toString (n : Int)).toList = Nat.toDigits 10 n := Nat.toList_repr
  unfold counted
  by_cases hn : n = 1
  · rw [if_pos (by omega), if_pos hn, List.append_nil, String.toList_append, String.toList_append, hnumber,
      List.append_assoc]
    rfl
  · rw [if_neg (by omega), if_neg hn, String.toList_append, String.toList_append, String.toList_append, hnumber,
      List.append_assoc, List.append_assoc]
    rfl

/-- **A number with its noun is read back.** -/
theorem numbersFrom_counted (n : Nat) {noun : String} (h : ∀ c ∈ noun.toList, c.isDigit = false) (after : List Char) :
    numbersFrom [] ((counted n noun).toList ++ after) = n :: numbersFrom [] after := by
  have hdigits : ∀ c ∈ Nat.toDigits 10 n, c.isDigit = true := fun c hc =>
    Nat.isDigit_of_mem_toDigits (by decide) (by decide) hc
  have hplain : ∀ c ∈ noun.toList ++ (if n = 1 then [] else ['s']), c.isDigit = false := by
    intro c hc
    rcases List.mem_append.1 hc with hc | hc
    · exact h c hc
    · split at hc
      · exact absurd hc List.not_mem_nil
      · rw [List.mem_singleton.1 hc]
        decide
  have hnumber : numberOf? (Nat.toDigits 10 n) = some n := by
    rw [numberOf?, if_neg Nat.toDigits_ne_nil, Nat.ofDigitChars_ten_toDigits]
  rw [toList_counted, List.append_assoc, numbersFrom_digits hdigits, List.nil_append, List.cons_append, numbersFrom,
    if_neg (by decide), hnumber, numbersFrom_plain hplain]
  rfl

namespace Totals

/-- the totals that a line of totals states; what is not said to be unreadable could be read -/
def ofLine? (line : String) : Option Totals :=
  match numbersFrom [] line.toList with
  | [errors, warnings, files] => some ⟨files, errors, warnings, 0⟩
  | [errors, warnings, failed, files] => some ⟨files, errors, warnings, failed⟩
  | _ => none

/-- **The line of totals states the totals.** -/
theorem ofLine?_render (t : Totals) : ofLine? t.render = some t := by
  have hstart : ∀ c ∈ "Summary: ".toList, c.isDigit = false := by simp
  have hcomma : ∀ c ∈ ", ".toList, c.isDigit = false := by simp
  have hin : ∀ c ∈ " in ".toList, c.isDigit = false := by simp
  have herror : ∀ c ∈ "error".toList, c.isDigit = false := by simp
  have hwarning : ∀ c ∈ "warning".toList, c.isDigit = false := by simp
  have hfault : ∀ c ∈ "unreadable file".toList, c.isDigit = false := by simp
  have hfile : ∀ c ∈ "file".toList, c.isDigit = false := by simp
  have hlast : numbersFrom [] (counted t.files "file").toList = [t.files] := by
    have hread := numbersFrom_counted t.files hfile []
    rwa [List.append_nil] at hread
  have hnumbers : numbersFrom [] t.render.toList =
      t.errors :: t.warnings :: ((if t.failed = 0 then [] else [t.failed]) ++ [t.files]) := by
    unfold render renderSummary
    by_cases hfailed : t.failed = 0
    · rw [if_pos (by omega), if_pos hfailed]
      simp only [List.append_nil, String.intercalate_cons_cons, String.intercalate_singleton, String.toList_append,
        List.append_assoc, List.nil_append]
      rw [numbersFrom_plain hstart, numbersFrom_counted _ herror, numbersFrom_plain hcomma,
        numbersFrom_counted _ hwarning, numbersFrom_plain hin, hlast]
    · rw [if_neg (by omega), if_neg hfailed]
      simp only [List.cons_append, List.nil_append, String.intercalate_cons_cons, String.intercalate_singleton,
        String.toList_append, List.append_assoc]
      rw [numbersFrom_plain hstart, numbersFrom_counted _ herror, numbersFrom_plain hcomma,
        numbersFrom_counted _ hwarning, numbersFrom_plain hcomma, numbersFrom_counted _ hfault, numbersFrom_plain hin,
        hlast]
  obtain ⟨files, errors, warnings, failed⟩ := t
  rw [ofLine?, hnumbers]
  by_cases hfailed : failed = 0 <;> simp [hfailed]

end Totals

/-! ## Totals of results -/

theorem summed?_of_summary {key : String} {document summary : Json} (h : document.member? "summary" = some summary) :
    document.summed? key = (summary.member? key).bind Json.count? := by
  rw [Json.summed?, h, Option.bind_some]

theorem ofDocument?_resultsDocument (results : List FileResult) :
    Totals.ofDocument? (resultsDocument results) = some (.of results) := by
  have hsummary : (resultsDocument results).member? "summary" = some (Totals.of results).document := rfl
  unfold Totals.ofDocument?
  simp only [summed?_of_summary hsummary]
  rfl

namespace FileResult

theorem isFault_document (r : FileResult) : r.document.isFault = r.failed := by
  obtain ⟨p, outcome⟩ := r
  cases outcome <;> rfl

/-- the counts in the entry of a file are those of its report -/
theorem summed?_document (r : FileResult) : r.document.summed? "error" = r.report?.map Report.errorCount ∧
    r.document.summed? "warning" = r.report?.map Report.warningCount := by
  obtain ⟨p, outcome⟩ := r
  cases outcome <;> exact ⟨rfl, rfl⟩

/-- and so are its diagnostics -/
theorem items?_document (r : FileResult) : (r.document.member? "diagnostics").bind Json.items? =
    r.report?.map fun report => report.diagnostics.map Diagnostic.document := by
  obtain ⟨p, outcome⟩ := r
  cases outcome <;> rfl

end FileResult

/-- a count in the entries of the files that could be read -/
theorem mapM_summed? {key : String} {count : Report → Nat}
    (h : ∀ r : FileResult, r.document.summed? key = r.report?.map count) (results : List FileResult) :
    ((results.map FileResult.document).filter fun entry => !entry.isFault).mapM (Json.summed? key) =
      some ((reports results).map count) := by
  induction results with
  | nil => rfl
  | cons r results ih =>
    have hr := h r
    rw [List.map_cons, reports, List.filterMap_cons, ← reports]
    cases hreport : r.report? with
    | none =>
      have hfault : r.document.isFault = true := by rw [r.isFault_document, FileResult.failed, hreport]; rfl
      rw [List.filter_cons_of_neg (by simp [hfault]), ih]
    | some report =>
      have hfault : r.document.isFault = false := by rw [r.isFault_document, FileResult.failed, hreport]; rfl
      rw [hreport] at hr
      rw [List.filter_cons_of_pos (by simp [hfault]), List.mapM_cons, ih, hr]
      rfl

theorem sumOver_eq_sum (count : Report → Nat) (rs : List Report) : sumOver count rs = (rs.map count).sum := by
  induction rs with
  | nil => rfl
  | cons r rs ih => rw [List.map_cons, List.sum_cons, ← ih]; rfl

theorem ofEntries?_documents (results : List FileResult) :
    Totals.ofEntries? (results.map FileResult.document) = some (.of results) := by
  have hfailed : (results.map FileResult.document).countP Json.isFault = results.countP FileResult.failed := by
    rw [List.countP_map]
    exact List.countP_congr fun r _ => by rw [Function.comp_apply, r.isFault_document]
  unfold Totals.ofEntries? Totals.of
  simp only [mapM_summed? (fun r => r.summed?_document.1) results, mapM_summed? (fun r => r.summed?_document.2) results,
    hfailed, List.length_map, sumOver_eq_sum]
  rfl

/-- **Counting from file to file comes to the sums**, by induction on the files. -/
theorem foldl_count (t : Totals) (results : List FileResult) : results.foldl Totals.count t =
    ⟨t.files, t.errors + (Totals.of results).errors, t.warnings + (Totals.of results).warnings,
      t.failed + (Totals.of results).failed⟩ := by
  induction results generalizing t with
  | nil => rfl
  | cons r results ih =>
    obtain ⟨p, outcome⟩ := r
    rw [List.foldl_cons, ih]
    cases outcome with
    | linted source report =>
      simp only [Totals.count, Totals.of, reports, FileResult.report?, FileResult.failed, List.filterMap_cons, sumOver,
        List.foldr_cons, List.countP_cons, Option.isNone_some, Totals.mk.injEq]
      simp only [true_and, Bool.false_eq_true, if_false]
      omega
    | unreadable fault =>
      simp only [Totals.count, Totals.of, reports, FileResult.report?, FileResult.failed, List.filterMap_cons, sumOver,
        List.countP_cons, Option.isNone_none, Totals.mk.injEq]
      simp only [true_and, if_true]
      omega

/-! ## The exit status -/

/-- a status follows from totals: unreadable files weigh more than errors -/
structure ExitStatus.Follows (status : ExitStatus) (t : Totals) : Prop where
  fileErrors : status.code = 2 ↔ 0 < t.failed
  lintErrors : status.code = 1 ↔ t.failed = 0 ∧ 0 < t.errors
  clean : status.code = 0 ↔ t.failed = 0 ∧ t.errors = 0

theorem any_failed_iff (results : List FileResult) :
    results.any FileResult.failed = true ↔ 0 < (Totals.of results).failed :=
  List.any_eq_true.trans List.countP_pos_iff.symm

theorem any_errors_iff (results : List FileResult) :
    (results.any fun r => r.report?.any Report.hasErrors) = true ↔ 0 < (Totals.of results).errors := by
  induction results with
  | nil => simp [Totals.of, reports, sumOver]
  | cons r results ih =>
    rw [List.any_cons, Bool.or_eq_true, ih]
    obtain ⟨p, outcome⟩ := r
    cases outcome with
    | linted source report =>
      have herrors : (Totals.of (⟨p, .linted source report⟩ :: results)).errors =
          report.errorCount + (Totals.of results).errors := rfl
      have hany : (FileResult.report? ⟨p, .linted source report⟩).any Report.hasErrors = true ↔ 0 < report.errorCount := by
        simp [FileResult.report?, Report.hasErrors]
      rw [herrors, hany]
      omega
    | unreadable fault =>
      have herrors : (Totals.of (⟨p, .unreadable fault⟩ :: results)).errors = (Totals.of results).errors := rfl
      have hany : (FileResult.report? ⟨p, .unreadable fault⟩).any Report.hasErrors = false := rfl
      rw [herrors, hany]
      simp

/-- **The exit status follows from the totals.** -/
theorem exitStatus_follows (results : List FileResult) : (exitStatus results).Follows (.of results) := by
  have hfailed := any_failed_iff results
  have herrors := any_errors_iff results
  unfold exitStatus
  split_ifs with hf he
  · have := hfailed.1 hf
    exact ⟨iff_of_true rfl this, iff_of_false (by decide) (by omega), iff_of_false (by decide) (by omega)⟩
  · have := mt hfailed.2 hf
    have := herrors.1 he
    exact ⟨iff_of_false (by decide) (by omega), iff_of_true rfl (by omega), iff_of_false (by decide) (by omega)⟩
  · have := mt hfailed.2 hf
    have := mt herrors.2 he
    exact ⟨iff_of_false (by decide) (by omega), iff_of_false (by decide) (by omega), iff_of_true rfl (by omega)⟩

/-! ## Blocks -/

/-- a block of text starts with a marker and a name -/
def Heads (marker name block : String) : Prop := (marker ++ " " ++ name).toList <+: block.toList

/-- the block of a file has the marker that the entry of the file asks for -/
structure HeadAgrees (name : String) (entry : Json) (block : String) : Prop where
  error : Heads errorMarker name block ↔
    entry.isFault = true ∨ ∃ errors, entry.summed? "error" = some errors ∧ 0 < errors
  warning : Heads warningMarker name block ↔
    entry.summed? "error" = some 0 ∧ ∃ warnings, entry.summed? "warning" = some warnings ∧ 0 < warnings
  pass : Heads passMarker name block ↔ (entry.member? "diagnostics").bind Json.items? = some []

/-- the marker of the block of a file -/
def FileResult.marker (r : FileResult) : String := (r.report?.map Report.marker).getD errorMarker

/-- a block starts with one marker only -/
theorem heads_iff {marker other name block : String} (h : Heads marker name block)
    (hmarker : marker ∈ [errorMarker, warningMarker, passMarker]) (hother : other ∈ [errorMarker, warningMarker, passMarker]) :
    Heads other name block ↔ marker = other := by
  constructor
  · intro hheads
    have hfirst : ∀ m ∈ [errorMarker, warningMarker, passMarker], Heads m name block →
        block.toList.head? = m.toList.head? := by
      intro m hm hhead
      obtain ⟨rest, hrest⟩ := hhead
      have hne : ∃ c more, m.toList = c :: more := by
        have hall : [errorMarker, warningMarker, passMarker].all (fun m => !m.toList.isEmpty) = true := by decide
        have hm := List.all_eq_true.1 hall m hm
        exact List.exists_cons_of_ne_nil (by simpa using hm)
      obtain ⟨c, more, hm⟩ := hne
      rw [← hrest, String.toList_append, String.toList_append, hm]
      rfl
    have hsame : marker.toList.head? = other.toList.head? :=
      (hfirst marker hmarker h).symm.trans (hfirst other hother hheads)
    have hapart : ∀ m ∈ [errorMarker, warningMarker, passMarker], ∀ n ∈ [errorMarker, warningMarker, passMarker],
        m.toList.head? = n.toList.head? → m = n := by decide
    exact hapart marker hmarker other hother hsame
  · rintro rfl
    exact h

theorem heads_append (marker name rest : String) : Heads marker name (marker ++ " " ++ name ++ rest) := by
  unfold Heads
  simp only [String.toList_append]
  exact List.prefix_append _ _

theorem heads_fileError (name fault : String) : Heads errorMarker name (renderFileError name fault) := by
  have htext : renderFileError name fault = errorMarker ++ " " ++ name ++ (": " ++ fault) := String.append_assoc
  rw [htext]
  exact heads_append _ _ _

theorem heads_report {r : Report} {name block : String} {showHints : Bool} (h : r.render name showHints = .ok block) :
    Heads r.marker name block := by
  unfold Report.render at h
  unfold Report.marker
  cases hclean : r.isClean with
  | true =>
    rw [hclean] at h
    obtain rfl := Except.ok.inj h
    exact heads_append _ _ _
  | false =>
    rw [hclean] at h
    cases hbody : r.diagnostics.mapM fun d => d.render showHints with
    | error e =>
      rw [hbody] at h
      cases h
    | ok body =>
      rw [hbody] at h
      obtain rfl := Except.ok.inj h
      have hmarker : r.marker = if r.hasErrors then errorMarker else warningMarker := by
        unfold Report.marker
        rw [hclean]
        rfl
      rw [if_neg Bool.false_ne_true, ← hmarker]
      cases body with
      | nil => exact List.prefix_rfl
      | cons first more =>
        rw [String.intercalate_cons_cons, String.append_assoc]
        exact heads_append _ _ _

namespace FileResult

theorem heads_block {r : FileResult} {showHints : Bool} {block : String} (h : r.render showHints = .ok block) :
    Heads r.marker r.path.toText block := by
  obtain ⟨p, outcome⟩ := r
  cases outcome with
  | linted source report => exact heads_report h
  | unreadable fault =>
    obtain rfl := Except.ok.inj h
    exact heads_fileError _ _

/-- **The marker of a file** is that which its document asks for. -/
theorem marker_cases (r : FileResult) :
    (r.marker = errorMarker ↔ r.failed = true ∨ ∃ errors, r.report?.map Report.errorCount = some errors ∧ 0 < errors) ∧
    (r.marker = warningMarker ↔ r.report?.map Report.errorCount = some 0 ∧
      ∃ warnings, r.report?.map Report.warningCount = some warnings ∧ 0 < warnings) ∧
    (r.marker = passMarker ↔ r.report?.map Report.diagnostics = some []) := by
  have hapart : passMarker ≠ errorMarker ∧ passMarker ≠ warningMarker ∧ errorMarker ≠ warningMarker := by decide
  obtain ⟨p, outcome⟩ := r
  cases outcome with
  | unreadable fault =>
    exact ⟨iff_of_true rfl (Or.inl rfl), iff_of_false hapart.2.2 (by simp [report?]),
      iff_of_false hapart.1.symm (by simp [report?])⟩
  | linted source report =>
    have hmarker : FileResult.marker ⟨p, .linted source report⟩ = report.marker := rfl
    have hcount := report.errorCount_add_warningCount
    simp only [hmarker, failed, report?, Option.map_some, Option.isNone_some, Bool.false_eq_true, false_or,
      Option.some.injEq, exists_eq_left']
    unfold Report.marker
    cases hclean : report.isClean with
    | true =>
      have hempty : report.diagnostics = [] := List.isEmpty_iff.1 hclean
      rw [hempty, List.length_nil] at hcount
      rw [if_pos rfl]
      exact ⟨iff_of_false hapart.1 (by omega), iff_of_false hapart.2.1 (by omega), iff_of_true rfl hempty⟩
    | false =>
      have hsome : report.diagnostics ≠ [] := fun hempty => by
        rw [Report.isClean, hempty] at hclean
        cases hclean
      have hpos : 0 < report.diagnostics.length := List.length_pos_iff.2 hsome
      rw [if_neg Bool.false_ne_true]
      by_cases herrors : 0 < report.errorCount
      · rw [if_pos (by simpa [Report.hasErrors] using herrors)]
        exact ⟨iff_of_true rfl herrors, iff_of_false hapart.2.2 (by omega), iff_of_false hapart.1.symm hsome⟩
      · rw [if_neg (by simpa [Report.hasErrors] using herrors)]
        exact ⟨iff_of_false hapart.2.2.symm herrors, iff_of_true rfl (by omega), iff_of_false hapart.2.1.symm hsome⟩

/-- **The block of a file has the marker that its entry asks for.** -/
theorem headAgrees {r : FileResult} {showHints : Bool} {block : String} (h : r.render showHints = .ok block) :
    HeadAgrees r.path.toText r.document block := by
  have hhead := heads_block h
  obtain ⟨herror, hwarning, hpass⟩ := r.marker_cases
  have hmarker : r.marker ∈ [errorMarker, warningMarker, passMarker] := by
    unfold marker
    cases r.report? with
    | none => exact List.mem_cons_self
    | some report =>
      unfold Report.marker Option.map Option.getD
      dsimp only
      split_ifs <;> simp
  have hitems : (r.document.member? "diagnostics").bind Json.items? = some [] ↔
      r.report?.map Report.diagnostics = some [] := by
    rw [r.items?_document]
    cases r.report? <;> simp
  refine ⟨?_, ?_, ?_⟩
  · rw [heads_iff hhead hmarker (by simp), herror, r.isFault_document, r.summed?_document.1]
  · rw [heads_iff hhead hmarker (by simp), hwarning, r.summed?_document.1, r.summed?_document.2]
  · rw [heads_iff hhead hmarker (by simp), hpass, hitems]

end FileResult

/-! ## The text -/

/-- **The text is gone through file by file**: a block for each, and the counts of all. -/
theorem renderEach_eq_ok {showHints : Bool} {t t' : Totals} {results : List FileResult} {blocks : List String}
    (h : renderEach showHints t results = .ok (blocks, t')) :
    List.Forall₂ (fun r block => r.render showHints = .ok block) results blocks ∧ t' = results.foldl Totals.count t := by
  induction results generalizing t blocks with
  | nil =>
    obtain ⟨rfl, rfl⟩ := Prod.mk.inj (Except.ok.inj h)
    exact ⟨.nil, rfl⟩
  | cons r results ih =>
    rw [renderEach] at h
    cases hblock : r.render showHints with
    | error e =>
      rw [hblock] at h
      cases h
    | ok block =>
      rw [hblock] at h
      cases hmore : renderEach showHints (t.count r) results with
      | error e =>
        change (renderEach showHints (t.count r) results >>= _) = _ at h
        rw [hmore] at h
        cases h
      | ok found =>
        change (renderEach showHints (t.count r) results >>= _) = _ at h
        rw [hmore] at h
        obtain ⟨rfl, rfl⟩ := Prod.mk.inj (Except.ok.inj h)
        obtain ⟨hblocks, htotals⟩ := ih hmore
        exact ⟨.cons hblock hblocks, htotals⟩

theorem exists_renderEach_iff {showHints : Bool} {t : Totals} {results : List FileResult} :
    (∃ text, renderEach showHints t results = .ok text) ↔
      ∀ r ∈ results, ∃ block, r.render showHints = .ok block := by
  induction results generalizing t with
  | nil => exact iff_of_true ⟨_, rfl⟩ (by simp)
  | cons r results ih =>
    rw [List.forall_mem_cons, ← ih (t := t.count r), renderEach]
    cases r.render showHints with
    | error e => simp [bind, Except.bind]
    | ok block => cases renderEach showHints (t.count r) results <;> simp [bind, Except.bind, pure, Except.pure]

theorem tally_eq_of (results : List FileResult) :
    results.foldl Totals.count ⟨results.length, 0, 0, 0⟩ = .of results := by
  rw [foldl_count, Nat.zero_add, Nat.zero_add, Nat.zero_add]
  rfl

theorem renderResults_eq_ok {results : List FileResult} {showHints : Bool} {lines : List String}
    (h : renderResults results showHints = .ok lines) : ∃ blocks, lines = blocks ++ [(Totals.of results).render] ∧
      List.Forall₂ (fun r block => r.render showHints = .ok block) results blocks := by
  unfold renderResults at h
  cases htext : renderEach showHints ⟨results.length, 0, 0, 0⟩ results with
  | error e =>
    rw [htext] at h
    cases h
  | ok text =>
    obtain ⟨blocks, t⟩ := text
    rw [htext] at h
    obtain rfl := Except.ok.inj h
    obtain ⟨hblocks, rfl⟩ := renderEach_eq_ok htext
    exact ⟨blocks, by rw [tally_eq_of], hblocks⟩

/-- a file that could be read has a block exactly if the severities in its report are known; the others always have one -/
theorem FileResult.render_eq_ok_iff (r : FileResult) (showHints : Bool) :
    (∃ block, r.render showHints = .ok block) ↔ ∀ report ∈ r.report?, KnownSeverities report.diagnostics := by
  obtain ⟨p, outcome⟩ := r
  cases outcome with
  | linted source report =>
    have hrender : (∃ block, FileResult.render ⟨p, .linted source report⟩ showHints = .ok block) ↔
        KnownSeverities report.diagnostics := report.render_eq_ok_iff p.toText showHints
    rw [hrender]
    simp [FileResult.report?]
  | unreadable fault => exact iff_of_true ⟨_, rfl⟩ (by simp [FileResult.report?])

theorem exists_renderResults_iff (results : List FileResult) (showHints : Bool) :
    (∃ lines, renderResults results showHints = .ok lines) ↔
      ∀ r ∈ results, ∀ report ∈ r.report?, KnownSeverities report.diagnostics := by
  simp only [← FileResult.render_eq_ok_iff _ showHints]
  rw [← exists_renderEach_iff (t := ⟨results.length, 0, 0, 0⟩)]
  unfold renderResults
  cases renderEach showHints ⟨results.length, 0, 0, 0⟩ results <;> simp [bind, Except.bind, pure, Except.pure]

/-! ## Main result -/

/--
**Text, document and exit status agree.** The summary of the document states the totals of its entries. The exit status
follows from them. The last line of the text states them as well, and the block of each file before it has the marker that
the entry of this file asks for. There is a text exactly if all severities are known, and the results of checking paths
with rules that report in these have one.
-/
theorem outputs_agree [Machine] (results : List FileResult) : ∃ (totals : Totals) (entries : List Json),
    Totals.ofDocument? (resultsDocument results) = some totals ∧
    ((resultsDocument results).member? "files").bind Json.items? = some entries ∧
    Totals.ofEntries? entries = some totals ∧
    (exitStatus results).Follows totals ∧
    (∀ showHints lines, renderResults results showHints = .ok lines →
      ∃ blocks line, lines = blocks ++ [line] ∧ Totals.ofLine? line = some totals ∧
        List.Forall₂ (fun entry block => ∃ name, entry.member? "path" = some (.text name) ∧ HeadAgrees name entry block)
          entries blocks) ∧
    (∀ showHints, (∃ lines, renderResults results showHints = .ok lines) ↔
      ∀ r ∈ results, ∀ report ∈ r.report?, KnownSeverities report.diagnostics) ∧
    (∀ t o rules jobs paths, (∀ r ∈ rules, r.UsesKnownSeverities) →
      (lintPaths t o rules jobs paths).value = .ok results →
        ∀ showHints, ∃ lines, renderResults results showHints = .ok lines) := by
  refine ⟨.of results, results.map FileResult.document, ofDocument?_resultsDocument results, rfl,
    ofEntries?_documents results, exitStatus_follows results, ?_, exists_renderResults_iff results, ?_⟩
  · intro showHints lines h
    obtain ⟨blocks, rfl, hblocks⟩ := renderResults_eq_ok h
    refine ⟨blocks, _, rfl, Totals.ofLine?_render _, List.forall₂_map_left_iff.2 (hblocks.imp ?_)⟩
    exact fun r block hblock => ⟨r.path.toText, rfl, FileResult.headAgrees hblock⟩
  · intro t o rules jobs paths hrules hrun showHints
    refine (exists_renderResults_iff results showHints).2 fun r hr report hreport => ?_
    obtain ⟨text, hlint⟩ := lint_of_lintPaths hrun hr hreport
    exact known_report hrules hlint

/-- a tree with one file, in which two warnings stand at a comma -/
def commaTree : FileTree := (FileTree.empty ["w"]).addFile ["a.vix"] ("a ,b\n".toList.map fun c => UInt8.ofNat c.toNat)

/-- two warnings in one file weigh less than another file that is not there -/
theorem outputs_agree_comma : ∃ results lines,
    (lintPaths commaTree {} defaultRules 1 [.ofString "a.vix", .ofString "b.vix"]).value = .ok results ∧
      renderResults results false = .ok lines ∧ lines.getLast?.bind Totals.ofLine? = some ⟨2, 0, 2, 1⟩ ∧
      (exitStatus results).code = 2 := by
  let text := "a ,b\n".toList
  let report := (Source.ofText text).report {} defaultRules
  let results : List FileResult := [⟨.ofString "a.vix", .linted (Source.ofText text) report⟩,
    ⟨.ofString "b.vix", .unreadable (some "cannot read file: No such file or directory")⟩]
  have hrun : (lintPaths commaTree {} defaultRules 1 [.ofString "a.vix", .ofString "b.vix"]).value = .ok results := by
    have hsources : commaTree.sources [.ofString "a.vix", .ofString "b.vix"] =
        .ok [.ofString "a.vix", .ofString "b.vix"] := by decide +kernel
    have hread : commaTree.readText (.ofString "a.vix") = .ok text := by decide +kernel
    have hlint : lint text {} defaultRules = .ok report := lintDefault_eq_ok_iff.2 ⟨rfl, rfl⟩
    have hfirst : (lintFile commaTree {} defaultRules (.ofString "a.vix")).value =
        ((lint text {} defaultRules).mapError .lint).map fun report =>
          ⟨.ofString "a.vix", .linted (Source.ofText text) report⟩ := value_lintFile hread
    rw [hlint] at hfirst
    unfold lintPaths
    rw [if_neg (by decide), hsources]
    simp only [Logged.value_bind, lintEach, hfirst]
    rfl
  obtain ⟨totals, entries, -, hfiles, hentries, hstatus, htext, -, hruns⟩ := outputs_agree results
  obtain ⟨lines, hlines⟩ := hruns _ _ _ _ _ (fun r hr => Rule.usesKnownSeverities_of_default hr) hrun false
  obtain ⟨blocks, line, rfl, hline, -⟩ := htext false lines hlines
  have htotals : totals = ⟨2, 0, 2, 1⟩ := by
    obtain rfl := Option.some.inj hfiles
    rw [ofEntries?_documents] at hentries
    rw [← Option.some.inj hentries]
    have hcounts : report.errorCount = 0 ∧ report.warningCount = 2 := by
      unfold Report.warningCount Report.errorCount
      rw [diagnostics_report]
      decide +kernel
    have hsums : Totals.of results = ⟨2, report.errorCount + 0, report.warningCount + 0, 1⟩ := rfl
    rw [hsums, hcounts.1, hcounts.2]
  subst htotals
  exact ⟨results, blocks ++ [line], hrun, hlines, by rw [List.getLast?_concat]; exact hline,
    hstatus.fileErrors.2 (by decide)⟩

end VixStyle
