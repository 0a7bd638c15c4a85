/-
Which blocks the indentation rule reports.

The walk reports an `end` that closes nothing and a block that nothing closes. Main statement, `check_reports_matching`:
the reports of the first kind are those on `strayEnds`, the reports of the second kind those on `openBlocks`, in the
order of the source and in the words of the rule, whatever the options and the blanks are (`ReportsMatching`). That is
so of every run of the rule, which comes to reports unless its unit cannot be made. Reports are told apart by their
messages; `isStrayReport_diagnostic` and `isUnclosedReport_diagnostic` say that this can be done.

- `stepCode_eq`: one line of code in its three stages.
- `step_matching`, `run_matching`: what one line and what all lines find, beside what they measure.
-/
import VixStyle.Proofs.Indentation.Stack
import VixStyle.Proofs.Text.Unbroken
import VixStyle.Rule.Registry

namespace VixStyle.Rule.Indentation

/-! ## One line in its stages -/

namespace Walk

/-- the place of a line of code -/
def placeOf (w : Walk) (first : Token) : Place := place w.stack first.lexeme

/-- the depth that a line of code is taken to have -/
def depthOf (w : Walk) (l : Line) (first : Token) : Nat :=
  (w.measured l first (w.placeOf first)).level.getD (w.placeOf first).expected

/-- what the blanks before a line of code are reported for -/
def offOf (w : Walk) (l : Line) (first : Token) : List Finding :=
  ((w.measured l first (w.placeOf first)).fault.map fun (column, fault) => ⟨l.number, column, fault⟩).toList

theorem stepCode_eq (w : Walk) (l : Line) (first : Token) (rest : List Token) :
    w.stepCode l first rest =
      (⟨(w.measured l first (w.placeOf first)).unit, (nested (w.placeOf first) (w.depthOf l first) first rest).1,
          (w.brackets + bracketBalance (first :: rest)).toNat, continuesOnNextLine (first :: rest)⟩,
        strayFirst (w.placeOf first) first ++ w.offOf l first ++
          (nested (w.placeOf first) (w.depthOf l first) first rest).2) := by
  have hstray : (if (decide (first.lexeme = .keyword .end_) && (w.placeOf first).anchor.isNone) = true
      then [(⟨first.line, first.column, .strayEnd⟩ : Finding)] else []) = strayFirst (w.placeOf first) first := by
    simp [strayFirst, strayAt]
  rw [← hstray]
  unfold stepCode nested
  simp only [zip_blockParts, List.tail_cons]
  cases hcase : caseFrame? (w.placeOf first) (w.depthOf l first) first with
  | none =>
    simp only [placeOf, depthOf] at hcase
    simp only [hcase, decide_eq_true_eq]
    rfl
  | some f =>
    simp only [placeOf, depthOf] at hcase
    simp only [hcase]
    rfl

end Walk

/-! ## Kinds of faults -/

namespace Fault

/-- the fault of an `end` that closes nothing -/
def isStray : Fault → Bool
  | strayEnd => true
  | _ => false

/-- the fault of a block that nothing closes -/
def isUnclosed : Fault → Bool
  | unclosed _ => true
  | _ => false

theorem isUnclosed_iff {fault : Fault} : fault.isUnclosed = true ↔ ∃ word, fault = .unclosed word := by
  cases fault <;> simp [isUnclosed]

theorem isStray_iff {fault : Fault} : fault.isStray = true ↔ fault = .strayEnd := by
  cases fault <;> simp [isStray]

end Fault

theorem depthFault_kind (first : Lexeme) (unit : Option IndentUnit) (p : Place) (actual : Nat) :
    (depthFault first unit p actual).isStray = false ∧ (depthFault first unit p actual).isUnclosed = false := by
  unfold depthFault
  cases unit <;> dsimp only <;> split <;> (try split_ifs) <;> exact ⟨rfl, rfl⟩

/-- measuring finds no fault of matching -/
theorem measure_kind {unit : Option IndentUnit} {i : Indentation} {first : Lexeme} {column : Nat} {p : Place}
    {c : Nat} {fault : Fault} (h : (measure unit i first column p).fault = some (c, fault)) :
    fault.isStray = false ∧ fault.isUnclosed = false := by
  unfold measure at h
  split at h
  · cases h
    exact ⟨rfl, rfl⟩
  · dsimp only at h
    split_ifs at h
    cases h
    exact depthFault_kind ..
  · dsimp only at h
    split_ifs at h <;> cases h
    · exact ⟨rfl, rfl⟩
    · exact ⟨rfl, rfl⟩
    · exact depthFault_kind ..

theorem Walk.offOf_kind {w : Walk} {l : Line} {first : Token} {f : Finding} (hf : f ∈ w.offOf l first) :
    f.fault.isStray = false ∧ f.fault.isUnclosed = false := by
  simp only [Walk.offOf, Option.mem_toList, Option.map_eq_some_iff, Walk.measured] at hf
  obtain ⟨⟨c, fault⟩, hfault, rfl⟩ := hf
  split_ifs at hfault
  exact measure_kind hfault

/-! ## What the walk finds -/

theorem filter_strayAt (ts : List Token) (q : Fault → Bool) :
    (ts.map strayAt).filter (fun f => q f.fault) = if q .strayEnd then ts.map strayAt else [] := by
  induction ts with
  | nil => cases q .strayEnd <;> rfl
  | cons t ts ih => cases h : q .strayEnd <;> simp_all [strayAt]

theorem marks_of_code {l : Line} {first : Token} {rest : List Token} (h : l.code = first :: rest) :
    l.marks = codeMarks first rest := by
  rw [Line.marks, h, zip_blockParts]
  rfl

theorem marks_of_no_code {l : Line} (h : l.code = []) : l.marks = [] := by
  simp [Line.marks, h]

/-- **One line keeps to the matching**, and finds the closes that close nothing beside what it measures. -/
theorem step_matching (w : Walk) (l : Line) {pending : List (Keyword × Token)} (h : Agrees w.stack pending) :
    Agrees (w.step l).1.stack (Mark.lifo pending l.marks).2 ∧
      (w.step l).2.filter (fun f => f.fault.isStray) = (Mark.lifo pending l.marks).1.map strayAt ∧
      (w.step l).2.filter (fun f => f.fault.isUnclosed) = [] := by
  unfold Walk.step
  split
  · rename_i hcode
    rw [marks_of_no_code hcode]
    exact ⟨h, rfl, rfl⟩
  · rename_i first rest hcode
    obtain ⟨hagrees, hfound⟩ := line_agrees h (w.depthOf l first) first rest
    have hbeside : ∀ q : Fault → Bool, (∀ f ∈ w.offOf l first, q f.fault = false) →
        (w.stepCode l first rest).2.filter (fun f => q f.fault) =
          if q .strayEnd then (Mark.lifo pending (codeMarks first rest)).1.map strayAt else [] := by
      intro q hq
      have hoff : (w.offOf l first).filter (fun f => q f.fault) = [] := by simpa [List.filter_eq_nil_iff] using hq
      rw [← filter_strayAt, ← hfound, Walk.stepCode_eq]
      simp only [List.filter_append, hoff, List.append_nil]
      rfl
    rw [marks_of_code hcode]
    refine ⟨?_, hbeside Fault.isStray fun f hf => (Walk.offOf_kind hf).1,
      hbeside Fault.isUnclosed fun f hf => (Walk.offOf_kind hf).2⟩
    rw [Walk.stepCode_eq]
    exact hagrees

/-- **All lines keep to the matching**, by induction over the lines with the invariant `Agrees`. -/
theorem run_matching (w : Walk) (lines : List Line) {pending : List (Keyword × Token)} (h : Agrees w.stack pending) :
    Agrees (w.run lines).1.stack (Mark.lifo pending (marksOf lines)).2 ∧
      (w.run lines).2.filter (fun f => f.fault.isStray) = (Mark.lifo pending (marksOf lines)).1.map strayAt ∧
      (w.run lines).2.filter (fun f => f.fault.isUnclosed) = [] := by
  induction lines generalizing w pending with
  | nil => exact ⟨h, rfl, rfl⟩
  | cons l lines ih =>
    obtain ⟨hstep, hstray, hunclosed⟩ := step_matching w l h
    obtain ⟨hrun, hstrays, hunclosed'⟩ := ih (w.step l).1 hstep
    have hmarks : marksOf (l :: lines) = l.marks ++ marksOf lines := rfl
    simp only [Walk.run, hmarks, Mark.lifo_append, List.filter_append, List.map_append]
    exact ⟨hrun, by rw [hstray, hstrays], by rw [hunclosed, hunclosed']; rfl⟩

/-- the finding on a block that is never closed -/
def unclosedAt (p : Keyword × Token) : Finding := ⟨p.2.line, p.2.column, .unclosed p.1⟩

theorem leftOpen_eq {w : Walk} {pending : List (Keyword × Token)} (h : Agrees w.stack pending) :
    w.leftOpen = pending.reverse.map unclosedAt := by
  have hat : ∀ p : Keyword × Token, unclosedAt p = ⟨(spotOf p).2.1, (spotOf p).2.2, .unclosed (spotOf p).1⟩ :=
    fun _ => rfl
  have hframe : w.leftOpen =
      ((blocks w.stack).map Frame.spot).reverse.map fun s => ⟨s.2.1, s.2.2, .unclosed s.1⟩ := by
    simp [Walk.leftOpen, blocks, Frame.spot, List.filter_reverse, List.map_reverse, Function.comp_def]
  rw [hframe, h.spots]
  simp [List.map_reverse, hat, Function.comp_def]

/-! ## The wording of faults -/

namespace Fault

theorem shown_toList (word : Keyword) : (shown word).toList = '`' :: (word.text ++ ['`']) := by
  simp [shown, Keyword.text]

theorem backtick_notMem_text (word : Keyword) : '`' ∉ word.text := by cases word <;> decide

/-- a word in backticks at the start of a text can be read back -/
theorem shown_append_inj {word v : Keyword} {a b : String} (h : shown word ++ a = shown v ++ b) : word = v ∧ a = b := by
  have hlist := congrArg String.toList h
  simp only [String.toList_append, shown_toList, List.cons_append, List.append_assoc, List.nil_append,
    List.cons.injEq, true_and] at hlist
  obtain ⟨hword, htail⟩ := Text.append_mark_inj (backtick_notMem_text word) (backtick_notMem_text v) hlist
  have hread := Keyword.ofText?_text word
  rw [hword, Keyword.ofText?_text] at hread
  exact ⟨(Option.some.inj hread).symm, String.toList_inj.1 htail⟩

theorem head_append {a b : String} {c : Char} (h : a.toList.head? = some c) : (a ++ b).toList.head? = some c := by
  rw [String.toList_append, List.head?_append, h]
  rfl

/-- a wording on a line that is out of line starts with its word and goes on with these words -/
theorem message_misaligned (word anchorWord : Keyword) (line : Int) :
    (misaligned word anchorWord line).message =
      shown word ++ (" does not align with " ++ (shown anchorWord ++ s!" on line {line}")) := by
  rw [← String.append_assoc, ← String.append_assoc]
  rfl

theorem head_shown (word : Keyword) : (shown word).toList.head? = some '`' := by
  rw [shown_toList]
  rfl

/-- the character that a wording starts with -/
def initial : Fault → Char
  | strayEnd | unclosed _ | misaligned .. => '`'
  | mixedBlanks | uneven .. => 'i'
  | wrongBlanks _ => 'l'
  | unindentedBody => 'b'
  | wrongDepth .. => 'e'

theorem head?_message (fault : Fault) : fault.message.toList.head? = some fault.initial := by
  cases fault with
  | strayEnd => decide +kernel
  | unclosed word => exact head_append (head_shown word)
  | mixedBlanks => decide +kernel
  | wrongBlanks foundTabs => cases foundTabs <;> decide +kernel
  | uneven width unitWidth =>
    have hhead : "indentation of ".toList.head? = some 'i' := by decide +kernel
    exact head_append (head_append (head_append (head_append hhead)))
  | misaligned w v line =>
    rw [message_misaligned]
    exact head_append (head_shown w)
  | unindentedBody => decide +kernel
  | wrongDepth unit expected actual anchor =>
    have hhead : "expected indentation of ".toList.head? = some 'e' := by decide +kernel
    exact head_append (head_append (head_append (head_append hhead)))

/-- only the faults of matching have a wording with a word first and no `d` in this place -/
theorem message_ne_shown {fault : Fault} (hs : fault.isStray = false) (hu : fault.isUnclosed = false) (word : Keyword)
    {tail : String} (ht : tail.toList[1]? ≠ some 'd') : fault.message ≠ shown word ++ tail := by
  intro h
  have hinitial : fault.initial = '`' := by
    have hhead := fault.head?_message
    rw [h, String.toList_append, shown_toList] at hhead
    exact (Option.some.inj hhead).symm
  cases fault with
  | strayEnd => simp [isStray] at hs
  | unclosed word => simp [isUnclosed] at hu
  | misaligned w v line =>
    -- this wording has a word first as well, but goes on in another way
    obtain ⟨-, rfl⟩ := shown_append_inj ((message_misaligned w v line).symm.trans h)
    apply ht
    rw [String.toList_append, List.getElem?_append_left (by simp)]
    simp
  | _ => exact absurd hinitial (by simp [initial])

end Fault

/-! ## The reports of a source -/

/-- the wording on an `end` that closes nothing -/
def strayMessage : String := "`end` without a matching block opener"

/-- the wording on a block that is never closed -/
def unclosedMessage (word : Keyword) : String := Fault.shown word ++ " block is never closed with `end`"

/-- the report on an `end` that closes nothing -/
def strayReport (t : Token) : Diagnostic := Problem.indentationConsistency.found t.line t.column strayMessage none

/-- the report on a block that is never closed -/
def unclosedReport (p : Keyword × Token) : Diagnostic :=
  Problem.indentationConsistency.found p.2.line p.2.column (unclosedMessage p.1)
    (some ("Add an `end` aligned with " ++ Fault.shown p.1 ++ "."))

/-- a report in the wording on an `end` that closes nothing -/
def isStrayReport (d : Diagnostic) : Bool := d.message == strayMessage

/-- a report in the wording on a block that is never closed -/
def isUnclosedReport (d : Diagnostic) : Bool := Keyword.all.any fun word => d.message == unclosedMessage word

theorem strayMessage_eq : strayMessage = Fault.shown .end_ ++ " without a matching block opener" := by
  simp [strayMessage, Fault.shown, Keyword.spelling]

theorem strayMessage_ne_unclosedMessage (word : Keyword) : strayMessage ≠ unclosedMessage word := by
  intro h
  rw [strayMessage_eq] at h
  exact absurd (Fault.shown_append_inj h).2 (by simp)

theorem message_eq_stray_iff {fault : Fault} : fault.message = strayMessage ↔ fault.isStray = true := by
  constructor
  · intro h
    by_contra hs
    cases hu : fault.isUnclosed with
    | true =>
      obtain ⟨word, rfl⟩ := Fault.isUnclosed_iff.1 hu
      exact strayMessage_ne_unclosedMessage word h.symm
    | false =>
      rw [strayMessage_eq] at h
      exact Fault.message_ne_shown (Bool.eq_false_iff.2 hs) hu .end_ (by simp) h
  · intro h
    rw [Fault.isStray_iff.1 h]
    rfl

theorem message_eq_unclosed {fault : Fault} {word : Keyword} (h : fault.message = unclosedMessage word) :
    fault.isUnclosed = true := by
  by_contra hu
  cases hs : fault.isStray with
  | true => exact strayMessage_ne_unclosedMessage word ((message_eq_stray_iff.2 hs).symm.trans h)
  | false => exact Fault.message_ne_shown hs (Bool.eq_false_iff.2 hu) word (by simp) h

theorem isStrayReport_diagnostic (f : Finding) : isStrayReport f.diagnostic = f.fault.isStray := by
  rw [Bool.eq_iff_iff, ← message_eq_stray_iff]
  exact beq_iff_eq

theorem isUnclosedReport_diagnostic (f : Finding) : isUnclosedReport f.diagnostic = f.fault.isUnclosed := by
  rw [Bool.eq_iff_iff]
  constructor
  · intro h
    obtain ⟨word, -, hword⟩ := List.any_eq_true.1 h
    exact message_eq_unclosed (beq_iff_eq.1 hword)
  · intro h
    obtain ⟨word, hfault⟩ := Fault.isUnclosed_iff.1 h
    refine List.any_eq_true.2 ⟨word, Keyword.mem_all word, beq_iff_eq.2 ?_⟩
    exact congrArg Fault.message hfault

theorem filter_diagnostic {p : Diagnostic → Bool} {q : Fault → Bool} (h : ∀ f : Finding, p f.diagnostic = q f.fault)
    (fs : List Finding) :
    (fs.map Finding.diagnostic).filter p = (fs.filter fun f => q f.fault).map Finding.diagnostic := by
  rw [List.filter_map]
  congr 2
  funext f
  exact h f

theorem strayAt_diagnostic (t : Token) : (strayAt t).diagnostic = strayReport t := rfl

theorem unclosedAt_diagnostic (p : Keyword × Token) : (unclosedAt p).diagnostic = unclosedReport p := rfl

/-- diagnostics report the closes and the opens that the matching of a source leaves, and no others -/
structure ReportsMatching (source : Source) (found : List Diagnostic) : Prop where
  stray : found.filter isStrayReport = (strayEnds source.lines).map strayReport
  unclosed : found.filter isUnclosedReport = (openBlocks source.lines).map unclosedReport

theorem reportsMatching_check (source : Source) (options : Options) :
    ReportsMatching source (check source options) := by
  obtain ⟨hagrees, hstray, hunclosed⟩ := run_matching (Walk.start options) source.lines agrees_nil
  have hopen : ((Walk.start options).run source.lines).1.leftOpen = (openBlocks source.lines).map unclosedAt :=
    leftOpen_eq hagrees
  have hfound : findings options source.lines =
      ((Walk.start options).run source.lines).2 ++ (openBlocks source.lines).map unclosedAt := by
    rw [← hopen]
    rfl
  have hnot : ((openBlocks source.lines).map unclosedAt).filter (fun f => f.fault.isStray) = [] := by
    simp [List.filter_map, Function.comp_def, unclosedAt, Fault.isStray]
  have hall : ((openBlocks source.lines).map unclosedAt).filter (fun f => f.fault.isUnclosed) =
      (openBlocks source.lines).map unclosedAt := by
    simp [List.filter_map, Function.comp_def, unclosedAt, Fault.isUnclosed]
  constructor
  · rw [check, filter_diagnostic isStrayReport_diagnostic, hfound, List.filter_append, hstray, hnot, List.append_nil,
      List.map_map]
    exact List.map_congr_left fun t _ => strayAt_diagnostic t
  · rw [check, filter_diagnostic isUnclosedReport_diagnostic, hfound, List.filter_append, hunclosed, hall,
      List.nil_append, List.map_map]
    exact List.map_congr_left fun p _ => unclosedAt_diagnostic p

/--
**Block matching is exact.** The reports on an `end` that closes nothing are those on the closes that the matching of the
opens and closes of the source leaves, and the reports on an unclosed block are those on the opens that it leaves. These
are the reports of every run of the rule that comes to any, and a run comes to none exactly if its unit cannot be made.
-/
theorem check_reports_matching [Machine] (source : Source) (options : Options) :
    ((check source options).filter isStrayReport = (strayEnds source.lines).map strayReport ∧
      (check source options).filter isUnclosedReport = (openBlocks source.lines).map unclosedReport) ∧
      (∀ found, indentationConsistency.answer source options = .ok found → ReportsMatching source found) ∧
      ((∃ found, indentationConsistency.answer source options = .ok found) ↔ options.unitFault? = none) := by
  have hmatching := reportsMatching_check source options
  refine ⟨⟨hmatching.stray, hmatching.unclosed⟩, fun found hanswer => ?_, Rule.exists_answer_iff⟩
  obtain ⟨-, rfl⟩ := Rule.answer_eq_ok_iff.1 hanswer
  exact hmatching

end VixStyle.Rule.Indentation
