/-
The report when a line without code is inserted.

A line that is empty, holds blanks only or holds comments only has no code. No check reports on it (`Sited`), and the walk over
the lines goes on behind it as it stood before it (`findings_codeless`). The lines behind it get other numbers, and the
report cites these. Main statement, `lintSource_insert`: the report is the report without that line, in the same order, with
the numbers of lines behind it increased by one (`Diagnostic.afterInsertion`).

That the order is the same is not clear from the numbers: the last key is the message, and messages cite numbers. It rests on
`Fault.message_lt_later`, for of two messages on indentation at one line at most one cites a line.
-/
import VixStyle.Proofs.Lint.Composition
import VixStyle.Proofs.Lint.Selection

namespace VixStyle

/-! ## Numbers behind an inserted line -/

/-- the number that a line has once another is inserted behind the first `k` -/
def numberAfterInsertion (k : Nat) (n : Int) : Int := if n ≤ k then n else n + 1

theorem numberAfterInsertion_lt (k : Nat) {m n : Int} :
    numberAfterInsertion k m < numberAfterInsertion k n ↔ m < n := by
  unfold numberAfterInsertion
  split_ifs <;> omega

theorem numberAfterInsertion_inj (k : Nat) {m n : Int} :
    numberAfterInsertion k m = numberAfterInsertion k n ↔ m = n := by
  unfold numberAfterInsertion
  split_ifs <;> omega

/-- a number grows by one or not at all -/
theorem numberAfterInsertion_eq_add (k : Nat) (n : Int) : ∃ m : Nat, numberAfterInsertion k n = n + m := by
  unfold numberAfterInsertion
  split_ifs
  · exact ⟨0, (add_zero n).symm⟩
  · exact ⟨1, rfl⟩

/-! ## Citations behind an inserted line -/

namespace Text

/-- the number of the line that a text cites -/
def cited? : List Char → Option Nat
  | [] => none
  | c :: rest =>
    if citeMark.isPrefixOf (c :: rest) then
      some (Nat.ofDigitChars 10 (((c :: rest).drop citeMark.length).takeWhile Char.isDigit) 0)
    else cited? rest

theorem cited?_of_no_mark {s : List Char} (h : occursIn citeMark s = false) : cited? s = none := by
  induction s with
  | nil => rfl
  | cons c rest ih =>
    rw [occursIn, Bool.or_eq_false_iff] at h
    rw [cited?, h.1, if_neg Bool.false_ne_true, ih h.2]

theorem cited?_mark {k : Nat} {after : List Char} (h : ∀ c ∈ after.head?, c.isDigit = false) :
    cited? (citeMark ++ (Nat.toDigits 10 k ++ after)) = some k := by
  have hdigits : ∀ c ∈ Nat.toDigits 10 k, c.isDigit = true := fun c hc =>
    Nat.isDigit_of_mem_toDigits (by decide) (by decide) hc
  have hafter : after.takeWhile Char.isDigit = [] := by
    cases after with
    | nil => rfl
    | cons c after => exact List.takeWhile_cons_of_neg (by simp [h c rfl])
  have hprefix : citeMark.isPrefixOf (citeMark ++ (Nat.toDigits 10 k ++ after)) = true :=
    List.isPrefixOf_iff_prefix.2 (List.prefix_append _ _)
  obtain ⟨c, rest, hmark⟩ : ∃ c rest, citeMark ++ (Nat.toDigits 10 k ++ after) = c :: rest := ⟨_, _, rfl⟩
  have hdrop : (c :: rest).drop citeMark.length = Nat.toDigits 10 k ++ after := by rw [← hmark, List.drop_left]
  rw [hmark] at hprefix ⊢
  rw [cited?, if_pos hprefix, hdrop, List.takeWhile_append_of_pos hdigits, hafter, List.append_nil,
    Nat.ofDigitChars_ten_toDigits]

theorem cited?_behind {front : List Char} (hfront : occursIn citeMark front = false) {k : Nat} {after : List Char}
    (h : ∀ c ∈ after.head?, c.isDigit = false) :
    cited? (front ++ '`' :: (citeMark ++ (Nat.toDigits 10 k ++ after))) = some k := by
  have hback : '`' ∉ citeMark := by decide
  induction front with
  | nil =>
    have hhere := isPrefixOf_split hback [] (citeMark ++ (Nat.toDigits 10 k ++ after))
    rw [List.nil_append] at hhere ⊢
    rw [cited?, hhere, if_neg (by decide), cited?_mark h]
  | cons c front ih =>
    rw [occursIn, Bool.or_eq_false_iff] at hfront
    have hhere := isPrefixOf_split hback (c :: front) (citeMark ++ (Nat.toDigits 10 k ++ after))
    rw [hfront.1, List.cons_append] at hhere
    rw [List.cons_append, cited?, hhere, if_neg Bool.false_ne_true, ih hfront.2]

end Text

/--
a diagnostic once a line is inserted behind the first `k`: it keeps its place or moves down by a line, and so does the line
that its message cites, if it is one on indentation
-/
def Diagnostic.afterInsertion (k : Nat) (d : Diagnostic) : Diagnostic :=
  { d with
    line := numberAfterInsertion k d.line
    message := if (Text.cited? d.message.toList).any (k < ·) then (d.later 1).message else d.message }

/-- of a diagnostic that is not on indentation, only the line changes -/
theorem Diagnostic.afterInsertion_of_ruleId {d : Diagnostic} (h : d.ruleId ≠ Problem.indentationConsistency.ruleId)
    (k : Nat) : d.afterInsertion k = { d with line := numberAfterInsertion k d.line } := by
  have hmessage : (d.later 1).message = d.message := if_neg h
  rw [afterInsertion, hmessage, ite_self]

/-! ## The walk -/

/-- a line under another number depends on that number only -/
theorem Line.relined_congr {φ ψ : Int → Int} {l : Line} (hl : l.Numbered) (h : φ l.number = ψ l.number) :
    l.relined φ = l.relined ψ := by
  have htokens : l.tokens.map (Token.relined φ) = l.tokens.map (Token.relined ψ) := by
    apply List.map_congr_left
    intro t ht
    rw [Token.relined, Token.relined, hl t ht, h]
  rw [relined, relined, h, htokens]

theorem Line.relined_id (l : Line) : l.relined id = l := by
  have htokens : l.tokens.map (Token.relined id) = l.tokens := List.map_id _
  rw [relined, htokens]
  rfl

namespace Rule.Indentation

namespace Fault

/-- a fault under other numbers depends only on that of the line that it cites -/
theorem relined_congr {φ ψ : Int → Int} {fault : Fault} (h : ∀ line ∈ fault.cited?, φ line = ψ line) :
    fault.relined φ = fault.relined ψ := by
  cases fault with
  | misaligned word anchorWord line => rw [relined, relined, h line rfl]
  | wrongDepth unit expected actual anchor =>
    cases anchor with
    | none => rfl
    | some anchor =>
      obtain ⟨word, line⟩ := anchor
      simp only [relined, Option.map_some, h line rfl]
  | _ => rfl

theorem relined_id (fault : Fault) : fault.relined id = fault := by
  cases fault with
  | wrongDepth unit expected actual anchor => cases anchor <;> rfl
  | _ => rfl

/-- **A wording that cites a line** cites it under the number that it has behind the inserted line. -/
theorem message_afterInsertion {fault : Fault} (h : ∀ line ∈ fault.cited?, 0 ≤ line) (k : Nat) :
    (fault.relined (numberAfterInsertion k)).message =
      if (Text.cited? fault.message.toList).any (k < ·) then String.ofList (Text.recite 1 fault.message.toList)
      else fault.message := by
  cases hcited : fault.cited? with
  | none =>
    have hsame : fault.relined (numberAfterInsertion k) = fault := by
      rw [relined_congr (ψ := id) (by simp [hcited]), relined_id]
    rw [hsame, Text.cited?_of_no_mark (no_mark_of_not_cited hcited)]
    rfl
  | some line =>
    obtain ⟨m, rfl⟩ := Int.eq_ofNat_of_zero_le (h line hcited)
    have hread : Text.cited? fault.message.toList = some m := by
      obtain ⟨a, word, b, ha, hb, hmessage, -⟩ := message_cited hcited
      have hfront : Text.occursIn Text.citeMark (a.toList ++ '`' :: word.text) = false := by
        rw [Text.occursIn_split (by decide), ha, occursIn_text, Bool.or_false]
      have htext : fault.message.toList =
          (a.toList ++ '`' :: word.text) ++ '`' :: (Text.citeMark ++ (Nat.toDigits 10 m ++ b.toList)) := by
        rw [hmessage]
        exact toList_cited a b word m
      rw [htext]
      exact Text.cited?_behind hfront hb
    rw [hread, Option.any_some]
    by_cases hk : k < m
    · have hmoved : fault.relined (numberAfterInsertion k) = fault.later 1 := by
        rw [later_eq_relined]
        apply relined_congr
        intro line hline
        obtain rfl := Option.some.inj (hcited.symm.trans hline)
        exact if_neg (by omega)
      rw [hmoved, message_later h, if_pos (decide_eq_true hk)]
    · have hsame : fault.relined (numberAfterInsertion k) = fault := by
        refine (relined_congr (ψ := id) ?_).trans (relined_id fault)
        intro line hline
        obtain rfl := Option.some.inj (hcited.symm.trans hline)
        exact if_pos (by omega)
      rw [hsame, if_neg (by simpa using hk)]

/-- a fault lies behind an inserted line as if it had moved down by one or not at all -/
theorem exists_relined_eq_later (fault : Fault) (k : Nat) :
    ∃ n : Nat, fault.relined (numberAfterInsertion k) = fault.later n := by
  cases hcited : fault.cited? with
  | none =>
    refine ⟨0, ?_⟩
    rw [later_eq_relined]
    apply relined_congr
    simp [hcited]
  | some line =>
    obtain ⟨n, hn⟩ := numberAfterInsertion_eq_add k line
    refine ⟨n, ?_⟩
    rw [later_eq_relined]
    apply relined_congr
    intro other hother
    obtain rfl := Option.some.inj (hcited.symm.trans hother)
    exact hn

/-- **Wordings keep their order behind an inserted line** if at most one of them is on indentation, or both are the same. -/
theorem message_lt_afterInsertion {f g : Fault} (h : f.isMatching = false → g.isMatching = false → f = g) (k : Nat) :
    (f.relined (numberAfterInsertion k)).message < (g.relined (numberAfterInsertion k)).message ↔
      f.message < g.message := by
  obtain ⟨m, hm⟩ := exists_relined_eq_later f k
  obtain ⟨n, hn⟩ := exists_relined_eq_later g k
  rw [hm, hn]
  -- a fault of matching cites no line, so it may be moved by as much as the other one
  cases hf : f.isMatching with
  | true =>
    have hstays : f.later m = f.later n := by
      rw [later_of_not_cited (not_cited_of_matching hf), later_of_not_cited (not_cited_of_matching hf)]
    rw [hstays]
    exact message_lt_later h n
  | false =>
    cases hg : g.isMatching with
    | true =>
      have hstays : g.later n = g.later m := by
        rw [later_of_not_cited (not_cited_of_matching hg), later_of_not_cited (not_cited_of_matching hg)]
      rw [hstays]
      exact message_lt_later h m
    | false =>
      obtain rfl := h hf hg
      rw [← hm, ← hn]
      exact iff_of_false (lt_irrefl _) (lt_irrefl _)

end Fault

theorem Finding.diagnostic_afterInsertion {f : Finding} (h : ∀ line ∈ f.fault.cited?, 0 ≤ line) (k : Nat) :
    (f.relined (numberAfterInsertion k)).diagnostic = f.diagnostic.afterInsertion k := by
  have hmessage := f.fault.message_afterInsertion h k
  have hhint : (f.fault.relined (numberAfterInsertion k)).hint = f.fault.hint := by cases f.fault <;> rfl
  simp only [relined, diagnostic, Problem.found, Diagnostic.afterInsertion, Diagnostic.later, hmessage, hhint, if_pos]

theorem Walk.step_codeless (w : Walk) {l : Line} (h : l.code = []) : w.step l = (w, []) := by
  rw [step, h]

/-- **A line without code** changes nothing for the walk over the lines around it. -/
theorem findings_codeless (options : Options) (above below : List Line) {l : Line} (h : l.code = []) :
    findings options (above ++ l :: below) = findings options (above ++ below) := by
  have hrun : (Walk.start options).run (above ++ l :: below) = (Walk.start options).run (above ++ below) := by
    rw [Walk.run_append, Walk.run_append, Walk.run, Walk.step_codeless _ h]
    rfl
  rw [findings, findings, hrun]

end Rule.Indentation

/-! ## The lines -/

/-- the line of a text is empty or holds blanks or comments only -/
def IsVoid (text : List Char) : Prop := (∀ c ∈ text, Text.isBlank c = true) ∨ (Line.read 1 text).isCommentOnly = true

theorem Line.code_of_void {text : List Char} (h : IsVoid text) (n : Nat) : (read (1 + n) text).code = [] := by
  have hfirst : (read 1 text).code = [] := by
    rcases h with hblank | hcomment
    · have hdrop : text.dropWhile Text.isBlank = [] := List.dropWhile_eq_nil_iff.2 hblank
      have htokens : (read 1 text).tokens = [] := by
        rw [tokens_read, Segmentation.of, Segmentation.ofFrom_of_blank hdrop]
        rfl
      rw [code, htokens]
      rfl
    · exact List.isEmpty_iff.1 (Bool.and_eq_true_iff.1 hcomment).2
  rw [read_later, code_later, hfirst]
  rfl

/-- **The lines around an inserted one** are the lines without it, each under the number that it has then. -/
theorem Line.readAll_insert (above below : List (List Char)) (text : List Char) :
    readAll (above ++ text :: below) =
      (readAll above).map (relined (numberAfterInsertion above.length)) ++ read (1 + above.length) text ::
        (readFrom (1 + above.length) below).map (relined (numberAfterInsertion above.length)) := by
  have habove : (readAll above).map (relined (numberAfterInsertion above.length)) = readAll above := by
    calc (readAll above).map (relined (numberAfterInsertion above.length)) = (readAll above).map (relined id) := by
          apply List.map_congr_left
          intro l hl
          obtain ⟨hnumbered, -, hhigh⟩ := mem_readAll hl
          exact relined_congr hnumbered (if_pos hhigh)
      _ = readAll above := List.map_id'' relined_id _
  have hbelow : (readFrom (1 + above.length) below).map (relined (numberAfterInsertion above.length)) =
      readFrom (1 + above.length + 1) below := by
    calc (readFrom (1 + above.length) below).map (relined (numberAfterInsertion above.length)) =
          (readFrom (1 + above.length) below).map (later 1) := by
          apply List.map_congr_left
          intro l hl
          obtain ⟨hnumbered, hlow, -⟩ := mem_readFrom hl
          have hbehind : ¬ l.number ≤ above.length := by omega
          exact relined_congr (ψ := (· + 1)) hnumbered (if_neg hbehind)
      _ = readFrom (1 + above.length + 1) below := (readFrom_later 1 _ below).symm
  rw [habove, hbelow]
  exact readFrom_append 1 above (text :: below)

/-! ## What a check finds -/

theorem LineByLine.relined {check : Source → List Diagnostic} {find : Line → List Diagnostic} (h : LineByLine check find)
    {l : Line} (hl : l.Numbered) (k : Nat) :
    find (l.relined (numberAfterInsertion k)) = (find l).map (Diagnostic.afterInsertion k) := by
  obtain ⟨n, hn⟩ := numberAfterInsertion_eq_add k l.number
  have hlater : l.relined (numberAfterInsertion k) = l.later n := Line.relined_congr (ψ := (· + n)) hl hn
  rw [hlater, h.down]
  apply List.map_congr_left
  intro d hd
  rw [Diagnostic.afterInsertion_of_ruleId (h.other l d hd), h.line l hl d hd, hn, ← h.line l hl d hd]
  rfl

open Rule.Indentation (findings findings_onLines findings_off_unique findings_relined findings_codeless Fault)

theorem diagnostic_afterInsertion_of_mem {options : Options} {lines : List (List Char)} {f : Rule.Indentation.Finding}
    (hf : f ∈ findings options (Line.readAll lines)) (k : Nat) :
    (f.relined (numberAfterInsertion k)).diagnostic = f.diagnostic.afterInsertion k := by
  apply Rule.Indentation.Finding.diagnostic_afterInsertion
  intro line hline
  obtain ⟨l, hl, rfl⟩ := (findings_onLines Line.numbered_readAll options f hf).2 line hline
  have := (Line.mem_readAll hl).2.1
  omega

section Insert

variable {above below : List (List Char)} {line : List Char} (hline : IsVoid line) (text text' : List Char)
  {options : Options}

include hline

/-- **Each check** finds what it finds without the line, under the numbers behind it. -/
theorem check_insert {check : String × (Source → List Diagnostic)} (h : check ∈ namedChecks options) :
    check.2 (.ofLines text' (above ++ line :: below)) =
      (check.2 (.ofLines text (above ++ below))).map (Diagnostic.afterInsertion above.length) := by
  have hcode := Line.code_of_void hline above.length
  have hwith : (Source.ofLines text' (above ++ line :: below)).lines = _ := Line.readAll_insert above below line
  have hwithout : (Source.ofLines text (above ++ below)).lines =
      Line.readAll above ++ Line.readFrom (1 + above.length) below := Line.readFrom_append 1 above below
  have hnumbered : ∀ l ∈ Line.readAll above ++ Line.readFrom (1 + above.length) below, l.Numbered :=
    hwithout ▸ Line.numbered_readAll
  rcases namedCheck_cases h with ⟨-, hindentation⟩ | ⟨find, hfind, hsited⟩
  · have hfindings : findings options (Source.ofLines text' (above ++ line :: below)).lines =
        (findings options (Source.ofLines text (above ++ below)).lines).map
          (.relined (numberAfterInsertion above.length)) := by
      rw [hwith, hwithout, findings_codeless options _ _ hcode, ← List.map_append, findings_relined]
    rw [hindentation, hindentation]
    unfold Rule.Indentation.check
    rw [hfindings, List.map_map, List.map_map]
    apply List.map_congr_left
    intro f hf
    exact diagnostic_afterInsertion_of_mem hf above.length
  · have hvoid : find (Line.read (1 + above.length) line) = [] := by
      apply List.eq_nil_iff_forall_not_mem.2
      intro d hd
      obtain ⟨t, ht, -⟩ := hsited.token _ (Line.wasRead_read _ line) d hd
      rw [hcode] at ht
      cases ht
    have hmap : ∀ lines : List Line, (∀ l ∈ lines, l.Numbered) →
        (lines.map (.relined (numberAfterInsertion above.length))).flatMap find =
          (lines.flatMap find).map (Diagnostic.afterInsertion above.length) := by
      intro lines hlines
      rw [List.flatMap_map, List.map_flatMap]
      apply List.flatMap_congr
      intro l hl
      exact hfind.relined (hlines l hl) above.length
    obtain ⟨habove, hbelow⟩ := List.forall_mem_append.1 hnumbered
    rw [hfind.check_eq, hfind.check_eq, hwith, hwithout, List.flatMap_append, List.flatMap_cons, hvoid, List.nil_append,
      hmap _ habove, hmap _ hbelow, List.flatMap_append, List.map_append]

end Insert

/-- **Diagnostics keep their order behind an inserted line.** -/
theorem before_afterInsertion {options : Options} {text : List Char} {lines : List (List Char)} {a b : Diagnostic}
    (ha : a ∈ (Source.ofLines text lines).diagnostics options defaultRules)
    (hb : b ∈ (Source.ofLines text lines).diagnostics options defaultRules) (k : Nat) :
    (a.afterInsertion k).before (b.afterInsertion k) = a.before b := by
  rw [diagnostics_eq] at ha hb
  obtain ⟨checkA, hcheckA, ha⟩ := List.mem_flatMap.1 ha
  obtain ⟨checkB, hcheckB, hb⟩ := List.mem_flatMap.1 hb
  refine Diagnostic.before_map (f := Diagnostic.afterInsertion k) (fun _ => rfl) (fun _ => rfl)
    (numberAfterInsertion_lt k) (numberAfterInsertion_inj k) fun hline _ hrule => ?_
  by_cases hid : a.ruleId = Problem.indentationConsistency.ruleId
  · obtain ⟨f, hf, rfl⟩ := (mem_check hcheckA Line.numbered_readAll ha).2 hid
    obtain ⟨g, hg, rfl⟩ := (mem_check hcheckB Line.numbered_readAll hb).2 (hrule ▸ hid)
    rw [← diagnostic_afterInsertion_of_mem hf, ← diagnostic_afterInsertion_of_mem hg]
    apply Fault.message_lt_afterInsertion
    intro hfm hgm
    exact congrArg _ (findings_off_unique Line.numbered_readAll (Line.ordered_readFrom 1 lines) hf hg hfm hgm hline)
  · rw [Diagnostic.afterInsertion_of_ruleId hid, Diagnostic.afterInsertion_of_ruleId (hrule ▸ hid)]

/--
**Lines without code are invisible.** To insert a line that is empty, holds blanks only or holds comments only, at any place
among any lines and with any options, leaves the report as it is but for the numbers of the lines behind it, which grow by
one: those that diagnostics lie on, and those that messages on indentation cite.
-/
theorem lintSource_insert [Machine] (above below : List (List Char)) {line : List Char} (hline : IsVoid line)
    (text text' : List Char) (options : Options) :
    lintSource (.ofLines text' (above ++ line :: below)) options defaultRules =
      (lintSource (.ofLines text (above ++ below)) options defaultRules).map fun r =>
        ⟨r.diagnostics.map (Diagnostic.afterInsertion above.length)⟩ := by
  have hfound : (Source.ofLines text' (above ++ line :: below)).diagnostics options defaultRules =
      ((Source.ofLines text (above ++ below)).diagnostics options defaultRules).map
        (Diagnostic.afterInsertion above.length) := by
    rw [diagnostics_eq_namedChecks, diagnostics_eq_namedChecks, List.map_flatMap]
    apply List.flatMap_congr
    intro check hcheck
    exact check_insert hline text text' hcheck
  have hsorted := sortDiagnostics_map (f := Diagnostic.afterInsertion above.length)
    fun a (ha : a ∈ (Source.ofLines text (above ++ below)).diagnostics options defaultRules) b hb =>
      before_afterInsertion ha hb above.length
  rw [← hfound] at hsorted
  rw [lintSource_eq, lintSource_eq]
  cases options.refusedUnit? with
  | some fault => rfl
  | none => exact congrArg (fun ds => Except.ok (Report.mk ds)) hsorted

/-- two blocks, the body of neither indented, behind the first line -/
def unindentedBodies : List (List Char) := ["b".toList, "end".toList, "while c".toList, "d".toList, "end".toList]

/-- a comment behind the first line: the block that starts there is cited as before, the other one under its new number -/
theorem lintSource_insert_comment :
    IsVoid "\t// note".toList ∧
      ((Source.ofLines [] (["if a".toList] ++ unindentedBodies)).report { indentStyle := .tabs } defaultRules).lineMessages =
        [(2, "expected indentation of 1 tab but found no indentation (inside `if` on line 1)"),
          (5, "expected indentation of 1 tab but found no indentation (inside `while` on line 4)")] ∧
      ((Source.ofLines [] (["if a".toList] ++ "\t// note".toList :: unindentedBodies)).report { indentStyle := .tabs }
        defaultRules).lineMessages =
          [(3, "expected indentation of 1 tab but found no indentation (inside `if` on line 1)"),
            (6, "expected indentation of 1 tab but found no indentation (inside `while` on line 5)")] ∧
      lintSource (.ofLines [] (["if a".toList] ++ "\t// note".toList :: unindentedBodies)) { indentStyle := .tabs }
          defaultRules =
        (lintSource (.ofLines [] (["if a".toList] ++ unindentedBodies)) { indentStyle := .tabs } defaultRules).map fun r =>
          ⟨r.diagnostics.map (Diagnostic.afterInsertion 1)⟩ := by
  have hvoid : IsVoid "\t// note".toList := Or.inr (by decide +kernel)
  refine ⟨hvoid, ?_, ?_, lintSource_insert _ _ hvoid [] [] _⟩
  · rw [Report.lineMessages, diagnostics_report]
    decide +kernel
  · rw [Report.lineMessages, diagnostics_report]
    decide +kernel

end VixStyle
