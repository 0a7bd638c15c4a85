/-
Which `if`s the rule on one-line `if`s reports, and how this depends on the permitted kinds of statement.

`Accepted` says when an `if` is left alone: it goes on below and nothing follows its `then` (`GoesOn`), or it ends on its line
and wraps one simple statement of a permitted kind (`Wraps`). Main statement, `one_line_ifs_told`: on every source the rule
reports each other token that opens an `if`, once, and nothing else. With more kinds permitted it reports fewer of them,
and what it no longer reports wraps a statement of a kind that was added.

- `afterThen?_eq_some_iff`: a row is cut at its first `then`.
- `fault?_eq_none_iff`: the verdict on one `if`.
- `fault?_of_subset`: with more kinds permitted an `if` is told off in the same words or not at all.
- `mem_faults_iff`: the scan of a line looks at each `if` by itself.
-/
import VixStyle.Proofs.Block.Height
import VixStyle.Proofs.Lint.Sites
import VixStyle.Proofs.Source.Standing

namespace VixStyle

open scoped List

namespace Rule.OneLineIf

/-! ## The first `then` -/

/-- a row of tokens cut at its first `then` -/
structure CutAtThen (row before : List Token) (t : Token) (body : List Token) : Prop where
  split : row = before ++ t :: body
  word : t.lexeme = .keyword .then_
  first : ∀ u ∈ before, u.lexeme ≠ .keyword .then_

theorem isThen_iff {t : Token} : isThen t = true ↔ t.lexeme = .keyword .then_ := decide_eq_true_iff

theorem afterThen?_eq_some_iff {row body : List Token} :
    afterThen? row = some body ↔ ∃ before t, CutAtThen row before t body := by
  constructor
  · intro h
    unfold afterThen? at h
    split at h
    · cases h
    · rename_i t rest hrow
      obtain rfl := Option.some.inj h
      have hthen := List.head?_dropWhile_not (fun u => !isThen u) row
      rw [hrow] at hthen
      refine ⟨row.takeWhile fun u => !isThen u, t, ?_, isThen_iff.1 (by simpa using hthen), fun u hu hword => ?_⟩
      · rw [← hrow, List.takeWhile_append_dropWhile]
      · have hnot := List.mem_takeWhile_imp hu
        rw [isThen_iff.2 hword] at hnot
        cases hnot
  · rintro ⟨before, t, rfl, hword, hfirst⟩
    have hbefore : ∀ u ∈ before, (!isThen u) = true := by
      intro u hu
      simpa using mt isThen_iff.1 (hfirst u hu)
    rw [afterThen?, List.dropWhile_append_of_pos hbefore, List.dropWhile_cons, isThen_iff.2 hword]
    rfl

theorem afterThen?_eq_none_iff {row : List Token} :
    afterThen? row = none ↔ ∀ u ∈ row, u.lexeme ≠ .keyword .then_ := by
  unfold afterThen?
  split
  · rename_i hrow
    simp only [true_iff]
    intro u hu hword
    have hnot := List.dropWhile_eq_nil_iff.1 hrow u hu
    rw [isThen_iff.2 hword] at hnot
    cases hnot
  · rename_i t rest hrow
    simp only [reduceCtorEq, false_iff, not_forall]
    have hthen := List.head?_dropWhile_not (fun u => !isThen u) row
    rw [hrow] at hthen
    exact ⟨t, (List.dropWhile_suffix _).subset (hrow ▸ List.mem_cons_self), not_not_intro (isThen_iff.1 (by simpa using hthen))⟩

/-! ## Ifs that are left alone -/

/-- the `if` at `i` goes on below its line, and nothing on the line follows its `then` -/
structure GoesOn (ts : List Token) (i : Nat) : Prop where
  unclosed : ∀ j, ¬ BlockPart.ClosedAt (blockParts ts) i j
  bare : (∀ u ∈ ts.drop (i + 1), u.lexeme ≠ .keyword .then_) ∨ ∃ before t, CutAtThen (ts.drop (i + 1)) before t []

/-- a body that reads as one simple statement, without a branch -/
structure Simple (body : List Token) (kind : StatementKind) : Prop where
  nonempty : body ≠ []
  branchless : ∀ u ∈ body, isBranchWord u = false
  kind : Statement.classify? body = some kind

/-- the `if` at `i` ends on its line and wraps a simple statement -/
def Wraps (ts : List Token) (i : Nat) (kind : StatementKind) : Prop :=
  ∃ j before t body, BlockPart.ClosedAt (blockParts ts) i j ∧
    CutAtThen ((ts.take j).drop (i + 1)) before t body ∧ Simple body kind

/-- the `if` at `i` is left alone when some kinds of statement are permitted -/
inductive Accepted (kinds : List StatementKind) (ts : List Token) (i : Nat) : Prop where
  | below (h : GoesOn ts i)
  | wrapped (kind : StatementKind) (permitted : kind ∈ kinds) (h : Wraps ts i kind)

/-! ## The verdict on one `if` -/

theorem bodyFault?_eq_none_iff {o : Options} {body : List Token} :
    bodyFault? o body = none ↔ ∃ kind ∈ o.oneLineStatements, Simple body kind := by
  unfold bodyFault?
  constructor
  · intro h
    split_ifs at h with hempty hbranch
    split at h
    · cases h
    · rename_i kind hkind
      split_ifs at h with hpermitted
      refine ⟨kind, List.contains_iff_mem.1 hpermitted, ?_, fun u hu => ?_, hkind⟩
      · simpa using hempty
      · exact Bool.eq_false_iff.2 fun hword => hbranch (List.any_eq_true.2 ⟨u, hu, hword⟩)
  · rintro ⟨kind, hpermitted, hnonempty, hbranchless, hkind⟩
    rw [if_neg (by simpa using hnonempty), if_neg (by simpa using hbranchless), hkind]
    exact if_pos (List.contains_iff_mem.2 hpermitted)

/-- with more kinds permitted a body has the same fault or none -/
theorem bodyFault?_of_subset {o o' : Options} (h : o.oneLineStatements ⊆ o'.oneLineStatements) {body : List Token}
    {fault : Fault} (hfault : bodyFault? o' body = some fault) : bodyFault? o body = some fault := by
  unfold bodyFault? at hfault ⊢
  split_ifs at hfault ⊢ with hempty hbranch
  · exact hfault
  · exact hfault
  · cases hkind : Statement.classify? body with
    | none => rwa [hkind] at hfault
    | some kind =>
      simp only [hkind] at hfault ⊢
      split_ifs at hfault with hpermitted
      rw [if_neg fun hbefore => hpermitted (List.contains_iff_mem.2 (h (List.contains_iff_mem.1 hbefore)))]
      exact hfault

theorem fault?_of_subset {o o' : Options} (h : o.oneLineStatements ⊆ o'.oneLineStatements) {rest : List Token}
    {length : Option Nat} {fault : Fault} (hfault : fault? o' rest length = some fault) :
    fault? o rest length = some fault := by
  cases length with
  | none => exact hfault
  | some length =>
    simp only [fault?] at hfault ⊢
    cases hbody : afterThen? (rest.take length) with
    | none => rwa [hbody] at hfault
    | some body =>
      rw [hbody] at hfault
      exact bodyFault?_of_subset h hfault

section Opener

variable {ts : List Token} {i : Nat}

/-- the count behind an `if`, in terms of the `end` of its block -/
theorem closingOffset?_eq_some_iff (hopens : (blockParts ts)[i]? = some (.opens .if_)) {k : Nat} :
    BlockPart.closingOffset? 1 ((blockParts ts).drop (i + 1)) = some k ↔ BlockPart.ClosedAt (blockParts ts) i (i + 1 + k) := by
  rw [← BlockPart.matchingEnd?_eq_some_iff hopens, Indentation.matchingEnd?_of_opens hopens]
  simp

/-- an `if` that is not closed on its line is left alone if nothing follows its `then` -/
theorem fault?_eq_none_of_unclosed {o : Options} (h : ∀ j, ¬ BlockPart.ClosedAt (blockParts ts) i j) :
    fault? o (ts.drop (i + 1)) none = none ↔ GoesOn ts i := by
  simp only [fault?, ite_eq_right_iff, reduceCtorEq, imp_false, Bool.not_eq_true]
  constructor
  · intro hbody
    refine ⟨h, ?_⟩
    cases hafter : afterThen? (ts.drop (i + 1)) with
    | none => exact Or.inl (afterThen?_eq_none_iff.1 hafter)
    | some body =>
      obtain rfl : body = [] := by simpa [hafter] using hbody
      exact Or.inr (afterThen?_eq_some_iff.1 hafter)
  · rintro ⟨-, hnone | hlast⟩
    · rw [afterThen?_eq_none_iff.2 hnone]
      rfl
    · rw [afterThen?_eq_some_iff.2 hlast]
      rfl

/-- what an `if` wraps, read off the row up to its `end` -/
theorem wraps_iff {j : Nat} (hclosed : BlockPart.ClosedAt (blockParts ts) i j) {kind : StatementKind} :
    Wraps ts i kind ↔ ∃ body, afterThen? ((ts.take j).drop (i + 1)) = some body ∧ Simple body kind := by
  constructor
  · rintro ⟨j', before, t, body, hclosed', hcut, hsimple⟩
    obtain rfl := hclosed.unique hclosed'
    exact ⟨body, afterThen?_eq_some_iff.2 ⟨before, t, hcut⟩, hsimple⟩
  · rintro ⟨body, hbody, hsimple⟩
    obtain ⟨before, t, hcut⟩ := afterThen?_eq_some_iff.1 hbody
    exact ⟨j, before, t, body, hclosed, hcut, hsimple⟩

/-- an `if` wraps one kind of statement -/
theorem Wraps.unique {kind kind' : StatementKind} (h : Wraps ts i kind) (h' : Wraps ts i kind') : kind = kind' := by
  obtain ⟨j, before, t, body, hclosed, hcut, hsimple⟩ := h
  obtain ⟨body', hbody', hsimple'⟩ := (wraps_iff hclosed).1 h'
  obtain rfl := Option.some.inj ((afterThen?_eq_some_iff.2 ⟨before, t, hcut⟩).symm.trans hbody')
  exact Option.some.inj (hsimple.kind.symm.trans hsimple'.kind)

/-- **An `if` is left alone exactly if it is accepted.** -/
theorem fault?_eq_none_iff (hopens : (blockParts ts)[i]? = some (.opens .if_)) {o : Options} :
    fault? o (ts.drop (i + 1)) (BlockPart.closingOffset? 1 ((blockParts ts).drop (i + 1))) = none ↔
      Accepted o.oneLineStatements ts i := by
  cases hcount : BlockPart.closingOffset? 1 ((blockParts ts).drop (i + 1)) with
  | none =>
    have hunclosed : ∀ j, ¬ BlockPart.ClosedAt (blockParts ts) i j := by
      intro j hclosed
      obtain ⟨k, rfl⟩ : ∃ n, j = i + 1 + n := Nat.exists_eq_add_of_le hclosed.within.1
      rw [(closingOffset?_eq_some_iff hopens).2 hclosed] at hcount
      cases hcount
    rw [fault?_eq_none_of_unclosed hunclosed]
    constructor
    · exact Accepted.below
    · rintro (hbelow | ⟨kind, -, j, -, -, -, hclosed, -⟩)
      · exact hbelow
      · exact absurd hclosed (hunclosed j)
  | some k =>
    have hclosed := (closingOffset?_eq_some_iff hopens).1 hcount
    have hrow : (ts.drop (i + 1)).take k = (ts.take (i + 1 + k)).drop (i + 1) := by
      rw [List.drop_take, Nat.add_sub_cancel_left]
    have haccepted : Accepted o.oneLineStatements ts i ↔ ∃ kind ∈ o.oneLineStatements, Wraps ts i kind := by
      constructor
      · rintro (hbelow | ⟨kind, hpermitted, hwraps⟩)
        · exact absurd hclosed (hbelow.unclosed _)
        · exact ⟨kind, hpermitted, hwraps⟩
      · rintro ⟨kind, hpermitted, hwraps⟩
        exact .wrapped kind hpermitted hwraps
    simp only [fault?, hrow, haccepted, wraps_iff hclosed]
    cases afterThen? ((ts.take (i + 1 + k)).drop (i + 1)) with
    | none => simp
    | some body => simp [bodyFault?_eq_none_iff]

end Opener

/-! ## The ifs of a line -/

/-- **Each `if` is looked at by itself.** -/
theorem mem_faults_iff {o : Options} {ts : List Token} {parts : List BlockPart} {t : Token} {fault : Fault} :
    (t, fault) ∈ faults o ts parts ↔ ∃ i, ts[i]? = some t ∧ parts[i]? = some (.opens .if_) ∧
      fault? o (ts.drop (i + 1)) (BlockPart.closingOffset? 1 (parts.drop (i + 1))) = some fault := by
  induction ts generalizing parts with
  | nil => simp [faults]
  | cons u ts ih =>
    cases parts with
    | nil => simp [faults]
    | cons part parts =>
      rw [faults, List.mem_append, ih]
      constructor
      · rintro (hhere | ⟨i, ht, hpart, hfault⟩)
        · split_ifs at hhere with hpart
          · obtain ⟨fault, hfault, heq⟩ := Option.map_eq_some_iff.1 (Option.mem_toList.1 hhere)
            obtain ⟨rfl, rfl⟩ := Prod.mk.inj heq
            exact ⟨0, rfl, congrArg some hpart, hfault⟩
          · cases hhere
        · exact ⟨i + 1, ht, hpart, hfault⟩
      · rintro ⟨i, ht, hpart, hfault⟩
        cases i with
        | zero =>
          obtain rfl := Option.some.inj ht
          refine Or.inl (Option.mem_toList.2 ?_)
          rw [if_pos (Option.some.inj hpart)]
          exact Option.map_eq_some_iff.2 ⟨fault, hfault, rfl⟩
        | succ i => exact Or.inr ⟨i, ht, hpart, hfault⟩

theorem faults_of_subset {o o' : Options} (h : o.oneLineStatements ⊆ o'.oneLineStatements) (ts : List Token)
    (parts : List BlockPart) : faults o' ts parts <+ faults o ts parts := by
  induction ts generalizing parts with
  | nil => exact List.nil_sublist _
  | cons t ts ih =>
    cases parts with
    | nil => exact List.nil_sublist _
    | cons part parts =>
      refine List.Sublist.append ?_ (ih parts)
      split_ifs with hpart
      · cases hfault : fault? o' ts (BlockPart.closingOffset? 1 parts) with
        | none => exact List.nil_sublist _
        | some fault => rw [fault?_of_subset h hfault]
      · exact List.Sublist.refl _

/-! ## The ifs of a source -/

section Lines

variable {o : Options} {l : Line}

/-- what is found on a line, each at an `if` with a fault -/
theorem mem_findings_iff {id : String} {severity : Severity} {e : Diagnostic} :
    e ∈ findings id severity o l ↔ ∃ t fault, (t, fault) ∈ faults o l.code (blockParts l.code) ∧
      { Problem.singleVsMultilineIf.found t.line t.column fault.message Problem.singleVsMultilineIf.hint with
        ruleId := id, severity := severity } = e := by
  simp [findings, Prod.exists]

theorem findings_ordered_of_wasRead (hread : l.WasRead) (id : String) (severity : Severity) :
    (findings id severity o l).Pairwise fun d e => d.column < e.column := by
  have hcolumns := (Line.ordered_code hread).sublist (faults_sublist o l.code (blockParts l.code))
  exact List.pairwise_map.2 ((List.pairwise_map.1 hcolumns).imp fun h => Int.ofNat_lt.2 h)

/-- what the rule finds on a line -/
def lineFindings (o : Options) (l : Line) : List Diagnostic :=
  findings Problem.singleVsMultilineIf.ruleId Problem.singleVsMultilineIf.severity o l

theorem run_lineByLine (o : Options) : LineByLine (fun s => Rule.singleVsMultilineIf.run s o) (lineFindings o) :=
  check_lineByLine (by decide) _ o

variable {text : List Char} {texts : List (List Char)} {i : Nat} {t : Token}

/-- **One `if` of a source** is reported exactly if it is not accepted. -/
theorem reported_iff (hl : l ∈ Line.readAll texts) (hif : OpensIf l.code i t) :
    (∃ e ∈ Rule.singleVsMultilineIf.run ⟨text, Line.readAll texts⟩ o, e.At t) ↔
      ¬ Accepted o.oneLineStatements l.code i := by
  have hopens := (opens_if_iff hif.token).2 hif
  have hline : ∀ e : Diagnostic, e.At t →
      (e ∈ Rule.singleVsMultilineIf.run ⟨text, Line.readAll texts⟩ o ↔ e ∈ lineFindings o l) :=
    fun e hat => (run_lineByLine o).mem_at_iff hl (List.mem_of_getElem? hif.token) hat
  rw [← fault?_eq_none_iff hopens, ← ne_eq, Option.ne_none_iff_exists']
  constructor
  · rintro ⟨e, he, hat⟩
    obtain ⟨u, fault, hmem, rfl⟩ := mem_findings_iff.1 ((hline e hat).1 he)
    obtain ⟨j, hu, -, hfault⟩ := mem_faults_iff.1 hmem
    have hcolumn : u.column = t.column := Int.ofNat_inj.1 hat.column
    obtain rfl := Line.index_eq (Line.wasRead_readAll l hl) hu hif.token hcolumn
    exact ⟨fault, hfault⟩
  · rintro ⟨fault, hfault⟩
    refine ⟨_, (hline _ ⟨rfl, rfl⟩).2 (mem_findings_iff.2 ⟨t, fault, ?_, rfl⟩), ⟨rfl, rfl⟩⟩
    exact mem_faults_iff.2 ⟨i, hif.token, hopens, hfault⟩

end Lines

/-- what an `if` wraps makes the difference between two sets of kinds -/
theorem accepted_apart_iff {kinds kinds' : List StatementKind} {ts : List Token} {i : Nat} :
    (¬ Accepted kinds ts i ∧ Accepted kinds' ts i) ↔ ∃ kind ∈ kinds', kind ∉ kinds ∧ Wraps ts i kind := by
  constructor
  · rintro ⟨hnot, hbelow | ⟨kind, hpermitted, hwraps⟩⟩
    · exact absurd (.below hbelow) hnot
    · exact ⟨kind, hpermitted, fun hbefore => hnot (.wrapped kind hbefore hwraps), hwraps⟩
  · rintro ⟨kind, hpermitted, hadded, hwraps⟩
    refine ⟨?_, .wrapped kind hpermitted hwraps⟩
    rintro (hbelow | ⟨kind', hpermitted', hwraps'⟩)
    · obtain ⟨j, -, -, -, hclosed, -⟩ := hwraps
      exact hbelow.unclosed j hclosed
    · exact hadded (hwraps.unique hwraps' ▸ hpermitted')

end Rule.OneLineIf

/-! ## Main result -/

open Rule.OneLineIf

/-- what is reported, under any options, on the `if`s of a source -/
structure Source.IfsTold (s : Source) (found : Options → List Diagnostic) : Prop where
  /-- each report stands at a token that opens an `if` -/
  only : ∀ o, ∀ e ∈ found o, e.ruleId = Problem.singleVsMultilineIf.ruleId ∧
    ∃ l ∈ s.lines, ∃ i t, OpensIf l.code i t ∧ e.At t
  /-- reports stand one behind the other, so there is at most one for an `if` -/
  once : ∀ o, (found o).Pairwise fun e e' => e.place < e'.place
  /-- an `if` is reported exactly if it is not accepted -/
  reported : ∀ o, ∀ l ∈ s.lines, ∀ i t, OpensIf l.code i t →
    ((∃ e ∈ found o, e.At t) ↔ ¬ Accepted o.oneLineStatements l.code i)
  /-- with more kinds permitted no report is new -/
  fewer : ∀ o o', o.oneLineStatements ⊆ o'.oneLineStatements → found o' <+ found o
  /-- an `if` is no longer reported under other options exactly if it wraps a statement of a kind that they add -/
  dropped : ∀ o o', ∀ l ∈ s.lines, ∀ i t, OpensIf l.code i t →
    (((∃ e ∈ found o, e.At t) ∧ ¬ ∃ e ∈ found o', e.At t) ↔
      ∃ kind ∈ o'.oneLineStatements, kind ∉ o.oneLineStatements ∧ Wraps l.code i kind)

/--
**The rule on one-line `if`s reports exactly the `if`s that are not accepted**, each once, in the source with any lines, and
fewer of them the more kinds of statement are permitted.
-/
theorem one_line_ifs_told (text : List Char) (texts : List (List Char)) :
    Source.IfsTold ⟨text, Line.readAll texts⟩ (Rule.singleVsMultilineIf.run ⟨text, Line.readAll texts⟩) where
  only o e he := by
    obtain ⟨l, hl, he⟩ := List.mem_flatMap.1 he
    obtain ⟨t, fault, hmem, rfl⟩ := mem_findings_iff.1 he
    obtain ⟨i, ht, hopens, -⟩ := mem_faults_iff.1 hmem
    exact ⟨rfl, l, hl, i, t, (opens_if_iff ht).1 hopens, rfl, rfl⟩
  once o := (run_lineByLine o).ordered fun l hl => findings_ordered_of_wasRead (Line.wasRead_readAll l hl) _ _
  reported o l hl i t hif := reported_iff hl hif
  fewer o o' h := by
    refine List.Sublist.flatMap_right _ fun l hl => ?_
    exact (faults_of_subset h l.code (blockParts l.code)).map _
  dropped o o' l hl i t hif := by
    rw [reported_iff hl hif, reported_iff hl hif, not_not]
    exact accepted_apart_iff

/-- an `if` that wraps a call is reported where calls are not permitted, one with a branch always -/
example : let s := Source.ofText "if a then b = 1 end if a then f() end\nif a then f() else g() end".toList
    ((Rule.singleVsMultilineIf.run s {}).map fun e => (e.line, e.column),
      (Rule.singleVsMultilineIf.run s { oneLineStatements := [.assignment] }).map fun e => (e.line, e.column)) =
        ([(2, 1)], [(1, 21), (2, 1)]) := by
  decide +kernel

end VixStyle
