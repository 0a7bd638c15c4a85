/-
Where the indentation rule reports.

Main statements:
- `findings_sited`: a finding lies on a line of the source. It stands where a token of the code stands, unless it is on the
  blanks of the line as a whole; then it stands in column 1, and the line has blanks before it.
- `findings_apart`: no two findings stand at one place in the same words.

Findings on closes that close nothing and on blocks that nothing closes stand at the tokens that the matching of the source
leaves (`filter_findings`), and these are tokens of the code in their order (`strays_sublist`, `left_sublist`). All other
findings lie on different lines. Findings of two of these three kinds are told apart by their words.
-/
import VixStyle.Proofs.Indentation.Later
import VixStyle.Proofs.Source.Columns

namespace VixStyle

open scoped List

/-! ## Tokens that the matching leaves -/

namespace Mark

/-- the token that opens or closes a block -/
def token : Mark → Token
  | opens _ t => t
  | closes t => t

theorem strays_sublist (pending : List (Keyword × Token)) (ms : List Mark) : (lifo pending ms).1 <+ ms.map token := by
  induction ms generalizing pending with
  | nil => exact List.Sublist.slnil
  | cons m ms ih =>
    cases m with
    | opens word t => exact (ih _).cons t
    | closes t =>
      cases pending with
      | nil => exact (ih []).cons_cons t
      | cons p outer => exact (ih outer).cons t

theorem left_sublist (pending : List (Keyword × Token)) (ms : List Mark) :
    ((lifo pending ms).2.map Prod.snd).reverse <+ (pending.map Prod.snd).reverse ++ ms.map token := by
  induction ms generalizing pending with
  | nil =>
    rw [List.map_nil, List.append_nil]
    exact List.Sublist.refl _
  | cons m ms ih =>
    cases m with
    | opens word t =>
      have hpush := ih ((word, t) :: pending)
      rwa [List.map_cons, List.reverse_cons, List.append_assoc] at hpush
    | closes t =>
      cases pending with
      | nil => exact (ih []).trans (List.sublist_cons_self t _)
      | cons p outer =>
        have hclose : (outer.map Prod.snd).reverse <+ ((p :: outer).map Prod.snd).reverse := by
          rw [List.map_cons, List.reverse_cons]
          exact List.sublist_append_left _ _
        exact (ih outer).trans (hclose.append (List.sublist_cons_self t _))

theorem map_fst_zip_sublist {α β : Type} (xs : List α) (ys : List β) : (xs.zip ys).map Prod.fst <+ xs := by
  induction xs generalizing ys with
  | nil => exact List.nil_sublist _
  | cons x xs ih =>
    cases ys with
    | nil => exact List.nil_sublist _
    | cons y ys => exact (ih ys).cons_cons x

/-- the marks of a line are made at tokens of its code, in their order -/
theorem tokens_marks (l : Line) : l.marks.map token <+ l.code := by
  have htoken : ∀ p : Token × BlockPart, ∀ m ∈ of? p, m.token = p.1 := by
    rintro ⟨t, part⟩ m hm
    cases part <;> cases hm <;> rfl
  exact (map_filterMap_sublist htoken _).trans (map_fst_zip_sublist l.code (blockParts l.code))

end Mark

/-- one token stands before another in the source -/
def Token.Precedes (t u : Token) : Prop := t.line < u.line ∨ (t.line = u.line ∧ t.column < u.column)

/-- the code of some lines -/
def codeOf (lines : List Line) : List Token := lines.flatMap Line.code

section Lines

variable {lines : List Line} (hread : ∀ l ∈ lines, l.WasRead)

theorem tokens_marksOf (lines : List Line) : (marksOf lines).map Mark.token <+ codeOf lines := by
  induction lines with
  | nil => exact List.Sublist.slnil
  | cons l lines ih =>
    rw [marksOf, codeOf, List.flatMap_cons, List.flatMap_cons, List.map_append]
    exact (Mark.tokens_marks l).append ih

include hread

/-- **The code of a source stands in order.** -/
theorem ordered_codeOf (hordered : lines.Pairwise fun l m => l.number < m.number) :
    (codeOf lines).Pairwise Token.Precedes := by
  have hline : ∀ l ∈ lines, ∀ t ∈ l.code, t.line = l.number := fun l hl => (Line.numbered_of_wasRead (hread l hl)).code
  refine List.pairwise_flatMap.2 ⟨fun l hl => ?_, hordered.imp_of_mem fun {l m} hl hm hlt t ht u hu => ?_⟩
  · refine (Line.ordered_code (hread l hl)).imp_of_mem fun {t u} ht hu htu => Or.inr ⟨?_, htu⟩
    rw [hline l hl t ht, hline l hl u hu]
  · refine Or.inl ?_
    rw [hline l hl t ht, hline m hm u hu]
    exact hlt

theorem strayEnds_ordered (hordered : lines.Pairwise fun l m => l.number < m.number) :
    (strayEnds lines).Pairwise Token.Precedes :=
  (ordered_codeOf hread hordered).sublist ((Mark.strays_sublist [] _).trans (tokens_marksOf lines))

omit hread in
theorem openBlocks_sublist (lines : List Line) : (openBlocks lines).map Prod.snd <+ codeOf lines := by
  have hleft := Mark.left_sublist [] (marksOf lines)
  rw [List.map_nil, List.reverse_nil, List.nil_append, ← List.map_reverse] at hleft
  exact hleft.trans (tokens_marksOf lines)

theorem openBlocks_ordered (hordered : lines.Pairwise fun l m => l.number < m.number) :
    (openBlocks lines).Pairwise fun p q => p.2.Precedes q.2 :=
  List.pairwise_map.1 ((ordered_codeOf hread hordered).sublist (openBlocks_sublist lines))

end Lines

namespace Rule.Indentation

/-! ## Findings of the three kinds -/

/-- **What a source is reported for** is found on its lines, or is a block that they leave open. -/
theorem findings_eq (options : Options) (lines : List Line) :
    findings options lines = ((Walk.start options).run lines).2 ++ (openBlocks lines).map unclosedAt := by
  obtain ⟨hagrees, -, -⟩ := run_matching (Walk.start options) lines agrees_nil
  exact congrArg (_ ++ ·) (leftOpen_eq hagrees)

/-- **The findings on matching** are those that the matching of the source leaves, and all others come in the order of
their lines. -/
theorem filter_findings (options : Options) (lines : List Line) :
    (findings options lines).filter (fun f => f.fault.isStray) = (strayEnds lines).map strayAt ∧
      (findings options lines).filter (fun f => f.fault.isUnclosed) = (openBlocks lines).map unclosedAt ∧
      (findings options lines).filter (fun f => !f.fault.isMatching) =
        ((Walk.start options).run lines).2.filter fun f => !f.fault.isStray := by
  obtain ⟨-, hstray, hunclosed⟩ := run_matching (Walk.start options) lines agrees_nil
  have hkind : ∀ f ∈ (openBlocks lines).map unclosedAt, f.fault.isStray = false ∧ f.fault.isUnclosed = true := by
    intro f hf
    obtain ⟨p, -, rfl⟩ := List.mem_map.1 hf
    exact ⟨rfl, rfl⟩
  have hnotStray : ((openBlocks lines).map unclosedAt).filter (fun f => f.fault.isStray) = [] :=
    List.filter_eq_nil_iff.2 fun f hf => by simp [(hkind f hf).1]
  have hall : ((openBlocks lines).map unclosedAt).filter (fun f => f.fault.isUnclosed) = (openBlocks lines).map unclosedAt :=
    List.filter_eq_self.2 fun f hf => (hkind f hf).2
  have hmatching : ((openBlocks lines).map unclosedAt).filter (fun f => !f.fault.isMatching) = [] :=
    List.filter_eq_nil_iff.2 fun f hf => by simp [Fault.isMatching, (hkind f hf).2]
  rw [findings_eq, List.filter_append, List.filter_append, List.filter_append, hnotStray, hall, hmatching]
  refine ⟨?_, ?_, ?_⟩
  · rw [hstray, List.append_nil]
    rfl
  · rw [hunclosed, List.nil_append]
  · rw [List.append_nil]
    refine List.filter_congr fun f hf => ?_
    have hnot : f.fault.isUnclosed = false := by
      have hall := List.filter_eq_nil_iff.1 hunclosed f hf
      simpa using hall
    rw [Fault.isMatching, hnot, Bool.or_false]

/-! ## No finding twice -/

/-- two findings that differ in place or wording -/
def Finding.Apart (f g : Finding) : Prop :=
  f.line = g.line → f.column = g.column → f.fault.message ≠ g.fault.message

theorem apart_of_precedes {t u : Token} (h : t.Precedes u) {f g : Finding} (hf : f.line = t.line ∧ f.column = t.column)
    (hg : g.line = u.line ∧ g.column = u.column) : f.Apart g := by
  intro hline hcolumn
  rw [hf.1, hg.1] at hline
  rw [hf.2, hg.2] at hcolumn
  rcases h with hlt | ⟨-, hlt⟩ <;> omega

/-- findings of different kinds differ in their words -/
theorem message_ne_of_kind {f g : Fault} (h : f.isStray ≠ g.isStray ∨ f.isUnclosed ≠ g.isUnclosed) :
    f.message ≠ g.message := by
  intro heq
  have hstray : f.isStray = g.isStray := by
    rw [Bool.eq_iff_iff, ← message_eq_stray_iff, ← message_eq_stray_iff, heq]
  have hunclosed : f.isUnclosed = true ↔ g.isUnclosed = true := by
    constructor <;> intro hkind <;> obtain ⟨word, rfl⟩ := Fault.isUnclosed_iff.1 hkind
    · exact message_eq_unclosed heq.symm
    · exact message_eq_unclosed heq
  rcases h with h | h
  · exact h hstray
  · exact h (Bool.eq_iff_iff.2 hunclosed)

section Lines

variable {lines : List Line} (hread : ∀ l ∈ lines, l.WasRead)

include hread

/-- **No two findings stand at one place in the same words.** -/
theorem findings_apart (hordered : lines.Pairwise fun l m => l.number < m.number) (options : Options) :
    (findings options lines).Pairwise Finding.Apart := by
  obtain ⟨hstray, hunclosed, hoff⟩ := filter_findings options lines
  have hstrays : ((findings options lines).filter fun f => f.fault.isStray).Pairwise Finding.Apart := by
    rw [hstray, List.pairwise_map]
    exact (strayEnds_ordered hread hordered).imp fun h => apart_of_precedes h ⟨rfl, rfl⟩ ⟨rfl, rfl⟩
  have hopen : ((findings options lines).filter fun f => f.fault.isUnclosed).Pairwise Finding.Apart := by
    rw [hunclosed, List.pairwise_map]
    exact (openBlocks_ordered hread hordered).imp fun h => apart_of_precedes h ⟨rfl, rfl⟩ ⟨rfl, rfl⟩
  have hothers : ((findings options lines).filter fun f => !f.fault.isMatching).Pairwise Finding.Apart := by
    rw [hoff]
    have hnumbered : ∀ l ∈ lines, l.Numbered := fun l hl => Line.numbered_of_wasRead (hread l hl)
    exact (Walk.run_off_ordered hnumbered hordered).imp fun hlt heq => absurd heq hlt.ne
  rw [List.pairwise_filter] at hstrays hopen hothers
  -- two findings are of one kind, or else their words are different
  refine (hstrays.and (hopen.and hothers)).imp fun {f g} ⟨hs, hu, ho⟩ => ?_
  by_cases hkinds : f.fault.isStray = g.fault.isStray ∧ f.fault.isUnclosed = g.fault.isUnclosed
  · cases hfs : f.fault.isStray with
    | true => exact hs hfs (hkinds.1 ▸ hfs)
    | false =>
      cases hfu : f.fault.isUnclosed with
      | true => exact hu hfu (hkinds.2 ▸ hfu)
      | false =>
        refine ho ?_ ?_
        · simp [Fault.isMatching, hfs, hfu]
        · simp [Fault.isMatching, ← hkinds.1, ← hkinds.2, hfs, hfu]
  · intro _ _
    refine message_ne_of_kind ?_
    tauto

end Lines

/-! ## Where findings stand -/

/-- a fault of the blanks before a line as a whole -/
def Fault.isWholeLine : Fault → Bool
  | mixedBlanks | wrongBlanks _ => true
  | _ => false

theorem depthFault_not_wholeLine (first : Lexeme) (unit : Option IndentUnit) (p : Place) (actual : Nat) :
    (depthFault first unit p actual).isWholeLine = false := by
  unfold depthFault
  cases unit <;> dsimp only <;> split <;> (try split_ifs) <;> rfl

/-- **A fault that measuring finds** stands at the first token of the line or is on its blanks as a whole. -/
theorem measure_column {unit : Option IndentUnit} {i : Indentation} {first : Lexeme} {column : Nat} {p : Place} {c : Nat}
    {fault : Fault} (h : (measure unit i first column p).fault = some (c, fault)) :
    (fault.isWholeLine = false ∧ c = column) ∨ (fault.isWholeLine = true ∧ c = 1 ∧ i.blanks ≠ []) := by
  have hblanks : i.mix ≠ .none → i.blanks ≠ [] := by
    intro hmix heq
    apply hmix
    rw [Indentation.mix, heq]
    rfl
  unfold measure at h
  split at h
  · rename_i hmix
    cases h
    exact Or.inr ⟨rfl, rfl, hblanks (by rw [hmix]; simp)⟩
  · dsimp only at h
    split_ifs at h
    cases h
    exact Or.inl ⟨depthFault_not_wholeLine .., rfl⟩
  · rename_i hnone
    dsimp only at h
    split_ifs at h <;> cases h
    · exact Or.inr ⟨rfl, rfl, hblanks hnone⟩
    · exact Or.inl ⟨rfl, rfl⟩
    · exact Or.inl ⟨depthFault_not_wholeLine .., rfl⟩

/-- a finding that lies on a line: at a token of its code, or on its blanks as a whole -/
structure Finding.SitsOn (f : Finding) (l : Line) : Prop where
  line : f.line = l.number
  place : (f.fault.isWholeLine = false ∧ ∃ t ∈ l.code, f.column = t.column) ∨
    (f.fault.isWholeLine = true ∧ f.column = 1 ∧ l.indentation.blanks ≠ [])

theorem Walk.offOf_sited {w : Walk} {l : Line} {first : Token} (hfirst : first ∈ l.code) {f : Finding}
    (hf : f ∈ w.offOf l first) : f.SitsOn l := by
  obtain ⟨⟨c, fault⟩, hfault, rfl⟩ := Option.map_eq_some_iff.1 (Option.mem_toList.1 hf)
  unfold Walk.measured at hfault
  split_ifs at hfault
  refine ⟨rfl, ?_⟩
  rcases measure_column hfault with ⟨hkind, hc⟩ | hwhole
  · exact Or.inl ⟨hkind, first, hfirst, hc⟩
  · exact Or.inr hwhole

theorem Walk.run_off_sited (w : Walk) (lines : List Line) :
    ∀ f ∈ (w.run lines).2, f.fault.isStray = false → ∃ l ∈ lines, f.SitsOn l := by
  induction lines generalizing w with
  | nil =>
    intro f hf
    cases hf
  | cons l lines ih =>
    intro f hf hs
    rcases List.mem_append.1 hf with hf | hf
    · have hoff : f ∈ (w.step l).2.filter fun f => !f.fault.isStray := List.mem_filter.2 ⟨hf, by simp [hs]⟩
      rw [Walk.filter_step] at hoff
      split at hoff
      · cases hoff
      · rename_i first rest hcode
        exact ⟨l, List.mem_cons_self, Walk.offOf_sited (hcode ▸ List.mem_cons_self) hoff⟩
    · obtain ⟨m, hm, hsits⟩ := ih (w.step l).1 f hf hs
      exact ⟨m, List.mem_cons_of_mem l hm, hsits⟩

/-- **Findings stand at tokens of the code** or are on the blanks of a line as a whole. -/
theorem findings_sited {lines : List Line} (hread : ∀ l ∈ lines, l.WasRead) (options : Options) :
    ∀ f ∈ findings options lines, ∃ l ∈ lines, f.SitsOn l := by
  obtain ⟨hstray, hunclosed, hoff⟩ := filter_findings options lines
  have htoken : ∀ t ∈ codeOf lines, ∃ l ∈ lines, t ∈ l.code ∧ t.line = l.number := by
    intro t ht
    obtain ⟨l, hl, ht⟩ := List.mem_flatMap.1 ht
    exact ⟨l, hl, ht, (Line.numbered_of_wasRead (hread l hl)).code t ht⟩
  intro f hf
  cases hs : f.fault.isStray with
  | true =>
    have hmem : f ∈ (findings options lines).filter fun f => f.fault.isStray := List.mem_filter.2 ⟨hf, hs⟩
    rw [hstray] at hmem
    obtain ⟨t, ht, rfl⟩ := List.mem_map.1 hmem
    obtain ⟨l, hl, hcode, hline⟩ := htoken t (((Mark.strays_sublist [] _).trans (tokens_marksOf lines)).subset ht)
    exact ⟨l, hl, hline, Or.inl ⟨rfl, t, hcode, rfl⟩⟩
  | false =>
    cases hu : f.fault.isUnclosed with
    | true =>
      have hmem : f ∈ (findings options lines).filter fun f => f.fault.isUnclosed := List.mem_filter.2 ⟨hf, hu⟩
      rw [hunclosed] at hmem
      obtain ⟨p, hp, rfl⟩ := List.mem_map.1 hmem
      obtain ⟨l, hl, hcode, hline⟩ := htoken p.2 ((openBlocks_sublist lines).subset (List.mem_map_of_mem hp))
      exact ⟨l, hl, hline, Or.inl ⟨rfl, p.2, hcode, rfl⟩⟩
    | false =>
      have hmem : f ∈ (findings options lines).filter fun f => !f.fault.isMatching :=
        List.mem_filter.2 ⟨hf, by simp [Fault.isMatching, hs, hu]⟩
      rw [hoff] at hmem
      exact Walk.run_off_sited _ lines f (List.mem_of_mem_filter hmem) hs

/-! ## The wording on whole lines -/

/-- a report on the blanks before a line as a whole, told by its words -/
def isWholeLineReport (d : Diagnostic) : Bool :=
  d.ruleId == Problem.indentationConsistency.ruleId &&
    (d.message == Fault.mixedBlanks.message || d.message == (Fault.wrongBlanks true).message ||
      d.message == (Fault.wrongBlanks false).message)

theorem prefix_append {front : List Char} {a b : String} (h : front <+: a.toList) : front <+: (a ++ b).toList := by
  rw [String.toList_append]
  exact h.trans (List.prefix_append _ _)

/-- the wording on an uneven width is not the one on mixed blanks, though it starts with the same word -/
theorem message_uneven_ne (width unitWidth : Nat) : (Fault.uneven width unitWidth).message ≠ Fault.mixedBlanks.message := by
  intro h
  have hfront : "indentation of ".toList <+: (Fault.uneven width unitWidth).message.toList :=
    prefix_append (prefix_append (prefix_append (prefix_append (List.prefix_refl _))))
  rw [h] at hfront
  revert hfront
  decide +kernel

theorem initial_of_message {f g : Fault} (h : f.message = g.message) : f.initial = g.initial := by
  have hinitial := f.head?_message
  rw [h, g.head?_message] at hinitial
  exact (Option.some.inj hinitial).symm

/-- the words on whole lines are on them only -/
theorem isWholeLineReport_diagnostic (f : Finding) : isWholeLineReport f.diagnostic = f.fault.isWholeLine := by
  have hreport : isWholeLineReport f.diagnostic = true ↔
      f.fault.message = Fault.mixedBlanks.message ∨ f.fault.message = (Fault.wrongBlanks true).message ∨
        f.fault.message = (Fault.wrongBlanks false).message := by
    simp [isWholeLineReport, Finding.diagnostic, Problem.found, or_assoc]
  rw [Bool.eq_iff_iff, hreport]
  constructor
  · rintro (h | h | h)
    · have hinitial := initial_of_message h
      generalize f.fault = fault at h hinitial
      cases fault with
      | uneven width unitWidth => exact absurd h (message_uneven_ne width unitWidth)
      | mixedBlanks => rfl
      | _ => exact absurd hinitial (by simp [Fault.initial])
    all_goals
      have hinitial := initial_of_message h
      generalize f.fault = fault at hinitial
      cases fault with
      | wrongBlanks foundTabs => rfl
      | _ => exact absurd hinitial (by simp [Fault.initial])
  · intro h
    generalize f.fault = fault at h
    cases fault with
    | mixedBlanks => exact Or.inl rfl
    | wrongBlanks foundTabs =>
      cases foundTabs with
      | true => exact Or.inr (Or.inl rfl)
      | false => exact Or.inr (Or.inr rfl)
    | _ => cases h

end Rule.Indentation

end VixStyle
