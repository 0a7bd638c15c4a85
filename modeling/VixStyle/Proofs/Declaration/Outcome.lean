/-
What becomes of each declaration keyword.

A `DeclarationSite` is a `const`, `static`, `var`, `let` or `func` with the tokens about it. It has one `Outcome`: it
declares names, or it is reported as nameless, or it is passed over, and this happens exactly if another keyword speaks
for it or its function has no name (`PassedOver`). Main statement, `Source.accounted`: the sites of a source are the
declaration keywords among its code, what the source declares and what is nameless in it are the outcomes of its sites one
after the other, no token is declared twice, and both lists go through the source from the front.

- `outcome_findings`: one site, by the cases of what stands behind it.
- `findingsFrom_eq`: nothing is found but at sites.
- `findings_ordered`: findings stand one behind the other, as their columns do on each line (`Line.columns_findings`).
-/
import VixStyle.Proofs.Source.Columns

namespace VixStyle

open scoped List

/-! ## Sites -/

/-- a token that is a declaration keyword -/
def Token.isDeclarationKeyword (t : Token) : Bool :=
  [Keyword.const_, .static_, .var_, .let_, .func_].any fun keyword => t.lexeme = .keyword keyword

/-- a declaration keyword with the token before it and the tokens behind it on its line -/
structure DeclarationSite where
  before : Option Token
  token : Token
  rest : List Token
  keyword : Keyword
  kind : DeclarationKind
  lexeme_token : token.lexeme = .keyword keyword
  declares_keyword : keyword.declares? = some kind

namespace DeclarationSite

/-- a token between others as a site, if it is a declaration keyword -/
def of? (before : Option Token) (t : Token) (rest : List Token) : Option DeclarationSite :=
  match ht : t.lexeme with
  | .keyword keyword =>
    match hkind : keyword.declares? with
    | some kind => some ⟨before, t, rest, keyword, kind, ht, hkind⟩
    | none => none
  | _ => none

/-- the sites in a row of tokens, given the token before it -/
def allFrom (before : Option Token) : List Token → List DeclarationSite
  | [] => []
  | t :: rest => (of? before t rest).toList ++ allFrom (some t) rest

/-- what a site yields -/
def findings (p : DeclarationSite) : List Finding := findingsAt p.before p.token p.rest

/-- another keyword speaks for this one, or it is a function without a name -/
inductive PassedOver (p : DeclarationSite) : Prop
  | afterStatic (hkeyword : p.keyword ≠ .func_) (h : p.before.map Token.lexeme = some (.keyword .static_))
  | staticFunction (hkeyword : p.keyword = .static_) (h : p.rest.head?.map Token.lexeme = some (.keyword .func_))
  | anonymous (hkeyword : p.keyword = .func_) (h : p.rest.head?.map Token.lexeme = some (.punctuation '('))

/-- what may become of a site: the names it declares stand behind it, each an identifier -/
inductive Outcome (p : DeclarationSite) : List Finding → Prop
  | names {items : List (Token × List Char)} (hsite : ¬ p.PassedOver) (hne : items ≠ [])
      (hbehind : items.map Prod.fst <+ p.rest) (hnames : ∀ item ∈ items, item.1.lexeme = .identifier item.2) :
      Outcome p (items.map fun item => .declared (Finding.declaration p.kind p.keyword item))
  | nameless {found : Option (List Char)} (hsite : ¬ p.PassedOver) :
      Outcome p [.nameless ⟨p.keyword, p.kind, p.token.line, p.token.column, found⟩]
  | nothing (hsite : p.PassedOver) : Outcome p []

theorem of?_eq_none {before : Option Token} {t : Token} {rest : List Token} (h : of? before t rest = none) :
    t.DeclaresNothing := by
  intro keyword hkeyword
  unfold of? at h
  split at h
  · rename_i word hword
    obtain rfl : word = keyword := by
      rw [hword] at hkeyword
      exact Lexeme.keyword.inj hkeyword
    split at h
    · cases h
    · assumption
  · rename_i hnot
    exact absurd hkeyword (hnot keyword)

theorem of?_eq_some {before : Option Token} {t : Token} {rest : List Token} {p : DeclarationSite}
    (h : of? before t rest = some p) : p.before = before ∧ p.token = t ∧ p.rest = rest := by
  unfold of? at h
  split at h
  · split at h
    · obtain rfl := Option.some.inj h
      exact ⟨rfl, rfl, rfl⟩
    · cases h
  · cases h

end DeclarationSite

/-- the declaration keywords of a source in order -/
def Source.sites (s : Source) : List DeclarationSite := s.lines.flatMap fun l => DeclarationSite.allFrom none l.code

/-! ## One site -/

theorem Keyword.declares?_eq_none_iff {keyword : Keyword} :
    keyword.declares? = none ↔ keyword ∉ [Keyword.const_, .static_, .var_, .let_, .func_] := by
  cases keyword <;> decide

theorem Keyword.declares?_eq_func_iff {keyword : Keyword} {kind : DeclarationKind} (h : keyword.declares? = some kind) :
    kind = .func ↔ keyword = .func_ := by
  cases keyword <;> cases h <;> decide

theorem Keyword.declares?_eq_static_iff {keyword : Keyword} {kind : DeclarationKind}
    (h : keyword.declares? = some kind) : kind = .static ↔ keyword = .static_ := by
  cases keyword <;> cases h <;> decide

namespace Finding

theorem listedNames_sublist (ts : List Token) : (listedNames ts).map Prod.fst <+ ts := by
  obtain ⟨front, back, ⟨rfl, -⟩, hnames⟩ := listedNames_cut ts
  exact hnames.trans (List.sublist_append_left front back)

theorem lexeme_of_mem_listedNames {ts : List Token} {item : Token × List Char} (h : item ∈ listedNames ts) :
    item.1.lexeme = .identifier item.2 := by
  induction ts using listedNames.induct with
  | case1 comma first rest name hfirst hcomma ih =>
    simp only [listedNames, hcomma, hfirst] at h
    rcases List.mem_cons.1 h with rfl | h
    · exact hfirst
    · exact ih h
  | case2 comma first rest hnot =>
    simp only [listedNames] at h
    cases h
  | case3 ts hnot =>
    obtain _ | ⟨a, _ | ⟨b, rest⟩⟩ := ts
    · cases h
    · cases h
    · exact (hnot a b rest rfl).elim

theorem afterModifier_suffix (kind : DeclarationKind) (ts : List Token) : afterModifier kind ts <:+ ts := by
  cases ts with
  | nil => exact List.suffix_refl _
  | cons t rest =>
    simp only [afterModifier]
    split
    all_goals first
      | exact List.suffix_cons t rest
      | exact List.suffix_refl _

theorem afterModifier_func (ts : List Token) : afterModifier .func ts = ts := by
  cases ts <;> rfl

end Finding

namespace DeclarationSite

variable (p : DeclarationSite)

/-- what a site yields, if no other keyword speaks for it -/
theorem findings_eq : p.findings =
    if p.kind ≠ .func ∧ p.before.map Token.lexeme = some (.keyword .static_) then []
    else if p.kind = .static ∧ p.rest.head?.map Token.lexeme = some (.keyword .func_) then []
    else Finding.named p.kind p.keyword p.token (Finding.afterModifier p.kind p.rest) := by
  have hany : ∀ (t : Option Token) (l : Lexeme), t.any (fun t => t.lexeme = l) = true ↔ t.map Token.lexeme = some l := by
    intro t l
    cases t <;> simp
  unfold findings findingsAt
  simp only [p.lexeme_token, p.declares_keyword, hany]
  simp only [and_comm]

/-- **A site has one outcome**, by the cases of what stands behind it. -/
theorem outcome_findings : p.Outcome p.findings := by
  have hfunc := Keyword.declares?_eq_func_iff p.declares_keyword
  have hstatic := Keyword.declares?_eq_static_iff p.declares_keyword
  rw [p.findings_eq]
  split_ifs with hafter hfunction
  · exact .nothing (.afterStatic (fun h => hafter.1 (hfunc.2 h)) hafter.2)
  · exact .nothing (.staticFunction (hstatic.1 hfunction.1) hfunction.2)
  · -- nothing speaks for the site, so it is passed over only as a function without a name
    have hsite : p.PassedOver → p.kind = .func ∧ p.rest.head?.map Token.lexeme = some (.punctuation '(') := by
      rintro (⟨hkeyword, h⟩ | ⟨hkeyword, h⟩ | ⟨hkeyword, h⟩)
      · exact absurd ⟨fun hk => hkeyword (hfunc.1 hk), h⟩ hafter
      · exact absurd ⟨hstatic.2 hkeyword, h⟩ hfunction
      · exact ⟨hfunc.2 hkeyword, h⟩
    have hbehind := Finding.afterModifier_suffix p.kind p.rest
    have hhead : p.kind = .func → (Finding.afterModifier p.kind p.rest).head? = p.rest.head? := by
      intro hk
      rw [hk, Finding.afterModifier_func]
    cases hrest : Finding.afterModifier p.kind p.rest with
    | nil =>
      refine .nameless fun h => ?_
      obtain ⟨hk, hmark⟩ := hsite h
      rw [← hhead hk, hrest] at hmark
      cases hmark
    | cons first rest =>
      rw [hrest] at hbehind
      have hnot : first.lexeme ≠ .punctuation '(' → ¬ p.PassedOver := by
        intro hfirst h
        obtain ⟨hk, hmark⟩ := hsite h
        rw [← hhead hk, hrest] at hmark
        exact hfirst (Option.some.inj hmark)
      simp only [Finding.named]
      split
      · rename_i name hname
        refine .names (hnot (by simp [hname])) (List.cons_ne_nil _ _) ?_ fun item hitem => ?_
        · refine List.Sublist.trans (List.Sublist.cons_cons first ?_) hbehind.sublist
          split
          · exact List.nil_sublist _
          · exact Finding.listedNames_sublist rest
        · rcases List.mem_cons.1 hitem with rfl | hitem
          · exact hname
          · split at hitem
            · cases hitem
            · exact Finding.lexeme_of_mem_listedNames hitem
      · rename_i hmark
        split_ifs with hk
        · refine .nothing (.anonymous (hfunc.1 hk) ?_)
          rw [← hhead hk, hrest, List.head?_cons, Option.map_some, hmark]
        · exact .nameless fun h => hk (hsite h).1
      · rename_i hmark
        exact .nameless (hnot hmark)

end DeclarationSite

/-! ## All sites -/

namespace DeclarationSite

/-- **Nothing is found but at sites.** -/
theorem findingsFrom_eq (before : Option Token) (ts : List Token) :
    findingsFrom before ts = (allFrom before ts).flatMap findings := by
  induction ts generalizing before with
  | nil => rfl
  | cons t rest ih =>
    rw [findingsFrom, allFrom, List.flatMap_append, ih]
    congr 1
    cases hsite : of? before t rest with
    | none => exact findingsAt_of_declaresNothing (of?_eq_none hsite) before rest
    | some p =>
      obtain ⟨rfl, rfl, rfl⟩ := of?_eq_some hsite
      simp [findings]

theorem isDeclarationKeyword_iff {t : Token} : t.isDeclarationKeyword = false ↔ t.DeclaresNothing := by
  unfold Token.isDeclarationKeyword Token.DeclaresNothing
  simp only [List.any_eq_false, decide_eq_true_eq, Keyword.declares?_eq_none_iff]
  exact ⟨fun h keyword hkeyword hmem => h keyword hmem hkeyword, fun h keyword hmem hkeyword => h keyword hkeyword hmem⟩

/-- the sites of a row are its declaration keywords -/
theorem map_token_allFrom (before : Option Token) (ts : List Token) :
    (allFrom before ts).map token = ts.filter Token.isDeclarationKeyword := by
  induction ts generalizing before with
  | nil => rfl
  | cons t rest ih =>
    rw [allFrom, List.map_append, ih]
    cases hsite : of? before t rest with
    | none =>
      have ht := isDeclarationKeyword_iff.2 (of?_eq_none hsite)
      simp [ht]
    | some p =>
      obtain ⟨-, rfl, -⟩ := of?_eq_some hsite
      have ht : p.token.isDeclarationKeyword = true := by
        by_contra hnot
        have hnone := isDeclarationKeyword_iff.1 (Bool.eq_false_iff.2 hnot) p.keyword p.lexeme_token
        rw [p.declares_keyword] at hnone
        cases hnone
      simp [ht]

/-- a site has the tokens of its row about it -/
theorem mem_allFrom {before : Option Token} {ts : List Token} {p : DeclarationSite} (h : p ∈ allFrom before ts) :
    ∃ front, ts = front ++ p.token :: p.rest ∧ p.before = front.getLast?.or before := by
  induction ts generalizing before with
  | nil => cases h
  | cons t rest ih =>
    rcases List.mem_append.1 h with hhere | hlater
    · obtain ⟨rfl, rfl, rfl⟩ := of?_eq_some (Option.mem_toList.1 hhere)
      exact ⟨[], rfl, rfl⟩
    · obtain ⟨front, rfl, hbefore⟩ := ih hlater
      refine ⟨t :: front, rfl, ?_⟩
      rw [hbefore, List.getLast?_cons]
      cases front.getLast? <;> rfl

end DeclarationSite

/-! ## The order of findings -/

/-- where a finding stands: places further up come first, and on one line those further to the left -/
def Finding.place (f : Finding) : ℤ ×ₗ ℕ := toLex (f.line, f.column)

/-- **Findings stand one behind the other**, whatever they are. -/
theorem findings_ordered (texts : List (List Char)) :
    ((Line.readAll texts).flatMap Line.findings).Pairwise fun f g => f.place < g.place := by
  refine List.pairwise_flatMap.2 ⟨fun l hl => ?_, ?_⟩
  · have hline : ∀ f ∈ l.findings, f.line = l.number :=
      line_of_mem_findingsFrom (Line.numbered_readAll l hl).code
    have hcolumns : (l.findings.map Finding.column).Pairwise (· < ·) :=
      (List.pairwise_map.2 (Line.ordered_code (Line.wasRead_readAll l hl))).sublist l.columns_findings
    refine (List.pairwise_map.1 hcolumns).imp_of_mem fun {f g} hf hg hlt => ?_
    exact Prod.Lex.toLex_lt_toLex.2 (Or.inr ⟨(hline f hf).trans (hline g hg).symm, hlt⟩)
  · refine (Line.ordered_readFrom 1 texts).imp_of_mem fun {l m} hl hm hlt f hf g hg => ?_
    refine Prod.Lex.toLex_lt_toLex.2 (Or.inl ?_)
    rwa [line_of_mem_findingsFrom (Line.numbered_readAll l hl).code f hf,
      line_of_mem_findingsFrom (Line.numbered_readAll m hm).code g hg]

/-! ## The source -/

def Declaration.place (d : Declaration) : ℤ ×ₗ ℕ := toLex (d.line, d.column)

def NamelessDeclaration.place (d : NamelessDeclaration) : ℤ ×ₗ ℕ := toLex (d.line, d.column)

/-- the token that is the name of a declaration -/
structure Declaration.IsNamedBy (d : Declaration) (t : Token) : Prop where
  lexeme : t.lexeme = .identifier d.name
  line : t.line = d.line
  column : t.column = d.column

/-- each declaration keyword of a source is accounted for once -/
structure Source.Accounted (s : Source) : Prop where
  /-- the sites are the declaration keywords, each between its neighbours -/
  keywords : s.sites.map DeclarationSite.token = (s.lines.flatMap Line.code).filter Token.isDeclarationKeyword
  neighbours : ∀ p ∈ s.sites, ∃ l ∈ s.lines, ∃ front, l.code = front ++ p.token :: p.rest ∧ p.before = front.getLast?
  /-- each has one outcome, and these are all that is found -/
  outcome : ∀ p ∈ s.sites, p.Outcome p.findings
  declarations : s.declarations = s.sites.flatMap fun p => p.findings.filterMap Finding.declared?
  nameless : s.namelessDeclarations = s.sites.flatMap fun p => p.findings.filterMap Finding.nameless?
  /-- no token is the name of two declarations -/
  named_once : s.declarations.Pairwise fun d e => ∀ t, d.IsNamedBy t → ¬ e.IsNamedBy t
  declarations_ordered : s.declarations.Pairwise fun d e => d.place < e.place
  nameless_ordered : s.namelessDeclarations.Pairwise fun d e => d.place < e.place

/-- **Every declaration keyword is accounted for exactly once**, in the source with any lines. -/
theorem Source.accounted (text : List Char) (texts : List (List Char)) : Source.Accounted ⟨text, Line.readAll texts⟩ := by
  have hfindings : Source.findings ⟨text, Line.readAll texts⟩ =
      (Source.sites ⟨text, Line.readAll texts⟩).flatMap DeclarationSite.findings := by
    simp only [Source.findings, Source.sites, List.flatMap_assoc]
    congr 1
    funext l
    exact DeclarationSite.findingsFrom_eq none l.code
  have hordered := findings_ordered texts
  have hdeclared : (Source.declarations ⟨text, Line.readAll texts⟩).Pairwise fun d e => d.place < e.place := by
    refine List.Pairwise.filterMap _ ?_ hordered
    rintro (d | d) (e | e) h d' hd e' he <;> cases hd <;> cases he
    exact h
  exact {
    keywords := by
      simp only [Source.sites, List.map_flatMap, List.filter_flatMap, DeclarationSite.map_token_allFrom]
    neighbours := fun p hp => by
      obtain ⟨l, hl, hp⟩ := List.mem_flatMap.1 hp
      obtain ⟨front, hcode, hbefore⟩ := DeclarationSite.mem_allFrom hp
      exact ⟨l, hl, front, hcode, by simpa using hbefore⟩
    outcome := fun p _ => p.outcome_findings
    declarations := by
      rw [Source.declarations, hfindings, List.filterMap_flatMap]
    nameless := by
      rw [Source.namelessDeclarations, hfindings, List.filterMap_flatMap]
    named_once := hdeclared.imp fun h t hd he => h.ne <|
      congrArg toLex (Prod.ext (hd.line.symm.trans he.line) (hd.column.symm.trans he.column))
    declarations_ordered := hdeclared
    nameless_ordered := by
      refine List.Pairwise.filterMap _ ?_ hordered
      rintro (d | d) (e | e) h d' hd e' he <;> cases hd <;> cases he
      exact h }

/-- a `static` speaks for the `var` behind it, and a function without a name is passed over -/
example : (Source.ofText "static var a, b = func(x)\nconst static".toList).sites.map
    (fun p => (p.keyword, p.findings.length)) = [(.static_, 2), (.var_, 0), (.func_, 0), (.const_, 1), (.static_, 1)] := by
  decide +kernel

end VixStyle
