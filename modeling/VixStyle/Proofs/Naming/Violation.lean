/-
Which declarations the rules on naming report.

`Declaration.Misnamed` tells from the letters of a declared name whether it breaks the convention of its kind. Main
statement, `misnamed_reported`: what the rules on naming report on a source is in bijection with its misnamed declarations,
each where its declaration stands and from the rule of its kind.

- `isSome_finding?_iff`: one declaration, by what its convention means for letters (`Name.style_eq_lowerSnake_iff`).
- `mem_namingFindings_iff`: the rules together report what is found on the declarations one by one.
- `declarations_ascend`: a declaration is known by its place.
-/
import VixStyle.Proofs.Declaration.Outcome
import VixStyle.Proofs.Lint.Severity
import VixStyle.Proofs.Name.Style

namespace VixStyle

open Text

/-! ## Misnamed declarations -/

/-- the name breaks the convention of its kind: capitals for constants and statics, no capitals for the others -/
def Declaration.Misnamed (d : Declaration) : Prop :=
  match d.kind with
  | .constant | .static => (∀ c ∈ d.name, isUpper c = false) ∨ ∃ c ∈ d.name, isLower c = true
  | .var | .func => ∃ c ∈ d.name, isUpper c = true

/-- the problem of a misnamed declaration -/
def DeclarationKind.problem : DeclarationKind → Problem
  | .constant => .constNaming
  | .static => .staticNaming
  | .var => .varNaming
  | .func => .funcNaming

/-- a diagnostic from the rule on a kind of declaration, where a declaration of that kind stands -/
structure Diagnostic.Tells (e : Diagnostic) (d : Declaration) : Prop where
  rule : e.ruleId = d.kind.problem.ruleId
  line : e.line = d.line
  column : e.column = d.column

/-- only letters with a case matter -/
theorem Declaration.misnamed_congr {d d' : Declaration} (hkind : d.kind = d'.kind)
    (hletters : d.name.filter hasCase = d'.name.filter hasCase) : d.Misnamed ↔ d'.Misnamed := by
  have hmem : ∀ c, hasCase c = true → (c ∈ d.name ↔ c ∈ d'.name) := by
    intro c hc
    have hboth : c ∈ d.name.filter hasCase ↔ c ∈ d'.name.filter hasCase := by rw [hletters]
    simpa [hc] using hboth
  have hupper : (∃ c ∈ d.name, isUpper c = true) ↔ ∃ c ∈ d'.name, isUpper c = true :=
    exists_congr fun c => and_congr_left fun hc => hmem c (hasCase_iff.2 (Or.inl hc))
  have hlower : (∃ c ∈ d.name, isLower c = true) ↔ ∃ c ∈ d'.name, isLower c = true :=
    exists_congr fun c => and_congr_left fun hc => hmem c (hasCase_iff.2 (Or.inr hc))
  have hnone : (∀ c ∈ d.name, isUpper c = false) ↔ ∀ c ∈ d'.name, isUpper c = false := by
    simpa using not_congr hupper
  unfold Misnamed
  rw [hkind]
  cases d'.kind with
  | constant => exact or_congr hnone hlower
  | static => exact or_congr hnone hlower
  | var => exact hupper
  | func => exact hupper

/-! ## One declaration -/

namespace Rule.Naming

/-- the finding on a declaration of any kind -/
def finding? (d : Declaration) : Option Diagnostic :=
  match d.kind with
  | .constant => capitalFinding? .constNaming d
  | .static => capitalFinding? .staticNaming d
  | .var => varFinding? d
  | .func => funcFinding? d

theorem finding?_cases {d : Declaration} {e : Diagnostic} (h : finding? d = some e) :
    ∃ message hint, e = misnamed d.kind.problem d message hint := by
  unfold finding? at h
  split at h <;> rename_i hkind <;> rw [hkind]
  · exact capitalFinding?_cases _ d e h
  · exact capitalFinding?_cases _ d e h
  · exact varFinding?_cases d e h
  · exact funcFinding?_cases d e h

theorem tells_of_finding? {d : Declaration} {e : Diagnostic} (h : finding? d = some e) : e.Tells d := by
  obtain ⟨message, hint, rfl⟩ := finding?_cases h
  exact ⟨rfl, rfl, rfl⟩

theorem isSome_capitalFinding?_iff {p : Problem} {d : Declaration} : (capitalFinding? p d).isSome = true ↔
    (∀ c ∈ d.name, isUpper c = false) ∨ ∃ c ∈ d.name, isLower c = true := by
  have hstyle : d.style = .upperSnake ↔ _ := Name.style_eq_upperSnake_iff
  unfold capitalFinding?
  split_ifs with h
  · obtain ⟨⟨c, hc, hupper⟩, hlower⟩ := hstyle.1 h
    simp only [Option.isSome_none, Bool.false_eq_true, false_iff, not_or, not_forall, not_exists, not_and]
    exact ⟨⟨c, hc, by simp [hupper]⟩, fun c hc => by simp [hlower c hc]⟩
  · rw [hstyle, not_and_or] at h
    simpa using h

theorem isSome_varFinding?_iff {d : Declaration} : (varFinding? d).isSome = true ↔ d.style ≠ .lowerSnake := by
  unfold varFinding?
  cases d.style <;> simp

theorem isSome_funcFinding?_iff {d : Declaration} : (funcFinding? d).isSome = true ↔ d.style ≠ .lowerSnake := by
  unfold funcFinding?
  split_ifs with h <;> simp [h]

theorem style_ne_lowerSnake_iff {d : Declaration} : d.style ≠ .lowerSnake ↔ ∃ c ∈ d.name, isUpper c = true := by
  rw [Declaration.style, Ne, Name.style_eq_lowerSnake_iff]
  simp

/-- **A declaration is reported exactly if it is misnamed.** -/
theorem isSome_finding?_iff {d : Declaration} : (finding? d).isSome = true ↔ d.Misnamed := by
  unfold finding? Declaration.Misnamed
  cases d.kind with
  | constant => exact isSome_capitalFinding?_iff
  | static => exact isSome_capitalFinding?_iff
  | var => exact isSome_varFinding?_iff.trans style_ne_lowerSnake_iff
  | func => exact isSome_funcFinding?_iff.trans style_ne_lowerSnake_iff

end Rule.Naming

/-! ## All declarations -/

/-- the default rules on naming -/
def namingRules : List Rule := defaultRules.filter fun r => r.header.category = "naming"

/-- what the rules on naming report on a source -/
def Source.namingFindings (s : Source) (o : Options) : List Diagnostic := namingRules.flatMap fun r => r.run s o

theorem namingRules_eq : namingRules = [.constNaming, .staticNaming, .varNaming, .funcNaming] := rfl

open Rule.Naming in
/-- the rules go through the declarations once for each kind -/
theorem namingFindings_eq (s : Source) (o : Options) : s.namingFindings o =
    [DeclarationKind.constant, .static, .var, .func].flatMap fun kind => (declarationsOf kind s).filterMap finding? := by
  have hfind : ∀ (kind : DeclarationKind) (find : Declaration → Option Diagnostic),
      (∀ d, d.kind = kind → find d = finding? d) →
        (declarationsOf kind s).filterMap find = (declarationsOf kind s).filterMap finding? :=
    fun kind find h => List.filterMap_congr fun d hd => h d (of_decide_eq_true (List.mem_filter.1 hd).2)
  have hconst := hfind .constant (capitalFinding? .constNaming) fun d hd => by simp only [finding?, hd]
  have hstatic := hfind .static (capitalFinding? .staticNaming) fun d hd => by simp only [finding?, hd]
  have hvar := hfind .var varFinding? fun d hd => by simp only [finding?, hd]
  have hfunc := hfind .func funcFinding? fun d hd => by simp only [finding?, hd]
  simp only [Source.namingFindings, namingRules_eq, List.flatMap_cons, ← hconst, ← hstatic, ← hvar, ← hfunc]
  rfl

open Rule.Naming in
/-- **The rules on naming together** report what is found on the declarations one by one. -/
theorem mem_namingFindings_iff {s : Source} {o : Options} {e : Diagnostic} :
    e ∈ s.namingFindings o ↔ ∃ d ∈ s.declarations, finding? d = some e := by
  rw [namingFindings_eq]
  simp only [List.mem_flatMap, declarationsOf, List.mem_filterMap, List.mem_filter, decide_eq_true_eq]
  constructor
  · rintro ⟨kind, -, d, ⟨hd, -⟩, he⟩
    exact ⟨d, hd, he⟩
  · rintro ⟨d, hd, he⟩
    exact ⟨d.kind, by cases d.kind <;> decide, d, ⟨hd, rfl⟩, he⟩

/-- **Declarations stand one behind the other**, so a declaration is known by its place. -/
theorem declarations_ascend (text : List Char) (texts : List (List Char)) :
    (Source.declarations ⟨text, Line.readAll texts⟩).Pairwise fun d e => d.place < e.place := by
  refine List.Pairwise.filterMap _ ?_ (findings_ordered texts)
  rintro (d | d) (e | e) h d' hd e' he <;> cases hd <;> cases he
  exact h

theorem eq_of_place {ds : List Declaration} (hds : ds.Pairwise fun d e => d.place < e.place) {d d' : Declaration}
    (hd : d ∈ ds) (hd' : d' ∈ ds) (hplace : d.place = d'.place) : d = d' := by
  have hplaces : (ds.map Declaration.place).Nodup := List.pairwise_map.2 (hds.imp fun h => h.ne)
  exact List.inj_on_of_nodup_map hplaces hd hd' hplace

theorem Diagnostic.Tells.place_eq {e : Diagnostic} {d d' : Declaration} (h : e.Tells d) (h' : e.Tells d') :
    d.place = d'.place :=
  congrArg toLex (Prod.ext (h.line.symm.trans h'.line) (Int.ofNat_inj.1 (h.column.symm.trans h'.column)))

open Rule.Naming in
/-- nothing is reported twice -/
theorem namingFindings_nodup {s : Source} (hs : s.declarations.Pairwise fun d e => d.place < e.place) (o : Options) :
    (s.namingFindings o).Nodup := by
  rw [namingFindings_eq]
  refine List.pairwise_flatMap.2 ⟨fun kind _ => ?_, ?_⟩
  · refine List.Pairwise.filterMap _ (fun d d' hlt e he e' he' heq => ?_) (hs.filter _)
    subst heq
    exact hlt.ne ((tells_of_finding? he).place_eq (tells_of_finding? he'))
  · have hkinds : [DeclarationKind.constant, .static, .var, .func].Pairwise
        fun k k' => k.problem.ruleId ≠ k'.problem.ruleId := by decide +kernel
    refine hkinds.imp fun {k k'} hne e he e' he' heq => ?_
    subst heq
    have hrule : ∀ kind, e ∈ (declarationsOf kind s).filterMap finding? → e.ruleId = kind.problem.ruleId := by
      intro kind he
      obtain ⟨d, hd, he⟩ := List.mem_filterMap.1 he
      rw [(tells_of_finding? he).rule, of_decide_eq_true (List.mem_filter.1 hd).2]
    exact hne ((hrule k he).symm.trans (hrule k' he'))

/-! ## Main result -/

/-- what is reported tells of the misnamed declarations of a source and of nothing else -/
structure Source.ToldBy (s : Source) (found : List Diagnostic) : Prop where
  /-- what is reported and the misnamed declarations belong together one to one -/
  matching : ∃ f : {e // e ∈ found} ≃ {d // d ∈ s.declarations ∧ d.Misnamed},
    ∀ e : {e // e ∈ found}, e.1.Tells (f e).1
  /-- nothing is reported twice, and no declaration is listed twice -/
  once : found.Nodup ∧ s.declarations.Nodup
  /-- a declaration is reported exactly if it is misnamed -/
  reported : ∀ d ∈ s.declarations, (∃ e ∈ found, e.Tells d) ↔ d.Misnamed
  /-- only the rule of its kind reports where a declaration stands -/
  only : ∀ e ∈ found, ∀ d ∈ s.declarations, e.line = d.line → e.column = d.column → e.Tells d
  /-- letters without case, digits and underscores do not matter -/
  letters : ∀ d ∈ s.declarations, ∀ d' ∈ s.declarations, d.kind = d'.kind →
    d.name.filter hasCase = d'.name.filter hasCase → ((∃ e ∈ found, e.Tells d) ↔ ∃ e ∈ found, e.Tells d')

open Rule.Naming in
/-- a misnamed declaration as what is reported of it -/
theorem exists_matching {s : Source} (hs : s.declarations.Pairwise fun d e => d.place < e.place) (o : Options) :
    ∃ f : {e // e ∈ s.namingFindings o} ≃ {d // d ∈ s.declarations ∧ d.Misnamed},
      ∀ e : {e // e ∈ s.namingFindings o}, e.1.Tells (f e).1 := by
  have hsome : ∀ d : {d // d ∈ s.declarations ∧ d.Misnamed}, (finding? d.1).isSome = true :=
    fun d => isSome_finding?_iff.2 d.2.2
  have hget : ∀ d : {d // d ∈ s.declarations ∧ d.Misnamed}, finding? d.1 = some ((finding? d.1).get (hsome d)) :=
    fun d => (Option.some_get (hsome d)).symm
  let report : {d // d ∈ s.declarations ∧ d.Misnamed} → {e // e ∈ s.namingFindings o} := fun d =>
    ⟨(finding? d.1).get (hsome d), mem_namingFindings_iff.2 ⟨d.1, d.2.1, hget d⟩⟩
  have hreport : ∀ d, (report d).1.Tells d.1 := fun d => tells_of_finding? (hget d)
  have hbijective : Function.Bijective report := by
    refine ⟨fun d d' heq => ?_, fun e => ?_⟩
    · have htells := hreport d'
      rw [← heq] at htells
      exact Subtype.ext (eq_of_place hs d.2.1 d'.2.1 ((hreport d).place_eq htells))
    · obtain ⟨d, hd, he⟩ := mem_namingFindings_iff.1 e.2
      refine ⟨⟨d, hd, isSome_finding?_iff.1 (by rw [he]; rfl)⟩, Subtype.ext ?_⟩
      exact Option.get_of_eq_some _ he
  refine ⟨(Equiv.ofBijective report hbijective).symm, fun e => ?_⟩
  have htells := hreport ((Equiv.ofBijective report hbijective).symm e)
  rwa [Equiv.ofBijective_apply_symm_apply report hbijective e] at htells

/--
**The rules on naming report exactly the misnamed declarations**, each once, where it stands and by the rule of its kind,
in the source with any lines.
-/
theorem misnamed_reported (text : List Char) (texts : List (List Char)) (o : Options) :
    Source.ToldBy ⟨text, Line.readAll texts⟩ (Source.namingFindings ⟨text, Line.readAll texts⟩ o) := by
  have hplaces := declarations_ascend text texts
  obtain ⟨f, hf⟩ := exists_matching hplaces o
  generalize (⟨text, Line.readAll texts⟩ : Source) = s at hplaces f hf ⊢
  -- at one place stands one declaration, so what is reported there is reported of it
  have honly : ∀ e ∈ s.namingFindings o, ∀ d ∈ s.declarations, e.line = d.line → e.column = d.column →
      e.Tells d ∧ d.Misnamed := by
    intro e he d hd hline hcolumn
    have htells := hf ⟨e, he⟩
    have hplace : (f ⟨e, he⟩).1.place = d.place :=
      congrArg toLex (Prod.ext (htells.line.symm.trans hline) (Int.ofNat_inj.1 (htells.column.symm.trans hcolumn)))
    obtain rfl := eq_of_place hplaces (f ⟨e, he⟩).2.1 hd hplace
    exact ⟨htells, (f ⟨e, he⟩).2.2⟩
  have hreported : ∀ d ∈ s.declarations, (∃ e ∈ s.namingFindings o, e.Tells d) ↔ d.Misnamed := by
    intro d hd
    constructor
    · rintro ⟨e, he, htells⟩
      exact (honly e he d hd htells.line htells.column).2
    · intro hmisnamed
      have htells := hf (f.symm ⟨d, hd, hmisnamed⟩)
      rw [Equiv.apply_symm_apply] at htells
      exact ⟨_, (f.symm ⟨d, hd, hmisnamed⟩).2, htells⟩
  exact {
    matching := ⟨f, hf⟩
    once := ⟨namingFindings_nodup hplaces o, hplaces.imp fun hlt heq => hlt.ne (congrArg Declaration.place heq)⟩
    reported := hreported
    only := fun e he d hd hline hcolumn => (honly e he d hd hline hcolumn).1
    letters := fun d hd d' hd' hkind hletters => by
      rw [hreported d hd, hreported d' hd']
      exact Declaration.misnamed_congr hkind hletters }

/-- a constant without letters is misnamed, and so is a function with one capital; a variable without capitals is not -/
example : (Source.namingFindings (Source.ofText "const _1, A = 2\nstatic let éa\nfunc _É()\nvar ß, 名".toList) {}).map
    (fun e => (e.ruleId, e.line, e.column)) =
      [("const-naming", 1, 7), ("static-naming", 2, 12), ("func-naming", 3, 6)] := by
  decide +kernel

end VixStyle
