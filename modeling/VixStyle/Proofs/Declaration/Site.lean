/-
Declaration keywords where names are spelled otherwise and tokens stand elsewhere.

The sites among renamed tokens are the sites among the tokens, renamed (`Renaming.allFrom_renamed`), and each yields what it
yielded, renamed (`Renaming.findings_site`).
-/
import VixStyle.Proofs.Declaration.Outcome

namespace VixStyle

namespace DeclarationSite

/-- a site is found at its token -/
theorem of?_token (p : DeclarationSite) : of? p.before p.token p.rest = some p := by
  obtain ⟨before, t, rest, keyword, kind, ht, hkind⟩ := p
  unfold of?
  dsimp only
  split
  case h_1 word hword =>
    obtain rfl := Lexeme.keyword.inj (ht.symm.trans hword)
    split
    case h_1 kind' hkind' =>
      obtain rfl := Option.some.inj (hkind.symm.trans hkind')
      rfl
    case h_2 hnone =>
      rw [hkind] at hnone
      cases hnone
  case h_2 hnot => exact absurd ht (hnot keyword)

/-- what a site declares is named by a token behind it -/
theorem exists_isNamedBy {p : DeclarationSite} {d : Declaration} (h : .declared d ∈ p.findings) :
    ∃ t ∈ p.rest, d.IsNamedBy t := by
  have houtcome := p.outcome_findings
  generalize p.findings = found at h houtcome
  cases houtcome with
  | @names items _ _ hbehind hnames =>
    obtain ⟨item, hitem, heq⟩ := List.mem_map.1 h
    obtain rfl := Finding.declared.inj heq
    exact ⟨item.1, hbehind.subset (List.mem_map_of_mem hitem), hnames item hitem, rfl, rfl⟩
  | nameless => simp at h
  | nothing => cases h

end DeclarationSite

namespace Renaming

variable (r : Renaming)

/-- a site among renamed tokens -/
def site (p : DeclarationSite) : DeclarationSite where
  before := p.before.map r.token
  token := r.token p.token
  rest := p.rest.map r.token
  keyword := p.keyword
  kind := p.kind
  lexeme_token := (r.lexeme_token_eq_iff rfl).2 p.lexeme_token
  declares_keyword := p.declares_keyword

theorem findings_site (p : DeclarationSite) : (r.site p).findings = p.findings.map r.finding :=
  r.findingsAt_renamed p.before p.token p.rest

theorem of?_renamed (before : Option Token) (t : Token) (rest : List Token) :
    DeclarationSite.of? (before.map r.token) (r.token t) (rest.map r.token) =
      (DeclarationSite.of? before t rest).map r.site := by
  cases hsite : DeclarationSite.of? before t rest with
  | some p =>
    obtain ⟨rfl, rfl, rfl⟩ := DeclarationSite.of?_eq_some hsite
    exact DeclarationSite.of?_token (r.site p)
  | none =>
    refine Option.eq_none_iff_forall_ne_some.2 fun p hp => ?_
    obtain ⟨-, htoken, -⟩ := DeclarationSite.of?_eq_some hp
    have hword : t.lexeme = .keyword p.keyword := (r.lexeme_token_eq_iff rfl).1 (htoken ▸ p.lexeme_token)
    have hnone := DeclarationSite.of?_eq_none hsite p.keyword hword
    rw [p.declares_keyword] at hnone
    cases hnone

theorem allFrom_renamed (before : Option Token) (ts : List Token) :
    DeclarationSite.allFrom (before.map r.token) (ts.map r.token) = (DeclarationSite.allFrom before ts).map r.site := by
  induction ts generalizing before with
  | nil => rfl
  | cons t rest ih =>
    rw [List.map_cons, DeclarationSite.allFrom, DeclarationSite.allFrom, r.of?_renamed, List.map_append]
    refine congrArg₂ (· ++ ·) ?_ (ih (some t))
    cases DeclarationSite.of? before t rest <;> rfl

end Renaming

namespace Source

theorem findings_eq_sites (s : Source) : s.findings = s.sites.flatMap DeclarationSite.findings := by
  rw [findings, sites, List.flatMap_assoc]
  exact List.flatMap_congr fun l _ => DeclarationSite.findingsFrom_eq none l.code

/-- what a source declares is what its sites declare -/
theorem mem_declarations_iff {s : Source} {d : Declaration} :
    d ∈ s.declarations ↔ ∃ p ∈ s.sites, .declared d ∈ p.findings := by
  rw [declarations, findings_eq_sites, List.mem_filterMap]
  simp only [List.mem_flatMap]
  constructor
  · rintro ⟨f | n, ⟨p, hp, hf⟩, heq⟩
    · obtain rfl := Option.some.inj heq
      exact ⟨p, hp, hf⟩
    · cases heq
  · rintro ⟨p, hp, hd⟩
    exact ⟨_, ⟨p, hp, hd⟩, rfl⟩

section Renamed

variable {s s' : Source} {r : Renaming} (h : s'.lines.map Line.code = s.lines.map fun l => l.code.map r.token)

include h

/-- **Where the code is renamed**, the sites are. -/
theorem sites_renamed : s'.sites = s.sites.map r.site := by
  have hsites : ∀ s : Source, s.sites = (s.lines.map Line.code).flatMap (DeclarationSite.allFrom none) := by
    intro s
    rw [List.flatMap_map]
    rfl
  rw [hsites, h, List.flatMap_map, sites, List.map_flatMap]
  exact List.flatMap_congr fun l _ => r.allFrom_renamed none l.code

theorem namelessDeclarations_renamed : s'.namelessDeclarations = s.namelessDeclarations.map r.nameless := by
  rw [namelessDeclarations, namelessDeclarations, findings_eq_sites, findings_eq_sites, sites_renamed h, List.flatMap_map,
    List.filterMap_flatMap, List.filterMap_flatMap, List.map_flatMap]
  refine List.flatMap_congr fun p _ => ?_
  rw [r.findings_site, r.filterMap_nameless?]

end Renamed

end Source

end VixStyle
