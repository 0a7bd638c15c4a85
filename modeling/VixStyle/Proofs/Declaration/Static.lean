/-
Declarations that are made static.

A line that starts with `var`, `let` or `const` declares some names. Main statement, `madeStatic`: with `static` put before the
line, the same names are declared by `static`, the keyword of before is passed over, and all other declaration keywords yield
what they yielded, further to the right. The line has to start with the keyword itself: a comment between two slashes
is one only where nothing but blanks stands before it, so behind `static` its first slash is an operator
(`not_madeStatic_commented`). And no `mut` may follow the keyword, because `static` does not pass over that
(`not_madeStatic_mut`).

- `tokens_static`: the tokens of the line stand further to the right behind `static`.
- `named_retagged`: the names behind a keyword do not depend on the keyword.
-/
import VixStyle.Proofs.Declaration.Site
import VixStyle.Proofs.Source.Indented

namespace VixStyle

open Text

/-- what is put before a line to make its declaration static -/
def staticMark : List Char := "static ".toList

/-- a declaration made static, with more before it on its line -/
def Declaration.madeStatic (n : Nat) (d : Declaration) : Declaration :=
  { d with kind := .static, keyword := .static_, column := d.column + n }

/-- tokens further to the right, spelled as they are -/
def Renaming.right (n : Nat) : Renaming where
  name := fun _ _ name => name
  line := fun line => line
  column := fun _ column => column + n

/-- the declaration keywords of a line in order -/
def Line.sites (l : Line) : List DeclarationSite := DeclarationSite.allFrom none l.code

/-- `static` speaks for the first site of a line in another line, where all else stands further to the right -/
structure Line.MadeStatic (l l' : Line) (p : DeclarationSite) (others : List DeclarationSite) (ds : List Declaration) :
    Prop where
  /-- `static` declares the names, the keyword of before yields nothing, and the other sites are those of before -/
  sites : ∃ s q, l'.sites = s :: q :: others.map (Renaming.right staticMark.length).site ∧
    s.token = ⟨.keyword .static_, l.number, 1⟩ ∧
    s.findings = (ds.map (Declaration.madeStatic staticMark.length)).map .declared ∧
    q.token = p.token.right staticMark.length ∧ q.findings = []
  /-- all names that the line declares -/
  declared : l'.findings.filterMap Finding.declared? = ds.map (Declaration.madeStatic staticMark.length) ++
    ((others.flatMap DeclarationSite.findings).filterMap Finding.declared?).map
      (Renaming.right staticMark.length).declaration
  /-- the keywords without a name are those of before -/
  nameless : l'.findings.filterMap Finding.nameless? =
    (l.findings.filterMap Finding.nameless?).map (Renaming.right staticMark.length).nameless

/-! ## Tokens -/

theorem Renaming.token_right (n : Nat) (t : Token) : (Renaming.right n).token t = t.right n := by
  obtain ⟨l, line, column⟩ := t
  cases l <;> rfl

/-- only a slash asks whether something stands before it on the line -/
theorem next?_leading {c : Char} (hc : c ≠ '/') (leading : Bool) (rest : List Char) :
    next? leading c rest = next? false c rest := by
  simp [next?, hc]

theorem ofFrom_leading {s : List Char} (hs : ∀ rest, s.dropWhile isBlank ≠ '/' :: rest) (leading : Bool) :
    Segmentation.ofFrom leading s = Segmentation.ofFrom false s := by
  cases hdrop : s.dropWhile isBlank with
  | nil => rw [Segmentation.ofFrom_of_blank hdrop, Segmentation.ofFrom_of_blank hdrop]
  | cons c rest =>
    have hc : c ≠ '/' := fun h => hs rest (h ▸ hdrop)
    have hnext := next?_leading hc leading rest
    cases hn : next? false c rest with
    | none => rw [Segmentation.ofFrom_of_open hdrop (hnext.trans hn), Segmentation.ofFrom_of_open hdrop hn]
    | some found =>
      obtain ⟨l, after⟩ := found
      rw [Segmentation.ofFrom_of_lexeme hdrop (hnext.trans hn), Segmentation.ofFrom_of_lexeme hdrop hn]

theorem Keyword.head?_text_ne_slash (word : Keyword) : word.text.head? ≠ some '/' := by
  cases word <;> decide

/-- a line whose first token is a reserved word starts with no slash -/
theorem not_slash_of_keyword {number : Int} {text : List Char} {t : Token} {word : Keyword}
    (ht : (Line.read number text).tokens.head? = some t) (hword : t.lexeme = .keyword word) (rest : List Char) :
    text.dropWhile isBlank ≠ '/' :: rest := by
  intro hdrop
  rw [Line.tokens_read, Segmentation.of] at ht
  cases hn : next? true '/' rest with
  | none =>
    rw [Segmentation.ofFrom_of_open hdrop hn] at ht
    obtain rfl := Option.some.inj ht
    cases hword
  | some found =>
    obtain ⟨l, after⟩ := found
    rw [Segmentation.ofFrom_of_lexeme hdrop hn] at ht
    obtain rfl := Option.some.inj ht
    obtain rfl : l = .keyword word := hword
    obtain ⟨body, hbody⟩ := next?_head hn
    exact word.head?_text_ne_slash (congrArg List.head? hbody)

theorem next?_static (text : List Char) :
    next? false 's' ("tatic".toList ++ ' ' :: text) = some (.keyword .static_, ' ' :: text) := by
  have hchars : ∀ c ∈ "tatic".toList, isWordChar c = true := List.all_eq_true.1 (by decide)
  have hblank : ¬ isWordChar ' ' = true := by decide
  have htake : ("tatic".toList ++ ' ' :: text).takeWhile isWordChar = "tatic".toList := by
    rw [List.takeWhile_append_of_pos hchars, List.takeWhile_cons_of_neg hblank, List.append_nil]
  have hdrop : ("tatic".toList ++ ' ' :: text).dropWhile isWordChar = ' ' :: text := by
    rw [List.dropWhile_append_of_pos hchars, List.dropWhile_cons_of_neg hblank]
  have hword : wordLexeme ('s' :: "tatic".toList) = .keyword .static_ := by decide
  have hstart : isWordStart 's' = true := by decide
  unfold next?
  rw [if_neg (by simp), if_neg (by simp)]
  dsimp only
  rw [if_neg (by decide), if_neg (by decide), if_pos hstart, htake, hdrop, hword]

/-- **The tokens of a line behind `static`** are those of the line, if it does not start with a slash. -/
theorem Line.tokens_static (number : Int) {text : List Char}
    (hslash : ∀ rest, text.dropWhile Text.isBlank ≠ '/' :: rest) :
    (read number (staticMark ++ text)).tokens =
      ⟨.keyword .static_, number, 1⟩ :: (read number text).tokens.map (Token.right staticMark.length) := by
  have hs : (staticMark ++ text).dropWhile Text.isBlank = 's' :: ("tatic".toList ++ ' ' :: text) := rfl
  have hgap : (staticMark ++ text).takeWhile Text.isBlank = [] := rfl
  have hstatic := (next?_leading (by decide) true _).trans (next?_static text)
  have hspace : ∀ c ∈ [' '], Text.isBlank c = true := by simp [Text.isBlank]
  have hfirst : placed number 1 (⟨[], .keyword .static_⟩ :: (Segmentation.ofFrom false (' ' :: text)).segments) =
      ⟨.keyword .static_, number, 1⟩ :: placed number (1 + 6) (Segmentation.ofFrom false ([' '] ++ text)).segments := rfl
  rw [tokens_read, tokens_read, Segmentation.of, Segmentation.ofFrom_of_lexeme hs hstatic, hgap, hfirst,
    (ofFrom_indented hspace number (1 + 6) false text).1, placed_right 6, List.map_map, Segmentation.of,
    ofFrom_leading hslash true]
  rfl

theorem Line.code_static (number : Int) {text : List Char}
    (hslash : ∀ rest, text.dropWhile Text.isBlank ≠ '/' :: rest) :
    (read number (staticMark ++ text)).code = ⟨.keyword .static_, number, 1⟩ ::
      (read number text).code.map (Renaming.right staticMark.length).token := by
  have hright : (Renaming.right staticMark.length).token = Token.right staticMark.length :=
    funext (Renaming.token_right staticMark.length)
  unfold code
  rw [tokens_static number hslash, List.filter_cons_of_pos rfl, List.filter_map, hright]
  rfl

/-! ## Names -/

namespace Finding

theorem filterMap_declared?_declared (ds : List Declaration) : (ds.map declared).filterMap declared? = ds := by
  rw [List.filterMap_map]
  exact List.filterMap_some

theorem filterMap_nameless?_declared (ds : List Declaration) : (ds.map declared).filterMap nameless? = [] := by
  rw [List.filterMap_map]
  exact List.filterMap_eq_nil_iff.2 fun _ _ => rfl

theorem declared_injective : Function.Injective declared := fun _ _ => declared.inj

/-- **The names behind a keyword** do not depend on the keyword, unless it is that of functions. -/
theorem named_retagged {kind kind' : DeclarationKind} (hkind : kind ≠ .func) (hkind' : kind' ≠ .func)
    {keyword : Keyword} (keyword' : Keyword) {t : Token} (t' : Token) {rest : List Token} {ds : List Declaration}
    (hds : named kind keyword t rest = ds.map declared) (hne : ds ≠ []) :
    named kind' keyword' t' rest = ds.map fun d => declared { d with kind := kind', keyword := keyword' } := by
  have hnot : ∀ n, ds.map declared ≠ [nameless n] := by
    intro n h
    obtain ⟨d, ds, rfl⟩ := List.exists_cons_of_ne_nil hne
    cases h
  cases rest with
  | nil => exact absurd hds.symm (hnot _)
  | cons first rest =>
    cases hid : first.lexeme.isIdentifier with
    | false =>
      rw [Renaming.named_of_not_identifier hid, if_neg fun h => hkind h.2] at hds
      exact absurd hds.symm (hnot _)
    | true =>
      obtain ⟨l, line, column⟩ := first
      cases l with
      | identifier name =>
        simp only [named, if_neg hkind] at hds
        simp only [named, if_neg hkind']
        have hitems := List.map_injective_iff.2 declared_injective ((List.map_map).trans hds)
        rw [← hitems, List.map_map]
        rfl
      | _ => cases hid

end Finding

/-! ## Sites -/

theorem Keyword.declares?_variable {keyword : Keyword} (h : keyword ∈ [Keyword.var_, .let_, .const_]) {kind : DeclarationKind}
    (hkind : keyword.declares? = some kind) : kind ≠ .func ∧ kind ≠ .static := by
  simp only [List.mem_cons, List.not_mem_nil, or_false] at h
  rcases h with rfl | rfl | rfl <;> cases hkind <;> decide

namespace Finding

/-- nothing but a second keyword is left out -/
theorem afterModifier_of_not_mut {kind : DeclarationKind} (hkind : kind ≠ .static) {ts : List Token}
    (hmut : ts.head?.map Token.lexeme ≠ some (.keyword .mut_)) : afterModifier kind ts = ts := by
  cases ts with
  | nil => rfl
  | cons t ts =>
    have hne : t.lexeme ≠ .keyword .mut_ := fun h => hmut (congrArg some h)
    unfold afterModifier
    split <;> simp_all

/-- `static` leaves out the keyword that it speaks for -/
theorem afterModifier_static {t : Token} {keyword : Keyword} (ht : t.lexeme = .keyword keyword)
    (h : keyword ∈ [Keyword.var_, .let_, .const_]) (ts : List Token) : afterModifier .static (t :: ts) = ts := by
  simp only [List.mem_cons, List.not_mem_nil, or_false] at h
  rcases h with rfl | rfl | rfl <;> simp [afterModifier, ht]

end Finding

namespace DeclarationSite

/-- what a site at the start of a line yields, if it is a variable or a constant without `mut` -/
theorem findings_of_first {p : DeclarationSite} (hbefore : p.before = none) (hkeyword : p.keyword ∈ [Keyword.var_, .let_, .const_])
    (hmut : p.rest.head?.map Token.lexeme ≠ some (.keyword .mut_)) :
    p.findings = Finding.named p.kind p.keyword p.token p.rest := by
  obtain ⟨-, hkind⟩ := Keyword.declares?_variable hkeyword p.declares_keyword
  rw [p.findings_eq, hbefore, if_neg (by simp), if_neg fun h => hkind h.1, Finding.afterModifier_of_not_mut hkind hmut]

/-- `static` before the tokens of a site -/
def static (number : Int) (p : DeclarationSite) : DeclarationSite where
  before := none
  token := ⟨.keyword .static_, number, 1⟩
  rest := (p.token :: p.rest).map (Renaming.right staticMark.length).token
  keyword := .static_
  kind := .static
  lexeme_token := rfl
  declares_keyword := rfl

/-- a site behind `static` -/
def behindStatic (number : Int) (p : DeclarationSite) : DeclarationSite :=
  { (Renaming.right staticMark.length).site p with before := some ⟨.keyword .static_, number, 1⟩ }

theorem findings_behindStatic (number : Int) {p : DeclarationSite} (hkeyword : p.keyword ∈ [Keyword.var_, .let_, .const_]) :
    (p.behindStatic number).findings = [] := by
  have hkind := (Keyword.declares?_variable hkeyword p.declares_keyword).1
  rw [findings_eq, if_pos ⟨hkind, rfl⟩]

/-- **`static` declares the names** of the site that it stands before. -/
theorem findings_static (number : Int) {p : DeclarationSite} (hbefore : p.before = none)
    (hkeyword : p.keyword ∈ [Keyword.var_, .let_, .const_])
    (hmut : p.rest.head?.map Token.lexeme ≠ some (.keyword .mut_)) {ds : List Declaration}
    (hds : p.findings = ds.map .declared) (hne : ds ≠ []) :
    (p.static number).findings = (ds.map (Declaration.madeStatic staticMark.length)).map .declared := by
  have hfunc := (Keyword.declares?_variable hkeyword p.declares_keyword).1
  have hlexeme : ((Renaming.right staticMark.length).token p.token).lexeme = .keyword p.keyword :=
    ((Renaming.right staticMark.length).site p).lexeme_token
  have hnotFunc : ¬ ((p.static number).kind = .static ∧
      (p.static number).rest.head?.map Token.lexeme = some (.keyword .func_)) := by
    rintro ⟨-, h⟩
    have hsame : p.keyword = .func_ := Lexeme.keyword.inj (hlexeme.symm.trans (Option.some.inj h))
    rw [hsame] at hkeyword
    exact absurd hkeyword (by decide)
  rw [findings_of_first hbefore hkeyword hmut] at hds
  -- the names further to the right, still under the keyword of before
  have hshifted : Finding.named p.kind p.keyword ((Renaming.right staticMark.length).token p.token)
      (p.rest.map (Renaming.right staticMark.length).token) =
        (ds.map (Renaming.right staticMark.length).declaration).map .declared := by
    rw [Renaming.named_renamed, hds, List.map_map, List.map_map]
    rfl
  have hkind : DeclarationKind.static ≠ .func := by decide
  have hstatic := Finding.named_retagged hfunc hkind .static_ (p.static number).token hshifted (by simpa using hne)
  rw [findings_eq, if_neg (by simp [static]), if_neg hnotFunc]
  have hafter : Finding.afterModifier .static (p.static number).rest = p.rest.map (Renaming.right staticMark.length).token :=
    Finding.afterModifier_static hlexeme hkeyword _
  exact (congrArg _ hafter).trans (hstatic.trans (by rw [List.map_map, List.map_map]; rfl))

end DeclarationSite

/-! ## Lines -/

theorem Line.findings_eq_sites (l : Line) : l.findings = l.sites.flatMap DeclarationSite.findings :=
  DeclarationSite.findingsFrom_eq none l.code

/-- the sites of a line whose code starts with a site -/
theorem Line.sites_of_first {l : Line} {p : DeclarationSite} {others : List DeclarationSite} (hsites : l.sites = p :: others)
    (hfirst : l.code.head? = some p.token) :
    l.code = p.token :: p.rest ∧ p.before = none ∧ DeclarationSite.allFrom (some p.token) p.rest = others := by
  unfold sites at hsites
  cases hcode : l.code with
  | nil =>
    rw [hcode] at hfirst
    cases hfirst
  | cons t rest =>
    rw [hcode] at hsites hfirst
    obtain rfl : t = p.token := Option.some.inj hfirst
    rw [DeclarationSite.allFrom] at hsites
    cases hsite : DeclarationSite.of? none p.token rest with
    | none =>
      have hnothing := DeclarationSite.of?_eq_none hsite p.keyword p.lexeme_token
      rw [p.declares_keyword] at hnothing
      cases hnothing
    | some q =>
      rw [hsite] at hsites
      obtain ⟨rfl, hothers⟩ := List.cons.inj hsites
      obtain ⟨hbefore, -, rfl⟩ := DeclarationSite.of?_eq_some hsite
      exact ⟨rfl, hbefore, hothers⟩

/-- the sites of a line with `static` before it -/
theorem Line.sites_static {number : Int} {text : List Char} {p : DeclarationSite} {others : List DeclarationSite}
    (hsites : (read number text).sites = p :: others) (hfirst : (read number text).tokens.head? = some p.token) :
    p.before = none ∧ (read number (staticMark ++ text)).sites =
      p.static number :: p.behindStatic number :: others.map (Renaming.right staticMark.length).site := by
  have hcode : (read number text).code.head? = some p.token := by
    cases htokens : (read number text).tokens with
    | nil =>
      rw [htokens] at hfirst
      cases hfirst
    | cons t rest =>
      rw [htokens] at hfirst
      obtain rfl : t = p.token := Option.some.inj hfirst
      have hiscode : p.token.lexeme.isCode = true := by
        rw [p.lexeme_token]
        rfl
      simp [code, htokens, hiscode]
  obtain ⟨hrow, hbefore, hothers⟩ := sites_of_first hsites hcode
  refine ⟨hbefore, ?_⟩
  have hbehind : DeclarationSite.of? (p.behindStatic number).before (p.behindStatic number).token
      (p.behindStatic number).rest = some (p.behindStatic number) := DeclarationSite.of?_token _
  have hstatic : DeclarationSite.of? (p.static number).before (p.static number).token (p.static number).rest =
      some (p.static number) := DeclarationSite.of?_token _
  have hrest := (Renaming.right staticMark.length).allFrom_renamed (some p.token) p.rest
  rw [hothers] at hrest
  rw [sites, code_static number (not_slash_of_keyword hfirst p.lexeme_token), hrow]
  calc DeclarationSite.allFrom none (⟨.keyword .static_, number, 1⟩ ::
        (p.token :: p.rest).map (Renaming.right staticMark.length).token)
      = (DeclarationSite.of? (p.static number).before (p.static number).token (p.static number).rest).toList ++
          ((DeclarationSite.of? (p.behindStatic number).before (p.behindStatic number).token
            (p.behindStatic number).rest).toList ++
          DeclarationSite.allFrom ((some p.token).map (Renaming.right staticMark.length).token)
            (p.rest.map (Renaming.right staticMark.length).token)) := rfl
    _ = _ := by rw [hstatic, hbehind, hrest]; rfl

/--
**`static` before a line makes its declaration static**, if the line starts with the keyword of a variable or a constant and no
`mut` follows.
-/
theorem madeStatic {number : Int} {text : List Char} {p : DeclarationSite} {others : List DeclarationSite}
    (hsites : (Line.read number text).sites = p :: others) (hfirst : (Line.read number text).tokens.head? = some p.token)
    (hkeyword : p.keyword ∈ [Keyword.var_, .let_, .const_])
    (hmut : p.rest.head?.map Token.lexeme ≠ some (.keyword .mut_)) {ds : List Declaration}
    (hds : p.findings = ds.map .declared) (hne : ds ≠ []) :
    (Line.read number text).MadeStatic (Line.read number (staticMark ++ text)) p others ds := by
  obtain ⟨hbefore, hnew⟩ := Line.sites_static hsites hfirst
  have hstatic := DeclarationSite.findings_static number hbefore hkeyword hmut hds hne
  have hbehind := DeclarationSite.findings_behindStatic number hkeyword
  have hothers : (others.map (Renaming.right staticMark.length).site).flatMap DeclarationSite.findings =
      (others.flatMap DeclarationSite.findings).map (Renaming.right staticMark.length).finding := by
    rw [List.flatMap_map, List.map_flatMap]
    exact List.flatMap_congr fun q _ => Renaming.findings_site _ q
  have hfound : (Line.read number (staticMark ++ text)).findings =
      (ds.map (Declaration.madeStatic staticMark.length)).map .declared ++
        (others.flatMap DeclarationSite.findings).map (Renaming.right staticMark.length).finding := by
    rw [Line.findings_eq_sites, hnew, List.flatMap_cons, List.flatMap_cons, hstatic, hbehind, hothers, List.nil_append]
  refine ⟨⟨p.static number, p.behindStatic number, hnew, ?_, hstatic, ?_, hbehind⟩, ?_, ?_⟩
  · rw [Line.number_read]
    rfl
  · exact Renaming.token_right staticMark.length p.token
  · rw [hfound, List.filterMap_append, Renaming.filterMap_declared?, Finding.filterMap_declared?_declared]
  · rw [hfound, Line.findings_eq_sites, hsites, List.flatMap_cons, hds, List.filterMap_append, List.filterMap_append,
      Renaming.filterMap_nameless?, Finding.filterMap_nameless?_declared, Finding.filterMap_nameless?_declared,
      List.nil_append, List.nil_append]

/-- two names behind blanks are made static, and the `var` without a name behind them stays as it is -/
theorem madeStatic_list :
    let l := Line.read 4 "\tlet a, bB = 1 var".toList
    let ds : List Declaration := [⟨"a".toList, .var, .let_, 4, 6⟩, ⟨"bB".toList, .var, .let_, 4, 9⟩]
    ∃ p others, l.sites = p :: others ∧ l.tokens.head? = some p.token ∧ p.keyword ∈ [Keyword.var_, .let_, .const_] ∧
      p.rest.head?.map Token.lexeme ≠ some (.keyword .mut_) ∧ p.findings = ds.map .declared ∧ ds ≠ [] ∧
      l.MadeStatic (Line.read 4 (staticMark ++ "\tlet a, bB = 1 var".toList)) p others ds := by
  intro l ds
  let rest : List Token := [⟨.identifier "a".toList, 4, 6⟩, ⟨.punctuation ',', 4, 7⟩, ⟨.identifier "bB".toList, 4, 9⟩,
    ⟨.operator .assign, 4, 12⟩, ⟨.number "1".toList, 4, 14⟩, ⟨.keyword .var_, 4, 16⟩]
  let p : DeclarationSite := ⟨none, ⟨.keyword .let_, 4, 2⟩, rest, .let_, .var, rfl, rfl⟩
  have htokens : l.tokens = p.token :: rest := by decide +kernel
  have hcode : l.code = p.token :: rest := by decide +kernel
  have hsites : l.sites = p :: DeclarationSite.allFrom (some p.token) rest := by
    rw [Line.sites, hcode]
    rfl
  have hfirst : l.tokens.head? = some p.token := congrArg List.head? htokens
  have hkeyword : p.keyword ∈ [Keyword.var_, .let_, .const_] := by decide
  have hmut : p.rest.head?.map Token.lexeme ≠ some (.keyword .mut_) := by decide
  have hds : p.findings = ds.map .declared := by decide
  exact ⟨p, _, hsites, hfirst, hkeyword, hmut, hds, by decide, madeStatic hsites hfirst hkeyword hmut hds (by decide)⟩

/--
**A comment before the keyword is in the way**: behind `static` its slashes are operators, so `static` has no name and the
variable stays a variable.
-/
theorem not_madeStatic_commented : ¬ ∀ (number : Int) (text : List Char) (p : DeclarationSite)
    (others : List DeclarationSite) (ds : List Declaration),
    (Line.read number text).sites = p :: others → (Line.read number text).code.head? = some p.token →
    p.keyword ∈ [Keyword.var_, .let_, .const_] → p.findings = ds.map .declared → ds ≠ [] →
      (Line.read number text).MadeStatic (Line.read number (staticMark ++ text)) p others ds := by
  intro h
  let rest : List Token := [⟨.identifier "x".toList, 1, 11⟩, ⟨.operator .assign, 1, 13⟩, ⟨.number "1".toList, 1, 15⟩]
  let p : DeclarationSite := ⟨none, ⟨.keyword .var_, 1, 7⟩, rest, .var_, .var, rfl, rfl⟩
  have hcode : (Line.read 1 "/ c / var x = 1".toList).code = p.token :: rest := by decide +kernel
  have hsites : (Line.read 1 "/ c / var x = 1".toList).sites = [p] := by
    rw [Line.sites, hcode]
    rfl
  have hdeclared := (h 1 "/ c / var x = 1".toList p [] [⟨"x".toList, .var, .var_, 1, 11⟩] hsites
    (congrArg List.head? hcode) (by decide) (by decide) (by decide)).declared
  have hfound : (Line.read 1 (staticMark ++ "/ c / var x = 1".toList)).findings.filterMap Finding.declared? =
      [⟨"x".toList, .var, .var_, 1, 18⟩] := by decide +kernel
  rw [hfound] at hdeclared
  exact absurd hdeclared (by decide)

/--
**A `mut` behind the keyword is in the way** as well: `static` passes over the keyword, but takes the `mut` for what
should be its name, so it has none and nothing is declared.
-/
theorem not_madeStatic_mut : ¬ ∀ (number : Int) (text : List Char) (p : DeclarationSite)
    (others : List DeclarationSite) (ds : List Declaration),
    (Line.read number text).sites = p :: others → (Line.read number text).tokens.head? = some p.token →
    p.keyword ∈ [Keyword.var_, .let_, .const_] → p.findings = ds.map .declared → ds ≠ [] →
      (Line.read number text).MadeStatic (Line.read number (staticMark ++ text)) p others ds := by
  intro h
  let rest : List Token := [⟨.keyword .mut_, 1, 5⟩, ⟨.identifier "x".toList, 1, 9⟩, ⟨.operator .assign, 1, 11⟩,
    ⟨.number "1".toList, 1, 13⟩]
  let p : DeclarationSite := ⟨none, ⟨.keyword .var_, 1, 1⟩, rest, .var_, .var, rfl, rfl⟩
  have htokens : (Line.read 1 "var mut x = 1".toList).tokens = p.token :: rest := by decide +kernel
  have hcode : (Line.read 1 "var mut x = 1".toList).code = p.token :: rest := by decide +kernel
  have hsites : (Line.read 1 "var mut x = 1".toList).sites = [p] := by
    rw [Line.sites, hcode]
    rfl
  have hdeclared := (h 1 "var mut x = 1".toList p [] [⟨"x".toList, .var, .var_, 1, 9⟩] hsites
    (congrArg List.head? htokens) (by decide) (by decide) (by decide)).declared
  have hfound : (Line.read 1 (staticMark ++ "var mut x = 1".toList)).findings =
      [.nameless ⟨.static_, .static, 1, 1, some "mut".toList⟩] := by decide +kernel
  rw [hfound] at hdeclared
  exact absurd hdeclared (by decide)

end VixStyle
