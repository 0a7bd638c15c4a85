/-
What comes of a misnamed declaration that takes the name its hint suggests.

The hint suggests the name in the form that the convention asks for (`Declaration.proposal`). `Source.Settled` tells when the
line with that name in the place of the old one is in order: the same keyword declares the new name, and nothing is reported
of it. Main statement, `suggestion_settles`: for a name of ASCII letters, digits and underscores this is so unless the name
that is suggested is a reserved word. A name in capitals never is one, a name in small letters may be (`self` for `Self`).

- `name_recased`: a converted name may be a name.
- `suggests_iff`: what the hint of a finding suggests.
- `settled_of_name`: the line with the other name, read again (`Line.codes_replaced`).
- `name_of_declared`: what is declared is not reserved.
-/
import VixStyle.Proofs.Declaration.Site
import VixStyle.Proofs.Name.Snake
import VixStyle.Proofs.Naming.Violation
import VixStyle.Proofs.Source.Standing
import VixStyle.Proofs.Token.Renaming

namespace VixStyle

open Text Grammar

/-- reserved words are written in small letters -/
theorem Keyword.isLower_text (word : Keyword) : ∀ c ∈ word.text, isLower c = true := by
  have hall : word.text.all isLower = true := by cases word <;> decide +kernel
  exact List.all_eq_true.1 hall

/-! ## The name that is proposed -/

namespace Name

theorem isLetter_of_isAlpha {c : Char} (h : c.isAlpha = true) : isLetter c = true := by
  rw [Text.isLetter_of_isAlpha c (isAscii_of_plain (Or.inl (by simp [Char.isAlphanum, h]))), h]

theorem isDigit_of_isAlpha {c : Char} (h : c.isAlpha = true) : isDigit c = false := by
  have hascii : isAscii c = true := isAscii_of_plain (Or.inl (by simp [Char.isAlphanum, h]))
  by_contra hdigit
  have hcase := hasCase_of_isDigit (Or.inl (by simpa using hdigit : isDigit c = true))
  rw [hasCase, isUpper_of_isAscii hascii, isLower_of_isAscii hascii] at hcase
  rw [Char.isAlpha, hcase] at h
  cases h

theorem isWordChar_of_plain {c : Char} (h : c.isAlphanum = true ∨ c = '_') : isWordChar c = true := by
  have hascii := isAscii_of_plain h
  rcases h with h | rfl
  · rw [Char.isAlphanum, ← Text.isLetter_of_isAlpha c hascii, ← isDigit_of_isAscii c hascii] at h
    rw [isWordChar, isAlphanumeric, isNumeral, ← Bool.or_assoc, h]
    rfl
  · decide

/-- **A converted name may be a name**, if it is not reserved. -/
theorem name_recased {f : Char → Char} (hf : Recasing f) {name : List Char} (hname : Grammar.Name name)
    (hplain : Plain name) (hfree : ∀ word : Keyword, word.text ≠ recased f name) : Grammar.Name (recased f name) := by
  obtain ⟨c, body, rfl, hstart, -⟩ := hname.word
  obtain ⟨body', heq⟩ := List.head?_eq_some_iff.1 (head?_recased hf (c :: body))
  have hword := plain_recased hplain hf
  rw [heq] at hword
  refine ⟨⟨f c, body', heq, ?start, fun d hd => isWordChar_of_plain (hword d (List.mem_cons_of_mem _ hd))⟩, ?head, hfree⟩
  case start =>
    rcases hf c with hc | ⟨-, hc⟩
    · rwa [hc]
    · rw [isWordStart, isLetter_of_isAlpha hc]
      rfl
  case head =>
    rw [heq]
    rintro d ⟨⟩
    rcases hf c with hc | ⟨-, hc⟩
    · rw [hc]
      exact hname.head c rfl
    · exact isDigit_of_isAlpha hc

end Name

namespace Declaration

/-- the name in the form that the convention of its kind asks for -/
def proposal (d : Declaration) : List Char :=
  match d.kind with
  | .constant | .static => Name.upperSnake d.name
  | .var | .func => Name.lowerSnake d.name

/-- the token that is the declared name -/
def token (d : Declaration) : Token := ⟨.identifier d.name, d.line, d.column⟩

/-- the declaration with another name -/
def named (d : Declaration) (w : List Char) : Declaration := { d with name := w }

section Plain

variable {d : Declaration} (hplain : Name.Plain d.name)

include hplain

theorem exists_recased : ∃ f, Name.Recasing f ∧ d.proposal = Name.recased f d.name := by
  unfold proposal
  cases d.kind with
  | constant | static => exact ⟨_, Name.recasing_toUpper, Name.upperSnake_eq hplain⟩
  | var | func => exact ⟨_, Name.recasing_toLower, Name.lowerSnake_eq hplain⟩

theorem plain_proposal : Name.Plain d.proposal := by
  obtain ⟨f, hf, heq⟩ := exists_recased hplain
  exact heq ▸ Name.plain_recased hplain hf

theorem name_proposal (hname : Grammar.Name d.name) (hfree : ∀ word : Keyword, word.text ≠ d.proposal) :
    Grammar.Name d.proposal := by
  obtain ⟨f, hf, heq⟩ := exists_recased hplain
  rw [heq] at hfree ⊢
  exact Name.name_recased hf hname hplain hfree

/-- **The name that is proposed follows the convention.** -/
theorem not_misnamed_proposal (hletter : ∃ c ∈ d.name, c.isAlpha = true) : ¬ (d.named d.proposal).Misnamed := by
  obtain ⟨⟨c, hc, hupper⟩, hlower⟩ := Name.style_eq_upperSnake_iff.1 (Name.style_upperSnake hplain hletter)
  have hsmall := Name.style_eq_lowerSnake_iff.1 (Name.style_lowerSnake hplain)
  unfold Misnamed named proposal
  dsimp only
  cases d.kind with
  | constant | static =>
    rintro (hnone | ⟨c', hc', hcase⟩)
    · rw [hnone c hc] at hupper
      cases hupper
    · rw [hlower c' hc'] at hcase
      cases hcase
  | var | func =>
    rintro ⟨c', hc', hcase⟩
    rw [hsmall c' hc'] at hcase
    cases hcase

end Plain

/-- **A name in capitals is never reserved.** -/
theorem free_of_capital {d : Declaration} (hplain : Name.Plain d.name) (hletter : ∃ c ∈ d.name, c.isAlpha = true)
    (hkind : d.kind = .constant ∨ d.kind = .static) (word : Keyword) : word.text ≠ d.proposal := by
  have hproposal : d.proposal = Name.upperSnake d.name := by
    unfold proposal
    rcases hkind with hkind | hkind <;> rw [hkind]
  obtain ⟨⟨c, hc, hupper⟩, -⟩ := Name.style_eq_upperSnake_iff.1 (Name.style_upperSnake hplain hletter)
  intro heq
  have hsmall := word.isLower_text c (by rwa [heq, hproposal])
  rw [isUpper_of_isLower hsmall] at hupper
  cases hupper

end Declaration

/-! ## Hints -/

/-- the mark that names are set in -/
def backquote : Char := '\x60'

/-- a hint that ends with a name in back quotes -/
def Diagnostic.Suggests (e : Diagnostic) (w : List Char) : Prop :=
  (∀ c ∈ w, isWordChar c = true) ∧ ∃ front : String, e.hint = some (front ++ "`" ++ String.ofList w ++ "`.")

namespace Rule.Naming

theorem hint_of_finding? {d : Declaration} {e : Diagnostic} (h : finding? d = some e) :
    ∃ front : String, e.hint = some (front ++ "`" ++ String.ofList d.proposal ++ "`.") := by
  have hrename : ∀ name, renameTo name = "Rename to " ++ "`" ++ String.ofList name ++ "`." := fun _ => rfl
  have hcapital : ∀ p : Problem, capitalFinding? p d = some e →
      e.hint = some (renameTo (Name.upperSnake d.name)) := by
    intro p h
    unfold capitalFinding? at h
    split at h
    · cases h
    · rw [← Option.some.inj h]
      rfl
  have hvar : varFinding? d = some e → ∃ front : String,
      e.hint = some (front ++ "`" ++ String.ofList (Name.lowerSnake d.name) ++ "`.") := by
    intro h
    unfold varFinding? at h
    split at h
    · cases h
    · exact ⟨"Declare it with `const` or rename to ", by rw [← Option.some.inj h]; rfl⟩
    · exact ⟨"Rename to ", by rw [← Option.some.inj h]; rfl⟩
  have hfunc : funcFinding? d = some e → e.hint = some (renameTo (Name.lowerSnake d.name)) := by
    intro h
    unfold funcFinding? at h
    split at h
    · cases h
    · rw [← Option.some.inj h]
      rfl
  cases hkind : d.kind <;> simp only [finding?, Declaration.proposal, hkind] at h ⊢
  · exact ⟨_, (hcapital _ h).trans (congrArg some (hrename _))⟩
  · exact ⟨_, (hcapital _ h).trans (congrArg some (hrename _))⟩
  · exact hvar h
  · exact ⟨_, (hfunc h).trans (congrArg some (hrename _))⟩

/-- **What the hint of a finding suggests** is the name that is proposed, and nothing else. -/
theorem suggests_iff {d : Declaration} {e : Diagnostic} (h : finding? d = some e) (hplain : Name.Plain d.name)
    {w : List Char} : e.Suggests w ↔ w = d.proposal := by
  have hword : ∀ c ∈ d.proposal, isWordChar c = true :=
    fun c hc => Name.isWordChar_of_plain (Declaration.plain_proposal hplain c hc)
  -- a word at the end of a text is what stands behind the last back quote
  have hlast : ∀ {w back : List Char}, (∀ c ∈ w, isWordChar c = true) →
      (w.reverse ++ backquote :: back).takeWhile isWordChar = w.reverse := by
    intro w back hw
    rw [List.takeWhile_append_of_pos fun c hc => hw c (List.mem_reverse.1 hc), List.takeWhile_cons_of_neg (by decide),
      List.append_nil]
  obtain ⟨front, hhint⟩ := hint_of_finding? h
  constructor
  · rintro ⟨hw, front', hhint'⟩
    have heq := congrArg String.toList (Option.some.inj (hhint.symm.trans hhint'))
    simp only [String.toList_append, String.toList_ofList, List.append_left_inj] at heq
    have hback : d.proposal.reverse ++ backquote :: front.toList.reverse = w.reverse ++ backquote :: front'.toList.reverse := by
      have hreverse := congrArg List.reverse heq
      simpa [backquote] using hreverse
    have hsame := congrArg (List.takeWhile isWordChar) hback
    rw [hlast hword, hlast hw] at hsame
    exact (List.reverse_injective hsame).symm
  · rintro rfl
    exact ⟨hword, front, hhint⟩

end Rule.Naming

/-! ## The line with the other name -/

/-- a source in which a declared name is replaced is in order -/
structure Source.Settled (s s' : Source) (o : Options) (d : Declaration) (w : List Char) : Prop where
  /-- the keyword that declared the old name declares the new one -/
  declared : ∃ p ∈ s.sites, ∃ p' ∈ s'.sites,
    p'.token = p.token ∧ .declared d ∈ p.findings ∧ .declared (d.named w) ∈ p'.findings
  /-- no rule on naming reports the new name -/
  quiet : ∀ e ∈ s'.namingFindings o, e.line = d.line → e.column ≠ d.column
  /-- the keywords without a name are those that were there before -/
  nameless : s'.namelessDeclarations = s.namelessDeclarations.map (Renaming.at d.token w).nameless

theorem declaration_at (d : Declaration) (w : List Char) : (Renaming.at d.token w).declaration d = d.named w := by
  simp [Renaming.declaration, Renaming.at, Declaration.token, Declaration.named]

/-- a declared name is a token of a line, behind the keyword that declares it -/
theorem exists_site {text : List Char} {texts : List (List Char)} {d : Declaration}
    (hd : d ∈ Source.declarations ⟨text, Line.readAll texts⟩) : ∃ l ∈ Line.readAll texts, d.token ∈ l.code ∧
      ∃ p ∈ DeclarationSite.allFrom none l.code, .declared d ∈ p.findings ∧ p.token.column < d.column := by
  obtain ⟨p, hp, hfinding⟩ := Source.mem_declarations_iff.1 hd
  obtain ⟨t, ht, hnamed⟩ := DeclarationSite.exists_isNamedBy hfinding
  obtain ⟨l, hl, hsite⟩ := List.mem_flatMap.1 hp
  obtain ⟨front, hcode, -⟩ := DeclarationSite.mem_allFrom hsite
  have htoken : t = d.token := by
    obtain ⟨_, _, _⟩ := t
    obtain ⟨rfl, rfl, rfl⟩ := hnamed
    rfl
  have hordered := Line.ordered_code (Line.wasRead_readAll l hl)
  rw [hcode] at hordered
  have hlt := (List.pairwise_cons.1 (List.pairwise_append.1 hordered).2.1).1 t ht
  refine ⟨l, hl, ?_, p, hsite, hfinding, hnamed.column ▸ hlt⟩
  rw [← htoken, hcode]
  exact List.mem_append_right front (List.mem_cons_of_mem _ ht)

/-- what is declared may be a name, so it is no reserved word -/
theorem name_of_declared {text : List Char} {texts : List (List Char)} {d : Declaration}
    (hd : d ∈ Source.declarations ⟨text, Line.readAll texts⟩) : Grammar.Name d.name := by
  obtain ⟨l, hl, htoken, -⟩ := exists_site hd
  have hmem : d.token ∈ l.tokens := List.mem_of_mem_filter htoken
  rw [Line.wasRead_readAll l hl] at hmem
  exact Line.name_of_mem_tokens hmem rfl

section Replaced

variable {text text' : List Char} {above below : List (List Char)} {line : List Char} {d : Declaration}

theorem exists_site_on_line (hd : d ∈ Source.declarations ⟨text, Line.readAll (above ++ line :: below)⟩)
    (hline : d.line = above.length + 1) : d.token ∈ (Line.read (above.length + 1) line).tokens ∧
      ∃ p ∈ Source.sites ⟨text, Line.readAll (above ++ line :: below)⟩, .declared d ∈ p.findings ∧ p.token.column < d.column := by
  obtain ⟨l, hl, htoken, p, hp, hfinding, hcolumn⟩ := exists_site hd
  have hnumber : l.number = above.length + 1 := ((Line.numbered_readAll l hl).code d.token htoken).symm.trans hline
  have hread : l = Line.read (above.length + 1) line := by
    refine Line.eq_of_number hl ?_ (hnumber.trans (Line.number_read _ line).symm)
    rw [Line.readAll_around]
    exact List.mem_append_right _ List.mem_cons_self
  exact ⟨hread ▸ List.mem_of_mem_filter htoken, p, List.mem_flatMap.2 ⟨l, hl, hp⟩, hfinding, hcolumn⟩

/-- **A declaration that takes another name** is in order, if that may be a name and follows the convention. -/
theorem settled_of_name (hd : d ∈ Source.declarations ⟨text, Line.readAll (above ++ line :: below)⟩)
    (hline : d.line = above.length + 1) {w : List Char} (hw : Grammar.Name w) (hnamed : ¬ (d.named w).Misnamed) (o : Options) :
    Source.Settled ⟨text, Line.readAll (above ++ line :: below)⟩
      ⟨text', Line.readAll (above ++ d.token.replaced w line :: below)⟩ o d w := by
  obtain ⟨ht, p, hp, hfinding, hcolumn⟩ := exists_site_on_line hd hline
  have hcodes : (Line.readAll (above ++ d.token.replaced w line :: below)).map Line.code =
      (Line.readAll (above ++ line :: below)).map fun l => l.code.map (Renaming.at d.token w).token :=
    Line.codes_replaced ht rfl hw
  have hsites : Source.sites ⟨text', Line.readAll (above ++ d.token.replaced w line :: below)⟩ =
      (Source.sites ⟨text, Line.readAll (above ++ line :: below)⟩).map (Renaming.at d.token w).site :=
    Source.sites_renamed hcodes
  have hsite := List.mem_map_of_mem (f := (Renaming.at d.token w).site) hp
  rw [← hsites] at hsite
  have hfinding' : .declared (d.named w) ∈ ((Renaming.at d.token w).site p).findings := by
    rw [Renaming.findings_site, ← declaration_at]
    exact List.mem_map_of_mem hfinding
  refine { declared := ?declared, quiet := ?quiet, nameless := Source.namelessDeclarations_renamed hcodes }
  case declared => exact ⟨p, hp, _, hsite, Renaming.token_at_before hcolumn, hfinding, hfinding'⟩
  case quiet =>
    intro e he hline hcolumn
    obtain ⟨d', hd', he⟩ := mem_namingFindings_iff.1 he
    have htells := Rule.Naming.tells_of_finding? he
    have hplace : d'.place = (d.named w).place :=
      congrArg toLex (Prod.ext (htells.line.symm.trans hline) (Int.ofNat_inj.1 (htells.column.symm.trans hcolumn)))
    have heq := eq_of_place (declarations_ascend text' _) hd' (Source.mem_declarations_iff.2 ⟨_, hsite, hfinding'⟩) hplace
    exact hnamed (heq ▸ Rule.Naming.isSome_finding?_iff.1 (by rw [he]; rfl))

end Replaced

/-! ## Main result -/

/-- what the hint of a diagnostic is worth for a declaration in a source, where `s'` is the source that follows it -/
structure Source.HintTold (s s' : Source) (o : Options) (d : Declaration) (e : Diagnostic) : Prop where
  /-- the hint suggests one name -/
  suggested : ∀ w, e.Suggests w ↔ w = d.proposal
  /-- a name in capitals is not reserved -/
  capital : d.kind = .constant ∨ d.kind = .static → ∀ word : Keyword, word.text ≠ d.proposal
  /-- with that name the declaration is in order, unless the name is reserved -/
  settled : Source.Settled s s' o d d.proposal ↔ ∀ word : Keyword, word.text ≠ d.proposal

/--
**To follow the hint on a name settles it, unless the suggested name is a reserved word**: for every line between any others
on which a rule on naming reports a name of ASCII letters, digits and underscores with a letter among them.
-/
theorem suggestion_settles (text text' : List Char) (above below : List (List Char)) (line : List Char) (o : Options)
    {d : Declaration} {e : Diagnostic} (hd : d ∈ Source.declarations ⟨text, Line.readAll (above ++ line :: below)⟩)
    (hline : d.line = above.length + 1) (he : e ∈ Source.namingFindings ⟨text, Line.readAll (above ++ line :: below)⟩ o)
    (htells : e.Tells d) (hplain : Name.Plain d.name) (hletter : ∃ c ∈ d.name, c.isAlpha = true) :
    Source.HintTold ⟨text, Line.readAll (above ++ line :: below)⟩
      ⟨text', Line.readAll (above ++ d.token.replaced d.proposal line :: below)⟩ o d e := by
  have hfinding : Rule.Naming.finding? d = some e := by
    obtain ⟨d', hd', he'⟩ := mem_namingFindings_iff.1 he
    have hplace := (Rule.Naming.tells_of_finding? he').place_eq htells
    rwa [← eq_of_place (declarations_ascend text _) hd' hd hplace]
  refine { suggested := ?suggested, capital := ?capital, settled := ⟨?free, ?settled⟩ }
  case suggested => exact fun w => Rule.Naming.suggests_iff hfinding hplain
  case capital => exact fun hkind => Declaration.free_of_capital hplain hletter hkind
  case free =>
    intro hsettled
    obtain ⟨-, -, p, hp, -, -, hdeclared⟩ := hsettled.declared
    exact (name_of_declared (Source.mem_declarations_iff.2 ⟨p, hp, hdeclared⟩)).free
  case settled =>
    intro hfree
    exact settled_of_name hd hline (Declaration.name_proposal hplain (name_of_declared hd) hfree)
      (Declaration.not_misnamed_proposal hplain hletter) o

/-- the second line declares `http_port` where it declared `HttpPort` -/
theorem suggestion_settles_httpPort :
    Source.Settled ⟨[], Line.readAll ["x = 1".toList, "let a, HttpPort = 80".toList]⟩
      ⟨[], Line.readAll ["x = 1".toList, "let a, http_port = 80".toList]⟩ {} ⟨"HttpPort".toList, .var, .let_, 2, 8⟩
      "http_port".toList := by
  have hproposal : Declaration.proposal ⟨"HttpPort".toList, .var, .let_, 2, 8⟩ = "http_port".toList := by decide +kernel
  have hline : (Declaration.token ⟨"HttpPort".toList, .var, .let_, 2, 8⟩).replaced "http_port".toList
      "let a, HttpPort = 80".toList = "let a, http_port = 80".toList := by decide +kernel
  have htold := suggestion_settles [] [] ["x = 1".toList] [] "let a, HttpPort = 80".toList {}
    (d := ⟨"HttpPort".toList, .var, .let_, 2, 8⟩)
    (e := Rule.Naming.misnamed .varNaming ⟨"HttpPort".toList, .var, .let_, 2, 8⟩
      "\"HttpPort\" is PascalCase; variables should be snake_case" "Rename to `http_port`.")
    (by decide +kernel) (by decide) (by decide +kernel) ⟨rfl, rfl, rfl⟩ (by decide +kernel) ⟨'H', by decide +kernel, rfl⟩
  have hsettled := htold.settled
  rw [hproposal, hline] at hsettled
  exact hsettled.2 (by rintro word; cases word <;> decide)

/-- **To follow a hint may spoil the declaration**: `self` is suggested for `Self`, and it is a reserved word. -/
theorem not_suggestion_settles : ¬ ∀ (text text' : List Char) (above below : List (List Char)) (line : List Char)
    (o : Options) (d : Declaration) (e : Diagnostic) (w : List Char),
    d ∈ Source.declarations ⟨text, Line.readAll (above ++ line :: below)⟩ → d.line = above.length + 1 →
    e ∈ Source.namingFindings ⟨text, Line.readAll (above ++ line :: below)⟩ o → e.Tells d → Name.Plain d.name →
    (∃ c ∈ d.name, c.isAlpha = true) → e.Suggests w →
    Source.Settled ⟨text, Line.readAll (above ++ line :: below)⟩
      ⟨text', Line.readAll (above ++ d.token.replaced w line :: below)⟩ o d w := by
  intro h
  have hsettled := h [] [] [] [] "var Self = 1".toList {} ⟨"Self".toList, .var, .var_, 1, 5⟩
    (Rule.Naming.misnamed .varNaming ⟨"Self".toList, .var, .var_, 1, 5⟩
      "\"Self\" is PascalCase; variables should be snake_case" "Rename to `self`.") "self".toList
    (by decide +kernel) (by decide) (by decide +kernel) ⟨rfl, rfl, rfl⟩ (by decide +kernel) ⟨'S', by decide +kernel, rfl⟩
    ⟨List.all_eq_true.1 (by decide +kernel), "Rename to ", rfl⟩
  obtain ⟨-, -, p, hp, -, -, hdeclared⟩ := hsettled.declared
  have hnone : Source.declarations ⟨[], Line.readAll ([] ++ (Declaration.token ⟨"Self".toList, .var, .var_, 1, 5⟩).replaced
      "self".toList "var Self = 1".toList :: [])⟩ = [] := by decide +kernel
  have hmem := Source.mem_declarations_iff.2 ⟨p, hp, hdeclared⟩
  rw [hnone] at hmem
  cases hmem

end VixStyle
