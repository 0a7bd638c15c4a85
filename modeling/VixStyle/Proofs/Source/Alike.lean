/-
Lines that the checks do not tell apart.

No check looks at comments or into string literals, but for the gaps beside a token and the text in the place of a name. Here
`Line.Alike` says of two lines that they differ in these only: they have the same number and the same code behind the same
blanks, but for string literals that read otherwise (`Token.Swaps`). What is found on such lines is the same, check by check.
A declaration keyword without a name is found with what stands in the place of the name, so there the text of a string literal
shows; `Finding.Swapped` says how (`Line.findings_swapped`).
-/
import Mathlib.Data.List.Forall2
import VixStyle.Proofs.Source.Later

namespace VixStyle

/-! ## Other string literals -/

/-- some string literals that read `old` read `new` -/
def Token.Swaps (old new : List Char) (f : Token → Token) : Prop :=
  ∀ t, f t = t ∨ (t.lexeme = .stringLiteral old ∧ f t = { t with lexeme := .stringLiteral new })

theorem Token.swaps_id (old new : List Char) : Token.Swaps old new id := fun _ => Or.inl rfl

namespace Token.Swaps

variable {old new : List Char} {f : Token → Token} (hf : Token.Swaps old new f)

include hf

theorem alike (t : Token) : (f t).lexeme.Alike t.lexeme := by
  rcases hf t with h | ⟨hold, h⟩
  · rw [h]
    exact .same t.lexeme
  · rw [h, hold]
    exact .strings new old

theorem line (t : Token) : (f t).line = t.line := by
  rcases hf t with h | ⟨-, h⟩ <;> rw [h]

theorem column (t : Token) : (f t).column = t.column := by
  rcases hf t with h | ⟨-, h⟩ <;> rw [h]

theorem eq_of_not_string {t : Token} (ht : ∀ written, t.lexeme ≠ .stringLiteral written) : f t = t :=
  (hf t).resolve_right fun h => ht old h.1

end Token.Swaps

/-- two lines with the same number and, but for string literals, the same code behind the same blanks -/
structure Line.Alike (f : Token → Token) (l l' : Line) : Prop where
  number : l'.number = l.number
  unclosed : l'.unclosed = l.unclosed
  code : l'.code = l.code.map f
  indentation : l.code ≠ [] → l'.indentation = l.indentation

/-! ## Declarations -/

/-- the same finding, or a keyword without a name with another string literal in the place of the name -/
inductive Finding.Swapped (old new : List Char) : Finding → Finding → Prop
  | same (f : Finding) : Swapped old new f f
  | found (n : NamelessDeclaration) (h : n.found = some old) :
    Swapped old new (.nameless n) (.nameless { n with found := some new })

theorem Finding.Swapped.refl_list {old new : List Char} (fs : List Finding) : List.Forall₂ (Swapped old new) fs fs :=
  List.forall₂_same.2 fun f _ => .same f

section Swapped

variable {old new : List Char} {f : Token → Token} (hf : Token.Swaps old new f)

include hf

namespace Finding

theorem afterModifier_swapped (kind : DeclarationKind) (ts : List Token) :
    afterModifier kind (ts.map f) = (afterModifier kind ts).map f := by
  cases ts with
  | nil => rfl
  | cons t ts =>
    rcases (hf.alike t).eq_or_strings with h | ⟨written, written', h, h'⟩
    · simp only [List.map_cons, afterModifier, h]
      split <;> rfl
    · simp only [List.map_cons, afterModifier, h, h']

/-- commas and names are no string literals -/
theorem listedNames_swapped (ts : List Token) : listedNames (ts.map f) = listedNames ts := by
  induction ts using listedNames.induct with
  | case1 comma item rest name hitem hcomma ih =>
    have hcomma' : f comma = comma := hf.eq_of_not_string fun written h => by simp [h] at hcomma
    have hitem' : f item = item := hf.eq_of_not_string fun written h => by simp [h] at hitem
    simp only [List.map_cons, listedNames, hcomma', hitem', hcomma, hitem, ih]
  | case2 comma item rest hnot =>
    have hend : comma.lexeme = .punctuation ',' → item.lexeme.isIdentifier = false := by
      intro hcomma
      cases hitem : item.lexeme with
      | identifier name => exact (hnot name hcomma hitem).elim
      | _ => rfl
    have hend' : (f comma).lexeme = .punctuation ',' → (f item).lexeme.isIdentifier = false := by
      intro hcomma
      rw [isIdentifier_map hf.alike]
      exact hend (((hf.alike comma).eq_iff (m := .punctuation ',') (by simp)).1 hcomma)
    rw [List.map_cons, List.map_cons, Renaming.listedNames_eq_nil hend, Renaming.listedNames_eq_nil hend']
  | case3 ts hnot =>
    rcases ts with _ | ⟨a, _ | ⟨b, rest⟩⟩
    · rfl
    · rfl
    · exact (hnot a b rest rfl).elim

theorem named_swapped (kind : DeclarationKind) (keyword : Keyword) {t t' : Token} (hline : t'.line = t.line)
    (hcolumn : t'.column = t.column) (ts : List Token) :
    List.Forall₂ (Swapped old new) (named kind keyword t ts) (named kind keyword t' (ts.map f)) := by
  have hplace : ∀ ts, named kind keyword t' ts = named kind keyword t ts := by
    intro ts
    unfold named
    rw [hline, hcolumn]
  rw [hplace]
  cases ts with
  | nil => exact Swapped.refl_list _
  | cons first rest =>
    rcases hf first with hsame | ⟨hold, hnew⟩
    · have hnames : named kind keyword t (first :: rest.map f) = named kind keyword t (first :: rest) := by
        unfold named
        simp only [listedNames_swapped hf]
      rw [List.map_cons, hsame, hnames]
      exact Swapped.refl_list _
    · rw [List.map_cons, hnew, Renaming.named_of_not_identifier (by rw [hold]; rfl), Renaming.named_of_not_identifier rfl,
        if_neg (by simp [hold]), if_neg (by simp), Token.text, hold]
      exact .cons (.found ⟨keyword, kind, t.line, t.column, some old⟩ rfl) .nil

end Finding

theorem findingsAt_swapped (before : Option Token) (t : Token) (rest : List Token) :
    List.Forall₂ (Finding.Swapped old new) (findingsAt before t rest) (findingsAt (before.map f) (f t) (rest.map f)) := by
  have hword : ∀ word, (f t).lexeme = .keyword word ↔ t.lexeme = .keyword word :=
    fun word => (hf.alike t).eq_iff nofun
  by_cases hnone : ∀ word, t.lexeme ≠ .keyword word
  · rw [Renaming.findingsAt_of_not_keyword hnone,
      Renaming.findingsAt_of_not_keyword fun word h => hnone word ((hword word).1 h)]
    exact .nil
  obtain ⟨word, hl⟩ : ∃ word, t.lexeme = .keyword word := by simpa using hnone
  have hbefore : (before.map f).any (fun b => b.lexeme = .keyword .static_) =
      before.any fun b => b.lexeme = .keyword .static_ := by
    rw [Option.any_map]
    simp only [(hf.alike _).eq_iff (m := .keyword .static_) nofun]
  have hrest : (rest.map f).head?.any (fun a => a.lexeme = .keyword .func_) =
      rest.head?.any fun a => a.lexeme = .keyword .func_ := by
    rw [List.head?_map, Option.any_map]
    simp only [(hf.alike _).eq_iff (m := .keyword .func_) nofun]
  unfold findingsAt
  rw [(hword word).2 hl, hl, hbefore, hrest]
  dsimp only
  split
  · exact .nil
  · split
    · exact .nil
    · split
      · exact .nil
      · rw [Finding.afterModifier_swapped hf]
        exact Finding.named_swapped hf _ _ (hf.line t) (hf.column t) _

/-- **What tokens declare** is the same with other string literals among them, but where one stands in the place of a name. -/
theorem findingsFrom_swapped (before : Option Token) (ts : List Token) :
    List.Forall₂ (Finding.Swapped old new) (findingsFrom before ts) (findingsFrom (before.map f) (ts.map f)) := by
  induction ts generalizing before with
  | nil => exact .nil
  | cons t ts ih => exact List.rel_append (findingsAt_swapped hf before t ts) (ih (some t))

end Swapped

/-! ## What is found on a line -/

section Alike

variable {old new : List Char} {f : Token → Token} (hf : Token.Swaps old new f) {l l' : Line} (h : Line.Alike f l l')

include hf h

theorem Line.findings_swapped : List.Forall₂ (Finding.Swapped old new) l.findings l'.findings := by
  unfold findings
  rw [h.code]
  exact findingsFrom_swapped hf none l.code

/-- what is made of declared names only is the same -/
theorem declared_alike (kind : DeclarationKind) (find : Declaration → Option Diagnostic) :
    l'.findings.filterMap (Rule.Naming.diagnosticOf? kind find) =
      l.findings.filterMap (Rule.Naming.diagnosticOf? kind find) := by
  have hrel : List.Forall₂ Eq (l.findings.filterMap (Rule.Naming.diagnosticOf? kind find))
      (l'.findings.filterMap (Rule.Naming.diagnosticOf? kind find)) := by
    refine List.rel_filterMap (fun a b hab => ?_) (Line.findings_swapped hf h)
    cases hab with
    | same =>
      cases Rule.Naming.diagnosticOf? kind find a with
      | none => exact .none
      | some d => exact .some rfl
    | found n _ => exact .none
  rw [List.forall₂_eq_eq_eq] at hrel
  exact hrel.symm

theorem Rule.OneLineIf.findings_alike (ruleId : String) (severity : Severity) (options : Options) :
    findings ruleId severity options l' = findings ruleId severity options l := by
  unfold findings
  rw [h.code, blockParts_map hf.alike, faults_map hf.alike, List.map_map]
  apply List.map_congr_left
  rintro ⟨t, fault⟩ -
  dsimp only [Function.comp]
  rw [hf.line, hf.column]

end Alike

/-- the fault of a line does not depend on its code -/
theorem faultDiagnostic_alike {f : Token → Token} {l l' : Line} (h : Line.Alike f l l') (g : Int → Nat → Diagnostic) :
    (l'.fault?.map fun e => g e.line e.column) = l.fault?.map fun e => g e.line e.column := by
  unfold Line.fault?
  rw [h.unclosed, h.number, Option.map_map, Option.map_map]
  rfl

end VixStyle
