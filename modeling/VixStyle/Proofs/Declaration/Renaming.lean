/-
What is declared where names are spelled otherwise and tokens stand elsewhere.

A `Renaming` gives tokens other places and the names among them other spellings; all other lexemes stay. The rows that
declarations are read from are cut by lexemes alone, and no name is told from another there. So what is read from renamed
tokens is what is read from the tokens, renamed (`findingsFrom_renamed`). The proof has one law for each function that reads
a part of a declaration.
-/
import VixStyle.Declaration

namespace VixStyle

/-- other places for the tokens of a source, and other spellings for its names, each by where it stands -/
structure Renaming where
  name : Int → Nat → List Char → List Char
  line : Int → Int
  column : Int → Nat → Nat

namespace Renaming

variable (r : Renaming)

/-- a lexeme that stands in some place, renamed -/
def lexeme (line : Int) (column : Nat) : Lexeme → Lexeme
  | .identifier name => .identifier (r.name line column name)
  | l => l

def token (t : Token) : Token := ⟨r.lexeme t.line t.column t.lexeme, r.line t.line, r.column t.line t.column⟩

def declaration (d : Declaration) : Declaration :=
  { d with name := r.name d.line d.column d.name, line := r.line d.line, column := r.column d.line d.column }

def nameless (d : NamelessDeclaration) : NamelessDeclaration :=
  { d with line := r.line d.line, column := r.column d.line d.column }

def finding : Finding → Finding
  | .declared d => .declared (r.declaration d)
  | .nameless d => .nameless (r.nameless d)

/-- a name with the token that it stands at -/
def item (p : Token × List Char) : Token × List Char := (r.token p.1, r.name p.1.line p.1.column p.2)

/-! ## The parts of a declaration -/

theorem lexeme_token_eq_iff {t : Token} {l : Lexeme} (hl : l.isIdentifier = false) :
    (r.token t).lexeme = l ↔ t.lexeme = l := by
  obtain ⟨l', line, column⟩ := t
  cases l' with
  | identifier name =>
    have hne : ∀ name, Lexeme.identifier name ≠ l := fun name heq => by
      subst heq
      cases hl
    exact iff_of_false (hne _) (hne _)
  | _ => exact Iff.rfl

theorem lexeme_of_not_identifier {t : Token} (h : t.lexeme.isIdentifier = false) : (r.token t).lexeme = t.lexeme :=
  (r.lexeme_token_eq_iff h).2 rfl

theorem isIdentifier_token (t : Token) : (r.token t).lexeme.isIdentifier = t.lexeme.isIdentifier := by
  obtain ⟨l, line, column⟩ := t
  cases l <;> rfl

theorem afterModifier_renamed (kind : DeclarationKind) (ts : List Token) :
    Finding.afterModifier kind (ts.map r.token) = (Finding.afterModifier kind ts).map r.token := by
  cases ts with
  | nil => rfl
  | cons t ts =>
    obtain ⟨l, line, column⟩ := t
    cases l with
    | keyword word => cases kind <;> cases word <;> rfl
    | _ => cases kind <;> rfl

/-- a list of names goes on only with a comma and a name -/
theorem listedNames_eq_nil {comma item : Token} {rest : List Token}
    (h : comma.lexeme = .punctuation ',' → item.lexeme.isIdentifier = false) :
    Finding.listedNames (comma :: item :: rest) = [] := by
  unfold Finding.listedNames
  split
  · rename_i hcomma hitem
    have hnot := h hcomma
    rw [hitem] at hnot
    cases hnot
  · rfl

theorem listedNames_renamed (ts : List Token) :
    Finding.listedNames (ts.map r.token) = (Finding.listedNames ts).map r.item := by
  induction ts using Finding.listedNames.induct with
  | case1 comma item rest name hcomma hitem ih =>
    obtain ⟨_, line, column⟩ := comma
    obtain ⟨_, line', column'⟩ := item
    obtain rfl := hcomma
    obtain rfl := hitem
    exact congrArg _ ih
  | case2 comma item rest h =>
    have hend : comma.lexeme = .punctuation ',' → item.lexeme.isIdentifier = false := by
      intro hcomma
      cases hitem : item.lexeme with
      | identifier name => exact (h name hcomma hitem).elim
      | _ => rfl
    have hend' : (r.token comma).lexeme = .punctuation ',' → (r.token item).lexeme.isIdentifier = false := by
      intro hcomma
      rw [r.isIdentifier_token]
      exact hend ((r.lexeme_token_eq_iff rfl).1 hcomma)
    rw [List.map_cons, List.map_cons, listedNames_eq_nil hend, listedNames_eq_nil hend']
    rfl
  | case3 ts h =>
    rcases ts with _ | ⟨a, _ | ⟨b, rest⟩⟩
    · rfl
    · rfl
    · exact (h a b rest rfl).elim

/-- what is no name stands in the place of a name, unless it opens the parameters of a function -/
theorem named_of_not_identifier {kind : DeclarationKind} {keyword : Keyword} {t first : Token} {rest : List Token}
    (h : first.lexeme.isIdentifier = false) : Finding.named kind keyword t (first :: rest) =
      if first.lexeme = .punctuation '(' ∧ kind = .func then []
      else [.nameless ⟨keyword, kind, t.line, t.column, some first.text⟩] := by
  unfold Finding.named
  dsimp only
  split
  · rename_i hname
    rw [hname] at h
    cases h
  · rename_i hopen
    simp only [hopen, true_and]
  · rename_i hopen
    rw [if_neg fun hboth => hopen hboth.1]

theorem named_renamed (kind : DeclarationKind) (keyword : Keyword) (t : Token) (ts : List Token) :
    Finding.named kind keyword (r.token t) (ts.map r.token) = (Finding.named kind keyword t ts).map r.finding := by
  cases ts with
  | nil => rfl
  | cons first rest =>
    cases hid : first.lexeme.isIdentifier with
    | true =>
      have hitems : (if kind = .func then [] else Finding.listedNames (rest.map r.token)) =
          (if kind = .func then [] else Finding.listedNames rest).map r.item := by
        split
        · rfl
        · exact r.listedNames_renamed rest
      obtain ⟨l, line, column⟩ := first
      cases l with
      | identifier name =>
        simp only [Finding.named, List.map_cons, token, lexeme, hitems, List.map_map]
        rfl
      | _ => cases hid
    | false =>
      have hsame := r.lexeme_of_not_identifier hid
      have hid' : (r.token first).lexeme.isIdentifier = false := by rwa [hsame]
      rw [List.map_cons, named_of_not_identifier hid, named_of_not_identifier hid', Token.text, hsame]
      split <;> rfl

/-! ## Declarations -/

/-- nothing but a reserved word declares anything -/
theorem findingsAt_of_not_keyword {before : Option Token} {t : Token} {rest : List Token}
    (h : ∀ word, t.lexeme ≠ .keyword word) : findingsAt before t rest = [] := by
  unfold findingsAt
  split
  · rename_i word hword
    exact absurd hword (h word)
  · rfl

theorem findingsAt_renamed (before : Option Token) (t : Token) (rest : List Token) :
    findingsAt (before.map r.token) (r.token t) (rest.map r.token) = (findingsAt before t rest).map r.finding := by
  have hword : ∀ word, (r.token t).lexeme = .keyword word ↔ t.lexeme = .keyword word :=
    fun word => r.lexeme_token_eq_iff rfl
  by_cases hnone : ∀ word, t.lexeme ≠ .keyword word
  · rw [findingsAt_of_not_keyword hnone, findingsAt_of_not_keyword fun word h => hnone word ((hword word).1 h)]
    rfl
  obtain ⟨word, hl⟩ : ∃ word, t.lexeme = .keyword word := by simpa using hnone
  have hbefore : (before.map r.token).any (fun b => b.lexeme = .keyword .static_) =
      before.any fun b => b.lexeme = .keyword .static_ := by
    rw [Option.any_map]
    simp only [r.lexeme_token_eq_iff (l := .keyword .static_) rfl]
  have hrest : (rest.map r.token).head?.any (fun a => a.lexeme = .keyword .func_) =
      rest.head?.any fun a => a.lexeme = .keyword .func_ := by
    rw [List.head?_map, Option.any_map]
    simp only [r.lexeme_token_eq_iff (l := .keyword .func_) rfl]
  unfold findingsAt
  rw [(hword word).2 hl, hl, hbefore, hrest]
  dsimp only
  split
  · rfl
  · split
    · rfl
    · split
      · rfl
      · rw [r.afterModifier_renamed, r.named_renamed]

/-- **What renamed tokens declare** is what the tokens declare, renamed. -/
theorem findingsFrom_renamed (before : Option Token) (ts : List Token) :
    findingsFrom (before.map r.token) (ts.map r.token) = (findingsFrom before ts).map r.finding := by
  induction ts generalizing before with
  | nil => rfl
  | cons t ts ih =>
    rw [List.map_cons, findingsFrom, findingsFrom, r.findingsAt_renamed, List.map_append]
    exact congrArg _ (ih (some t))

/-! ## Declared names and keywords without a name -/

theorem filterMap_declared? (found : List Finding) :
    (found.map r.finding).filterMap Finding.declared? = (found.filterMap Finding.declared?).map r.declaration := by
  rw [List.filterMap_map, List.map_filterMap]
  congr 1
  funext f
  cases f <;> rfl

theorem filterMap_nameless? (found : List Finding) :
    (found.map r.finding).filterMap Finding.nameless? = (found.filterMap Finding.nameless?).map r.nameless := by
  rw [List.filterMap_map, List.map_filterMap]
  congr 1
  funext f
  cases f <;> rfl

end Renaming

end VixStyle
