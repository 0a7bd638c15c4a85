/-
Which rules may run together, and what is said of those that may not.

Main statement, `validation_told`. Rules are accepted exactly if their headers are `Fit`: ids written with hyphens
(`IsKebabCase`), no id twice, categories and severities among the known ones. Otherwise the first rule that does not fit to
those before it is blamed for the first thing that is wrong with it (`RuleHeader.Blamed`), and so does every run with rules of
these headers, whatever they check or refuse and whichever of them are selected.

- `isHyphenated_iff`: the reader of ids, as a condition on all characters of a text.
- `isHyphenated_iff_mem`: the same reader as a regular language, `idPattern`.
- `faultFrom?_eq_some_iff`: the search for a fault stops at the first header that has one.
-/
import Mathlib.Computability.Language
import VixStyle.Proofs.Lint.Distinct

namespace VixStyle

open scoped Computability

/-! ## Ids -/

/-- a text of small letters, digits and hyphens that starts with a letter and has a hyphen only between two of the others -/
structure IsKebabCase (id : List Char) : Prop where
  plain : ∀ c ∈ id, isIdChar c = true ∨ c = '-'
  starts : ∃ c, id.head? = some c ∧ isIdLetter c = true
  ends : id.getLast? ≠ some '-'
  single : ¬ ['-', '-'] <:+: id

/-- what may follow the first letter of an id -/
structure ContinuesId (s : List Char) : Prop where
  plain : ∀ c ∈ s, isIdChar c = true ∨ c = '-'
  ends : s.getLast? ≠ some '-'
  single : ¬ ['-', '-'] <:+: s

theorem isIdChar_of_isIdLetter {c : Char} (h : isIdLetter c = true) : isIdChar c = true := by
  rw [isIdChar, h]
  rfl

theorem ne_hyphen_of_isIdChar {c : Char} (h : isIdChar c = true) : c ≠ '-' := by
  rintro rfl
  exact absurd h (by decide)

theorem continuesId_nil : ContinuesId [] where
  plain := List.forall_mem_nil _
  ends := by simp
  single := by simp

theorem continuesId_cons {c : Char} (hc : isIdChar c = true) (s : List Char) : ContinuesId (c :: s) ↔ ContinuesId s := by
  have hne := ne_hyphen_of_isIdChar hc
  have hends : (c :: s).getLast? ≠ some '-' ↔ s.getLast? ≠ some '-' := by
    cases s with
    | nil => simp [hne]
    | cons d s => rw [List.getLast?_cons_cons]
  have hsingle : ['-', '-'] <:+: c :: s ↔ ['-', '-'] <:+: s := by
    rw [List.infix_cons_iff, List.cons_prefix_cons]
    simp [hne.symm]
  constructor
  · rintro ⟨hplain, hend, hdouble⟩
    exact ⟨(List.forall_mem_cons.1 hplain).2, hends.1 hend, hsingle.not.1 hdouble⟩
  · rintro ⟨hplain, hend, hdouble⟩
    exact ⟨List.forall_mem_cons.2 ⟨Or.inl hc, hplain⟩, hends.2 hend, hsingle.not.2 hdouble⟩

/-- a hyphen is followed by a letter or a digit -/
theorem continuesId_hyphen (s : List Char) :
    ContinuesId ('-' :: s) ↔ ContinuesId s ∧ ∃ c, s.head? = some c ∧ isIdChar c = true := by
  cases s with
  | nil =>
    refine iff_of_false (fun h => h.ends rfl) ?_
    rintro ⟨-, c, hc, -⟩
    cases hc
  | cons d s =>
    have hsingle : ['-', '-'] <:+: '-' :: d :: s ↔ d = '-' ∨ ['-', '-'] <:+: d :: s := by
      rw [List.infix_cons_iff, List.cons_prefix_cons, List.cons_prefix_cons]
      simp [eq_comm]
    constructor
    · rintro ⟨hplain, hend, hdouble⟩
      obtain ⟨hd, hdouble⟩ := not_or.1 (hsingle.not.1 hdouble)
      have hplain := (List.forall_mem_cons.1 hplain).2
      exact ⟨⟨hplain, hend, hdouble⟩, d, rfl, (hplain d List.mem_cons_self).resolve_right hd⟩
    · rintro ⟨⟨hplain, hend, hdouble⟩, c, hhead, hc⟩
      obtain rfl : d = c := Option.some.inj hhead
      refine ⟨List.forall_mem_cons.2 ⟨Or.inr rfl, hplain⟩, hend, hsingle.not.2 (not_or.2 ⟨?_, hdouble⟩)⟩
      exact ne_hyphen_of_isIdChar hc

/-- **The reader of hyphenated words** looks at neighbours only: outside a word one has to begin. -/
theorem isHyphenated_iff (inWord : Bool) (s : List Char) : isHyphenated inWord s = true ↔
    ContinuesId s ∧ (inWord = false → ∃ c, s.head? = some c ∧ isIdChar c = true) := by
  induction s generalizing inWord with
  | nil => cases inWord <;> simp [isHyphenated, continuesId_nil]
  | cons c s ih =>
    by_cases hc : isIdChar c = true
    · simp [isHyphenated, hc, ih, continuesId_cons hc]
    · rw [isHyphenated, if_neg hc]
      cases inWord with
      | false =>
        refine iff_of_false (by simp) fun h => ?_
        obtain ⟨d, hd, hword⟩ := h.2 rfl
        exact hc (Option.some.inj hd ▸ hword)
      | true =>
        by_cases hhyphen : c = '-'
        · subst hhyphen
          simp [ih, continuesId_hyphen]
        · refine iff_of_false (by simp [hhyphen]) fun h => ?_
          exact (h.1.plain c List.mem_cons_self).elim hc hhyphen

theorem isRuleId_iff (id : String) : isRuleId id = true ↔ IsKebabCase id.toList := by
  unfold isRuleId
  cases id.toList with
  | nil =>
    refine iff_of_false (by simp) fun h => ?_
    obtain ⟨c, hc, -⟩ := h.starts
    cases hc
  | cons c s =>
    rw [Bool.and_eq_true, isHyphenated_iff]
    constructor
    · rintro ⟨hc, hs, -⟩
      obtain ⟨hplain, hend, hdouble⟩ := (continuesId_cons (isIdChar_of_isIdLetter hc) s).2 hs
      exact ⟨hplain, ⟨c, rfl, hc⟩, hend, hdouble⟩
    · rintro ⟨hplain, ⟨d, hd, hletter⟩, hend, hdouble⟩
      obtain rfl : c = d := Option.some.inj hd
      exact ⟨hletter, (continuesId_cons (isIdChar_of_isIdLetter hletter) s).1 ⟨hplain, hend, hdouble⟩, by simp⟩

/-! ## Ids as a regular language -/

/-- one character that passes a test -/
def oneOf (p : Char → Bool) : Language Char := { s | ∃ c, p c = true ∧ s = [c] }

/-- the rest of a word, and words with a hyphen before each -/
def wordsPattern : Language Char :=
  (oneOf isIdChar)∗ * (oneOf (· == '-') * (oneOf isIdChar * (oneOf isIdChar)∗))∗

/-- a letter, the rest of its word, and words with a hyphen before each -/
def idPattern : Language Char := oneOf isIdLetter * wordsPattern

theorem mem_oneOf_mul {p : Char → Bool} {l : Language Char} {s : List Char} :
    s ∈ oneOf p * l ↔ ∃ c rest, s = c :: rest ∧ p c = true ∧ rest ∈ l := by
  rw [Language.mem_mul]
  constructor
  · rintro ⟨_, ⟨c, hc, rfl⟩, rest, hrest, rfl⟩
    exact ⟨c, rest, rfl, hc, hrest⟩
  · rintro ⟨c, rest, rfl, hc, hrest⟩
    exact ⟨[c], ⟨c, hc, rfl⟩, rest, hrest, rfl⟩

theorem nil_notMem_oneOf_mul (p : Char → Bool) (l : Language Char) : [] ∉ oneOf p * l := by
  rw [mem_oneOf_mul]
  rintro ⟨c, rest, h, -⟩
  cases h

theorem cons_mem_oneOf_mul {p : Char → Bool} {l : Language Char} {c : Char} {s : List Char} :
    c :: s ∈ oneOf p * l ↔ p c = true ∧ s ∈ l := by
  rw [mem_oneOf_mul]
  constructor
  · rintro ⟨d, rest, h, hd, hrest⟩
    obtain ⟨rfl, rfl⟩ := List.cons.inj h
    exact ⟨hd, hrest⟩
  · rintro ⟨hc, hs⟩
    exact ⟨c, s, rfl, hc, hs⟩

/-- nothing, or a character of the word and what may follow it, or a hyphen and a word -/
theorem wordsPattern_eq : wordsPattern =
    1 + oneOf isIdChar * wordsPattern + oneOf (· == '-') * (oneOf isIdChar * wordsPattern) := by
  unfold wordsPattern
  generalize oneOf isIdChar = word
  generalize oneOf (· == '-') = hyphen
  have hword : 1 + word * word∗ = word∗ := Language.one_add_self_mul_kstar_eq_kstar word
  generalize hgroups : (hyphen * (word * word∗))∗ = groups
  have hgroup : 1 + hyphen * (word * word∗) * groups = groups := by
    rw [← hgroups]
    exact Language.one_add_self_mul_kstar_eq_kstar _
  calc word∗ * groups
      = groups + word * word∗ * groups := by
        conv_lhs => rw [← hword]
        rw [add_mul, one_mul]
    _ = 1 + hyphen * (word * word∗) * groups + word * word∗ * groups := by rw [hgroup]
    _ = 1 + word * (word∗ * groups) + hyphen * (word * (word∗ * groups)) := by
        simp only [mul_assoc]
        exact add_right_comm _ _ _

/-- **The reader of hyphenated words** reads the language of their pattern. -/
theorem isHyphenated_iff_mem (s : List Char) : (isHyphenated true s = true ↔ s ∈ wordsPattern) ∧
    (isHyphenated false s = true ↔ s ∈ oneOf isIdChar * wordsPattern) := by
  induction s with
  | nil =>
    refine ⟨iff_of_true rfl ?_, iff_of_false (by simp [isHyphenated]) (nil_notMem_oneOf_mul _ _)⟩
    rw [wordsPattern_eq]
    exact Or.inl (Or.inl rfl)
  | cons c s ih =>
    obtain ⟨hin, hout⟩ := ih
    have hword : c :: s ∈ oneOf isIdChar * wordsPattern ↔ isIdChar c = true ∧ isHyphenated true s = true := by
      rw [cons_mem_oneOf_mul, hin]
    have hgroup : c :: s ∈ oneOf (· == '-') * (oneOf isIdChar * wordsPattern) ↔
        c = '-' ∧ isHyphenated false s = true := by
      rw [cons_mem_oneOf_mul, hout, beq_iff_eq]
    constructor
    · rw [wordsPattern_eq, Language.mem_add, Language.mem_add, hword, hgroup, isHyphenated, Language.mem_one]
      by_cases hc : isIdChar c = true
      · simp [hc, ne_hyphen_of_isIdChar hc]
      · simp [hc]
    · rw [hword, isHyphenated]
      by_cases hc : isIdChar c = true
      · simp [hc]
      · simp [hc]

theorem isRuleId_iff_mem (id : String) : isRuleId id = true ↔ id.toList ∈ idPattern := by
  rw [idPattern, isRuleId]
  cases id.toList with
  | nil => exact iff_of_false Bool.false_ne_true (nil_notMem_oneOf_mul _ _)
  | cons c s => rw [Bool.and_eq_true, (isHyphenated_iff_mem s).1, cons_mem_oneOf_mul]

/-! ## Faults -/

/-- a header without fault by itself -/
structure RuleHeader.Sound (h : RuleHeader) : Prop where
  id : IsKebabCase h.id.toList
  category : h.category ∈ ["naming", "spacing", "layout"]
  severity : h.severity = .error ∨ h.severity = .warning

/-- headers of rules that may run together -/
structure Fit (headers : List RuleHeader) : Prop where
  sound : ∀ h ∈ headers, h.Sound
  distinct : (headers.map RuleHeader.id).Nodup

/-- what a header is blamed for, behind headers that fit: the first that is wrong of id, repetition, category and severity -/
inductive RuleHeader.Blamed (earlier : List RuleHeader) (h : RuleHeader) : RuleFault → Prop
  | malformedId (hid : ¬ IsKebabCase h.id.toList) : Blamed earlier h (.malformedId h.name h.id)
  | repeatedId (hid : IsKebabCase h.id.toList) (hseen : ∃ e ∈ earlier, e.id = h.id) :
      Blamed earlier h (.repeatedId h.id)
  | unknownCategory (hid : IsKebabCase h.id.toList) (hnew : ¬ ∃ e ∈ earlier, e.id = h.id)
      (hcategory : h.category ∉ ["naming", "spacing", "layout"]) :
      Blamed earlier h (.unknownCategory h.name h.category)
  | unknownSeverity (hid : IsKebabCase h.id.toList) (hnew : ¬ ∃ e ∈ earlier, e.id = h.id)
      (hcategory : h.category ∈ ["naming", "spacing", "layout"])
      (hseverity : ¬ (h.severity = .error ∨ h.severity = .warning)) :
      Blamed earlier h (.unknownSeverity h.name h.severity.word)

theorem Severity.isKnown_iff {s : Severity} : s.isKnown = true ↔ s = .error ∨ s = .warning := by
  cases s <;> simp [isKnown]

/-- what a header is asked, one question after the other -/
theorem RuleHeader.fault?_questions (h : RuleHeader) :
    (isRuleId h.id = true ↔ IsKebabCase h.id.toList) ∧
      (ruleCategories.contains h.category = true ↔ h.category ∈ ["naming", "spacing", "layout"]) ∧
      (h.severity.isKnown = true ↔ h.severity = .error ∨ h.severity = .warning) :=
  ⟨isRuleId_iff h.id, List.contains_iff_mem, Severity.isKnown_iff⟩

theorem RuleHeader.fault?_nil_eq_none_iff {h : RuleHeader} : h.fault? [] = none ↔ h.Sound := by
  obtain ⟨hid, hcategory, hseverity⟩ := h.fault?_questions
  unfold RuleHeader.fault?
  constructor
  · intro hnone
    split_ifs at hnone with h1 h2 h3 h4
    simp only [Bool.not_eq_true', Bool.not_eq_false] at h1 h3 h4
    exact ⟨hid.1 h1, hcategory.1 h3, hseverity.1 h4⟩
  · rintro ⟨h1, h3, h4⟩
    rw [hid.2 h1, hcategory.2 h3, hseverity.2 h4]
    rfl

theorem faultFrom?_nil_eq_none_iff {headers : List RuleHeader} : faultFrom? [] headers = none ↔ Fit headers := by
  rw [faultFrom?_eq_none_iff]
  simp only [RuleHeader.fault?_nil_eq_none_iff]
  exact ⟨fun h => ⟨h.1, h.2⟩, fun h => ⟨h.sound, h.distinct⟩⟩

/-- the fault of a header, told by the headers whose ids were seen -/
theorem RuleHeader.fault?_eq_some_iff {seen : List String} {earlier : List RuleHeader}
    (hseen : ∀ id, id ∈ seen ↔ ∃ e ∈ earlier, e.id = id) {h : RuleHeader} {fault : RuleFault} :
    h.fault? seen = some fault ↔ h.Blamed earlier fault := by
  obtain ⟨hid, hcategory, hseverity⟩ := h.fault?_questions
  have hrepeated : seen.contains h.id = true ↔ ∃ e ∈ earlier, e.id = h.id := List.contains_iff_mem.trans (hseen h.id)
  unfold RuleHeader.fault?
  constructor
  · intro hsome
    split_ifs at hsome with h1 h2 h3 h4 <;> simp only [Bool.not_eq_true', ← Bool.not_eq_true, not_not] at * <;>
      obtain rfl := Option.some.inj hsome
    · exact .malformedId (hid.not.1 h1)
    · exact .repeatedId (hid.1 h1) (hrepeated.1 h2)
    · exact .unknownCategory (hid.1 h1) (hrepeated.not.1 h2) (hcategory.not.1 h3)
    · exact .unknownSeverity (hid.1 h1) (hrepeated.not.1 h2) (hcategory.1 h3) (hseverity.not.1 h4)
  · rintro (h1 | ⟨h1, h2⟩ | ⟨h1, h2, h3⟩ | ⟨h1, h2, h3, h4⟩)
    · simp [hid.not.2 h1]
    · simp only [hid.2 h1, hrepeated.2 h2]
      rfl
    · simp only [hid.2 h1, hrepeated.not.2 h2, hcategory.not.2 h3]
      rfl
    · simp only [hid.2 h1, hrepeated.not.2 h2, hcategory.2 h3, hseverity.not.2 h4]
      rfl

/-- **The search stops at the first header with a fault**, by induction over the headers with the ids seen so far. -/
theorem faultFrom?_eq_some_iff {seen : List String} {headers : List RuleHeader} {fault : RuleFault} :
    faultFrom? seen headers = some fault ↔ ∃ before h after, headers = before ++ h :: after ∧
      faultFrom? seen before = none ∧ h.fault? ((before.map RuleHeader.id).reverse ++ seen) = some fault := by
  induction headers generalizing seen with
  | nil => simp [faultFrom?]
  | cons first headers ih =>
    rw [faultFrom?, Option.or_eq_some_iff, ih]
    constructor
    · rintro (hfirst | ⟨hfirst, before, h, after, rfl, hbefore, hfault⟩)
      · exact ⟨[], first, headers, rfl, rfl, hfirst⟩
      · refine ⟨first :: before, h, after, rfl, ?_, ?_⟩
        · rw [faultFrom?, hfirst, hbefore]
          rfl
        · simpa using hfault
    · rintro ⟨before, h, after, hsplit, hbefore, hfault⟩
      cases before with
      | nil =>
        obtain ⟨rfl, rfl⟩ := List.cons.inj hsplit
        exact Or.inl hfault
      | cons g before =>
        obtain ⟨rfl, rfl⟩ := List.cons.inj hsplit
        rw [faultFrom?, Option.or_eq_none_iff] at hbefore
        exact Or.inr ⟨hbefore.1, before, h, after, rfl, hbefore.2, by simpa using hfault⟩

theorem faultFrom?_nil_eq_some_iff {headers : List RuleHeader} {fault : RuleFault} :
    faultFrom? [] headers = some fault ↔
      ∃ before h after, headers = before ++ h :: after ∧ Fit before ∧ h.Blamed before fault := by
  rw [faultFrom?_eq_some_iff]
  simp only [faultFrom?_nil_eq_none_iff, List.append_nil]
  have hseen : ∀ (before : List RuleHeader) (id : String),
      id ∈ (before.map RuleHeader.id).reverse ↔ ∃ e ∈ before, e.id = id := by simp
  simp only [RuleHeader.fault?_eq_some_iff (hseen _)]

/-! ## Validation -/

theorem validateRules_eq_error_iff {rules : List Rule} {fault : RuleFault} :
    validateRules rules = .error fault ↔ faultFrom? [] (rules.map Rule.header) = some fault := by
  unfold validateRules
  cases faultFrom? [] (rules.map Rule.header) <;> simp

/-- a run fails for a fault of its rules exactly if validation does -/
theorem lintSource_eq_rules_iff [Machine] {s : Source} {o : Options} {rules : List Rule} {fault : RuleFault} :
    lintSource s o rules = .error (.rules fault) ↔ validateRules rules = .error fault := by
  rw [lintSource_eq_refusal]
  cases hvalid : validateRules rules with
  | error e =>
    have hrun : ((Except.error e : Except RuleFault Unit).mapError LintFault.rules) = .error (.rules e) := rfl
    rw [hrun]
    constructor
    · intro h
      obtain rfl := LintFault.rules.inj (Except.error.inj h)
      rfl
    · intro h
      obtain rfl := Except.error.inj h
      rfl
  | ok _ =>
    refine iff_of_false (fun h => ?_) (fun h => by cases h)
    cases hrefusal : refusal? (selectRules rules o) o with
    | some unit =>
      rw [hrefusal] at h
      cases h
    | none =>
      rw [hrefusal] at h
      cases h

/-- what validation says of rules -/
structure ValidationTold [Machine] (rules : List Rule) : Prop where
  /-- they are accepted exactly if their headers fit -/
  accepted : validateRules rules = .ok () ↔ Fit (rules.map Rule.header)
  /-- ids are those of the pattern -/
  pattern : ∀ id : String, id.toList ∈ idPattern ↔ IsKebabCase id.toList
  /-- the first rule that does not fit to those before it is blamed, and for one thing -/
  blamed : ∀ fault, validateRules rules = .error fault ↔ ∃ before r after, rules = before ++ r :: after ∧
    Fit (before.map Rule.header) ∧ r.header.Blamed (before.map Rule.header) fault
  /-- so does every run of rules with these headers, whatever they check or refuse -/
  run : ∀ others : List Rule, others.map Rule.header = rules.map Rule.header → ∀ s o fault,
    lintSource s o others = .error (.rules fault) ↔ validateRules rules = .error fault

/--
**Validation accepts exactly the rules whose headers fit** and names the first fault of the first rule that does not, and a
run with such rules does the same before anything is checked.
-/
theorem validation_told [Machine] (rules : List Rule) : ValidationTold rules where
  accepted := validateRules_eq_ok_iff.trans faultFrom?_nil_eq_none_iff
  pattern id := (isRuleId_iff_mem id).symm.trans (isRuleId_iff id)
  blamed fault := by
    rw [validateRules_eq_error_iff, faultFrom?_nil_eq_some_iff]
    constructor
    · rintro ⟨before, h, after, hsplit, hfit, hblamed⟩
      obtain ⟨front, back, rfl, rfl, hback⟩ := List.map_eq_append_iff.1 hsplit
      obtain ⟨r, rest, rfl, rfl, rfl⟩ := List.map_eq_cons_iff.1 hback
      exact ⟨front, r, rest, rfl, hfit, hblamed⟩
    · rintro ⟨before, r, after, rfl, hfit, hblamed⟩
      exact ⟨before.map Rule.header, r.header, after.map Rule.header, by simp, hfit, hblamed⟩
  run others hothers s o fault := by
    rw [lintSource_eq_rules_iff, validateRules_eq_error_iff, validateRules_eq_error_iff, hothers]

end VixStyle
