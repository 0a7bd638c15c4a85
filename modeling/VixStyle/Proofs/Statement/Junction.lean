/-
Two statements are never taken for one.

A row of tokens is finished (`IsFinished`) if nothing can go on with it: it ends in a semicolon or in a value, or it is a
`break` or `continue` by itself. Main statement, `classify?_append`: a finished row with a simple statement behind it is
no simple statement. A row that ends otherwise may go on: `return a +` and `b()` are two statements, and so is
`return a + b()` one.

A simple statement starts with a value or with a word of statements (`startsAnew_of_classify?`), so where it stands behind
a value there is a `Junction`.
- `Junction.not_isExpression`: no expression goes over a junction.
- `Junction.split`: to cut a row at an assignment operator leaves its junction whole on one side.
- `Junction.kindOf?`: so a row with a junction is neither an assignment nor a call, nor is it what is returned.
-/
import Mathlib.Tactic
import VixStyle.Line
import VixStyle.Statement

namespace VixStyle.Statement

/-! ## Junctions -/

/-- a token that no expression has behind a value: it starts a value, or it is a word of statements -/
def startsAnew (t : Token) : Bool := t.lexeme.startsOperand || isStatementWord t

/-- a row in which something starts anew behind a value -/
def Junction (row : List Token) : Prop :=
  ∃ front a b back, row = front ++ a :: b :: back ∧ a.lexeme.endsOperand = true ∧ startsAnew b = true

theorem hasAdjacentValues_append {front back : List Token} {a b : Token} (ha : a.lexeme.endsOperand = true)
    (hb : b.lexeme.startsOperand = true) : hasAdjacentValues (front ++ a :: b :: back) = true := by
  induction front with
  | nil => simp [hasAdjacentValues, ha, hb]
  | cons t front ih =>
    cases front with
    | nil => simp_all [hasAdjacentValues]
    | cons u front => simp_all [hasAdjacentValues]

/-- **No expression goes over a junction.** -/
theorem Junction.not_isExpression {row : List Token} (h : Junction row) : isExpression row = false := by
  obtain ⟨front, a, b, back, rfl, ha, hb⟩ := h
  rcases Bool.or_eq_true_iff.1 hb with hvalue | hword
  · simp [isExpression, hasAdjacentValues_append ha hvalue]
  · simp [isExpression, hword]

theorem Junction.not_isTarget {row : List Token} (h : Junction row) : isTarget row = false := by
  cases row with
  | nil => rfl
  | cons t rest => simp [isTarget, h.not_isExpression]

/-- a junction stays whole on one side of a token that neither ends a value nor starts anything anew -/
theorem Junction.split {front back : List Token} {t : Token} (h : Junction (front ++ t :: back))
    (hends : t.lexeme.endsOperand = false) (hstarts : startsAnew t = false) : Junction front ∨ Junction back := by
  obtain ⟨before, a, b, behind, hrow, ha, hb⟩ := h
  obtain ⟨between, rfl, heq⟩ | ⟨between, rfl, heq⟩ := List.append_eq_append_iff.1 hrow
  · right
    cases between with
    | nil =>
      obtain ⟨rfl, -⟩ := List.cons.inj heq
      exact absurd ha (by simp [hends])
    | cons u between =>
      obtain ⟨rfl, rfl⟩ := List.cons.inj heq
      exact ⟨between, a, b, behind, rfl, ha, hb⟩
  · obtain _ | ⟨u, _ | ⟨v, between⟩⟩ := between
    · obtain ⟨rfl, -⟩ := List.cons.inj heq
      exact absurd ha (by simp [hends])
    · obtain ⟨rfl, hmore⟩ := List.cons.inj heq
      obtain ⟨rfl, -⟩ := List.cons.inj hmore
      exact absurd hb (by simp [hstarts])
    · obtain ⟨rfl, hmore⟩ := List.cons.inj heq
      obtain ⟨rfl, -⟩ := List.cons.inj hmore
      exact Or.inl ⟨before, a, b, between, rfl, ha, hb⟩

/-! ## Rows with a junction -/

/-- an assignment found in a row stands in it as an operator -/
theorem getElem?_of_assignmentFrom? {depth : Int} {row : List Token} {index : Nat}
    (h : assignmentFrom? depth row = some index) : ∃ t op, row[index]? = some t ∧ t.lexeme = .operator op := by
  induction row generalizing depth index with
  | nil => cases h
  | cons t rest ih =>
    have hlater : ∀ d, (assignmentFrom? d rest).map (· + 1) = some index →
        ∃ u op, (t :: rest)[index]? = some u ∧ u.lexeme = .operator op := by
      intro d hd
      obtain ⟨i, hi, rfl⟩ := Option.map_eq_some_iff.1 hd
      exact ih hi
    simp only [assignmentFrom?] at h
    split at h
    · rename_i op hop
      split_ifs at h
      · obtain rfl := Option.some.inj h
        exact ⟨t, op, rfl, hop⟩
      · exact hlater _ h
    · exact hlater _ h

/-- a junction is on one side of any assignment -/
theorem Junction.assignment {row : List Token} (h : Junction row) {index : Nat} (hindex : assignment? row = some index) :
    Junction (row.take index) ∨ Junction (row.drop (index + 1)) := by
  obtain ⟨t, op, ht, hop⟩ := getElem?_of_assignmentFrom? hindex
  obtain ⟨hlt, rfl⟩ := List.getElem?_eq_some_iff.1 ht
  have hrow : row = row.take index ++ row[index] :: row.drop (index + 1) := by
    rw [← List.drop_eq_getElem_cons hlt, List.take_append_drop]
  rw [hrow] at h
  refine h.split ?_ ?_
  · simp [hop, Lexeme.endsOperand, Lexeme.isValue, Lexeme.isClosingBracket]
  · simp [startsAnew, isStatementWord, hop, Lexeme.startsOperand, Lexeme.isValue]

/-- a junction is not at a word that ends no value -/
theorem Junction.tail {t : Token} {rest : List Token} (h : Junction (t :: rest)) (ht : t.lexeme.endsOperand = false) :
    Junction rest := by
  obtain ⟨front, a, b, back, heq, ha, hb⟩ := h
  cases front with
  | nil =>
    obtain ⟨rfl, -⟩ := List.cons.inj heq
    exact absurd ha (by simp [ht])
  | cons u front =>
    obtain ⟨rfl, rfl⟩ := List.cons.inj heq
    exact ⟨front, a, b, back, rfl, ha, hb⟩

theorem Junction.ne_nil {row : List Token} (h : Junction row) : row ≠ [] := by
  obtain ⟨front, a, b, back, rfl, -⟩ := h
  simp

/-- **A row with a junction is no simple statement.** -/
theorem Junction.kindOf? {row : List Token} (h : Junction row) : kindOf? row = none := by
  cases row with
  | nil => rfl
  | cons first rest =>
    have htail : ∀ word : Keyword, word.isValue = false → first.lexeme = .keyword word → Junction rest := by
      intro word hword hfirst
      refine h.tail ?_
      simp [hfirst, Lexeme.endsOperand, Lexeme.isValue, hword, Lexeme.isClosingBracket]
    simp only [Statement.kindOf?]
    split
    · rename_i hfirst
      simp [(htail _ rfl hfirst).ne_nil]
    · rename_i hfirst
      simp [(htail _ rfl hfirst).ne_nil]
    · rename_i hfirst
      simp [(htail _ rfl hfirst).ne_nil, (htail _ rfl hfirst).not_isExpression]
    · cases hindex : assignment? (first :: rest) with
      | none => simp [h.not_isExpression]
      | some index =>
        dsimp only
        rcases h.assignment hindex with htarget | hvalue
        · rw [htarget.not_isTarget]
          rfl
        · rw [hvalue.not_isExpression, Bool.and_false]
          rfl

/-! ## Where statements start and end -/

theorem startsAnew_of_isBase {t : Token} (h : isBase t = true) : startsAnew t = true := by
  unfold isBase at h
  unfold startsAnew
  split at h
  · rename_i name hname
    simp [hname, Lexeme.startsOperand, Lexeme.isValue]
  · rename_i hself
    simp [hself, Lexeme.startsOperand, Lexeme.isValue, Keyword.isValue]
  · cases h

theorem startsAnew_of_word {t : Token} {word : Keyword} (ht : t.lexeme = .keyword word) (hword : word.isStatement = true) :
    startsAnew t = true := by
  simp [startsAnew, isStatementWord, ht, hword]

/-- a statement starts with `return`, `break` or `continue`, or with the base of its target or call -/
theorem startsAnew_of_kindOf? {row : List Token} (h : kindOf? row ≠ none) :
    ∃ first rest, row = first :: rest ∧ startsAnew first = true := by
  cases row with
  | nil => exact absurd rfl h
  | cons first rest =>
    refine ⟨first, rest, rfl, ?_⟩
    simp only [kindOf?] at h
    split at h
    · exact startsAnew_of_word ‹_› rfl
    · exact startsAnew_of_word ‹_› rfl
    · exact startsAnew_of_word ‹_› rfl
    · refine startsAnew_of_isBase ?_
      split at h
      · rename_i index hindex
        split_ifs at h with hboth
        · cases index with
          | zero => simp [isTarget] at hboth
          | succ index => simp_all [isTarget]
        · exact absurd rfl h
      · split_ifs at h with hboth
        · simp_all [isCall]
        · exact absurd rfl h

theorem startsAnew_of_classify? {row : List Token} (h : classify? row ≠ none) :
    ∃ first rest, withoutSemicolon row = first :: rest ∧ startsAnew first = true := by
  unfold classify? at h
  dsimp only at h
  split_ifs at h
  · exact absurd rfl h
  · exact startsAnew_of_kindOf? h

/-- a row that nothing can go on with: `break` or `continue`, or one that ends in a semicolon or in a value -/
inductive IsFinished : List Token → Prop
  | leave {t : Token} (h : t.lexeme = .keyword .break_ ∨ t.lexeme = .keyword .continue_) : IsFinished [t]
  | semicolon {row : List Token} (h : endsWithSemicolon row = true) : IsFinished row
  | value {row : List Token} (h : endsOperand row.getLast? = true) : IsFinished row

theorem withoutSemicolon_append (a : List Token) {b : List Token} (hb : b ≠ []) :
    withoutSemicolon (a ++ b) = a ++ withoutSemicolon b := by
  have hends : endsWithSemicolon (a ++ b) = endsWithSemicolon b := by
    obtain ⟨t, ht⟩ := Option.isSome_iff_exists.1 (List.getLast?_isSome.2 hb)
    simp [endsWithSemicolon, List.getLast?_append, ht]
  unfold withoutSemicolon
  rw [hends]
  split
  · exact List.dropLast_append_of_ne_nil hb
  · rfl

/--
**Two statements are never taken for one.** A simple statement behind a row that is finished does not make a simple
statement with it, whatever that row is.
-/
theorem classify?_append {a b : List Token} (ha : IsFinished a) (hb : classify? b ≠ none) : classify? (a ++ b) = none := by
  obtain ⟨first, rest, hrow, hfirst⟩ := startsAnew_of_classify? hb
  have hne : b ≠ [] := by
    rintro rfl
    exact absurd hrow (by simp [withoutSemicolon])
  unfold classify?
  dsimp only
  rw [withoutSemicolon_append a hne, hrow]
  split_ifs with hmark
  · rfl
  · cases ha with
    | leave h => rcases h with h | h <;> simp [kindOf?, h]
    | semicolon h =>
      -- the semicolon stands inside the row now
      obtain ⟨t, ht, hsemicolon⟩ := (Option.any_eq_true _ _).1 h
      refine absurd ?_ hmark
      have hmem := List.mem_of_getLast? ht
      simp only [Bool.or_eq_true, List.any_eq_true]
      exact Or.inl ⟨t, List.mem_append_left _ hmem, hsemicolon⟩
    | value h =>
      obtain ⟨t, ht, hvalue⟩ := (Option.any_eq_true _ _).1 h
      obtain ⟨front, rfl⟩ := List.getLast?_eq_some_iff.1 ht
      exact Junction.kindOf? ⟨front, t, first, rest, by simp, hvalue, hfirst⟩

/-- a call ends in a value, and an assignment behind it starts with one -/
theorem classify?_append_call : classify? (Line.read 1 "f(x)".toList).code = some .call ∧
    classify? (Line.read 1 "y[f(1)] += 2;".toList).code = some .assignment ∧
    classify? ((Line.read 1 "f(x)".toList).code ++ (Line.read 1 "y[f(1)] += 2;".toList).code) = none := by
  have hassignment : classify? (Line.read 1 "y[f(1)] += 2;".toList).code = some .assignment := by decide +kernel
  refine ⟨by decide +kernel, hassignment, classify?_append (.value (by decide +kernel)) ?_⟩
  rw [hassignment]
  nofun

/-- a row that is not finished may go on with a call -/
example : classify? (Line.read 1 "return a +".toList).code = some .return_ ∧
    classify? (Line.read 1 "b()".toList).code = some .call ∧
    classify? ((Line.read 1 "return a +".toList).code ++ (Line.read 1 "b()".toList).code) = some .return_ := by
  decide +kernel

end VixStyle.Statement
