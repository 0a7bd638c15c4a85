/-
Rows of tokens, read by their indices.

All that is looked at on a line is read here as it is found in a row of tokens with an index: a token, the one before it,
the last one, and those that an index runs over. To read where there is no token is a failure.

Main statements: no reading of a row fails, and each gives what the row is said to hold: its block parts (`blockPart_append`),
the names it declares (`findings_eq`), the kind of a statement (`classify_eq`), the faults of an `if` on one line
(`ifFaults_eq`) and of the gaps beside operators and commas (`operatorFindings_eq`, `commaFindings_eq`).
-/
import VixStyle.Proofs.Block.Matching
import VixStyle.Proofs.Strict.Lexer
import VixStyle.Rule.Registry

namespace VixStyle.Strict

/-! ## Tokens by index -/

/-- the token at an index, if the row has one -/
def item? (tokens : List Token) (i : Nat) : Except Failure (Option Token) :=
  if i < tokens.length then do
    let t ← item tokens i
    .ok (some t)
  else .ok none

/-- the token before an index, if the row has one -/
def previous (tokens : List Token) (i : Nat) : Except Failure (Option Token) :=
  if 0 < i then do
    let t ← item tokens (i - 1)
    .ok (some t)
  else .ok none

theorem item?_append (front ts : List Token) : item? (front ++ ts) front.length = .ok ts.head? := by
  unfold item?
  cases ts with
  | nil => simp
  | cons t ts =>
    rw [if_pos (by simp), item_append]
    rfl

theorem previous_append (front ts : List Token) : previous (front ++ ts) front.length = .ok front.getLast? := by
  unfold previous
  rcases List.eq_nil_or_concat front with rfl | ⟨front, t, rfl⟩
  · rfl
  · rw [List.concat_eq_append, if_pos (by simp), List.length_append, List.length_singleton, Nat.add_sub_cancel,
      List.append_assoc, List.singleton_append, item_append, ok_bind, List.getLast?_concat]

/-- what is found at each index of a row, from one on -/
def each {α : Type} (tokens : List Token) (f : Nat → Except Failure (List α)) (i : Nat) : Except Failure (List α) :=
  if _h : tokens.length ≤ i then .ok []
  else do
    let here ← f i
    let more ← each tokens f (i + 1)
    .ok (here ++ more)
termination_by tokens.length - i

section Each

variable {α : Type} {tokens : List Token} {f : Nat → Except Failure (List α)} (found : List Token → List Token → List α)
  (hnil : ∀ front, found front [] = [])
  (hcons : ∀ front t rest, tokens = front ++ t :: rest →
    ∃ here, f front.length = .ok here ∧ found front (t :: rest) = here ++ found (front ++ [t]) rest)

include hnil hcons

theorem each_append {front ts : List Token} (h : tokens = front ++ ts) :
    each tokens f front.length = .ok (found front ts) := by
  induction ts generalizing front with
  | nil =>
    rw [each, dif_pos (by rw [h, List.append_nil]), hnil]
  | cons t ts ih =>
    obtain ⟨here, hhere, hfound⟩ := hcons front t ts h
    have hnext : each tokens f (front ++ [t]).length = .ok (found (front ++ [t]) ts) :=
      ih (by rw [h, List.append_assoc, List.singleton_append])
    rw [List.length_append, List.length_singleton] at hnext
    rw [each, dif_neg (by rw [h]; simp), hhere, ok_bind, hnext, ok_bind, hfound]

/-- **Going over a row** with an index is going over its tokens. -/
theorem each_eq : each tokens f 0 = .ok (found [] tokens) := each_append found hnil hcons (List.nil_append tokens).symm

end Each

/-! ## Blocks -/

/-- the part of the token at an index -/
def blockPart (tokens : List Token) (i : Nat) : Except Failure BlockPart := do
  let t ← item tokens i
  match t.lexeme with
  | .keyword .end_ => .ok .closes
  | .keyword word =>
    if !word.opensBlock then .ok .inert
    else do
      let before ← previous tokens i
      if word = .if_ ∧ before.any (fun b => b.lexeme = .keyword .else_) then .ok .inert
      else if word.isDeclarable then do
        let final ← last tokens
        .ok (if final.lexeme = .punctuation ';' then .inert else .opens word)
      else .ok (.opens word)
  | _ => .ok .inert

theorem blockPart_keyword {t : Token} {word : Keyword} (h : t.lexeme = .keyword word) (hend : word ≠ .end_)
    (before : Option Token) (declares : Bool) : VixStyle.blockPart before declares t =
      if !word.opensBlock then .inert
      else if word = .if_ ∧ before.any (fun b => b.lexeme = .keyword .else_) then .inert
      else if word.isDeclarable ∧ declares then .inert
      else .opens word := by
  unfold VixStyle.blockPart
  split
  · rename_i hlexeme
    rw [h] at hlexeme
    exact absurd (Lexeme.keyword.inj hlexeme) hend
  · rename_i other _ hlexeme
    rw [h] at hlexeme
    obtain rfl := Lexeme.keyword.inj hlexeme
    rfl
  · rename_i hother
    exact absurd h (hother word)

/-- **The part of a token** is settled by the tokens before it and the last one. -/
theorem blockPart_append (front : List Token) (t : Token) (rest : List Token) :
    blockPart (front ++ t :: rest) front.length =
      .ok (VixStyle.blockPart front.getLast? (endsWithSemicolon (front ++ t :: rest)) t) := by
  have hne : front ++ t :: rest ≠ [] := by simp
  have hsemicolon : endsWithSemicolon (front ++ t :: rest) =
      decide (((front ++ t :: rest).getLast hne).lexeme = .punctuation ';') := by
    rw [endsWithSemicolon, List.getLast?_eq_some_getLast hne]
    rfl
  unfold blockPart
  rw [item_append, ok_bind]
  split
  · rename_i hlexeme
    rw [VixStyle.blockPart, hlexeme]
  · rename_i word hend hlexeme
    rw [blockPart_keyword hlexeme hend, previous_append]
    split
    · rfl
    · rw [ok_bind]
      split
      · rfl
      · cases word.isDeclarable with
        | true =>
          rw [if_pos rfl, last_of_ne_nil hne, ok_bind, hsemicolon]
          simp
        | false => simp
  · rename_i hend hother
    unfold VixStyle.blockPart
    split
    · rename_i hlexeme
      exact absurd hlexeme hend
    · rename_i word _ hlexeme
      exact absurd hlexeme (hother word)
    · rfl

/-- the index of the `end` that brings the nesting to zero, from an index on -/
def matchingEnd (tokens : List Token) (depth : Int) (i : Nat) : Except Failure (Option Nat) :=
  if _h : tokens.length ≤ i then .ok none
  else do
    let part ← blockPart tokens i
    match part with
    | .opens _ => matchingEnd tokens (depth + 1) (i + 1)
    | .closes => if depth - 1 = 0 then .ok (some i) else matchingEnd tokens (depth - 1) (i + 1)
    | .inert => matchingEnd tokens depth (i + 1)
termination_by tokens.length - i

/-- the parts of the tokens behind others -/
def partsBehind (front ts : List Token) : List BlockPart :=
  blockPartsFrom front.getLast? (endsWithSemicolon (front ++ ts)) ts

theorem partsBehind_cons (front : List Token) (t : Token) (rest : List Token) : partsBehind front (t :: rest) =
    VixStyle.blockPart front.getLast? (endsWithSemicolon (front ++ t :: rest)) t :: partsBehind (front ++ [t]) rest := by
  unfold partsBehind
  rw [blockPartsFrom, List.getLast?_concat, List.append_assoc, List.singleton_append]

theorem partsBehind_nil (tokens : List Token) : partsBehind [] tokens = blockParts tokens := rfl

theorem map_index_succ (n : Nat) (index : Option Nat) : (index.map (· + 1)).map (n + ·) = index.map (n + 1 + ·) := by
  rw [Option.map_map]
  congr 1
  funext i
  simp only [Function.comp_apply]
  omega

theorem matchingEnd_append (depth : Int) (front ts : List Token) :
    matchingEnd (front ++ ts) depth front.length =
      .ok ((BlockPart.closingOffset? depth (partsBehind front ts)).map (front.length + ·)) := by
  induction ts generalizing front depth with
  | nil =>
    rw [matchingEnd, dif_pos (by simp)]
    rfl
  | cons t ts ih =>
    have hnext : ∀ depth : Int, matchingEnd (front ++ t :: ts) depth (front.length + 1) =
        .ok (((BlockPart.closingOffset? depth (partsBehind (front ++ [t]) ts)).map (· + 1)).map (front.length + ·)) := by
      intro depth
      have hnext := ih depth (front ++ [t])
      rw [List.append_assoc, List.singleton_append, List.length_append, List.length_singleton] at hnext
      rw [hnext, map_index_succ]
    rw [matchingEnd, dif_neg (by simp), blockPart_append, ok_bind, partsBehind_cons]
    generalize VixStyle.blockPart front.getLast? (endsWithSemicolon (front ++ t :: ts)) t = part
    cases part with
    | opens word => exact hnext (depth + 1)
    | inert => exact hnext depth
    | closes =>
      rw [BlockPart.closingOffset?]
      by_cases hdepth : depth = 1
      · rw [if_pos hdepth, if_pos (by omega)]
        rfl
      · rw [if_neg hdepth, if_neg (by omega)]
        exact hnext (depth - 1)

/-! ## Declarations -/

section Declarations

open Finding Text

/-- the convention that a name follows; only a name with cased letters has a first one -/
def style (name : List Char) : Except Failure NameStyle :=
  if (Name.casedLetters name).all isLower then .ok .lowerSnake
  else if (Name.casedLetters name).all isUpper then .ok .upperSnake
  else if '_' ∈ Name.body name then .ok .mixed
  else do
    let first ← item (Name.casedLetters name) 0
    .ok (if isLower first then .camel else .pascal)

theorem style_eq (name : List Char) : style name = .ok (Name.style name) := by
  unfold style Name.style
  cases hletters : Name.casedLetters name with
  | nil => rfl
  | cons first rest =>
    split
    · rfl
    · split
      · rfl
      · split
        · rfl
        · have hfirst : item (first :: rest) 0 = .ok first := rfl
          rw [hfirst, ok_bind]
          rfl

/-- the declaration of a name at its token, with the convention that it follows -/
def declared (kind : DeclarationKind) (keyword : Keyword) (t : Token) (name : List Char) : Except Failure Finding := do
  let _ ← style name
  .ok (.declared (declaration kind keyword (t, name)))

theorem declared_eq (kind : DeclarationKind) (keyword : Keyword) (t : Token) (name : List Char) :
    declared kind keyword t name = .ok (.declared (declaration kind keyword (t, name))) := by
  rw [declared, style_eq, ok_bind]

/-- the declarations of the further names of a list, from the index of the comma before them on -/
def listed (tokens : List Token) (kind : DeclarationKind) (keyword : Keyword) (i : Nat) : Except Failure (List Finding) :=
  if _h : i + 1 < tokens.length then do
    let comma ← item tokens i
    let follower ← item tokens (i + 1)
    match comma.lexeme, follower.lexeme with
    | .punctuation ',', .identifier name => do
      let here ← declared kind keyword follower name
      let more ← listed tokens kind keyword (i + 2)
      .ok (here :: more)
    | _, _ => .ok []
  else .ok []
termination_by tokens.length - i

/-- what a keyword yields, given the index of the name behind it -/
def named (tokens : List Token) (kind : DeclarationKind) (keyword : Keyword) (t : Token) (i : Nat) :
    Except Failure (List Finding) := do
  let name ← item? tokens i
  match name with
  | none => .ok [.nameless ⟨keyword, kind, t.line, t.column, none⟩]
  | some first =>
    match first.lexeme with
    | .identifier name => do
      let here ← declared kind keyword first name
      let more ← if kind = .func then .ok [] else listed tokens kind keyword (i + 1)
      .ok (here :: more)
    | .punctuation '(' => .ok (if kind = .func then [] else [.nameless ⟨keyword, kind, t.line, t.column, some first.text⟩])
    | _ => .ok [.nameless ⟨keyword, kind, t.line, t.column, some first.text⟩]

/-- a second keyword of a `static const` or a `var mut` -/
def isModifier (kind : DeclarationKind) (t : Token) : Bool :=
  match kind, t.lexeme with
  | .static, .keyword .var_ | .static, .keyword .const_ | .static, .keyword .let_ => true
  | .var, .keyword .mut_ => true
  | _, _ => false

/-- what the token at an index yields -/
def findingsAt (tokens : List Token) (i : Nat) : Except Failure (List Finding) := do
  let t ← item tokens i
  match t.lexeme with
  | .keyword keyword =>
    match keyword.declares? with
    | none => .ok []
    | some kind => do
      let before ← previous tokens i
      if before.any (fun b => b.lexeme = .keyword .static_) ∧ kind ≠ .func then .ok []
      else do
        let next ← item? tokens (i + 1)
        if kind = .static ∧ next.any (fun a => a.lexeme = .keyword .func_) then .ok []
        else named tokens kind keyword t (if next.any (isModifier kind) then i + 2 else i + 1)
  | _ => .ok []

/-- what a row of tokens yields -/
def findings (tokens : List Token) : Except Failure (List Finding) := each tokens (findingsAt tokens) 0

theorem listed_append (kind : DeclarationKind) (keyword : Keyword) (front ts : List Token) :
    listed (front ++ ts) kind keyword front.length =
      .ok ((listedNames ts).map fun name => .declared (declaration kind keyword name)) := by
  induction ts using listedNames.induct generalizing front with
  | case1 comma item rest name hitem hcomma ih =>
    have hnext := ih (front ++ [comma, item])
    rw [List.append_assoc, List.length_append] at hnext
    rw [listed, dif_pos (by simp), item_append, ok_bind, item_append_succ, ok_bind, listedNames]
    simp only [hcomma, hitem]
    rw [declared_eq, ok_bind]
    exact congrArg (· >>= fun more => Except.ok (_ :: more)) hnext
  | case2 comma item rest hnot =>
    have hnone : listedNames (comma :: item :: rest) = [] := by
      rw [listedNames]
      split
      · exact (hnot _ ‹_› ‹_›).elim
      · rfl
    rw [listed, dif_pos (by simp), item_append, ok_bind, item_append_succ, ok_bind, hnone]
    split
    · exact (hnot _ ‹_› ‹_›).elim
    · rfl
  | case3 ts hshort =>
    have hnone : listedNames ts = [] := by
      unfold listedNames
      split
      · exact (hshort _ _ _ rfl).elim
      · rfl
    have hlength : ts.length < 2 := by
      match ts, hshort with
      | [], _ => exact Nat.zero_lt_two
      | [_], _ => exact Nat.one_lt_two
      | a :: b :: rest, hshort => exact (hshort a b rest rfl).elim
    rw [listed, dif_neg (by rw [List.length_append]; omega), hnone]
    rfl

theorem named_append (kind : DeclarationKind) (keyword : Keyword) (t : Token) (front ts : List Token) :
    named (front ++ ts) kind keyword t front.length = .ok (Finding.named kind keyword t ts) := by
  unfold named
  rw [item?_append, ok_bind]
  cases ts with
  | nil => rfl
  | cons first rest =>
    dsimp only [List.head?_cons]
    split
    · rename_i name hname
      have hmore := listed_append kind keyword (front ++ [first]) rest
      rw [List.append_assoc, List.singleton_append, List.length_append, List.length_singleton] at hmore
      rw [declared_eq, ok_bind, hmore]
      simp only [Finding.named, hname]
      split <;> rfl
    · rename_i hparen
      simp only [Finding.named, hparen]
    · rename_i hname hparen
      rw [Finding.named]
      split
      · exact absurd ‹_› (hname _)
      · exact absurd ‹_› hparen
      · rfl

theorem afterModifier_eq (kind : DeclarationKind) (ts : List Token) :
    afterModifier kind ts = if ts.head?.any (isModifier kind) then ts.tail else ts := by
  cases ts with
  | nil => rfl
  | cons t ts =>
    rw [List.head?_cons, Option.any_some]
    cases h : isModifier kind t <;> unfold isModifier at h <;> split at h <;> simp_all [afterModifier]

/-- the name stands behind the keyword and its modifier -/
theorem named_afterModifier (kind : DeclarationKind) (keyword : Keyword) (front : List Token) (t : Token)
    (rest : List Token) :
    named (front ++ t :: rest) kind keyword t (if rest.head?.any (isModifier kind) then front.length + 2 else front.length + 1) =
      .ok (Finding.named kind keyword t (afterModifier kind rest)) := by
  rw [afterModifier_eq]
  split
  · obtain ⟨second, hhead, -⟩ := (Option.any_eq_true _ _).1 ‹_›
    obtain ⟨more, rfl⟩ := List.head?_eq_some_iff.1 hhead
    have hnamed := named_append kind keyword t (front ++ [t, second]) more
    rw [List.append_assoc, List.length_append] at hnamed
    exact hnamed
  · have hnamed := named_append kind keyword t (front ++ [t]) rest
    rw [List.append_assoc, List.length_append] at hnamed
    exact hnamed

theorem findingsAt_append (front : List Token) (t : Token) (rest : List Token) :
    findingsAt (front ++ t :: rest) front.length = .ok (VixStyle.findingsAt front.getLast? t rest) := by
  have hbehind : front ++ t :: rest = (front ++ [t]) ++ rest := by simp
  have hnext : item? (front ++ t :: rest) (front.length + 1) = .ok rest.head? := by
    have hnext := item?_append (front ++ [t]) rest
    rwa [← hbehind, List.length_append, List.length_singleton] at hnext
  unfold findingsAt VixStyle.findingsAt
  rw [item_append, ok_bind]
  cases t.lexeme with
  | keyword keyword =>
    dsimp only
    cases keyword.declares? with
    | none => rfl
    | some kind =>
      dsimp only
      rw [previous_append, ok_bind]
      split
      · rfl
      · rw [hnext, ok_bind]
        split
        · rfl
        · exact named_afterModifier kind keyword front t rest
  | _ => rfl

/-- **Going through the declarations of a row never fails.** -/
theorem findings_eq (tokens : List Token) : findings tokens = .ok (findingsFrom none tokens) := by
  refine each_eq (fun front ts => findingsFrom front.getLast? ts) (fun _ => rfl) ?_
  rintro front t rest rfl
  refine ⟨_, findingsAt_append front t rest, ?_⟩
  rw [findingsFrom, List.getLast?_concat]

end Declarations

/-! ## Statements -/

section Statements

open Statement

/-- whether a row can be assigned to -/
def isTarget (tokens : List Token) : Except Failure Bool :=
  if tokens.isEmpty then .ok false
  else do
    let base ← item tokens 0
    .ok (isBase base && isTargetTail 0 (tokens.drop 1) && isExpression tokens)

/-- whether a row that is not empty is a call -/
def isCall (tokens : List Token) : Except Failure Bool := do
  let base ← item tokens 0
  let final ← last tokens
  .ok (isBase base && isMark ')' final && isCallChain 0 false tokens)

/-- whether a row that holds no semicolon and opens no block is an assignment or a call -/
def assignmentOrCall (tokens : List Token) : Except Failure (Option StatementKind) :=
  match assignment? tokens with
  | some index => do
    let target ← isTarget (tokens.take index)
    .ok (if target && isExpression (tokens.drop (index + 1)) then some .assignment else none)
  | none =>
    if isExpression tokens then do
      let call ← isCall tokens
      .ok (if call then some .call else none)
    else .ok none

/-- the kind of a row that holds no semicolon and opens no block -/
def kindOf (tokens : List Token) : Except Failure (Option StatementKind) :=
  if tokens.isEmpty then .ok none
  else do
    let first ← item tokens 0
    match first.lexeme with
    | .keyword .break_ => .ok (if tokens.length = 1 then some .break_ else none)
    | .keyword .continue_ => .ok (if tokens.length = 1 then some .continue_ else none)
    | .keyword .return_ =>
      .ok (if (tokens.drop 1).isEmpty || isExpression (tokens.drop 1) then some .return_ else none)
    | _ => assignmentOrCall tokens

/-- a row without the semicolon at its end -/
def withoutSemicolon (tokens : List Token) : Except Failure (List Token) :=
  if tokens.isEmpty then .ok tokens
  else do
    let final ← last tokens
    .ok (if final.lexeme = .punctuation ';' then tokens.dropLast else tokens)

/-- the kind of a simple statement, or none for any other row of tokens -/
def classify (tokens : List Token) : Except Failure (Option StatementKind) := do
  let row ← withoutSemicolon tokens
  if row.any (isMark ';') || row.any opensBlockWord then .ok none else kindOf row

theorem isTarget_eq (tokens : List Token) : isTarget tokens = .ok (Statement.isTarget tokens) := by
  cases tokens with
  | nil => rfl
  | cons base rest => rfl

theorem isCall_eq {tokens : List Token} (h : tokens ≠ []) : isCall tokens = .ok (Statement.isCall tokens) := by
  obtain ⟨base, rest, rfl⟩ := List.exists_cons_of_ne_nil h
  have hbase : item (base :: rest) 0 = .ok base := rfl
  rw [isCall, hbase, ok_bind, last_of_ne_nil h, ok_bind, Statement.isCall, List.getLast?_eq_some_getLast h]
  rfl

theorem assignmentOrCall_eq {tokens : List Token} (h : tokens ≠ []) : assignmentOrCall tokens =
    .ok (match assignment? tokens with
      | some index =>
        if Statement.isTarget (tokens.take index) && isExpression (tokens.drop (index + 1)) then some .assignment else none
      | none => if isExpression tokens && Statement.isCall tokens then some .call else none) := by
  unfold assignmentOrCall
  cases assignment? tokens with
  | some index =>
    dsimp only
    rw [isTarget_eq, ok_bind]
  | none =>
    dsimp only
    rw [isCall_eq h]
    cases isExpression tokens <;> rfl

theorem kindOf_eq (tokens : List Token) : kindOf tokens = .ok (kindOf? tokens) := by
  cases tokens with
  | nil => rfl
  | cons first rest =>
    have hfirst : item (first :: rest) 0 = .ok first := rfl
    have halone : (first :: rest).length = 1 ↔ rest.isEmpty = true := by simp
    unfold kindOf
    rw [if_neg (by simp), hfirst, ok_bind, assignmentOrCall_eq (List.cons_ne_nil _ _)]
    simp only [kindOf?, halone, List.drop_one, List.tail_cons]
    split <;> split <;> simp_all

theorem withoutSemicolon_eq (tokens : List Token) :
    withoutSemicolon tokens = .ok (Statement.withoutSemicolon tokens) := by
  by_cases hne : tokens = []
  · subst hne
    rfl
  · rw [withoutSemicolon, if_neg (by simpa using hne), last_of_ne_nil hne, ok_bind, Statement.withoutSemicolon,
      endsWithSemicolon, List.getLast?_eq_some_getLast hne]
    simp

/-- **Classifying a statement never fails.** -/
theorem classify_eq (tokens : List Token) : classify tokens = .ok (classify? tokens) := by
  unfold classify classify?
  rw [withoutSemicolon_eq, ok_bind, kindOf_eq]
  dsimp only
  split <;> rfl

end Statements

/-! ## An `if` on one line -/

section OneLineIf

open Rule.OneLineIf

/-- the index of the first `then` from an index on, before another -/
def findThen (tokens : List Token) (stop i : Nat) : Except Failure (Option Nat) :=
  if _h : stop ≤ i then .ok none
  else do
    let t ← item tokens i
    if isThen t then .ok (some i) else findThen tokens stop (i + 1)
termination_by stop - i

/-- what is wrong with a body between `then` and `end` -/
def bodyFault (options : Options) (body : List Token) : Except Failure (Option Fault) :=
  if body.isEmpty then .ok (some .emptyBody)
  else if body.any isBranchWord then .ok (some .branch)
  else do
    let kind ← classify body
    match kind with
    | none => .ok (some .notSimple)
    | some kind => .ok (if options.oneLineStatements.contains kind then none else some (.notPermitted kind))

/-- what is wrong with the `if` at an index -/
def ifFault (options : Options) (tokens : List Token) (i : Nat) : Except Failure (Option Fault) := do
  let stop ← matchingEnd tokens 0 i
  let found ← findThen tokens (stop.getD tokens.length) (i + 1)
  match stop, found with
  | none, none => .ok none
  | none, some j => .ok (if j + 1 < tokens.length then some .bodyOnThenLine else none)
  | some _, none => .ok (some .noThen)
  | some stop, some j => bodyFault options ((tokens.take stop).drop (j + 1))

/-- the token at an index with what is wrong with it, if it opens an `if` block -/
def ifFaultsAt (options : Options) (tokens : List Token) (i : Nat) : Except Failure (List (Token × Fault)) := do
  let t ← item tokens i
  let part ← blockPart tokens i
  if part = .opens .if_ then do
    let fault ← ifFault options tokens i
    .ok (fault.map fun fault => (t, fault)).toList
  else .ok []

/-- the tokens of a row that open an `if` block, each with what is wrong with it -/
def ifFaults (options : Options) (tokens : List Token) : Except Failure (List (Token × Fault)) :=
  each tokens (ifFaultsAt options tokens) 0

/-- the findings on a line -/
def ifFindings (ruleId : String) (severity : Severity) (options : Options) (l : Line) : Except Failure (List Diagnostic) := do
  let faults ← ifFaults options l.code
  .ok (faults.map fun (t, fault) =>
    { Problem.singleVsMultilineIf.found t.line t.column fault.message Problem.singleVsMultilineIf.hint with
      ruleId, severity })

theorem findThen_append (front ts : List Token) {n : Nat} (hn : n ≤ ts.length) :
    findThen (front ++ ts) (front.length + n) front.length =
      .ok (((ts.take n).findIdx? isThen).map (front.length + ·)) := by
  induction ts generalizing front n with
  | nil =>
    obtain rfl := Nat.le_zero.1 hn
    rw [findThen, dif_pos (by simp)]
    rfl
  | cons t ts ih =>
    cases n with
    | zero =>
      rw [findThen, dif_pos (by simp)]
      rfl
    | succ n =>
      have hnext := ih (front ++ [t]) (Nat.le_of_succ_le_succ hn)
      rw [List.append_assoc, List.singleton_append, List.length_append, List.length_singleton] at hnext
      rw [findThen, dif_neg (by omega), item_append, ok_bind, List.take_succ_cons, List.findIdx?_cons]
      split
      · rfl
      · rw [map_index_succ, ← hnext, Nat.add_right_comm, Nat.add_assoc]

theorem afterThen?_eq (ts : List Token) : afterThen? ts = (ts.findIdx? isThen).map fun i => ts.drop (i + 1) := by
  unfold afterThen?
  induction ts with
  | nil => rfl
  | cons t ts ih =>
    rw [List.dropWhile_cons, List.findIdx?_cons]
    cases isThen t with
    | true => rfl
    | false =>
      refine ih.trans ?_
      rw [if_neg (by simp), Option.map_map]
      rfl

theorem bodyFault_eq (options : Options) (body : List Token) : bodyFault options body = .ok (bodyFault? options body) := by
  unfold bodyFault bodyFault?
  rw [classify_eq, ok_bind]
  split
  · rfl
  · split
    · rfl
    · cases Statement.classify? body <;> rfl

theorem length_partsBehind (front ts : List Token) : (partsBehind front ts).length = ts.length := by
  induction ts generalizing front with
  | nil => rfl
  | cons t ts ih => rw [partsBehind_cons, List.length_cons, List.length_cons, ih]

/-- **The fault of an `if`** is settled by the tokens behind it. -/
theorem ifFault_append (options : Options) (front : List Token) (t : Token) (rest : List Token)
    (hpart : VixStyle.blockPart front.getLast? (endsWithSemicolon (front ++ t :: rest)) t = .opens .if_) :
    ifFault options (front ++ t :: rest) front.length =
      .ok (fault? options rest (BlockPart.closingOffset? 1 (partsBehind (front ++ [t]) rest))) := by
  have hbehind : front ++ t :: rest = (front ++ [t]) ++ rest := by simp
  have hlength : (front ++ [t]).length = front.length + 1 := by simp
  have hstop := matchingEnd_append 0 front (t :: rest)
  rw [partsBehind_cons, hpart, BlockPart.closingOffset?, map_index_succ, Int.zero_add] at hstop
  have hfound : ∀ n ≤ rest.length, findThen (front ++ t :: rest) (front.length + 1 + n) (front.length + 1) =
      .ok (((rest.take n).findIdx? isThen).map (front.length + 1 + ·)) := by
    intro n hn
    rw [hbehind, ← hlength]
    exact findThen_append (front ++ [t]) rest hn
  rw [ifFault, hstop, ok_bind]
  cases hclose : BlockPart.closingOffset? 1 (partsBehind (front ++ [t]) rest) with
  | none =>
    have hend : (front ++ t :: rest).length = front.length + 1 + rest.length := by
      rw [hbehind, List.length_append, hlength]
    rw [Option.map_none, Option.getD_none, hend, hfound _ (Nat.le_refl _), ok_bind, List.take_length,
      fault?, afterThen?_eq]
    cases rest.findIdx? isThen with
    | none => rfl
    | some j =>
      have hbody : front.length + 1 + j + 1 < front.length + 1 + rest.length ↔ (!(rest.drop (j + 1)).isEmpty) = true := by
        simp
        omega
      simp only [Option.map_some, Option.any_some, ← hbody]
  | some n =>
    have hn : n < rest.length := by
      rw [← length_partsBehind (front ++ [t]) rest]
      exact BlockPart.closingOffset?_lt hclose
    rw [Option.map_some, Option.getD_some, hfound n hn.le, ok_bind, fault?, afterThen?_eq]
    cases (rest.take n).findIdx? isThen with
    | none => rfl
    | some j =>
      have hbody : ((front ++ t :: rest).take (front.length + 1 + n)).drop (front.length + 1 + j + 1) =
          (rest.take n).drop (j + 1) := by
        rw [hbehind, ← hlength, List.take_length_add_append, Nat.add_assoc, List.drop_length_add_append]
      dsimp only [Option.map_some]
      rw [hbody, bodyFault_eq]

/-- **Looking at each `if` of a row never fails.** -/
theorem ifFaults_eq (options : Options) (tokens : List Token) :
    ifFaults options tokens = .ok (faults options tokens (blockParts tokens)) := by
  rw [← partsBehind_nil]
  refine each_eq (fun front ts => faults options ts (partsBehind front ts)) (fun _ => rfl) ?_
  rintro front t rest rfl
  rw [ifFaultsAt, item_append, ok_bind, blockPart_append, ok_bind, partsBehind_cons, faults]
  split
  · rename_i hpart
    refine ⟨_, ?_, rfl⟩
    rw [ifFault_append options front t rest hpart, ok_bind]
  · exact ⟨_, rfl, rfl⟩

theorem ifFindings_eq (ruleId : String) (severity : Severity) (options : Options) (l : Line) :
    ifFindings ruleId severity options l = .ok (Rule.OneLineIf.findings ruleId severity options l) := by
  rw [ifFindings, ifFaults_eq, ok_bind]
  rfl

end OneLineIf

/-! ## Gaps -/

section Gaps

open Rule.Spacing

variable (ruleId : String) (severity : Severity)

/-- the finding on the token at an index, if it is an operator -/
def operatorFindingsAt (line : List Char) (tokens : List Token) (i : Nat) : Except Failure (List Diagnostic) := do
  let t ← item tokens i
  let before ← previous tokens i
  .ok ((operatorFault? line before t).map (misspaced .operatorSpacing ruleId severity t)).toList

/-- the findings on the operators of a line -/
def operatorFindings (l : Line) : Except Failure (List Diagnostic) :=
  each l.code (operatorFindingsAt ruleId severity l.text l.code) 0

/-- whether a text starts with a closing bracket -/
def closesBracket (after : List Char) : Except Failure Bool :=
  if after.isEmpty then .ok false
  else do
    let c ← item after 0
    .ok (isClosingMark c)

/-- the faults on the two sides of a comma -/
def commaFaults (line : List Char) (t : Token) : Except Failure (List String) := do
  let before := match gapBefore? line t with
    | some (_ :: _) => ["unexpected space before \",\""]
    | _ => []
  let closes ← closesBracket (textAfter line t)
  let after :=
    if closes then []
    else match (gapAfter? line t).bind gapFault? with
      | none => []
      | some .missing => ["missing space after \",\""]
      | some .extra => ["expected exactly one space after \",\""]
  .ok (before ++ after)

/-- the findings on the token at an index, if it is a comma -/
def commaFindingsAt (line : List Char) (tokens : List Token) (i : Nat) : Except Failure (List Diagnostic) := do
  let t ← item tokens i
  if t.lexeme = .punctuation ',' then do
    let faults ← commaFaults line t
    .ok (faults.map (misspaced .commaSpacing ruleId severity t))
  else .ok []

/-- the findings on the commas of a line -/
def commaFindings (l : Line) : Except Failure (List Diagnostic) :=
  each l.code (commaFindingsAt ruleId severity l.text l.code) 0

theorem operatorFindings_eq (l : Line) :
    operatorFindings ruleId severity l = .ok (Rule.Spacing.operatorFindings ruleId severity l) := by
  refine each_eq (fun front ts => (withPrevious front.getLast? ts).filterMap fun p =>
    (operatorFault? l.text p.1 p.2).map (misspaced .operatorSpacing ruleId severity p.2)) (fun _ => rfl) ?_
  intro front t rest h
  rw [h, operatorFindingsAt, item_append, ok_bind, previous_append, ok_bind]
  refine ⟨_, rfl, ?_⟩
  rw [withPrevious, List.filterMap_cons, List.getLast?_concat]
  cases operatorFault? l.text front.getLast? t <;> rfl

theorem closesBracket_eq (after : List Char) : closesBracket after = .ok (after.head?.any isClosingMark) := by
  cases after <;> rfl

theorem commaFaults_eq (line : List Char) (t : Token) : commaFaults line t = .ok (Rule.Spacing.commaFaults line t) := by
  unfold commaFaults
  rw [closesBracket_eq, ok_bind]
  rfl

theorem commaFindings_eq (l : Line) :
    commaFindings ruleId severity l = .ok (Rule.Spacing.commaFindings ruleId severity l) := by
  refine each_eq (fun _ ts => (ts.filter fun t => t.lexeme = .punctuation ',').flatMap fun t =>
    (Rule.Spacing.commaFaults l.text t).map (misspaced .commaSpacing ruleId severity t)) (fun _ => rfl) ?_
  intro front t rest h
  rw [h, commaFindingsAt, item_append, ok_bind, commaFaults_eq, ok_bind, List.filter_cons]
  by_cases ht : t.lexeme = .punctuation ','
  · rw [if_pos ht, if_pos (decide_eq_true ht)]
    exact ⟨_, rfl, rfl⟩
  · rw [if_neg ht, if_neg (by simpa using ht)]
    exact ⟨_, rfl, rfl⟩

end Gaps

end VixStyle.Strict
