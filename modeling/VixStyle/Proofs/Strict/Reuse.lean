/-
A lexer with all that it keeps in memory, run again and again.

`Lexer` has a cursor, the start of the token that it reads, and a list of tokens that it fills while other parts of the
program may still hold the lists of earlier runs. A run that ends at an unclosed string literal leaves all of this in the
middle of a token. Main statement, `run_again`: after any number of runs the next one ends, has the outcome of a lexer that
was never used, leaves the line alone and the cursor at its end, and changes nothing that was given out before.

- `loop_of_rounds`: the rounds of a run do what the reading of `Strict.lex` does, whatever was left in memory.
- `run_refines`: from any state at all, a run does what `LineLexer.run` does, and one list is new in memory.
-/
import VixStyle.Proofs.Strict.Lexer

namespace VixStyle.Strict

open Text

/-- a lexer in memory; `lists` are all lists of tokens that it ever made, `current` says which of them it fills -/
structure Lexer where
  text : List Char
  line : Int
  position : Nat
  start : Nat
  lists : List (List Token)
  current : Nat
  deriving DecidableEq, Repr

/-- what a run gives out: where its list of tokens is in memory, or the fault with a copy of them -/
abbrev Handed : Type := Except UnclosedString Nat

namespace Lexer

/-! ## The lexer -/

/-- a lexer that was never used -/
def fresh (line : Int) (text : List Char) : Lexer := ⟨text, line, 0, 0, [[]], 0⟩

def isAtEnd (l : Lexer) : Bool := l.text.length ≤ l.position

/-- the token that ends at the cursor -/
def token (make : List Char → Lexeme) (l : Lexer) : Token :=
  ⟨make ((l.text.take l.position).drop l.start), l.line, l.start + 1⟩

/-- put the token that ends at the cursor at the end of the current list -/
def push (make : List Char → Lexeme) (l : Lexer) : Except Failure Lexer := do
  let tokens ← item l.lists l.current
  .ok { l with lists := l.lists.set l.current (tokens ++ [l.token make]) }

/-- the rounds of a run, each of which reads one token -/
def loop : Nat → Lexer → Except Failure (Option UnclosedString × Lexer)
  | 0, _ => .error .endless
  | more + 1, l => do
    let position ← skip isBlank l.text l.position
    if l.text.length ≤ position then .ok (none, { l with position := position })
    else do
      let found ← lexeme l.text position
      match found with
      | none => do
        let l ← push .stringLiteral { l with position := l.text.length, start := position }
        let tokens ← item l.lists l.current
        .ok (some ⟨l.line, l.start + 1, tokens⟩, l)
      | some (make, stop) => do
        let l ← push make { l with position := stop, start := position }
        loop more l

/-- read the line from its start into a new list -/
def run (l : Lexer) : Except Failure (Handed × Lexer) := do
  let (fault, l) ← loop (l.text.length + 1)
    { l with position := 0, lists := l.lists ++ [[]], current := l.lists.length }
  match fault with
  | none => .ok (.ok l.current, l)
  | some fault => .ok (.error fault, l)

/-- some runs, one after the other -/
def runs : Nat → Lexer → Except Failure (List Handed × Lexer)
  | 0, l => .ok ([], l)
  | n + 1, l => do
    let (out, l) ← run l
    let (outs, l) ← runs n l
    .ok (out :: outs, l)

/-- the outcome that a run gave out, as it can be read in memory -/
def read (l : Lexer) : Handed → Except Failure (Except UnclosedString (List Token))
  | .ok i => do
    let tokens ← item l.lists i
    .ok (.ok tokens)
  | .error fault => .ok (.error fault)

/-- the line and the cursor alone -/
def lineLexer (l : Lexer) : LineLexer := ⟨l.text, l.line, l.position⟩

end Lexer

/-! ## The cursor stays on the line -/

theorem item_of_getElem? {α : Type} {xs : List α} {i : Nat} {x : α} (h : xs[i]? = some x) : item xs i = .ok x := by
  rw [item, h]

theorem skip_le (p : Char → Bool) {text : List Char} {cursor : Nat} (h : cursor ≤ text.length) :
    ∃ stop, skip p text cursor = .ok stop ∧ stop ≤ text.length := by
  have hskip := skip_append (text.take cursor) p (text.drop cursor)
  rw [List.take_append_drop, List.length_take_of_le h] at hskip
  refine ⟨_, hskip, ?_⟩
  have hshort := (List.takeWhile_prefix (l := text.drop cursor) p).length_le
  simp only [List.length_append, List.length_take, List.length_drop] at hshort ⊢
  omega

theorem lexeme_le {text : List Char} {cursor : Nat} (h : cursor < text.length) :
    ∃ found, lexeme text cursor = .ok found ∧ ∀ make stop, found = some (make, stop) → stop ≤ text.length := by
  have hfound := lexeme_append (text.take cursor) text[cursor] (text.drop (cursor + 1))
  rw [← List.drop_eq_getElem_cons h, List.take_append_drop, List.length_take_of_le h.le] at hfound
  cases hnext : next? ((text.take cursor).all isBlank) text[cursor] (text.drop (cursor + 1)) with
  | none =>
    rw [hnext] at hfound
    exact ⟨none, hfound, by simp⟩
  | some found =>
    obtain ⟨l, after⟩ := found
    rw [hnext] at hfound
    obtain ⟨make, hlexeme, -⟩ := hfound
    have hwhole : text.take cursor ++ l.text ++ after = text := by
      rw [List.append_assoc, next?_append hnext, ← List.drop_eq_getElem_cons h, List.take_append_drop]
    refine ⟨_, hlexeme, ?_⟩
    rintro make' stop ⟨⟩
    have hlength := congrArg List.length hwhole
    rw [List.length_append] at hlength
    omega

/-! ## One run -/

namespace Lexer

/-- the tokens of an outcome -/
def tokensOf : Except UnclosedString (List Token) → List Token
  | .ok tokens => tokens
  | .error fault => fault.tokens

/-- the fault of an outcome -/
def faultOf : Except UnclosedString (List Token) → Option UnclosedString
  | .ok _ => none
  | .error fault => some fault

/-- what a run leaves in memory: the tokens of its outcome in the current list, and all else as it was -/
structure Done (l : Lexer) (out : Except UnclosedString (List Token)) (l' : Lexer) : Prop where
  text : l'.text = l.text
  line : l'.line = l.line
  position : l'.position = l.text.length
  lists : l'.lists = l.lists.set l.current (tokensOf out)
  current : l'.current = l.current

theorem push_eq {l : Lexer} {tokens : List Token} (h : l.lists[l.current]? = some tokens)
    (make : List Char → Lexeme) (start stop : Nat) :
    push make { l with position := stop, start := start } =
      .ok { l with
        position := stop
        start := start
        lists := l.lists.set l.current (tokens ++ [⟨make ((l.text.take stop).drop start), l.line, start + 1⟩]) } := by
  rw [push, item_of_getElem? h, ok_bind]
  rfl

theorem getElem?_current {l : Lexer} {tokens : List Token} (h : l.lists[l.current]? = some tokens)
    (more : List Token) : (l.lists.set l.current more)[l.current]? = some more :=
  List.getElem?_set_self (List.getElem?_eq_some_iff.1 h).1

/-- **The rounds of a run** read what the cursor reads, by induction over the rounds; where the last token started does
not matter, nor do the other lists. -/
theorem loop_of_rounds {n : Nat} {l : Lexer} {tokens : List Token} {out : Except UnclosedString (List Token)}
    (htokens : l.lists[l.current]? = some tokens) (hposition : l.position ≤ l.text.length)
    (h : rounds l.text l.line n l.position tokens = .ok out) :
    ∃ l', l.loop n = .ok (faultOf out, l') ∧ l.Done out l' := by
  induction n generalizing l tokens with
  | zero => cases h
  | succ n ih =>
    obtain ⟨position, hskip, hle⟩ := skip_le isBlank hposition
    rw [rounds, hskip, ok_bind] at h
    rw [loop, hskip, ok_bind]
    split_ifs at h ⊢ with hend
    · cases h
      have hlists : l.lists = l.lists.set l.current tokens := by
        obtain ⟨hcurrent, rfl⟩ := List.getElem?_eq_some_iff.1 htokens
        exact (List.set_getElem_self hcurrent).symm
      exact ⟨_, rfl, rfl, rfl, le_antisymm hle hend, hlists, rfl⟩
    · obtain ⟨found, hfound, hstop⟩ := lexeme_le (Nat.lt_of_not_le hend)
      rw [hfound, ok_bind] at h ⊢
      cases found with
      | none =>
        cases h
        dsimp only
        rw [push_eq htokens, ok_bind, item_of_getElem? (getElem?_current htokens _), ok_bind, List.take_length]
        exact ⟨_, rfl, rfl, rfl, rfl, rfl, rfl⟩
      | some found =>
        obtain ⟨make, stop⟩ := found
        dsimp only at h ⊢
        rw [push_eq htokens, ok_bind]
        obtain ⟨l', hloop, hdone⟩ := ih
          (l := { l with position := stop, start := position, lists := l.lists.set l.current _ })
          (getElem?_current htokens _) (hstop make stop rfl) h
        exact ⟨l', hloop, hdone.text, hdone.line, hdone.position, by rw [hdone.lists, List.set_set], hdone.current⟩

/-- what a run leaves in memory, of which one list is new -/
structure Refines (l : Lexer) (out : Handed) (l' : Lexer) : Prop where
  outcome : l'.read out = .ok l.lineLexer.run.1
  state : l'.lineLexer = l.lineLexer.run.2
  lists : l'.lists = l.lists ++ [tokensOf l.lineLexer.run.1]

/-- **From any state a run does what `LineLexer.run` does**, and changes no list that was there. -/
theorem run_refines (l : Lexer) : ∃ out l', l.run = .ok (out, l') ∧ l.Refines out l' := by
  have hcurrent : (l.lists ++ [[]])[l.lists.length]? = some ([] : List Token) := by simp
  obtain ⟨l', hloop, hdone⟩ := loop_of_rounds
    (l := { l with position := 0, lists := l.lists ++ [[]], current := l.lists.length }) hcurrent (Nat.zero_le _)
    (lex_eq l.line l.text)
  have hlists : l'.lists = l.lists ++ [tokensOf l.lineLexer.run.1] := by
    rw [hdone.lists, List.set_append_right _ _ le_rfl, Nat.sub_self]
    rfl
  have hstate : l'.lineLexer = l.lineLexer.run.2 := by
    simp only [lineLexer, LineLexer.run, hdone.text, hdone.line, hdone.position]
  have hread : item l'.lists l'.current = .ok (tokensOf l.lineLexer.run.1) := by
    rw [hlists, hdone.current, item_append]
  rw [run, hloop, ok_bind]
  dsimp only
  cases hlex : VixStyle.lex l.line l.text with
  | ok tokens =>
    refine ⟨.ok l'.current, l', rfl, ?_, hstate, hlists⟩
    rw [read, hread, ok_bind]
    simp [lineLexer, LineLexer.run, hlex, tokensOf]
  | error fault =>
    refine ⟨.error fault, l', rfl, ?_, hstate, hlists⟩
    simp [read, lineLexer, LineLexer.run, hlex]

/-! ## Many runs -/

/-- what can be read in memory can be read when there is more of it -/
theorem read_later {l l' : Lexer} (h : l.lists <+: l'.lists) {o : Handed} {out : Except UnclosedString (List Token)}
    (hread : l.read o = .ok out) : l'.read o = .ok out := by
  cases o with
  | error fault => exact hread
  | ok i =>
    cases htokens : l.lists[i]? with
    | none =>
      rw [read, item, htokens] at hread
      cases hread
    | some tokens =>
      obtain ⟨more, hmore⟩ := h
      have hlater : l'.lists[i]? = some tokens := by
        rw [← hmore, List.getElem?_append_left (List.getElem?_eq_some_iff.1 htokens).1, htokens]
      rwa [read, item_of_getElem? hlater, ← item_of_getElem? htokens]

/-- the same line, and all lists that there were, and maybe more -/
structure Grown (l l' : Lexer) : Prop where
  text : l'.text = l.text
  line : l'.line = l.line
  lists : l.lists <+: l'.lists

theorem Refines.grown {l l' : Lexer} {out : Handed} (h : l.Refines out l') : l.Grown l' where
  text := congrArg LineLexer.text h.state
  line := congrArg LineLexer.line h.state
  lists := h.lists ▸ List.prefix_append _ _

/-- **Runs one after the other** all end and have the same outcome, which stays in memory, by induction over the runs. -/
theorem runs_spec (n : Nat) (l : Lexer) :
    ∃ outs l', l.runs n = .ok (outs, l') ∧ outs.length = n ∧ l.Grown l' ∧
      ∀ o ∈ outs, l'.read o = .ok (VixStyle.lex l.line l.text) := by
  induction n generalizing l with
  | zero => exact ⟨[], l, rfl, rfl, ⟨rfl, rfl, List.prefix_rfl⟩, List.forall_mem_nil _⟩
  | succ n ih =>
    obtain ⟨out, mid, hrun, hrefines⟩ := l.run_refines
    obtain ⟨outs, l', hruns, hlength, hgrown, houts⟩ := ih mid
    have hmid : l.Grown mid := hrefines.grown
    refine ⟨out :: outs, l', ?_, congrArg (· + 1) hlength, ?_, List.forall_mem_cons.2 ⟨?_, ?_⟩⟩
    · rw [runs, hrun, ok_bind]
      dsimp only
      rw [hruns, ok_bind]
    · exact ⟨hgrown.text.trans hmid.text, hgrown.line.trans hmid.line, hmid.lists.trans hgrown.lists⟩
    · exact read_later hgrown.lists hrefines.outcome
    · rwa [hmid.text, hmid.line] at houts

/-- what one more run does to a lexer `l` that is behind runs that gave out `outs` -/
structure Again (line : Int) (text : List Char) (outs : List Handed) (l : Lexer) (out : Handed) (l' : Lexer) : Prop where
  asFresh : ∃ first l₀, (fresh line text).run = .ok (first, l₀) ∧ l'.read out = l₀.read first
  outcome : l'.read out = .ok (VixStyle.lex line text)
  state : l'.lineLexer = l.lineLexer.run.2
  kept : ∀ o ∈ outs, l.read o = .ok (VixStyle.lex line text) ∧ l'.read o = l.read o
  text : l'.text = text
  line : l'.line = line
  isAtEnd : l'.isAtEnd = true

/-- **A lexer can be used again after any history.** -/
theorem run_again (line : Int) (text : List Char) (n : Nat) :
    ∃ outs l, (fresh line text).runs n = .ok (outs, l) ∧ outs.length = n ∧
      ∃ out l', l.run = .ok (out, l') ∧ Again line text outs l out l' := by
  obtain ⟨outs, l, hruns, hlength, hgrown, houts⟩ := runs_spec n (fresh line text)
  obtain ⟨out, l', hrun, hrefines⟩ := l.run_refines
  obtain ⟨first, l₀, hfirst, hfresh⟩ := (fresh line text).run_refines
  have hlater : l.Grown l' := hrefines.grown
  have houtcome : l'.read out = .ok (VixStyle.lex line text) := by
    rw [hrefines.outcome, lineLexer, LineLexer.run, hgrown.text, hgrown.line]
    rfl
  refine ⟨outs, l, hruns, hlength, out, l', hrun, ?_⟩
  constructor
  case asFresh => exact ⟨first, l₀, hfirst, houtcome.trans hfresh.outcome.symm⟩
  case outcome => exact houtcome
  case state => exact hrefines.state
  case kept => exact fun o ho => ⟨houts o ho, (read_later hlater.lists (houts o ho)).trans (houts o ho).symm⟩
  case text => exact hlater.text.trans hgrown.text
  case line => exact hlater.line.trans hgrown.line
  case isAtEnd =>
    have hposition : l'.position = l.text.length := congrArg LineLexer.cursor hrefines.state
    simp [isAtEnd, hlater.text, hposition]

end Lexer

end VixStyle.Strict
