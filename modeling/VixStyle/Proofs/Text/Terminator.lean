/-
What ends the lines of a text.

- `lines_unifyTerminators`: a text has the lines it has when each of its terminators is a line feed.
- `EndedLines.lines_text`: lines that are set down with terminators behind them are the lines of that text, whichever
  terminators these are. `EndedLines` asks for what cannot be told otherwise: a carriage return is kept from a line feed
  that stands alone on its line, and an empty line at the end is kept by its terminator.
-/
import Mathlib.Tactic
import VixStyle.Text.Line

namespace VixStyle.Text

/-! ## Reading every terminator as a line feed -/

theorem unifyTerminators_append {s : List Char} (hs : '\r' ∉ s) (rest : List Char) :
    unifyTerminators (s ++ rest) = s ++ unifyTerminators rest := by
  induction s with
  | nil => rfl
  | cons c s ih =>
    obtain ⟨hc, hs⟩ := not_or.1 (mt List.mem_cons.2 hs)
    rw [List.cons_append, unifyTerminators, if_neg (Ne.symm hc), ih hs, List.cons_append]
    rintro _ rfl
    exact absurd rfl hc

theorem unifyTerminators_of_notMem {s : List Char} (hs : '\r' ∉ s) : unifyTerminators s = s := by
  have h := unifyTerminators_append hs []
  rwa [List.append_nil, unifyTerminators, List.append_nil] at h

theorem notMem_unifyTerminators (s : List Char) : '\r' ∉ unifyTerminators s := by
  fun_induction unifyTerminators s with
  | case1 => exact List.not_mem_nil
  | case2 rest ih => exact List.not_mem_cons_of_ne_of_not_mem (by decide) ih
  | case3 c rest _ ih =>
    refine List.not_mem_cons_of_ne_of_not_mem ?_ ih
    split
    · decide
    · exact Ne.symm ‹c ≠ '\r'›

/-- **A text keeps its lines** when each of its terminators is read as a line feed. -/
theorem lines_unifyTerminators (s : List Char) : lines (unifyTerminators s) = lines s := by
  unfold lines
  rw [unifyTerminators_of_notMem (notMem_unifyTerminators s)]

/-! ## Lines before line feeds -/

theorem splitLines_append_feed {s : List Char} (hs : '\n' ∉ s) (rest : List Char) :
    splitLines (s ++ '\n' :: rest) = s :: splitLines rest := by
  induction s with
  | nil => rw [List.nil_append, splitLines, if_pos rfl]
  | cons c s ih =>
    obtain ⟨hc, hs⟩ := not_or.1 (mt List.mem_cons.2 hs)
    rw [List.cons_append, splitLines, if_neg (Ne.symm hc), ih hs]

theorem splitLines_of_notMem {s : List Char} (hs : '\n' ∉ s) (hne : s ≠ []) : splitLines s = [s] := by
  induction s with
  | nil => exact absurd rfl hne
  | cons c s ih =>
    obtain ⟨hc, hs⟩ := not_or.1 (mt List.mem_cons.2 hs)
    rw [splitLines, if_neg (Ne.symm hc)]
    cases s with
    | nil => rfl
    | cons c' s => rw [ih hs (List.cons_ne_nil c' s)]

/-! ## Lines with terminators -/

/-- what may end a line -/
inductive Terminator where
  | feed | carriageReturn | both
  deriving DecidableEq, Repr

def Terminator.chars : Terminator → List Char
  | feed => ['\n']
  | carriageReturn => ['\r']
  | both => ['\r', '\n']

/-- a line with what ends it -/
structure EndedLine where
  content : List Char
  terminator : Terminator
  deriving DecidableEq, Repr

def EndedLine.chars (l : EndedLine) : List Char := l.content ++ l.terminator.chars

/-- a carriage return with a line feed behind it that was to end an empty line -/
def EndedLine.MergesWith (l next : EndedLine) : Prop := l.terminator = .carriageReturn ∧ next = ⟨[], .feed⟩

instance (l next : EndedLine) : Decidable (l.MergesWith next) :=
  inferInstanceAs (Decidable (l.terminator = .carriageReturn ∧ next = ⟨[], .feed⟩))

/-- the text of lines with their terminators and of a last line without one -/
def textOf (ended : List EndedLine) (last : Option (List Char)) : List Char :=
  ended.flatMap EndedLine.chars ++ last.getD []

theorem textOf_cons (l : EndedLine) (ended : List EndedLine) (last : Option (List Char)) :
    textOf (l :: ended) last = l.content ++ (l.terminator.chars ++ textOf ended last) := by
  unfold textOf EndedLine.chars
  simp only [List.flatMap_cons, List.append_assoc]

/-- a terminator is read as one line feed, if no line feed follows a carriage return -/
theorem unifyTerminators_terminator {e : Terminator} {rest : List Char}
    (h : e = .carriageReturn → ∀ more, rest ≠ '\n' :: more) :
    unifyTerminators (e.chars ++ rest) = '\n' :: unifyTerminators rest := by
  cases e with
  | feed => exact unifyTerminators_append (s := ['\n']) (by decide) rest
  | carriageReturn =>
    rw [Terminator.chars, List.singleton_append, unifyTerminators, if_pos rfl]
    intro more _ hrest
    exact h rfl more hrest
  | both => rfl

/-- a text begins with a line feed only if its first line is empty and ended by a line feed -/
theorem eq_of_textOf_eq_feed {ended : List EndedLine} {last : Option (List Char)} {more : List Char}
    (hended : ∀ l ∈ ended, '\n' ∉ l.content) (hlast : ∀ line ∈ last, '\n' ∉ line) (h : textOf ended last = '\n' :: more) :
    ∃ later, ended = ⟨[], .feed⟩ :: later := by
  cases ended with
  | nil =>
    cases last with
    | none => cases h
    | some line =>
      have hline : line = '\n' :: more := h
      exact absurd (hline ▸ List.mem_cons_self) (hlast line rfl)
  | cons l later =>
    obtain ⟨content, e⟩ := l
    rw [textOf_cons] at h
    cases content with
    | nil =>
      cases e with
      | feed => exact ⟨later, rfl⟩
      | carriageReturn => cases h
      | both => cases h
    | cons c content =>
      obtain rfl : c = '\n' := (List.cons.inj h).1
      exact absurd List.mem_cons_self (hended _ List.mem_cons_self)

/-- the lines of a text put together from lines, by induction on the lines with terminators -/
theorem lines_textOf {ended : List EndedLine} {last : Option (List Char)}
    (hended : ∀ l ∈ ended, '\r' ∉ l.content ∧ '\n' ∉ l.content)
    (hlast : ∀ line ∈ last, line ≠ [] ∧ '\r' ∉ line ∧ '\n' ∉ line)
    (hapart : ended.IsChain fun l next => ¬l.MergesWith next) :
    lines (textOf ended last) = ended.map EndedLine.content ++ last.toList := by
  unfold lines
  induction ended with
  | nil =>
    cases last with
    | none => rfl
    | some line =>
      obtain ⟨hne, hreturn, hfeed⟩ := hlast line rfl
      have htext : textOf [] (some line) = line := rfl
      rw [htext, unifyTerminators_of_notMem hreturn, splitLines_of_notMem hfeed hne]
      rfl
  | cons l ended ih =>
    obtain ⟨hl, hended⟩ := List.forall_mem_cons.1 hended
    have hrest : l.terminator = .carriageReturn → ∀ more, textOf ended last ≠ '\n' :: more := by
      intro hterminator more htext
      obtain ⟨later, rfl⟩ :=
        eq_of_textOf_eq_feed (fun l hl => (hended l hl).2) (fun line hline => (hlast line hline).2.2) htext
      exact (List.isChain_cons_cons.1 hapart).1 ⟨hterminator, rfl⟩
    rw [textOf_cons, unifyTerminators_append hl.1, unifyTerminators_terminator hrest, splitLines_append_feed hl.2,
      ih hended hapart.tail]
    rfl

/-- Lines with their terminators, and a last line without one. They can be told from the text: no terminator stands in a
line, a last line is not empty, and no two terminators merge. -/
structure EndedLines where
  ended : List EndedLine
  last : Option (List Char) := none
  free : ∀ l ∈ ended, '\r' ∉ l.content ∧ '\n' ∉ l.content
  last_free : ∀ line ∈ last, line ≠ [] ∧ '\r' ∉ line ∧ '\n' ∉ line
  apart : ended.IsChain fun l next => ¬l.MergesWith next

namespace EndedLines

/-- the lines without their terminators -/
def lines (s : EndedLines) : List (List Char) := s.ended.map EndedLine.content ++ s.last.toList

def text (s : EndedLines) : List Char := textOf s.ended s.last

/-- **Lines are read back** from their text, whichever terminators stand behind them. -/
theorem lines_text (s : EndedLines) : Text.lines s.text = s.lines := lines_textOf s.free s.last_free s.apart

end EndedLines

end VixStyle.Text
