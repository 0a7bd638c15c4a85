/-
Lines with more blanks before them.

The lexer takes the blanks that are put before a line as part of the blanks that the line starts with. So the tokens of the
line stand further to the right, and nothing else about them changes (`Line.read_indented`).
-/
import VixStyle.Proofs.Source.Columns
import VixStyle.Proofs.Token.Grammar

namespace VixStyle

open Text

/-- a token further to the right -/
def Token.right (n : Nat) (t : Token) : Token := { t with column := t.column + n }

theorem Token.alike_right (n : Nat) (t : Token) : (t.right n).lexeme.Alike t.lexeme := .same t.lexeme

/-- a line with more blanks before it -/
def Line.indented (blanks : List Char) (l : Line) : Line :=
  { l with
    text := blanks ++ l.text
    tokens := l.tokens.map (Token.right blanks.length)
    unclosed := l.unclosed.map (· + blanks.length) }

theorem placed_right (n : Nat) (line : Int) (column : Nat) (segments : List Segment) :
    placed line (column + n) segments = (placed line column segments).map (Token.right n) := by
  induction segments generalizing column with
  | nil => rfl
  | cons s segments ih =>
    rw [placed, placed, Nat.add_right_comm column n s.text.length, ih, List.map_cons, Token.right,
      Nat.add_right_comm column n s.gap.length]

section Blanks

variable {blanks : List Char} (hblanks : ∀ c ∈ blanks, Text.isBlank c = true)

include hblanks

/-- **The cut of a line with more blanks before it** is its own one, further to the right. -/
theorem ofFrom_indented (line : Int) (column : Nat) (leading : Bool) (s : List Char) :
    placed line column (Segmentation.ofFrom leading (blanks ++ s)).segments =
        (placed line column (Segmentation.ofFrom leading s).segments).map (Token.right blanks.length) ∧
      (Segmentation.ofFrom leading (blanks ++ s)).closed = (Segmentation.ofFrom leading s).closed := by
  have hdrop : (blanks ++ s).dropWhile isBlank = s.dropWhile isBlank := List.dropWhile_append_of_pos hblanks
  have htake : (blanks ++ s).takeWhile isBlank = blanks ++ s.takeWhile isBlank := List.takeWhile_append_of_pos hblanks
  have hfirst : ∀ (l : Lexeme) (more : List Segment), placed line column (⟨blanks ++ s.takeWhile isBlank, l⟩ :: more) =
      (placed line column (⟨s.takeWhile isBlank, l⟩ :: more)).map (Token.right blanks.length) := by
    intro l more
    have hgap : column + (blanks ++ s.takeWhile isBlank).length =
        column + (s.takeWhile isBlank).length + blanks.length := by
      rw [List.length_append]
      omega
    have hend : column + (⟨blanks ++ s.takeWhile isBlank, l⟩ : Segment).text.length =
        column + (⟨s.takeWhile isBlank, l⟩ : Segment).text.length + blanks.length := by
      simp only [Segment.text, List.length_append]
      omega
    rw [placed, placed, hend, placed_right, hgap]
    rfl
  cases hs : s.dropWhile isBlank with
  | nil =>
    rw [Segmentation.ofFrom_of_blank hs, Segmentation.ofFrom_of_blank (hdrop.trans hs)]
    exact ⟨rfl, rfl⟩
  | cons c rest =>
    cases hn : next? leading c rest with
    | none =>
      rw [Segmentation.ofFrom_of_open hs hn, Segmentation.ofFrom_of_open (hdrop.trans hs) hn, htake]
      exact ⟨hfirst _ _, rfl⟩
    | some p =>
      rw [Segmentation.ofFrom_of_lexeme hs hn, Segmentation.ofFrom_of_lexeme (hdrop.trans hs) hn, htake]
      exact ⟨hfirst _ _, rfl⟩

namespace Line

/-- **To read a line with more blanks before it** gives the line with more blanks before it. -/
theorem read_indented (number : Int) (text : List Char) :
    read number (blanks ++ text) = (read number text).indented blanks := by
  obtain ⟨hplaced, hclosed⟩ := ofFrom_indented hblanks number 1 true text
  have hcolumn : ∀ ts : List Token, ts ≠ [] → ((ts.map (Token.right blanks.length)).getLast?.map Token.column).getD 1 =
      (ts.getLast?.map Token.column).getD 1 + blanks.length := by
    intro ts hne
    rw [List.getLast?_map, List.getLast?_eq_some_getLast hne]
    rfl
  unfold read lex Segmentation.of
  dsimp only
  rw [hplaced, hclosed]
  cases hopen : (Segmentation.ofFrom true text).closed with
  | true => rfl
  | false =>
    have hne : placed number 1 (Segmentation.ofFrom true text).segments ≠ [] :=
      placed_ne_nil (Grammar.segments_ne_nil_of_open hopen)
    simp only [hcolumn _ hne]
    rfl

theorem readFrom_indented (number : Int) (texts : List (List Char)) :
    readFrom number (texts.map (blanks ++ ·)) = (readFrom number texts).map (indented blanks) := by
  induction texts generalizing number with
  | nil => rfl
  | cons text texts ih =>
    rw [List.map_cons, readFrom, readFrom, read_indented hblanks, ih]
    rfl

/-- lines of a text, with more blanks before some of them -/
theorem readAll_indented (before block after : List (List Char)) : ∃ behind : List Line,
    readAll (before ++ block ++ after) = readAll before ++ readFrom (before.length + 1) block ++ behind ∧
      readAll (before ++ block.map (blanks ++ ·) ++ after) =
        readAll before ++ (readFrom (before.length + 1) block).map (indented blanks) ++ behind := by
  refine ⟨readFrom (1 + (before ++ block).length) after, ?_, ?_⟩
  · rw [readAll, readFrom_append, readFrom_append, add_comm (before.length : Int) 1]
    rfl
  · rw [readAll, readFrom_append, readFrom_append, readFrom_indented hblanks,
      add_comm (before.length : Int) 1, List.length_append, List.length_map, ← List.length_append]
    rfl

theorem blanks_indented (l : Line) : (l.indented blanks).indentation.blanks = blanks ++ l.indentation.blanks :=
  List.takeWhile_append_of_pos hblanks

end Line

end Blanks

theorem Line.code_indented (blanks : List Char) (l : Line) :
    (l.indented blanks).code = l.code.map (Token.right blanks.length) := by
  unfold code indented
  rw [List.filter_map]
  rfl

end VixStyle
