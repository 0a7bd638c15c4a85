/-
The tokens of a line tile it.

`Tiles number text tokens` says that the tokens are pieces of the line in their order, that each stands in the columns it
names, and that what stands between them is blank; so the pieces and the gaps in turn are the line again.

Main statement, `Line.read_tiles`: the tokens that are kept of a line tile it, also where a string literal is not closed;
then the last token is that literal, and it runs to the end of the line.

The proof is about segments set down behind a text: `between_behind` gives what stands in the columns of one of them,
`gapsFrom_placed` and `mem_placed` all of them by induction on the segments.
-/
import Mathlib.Data.List.TakeWhile
import VixStyle.Line

namespace VixStyle

open Text

/-! ## Pieces of a line -/

/-- the characters of a line from one column up to another -/
def between (text : List Char) (start stop : Nat) : List Char := (text.take (stop - 1)).drop (start - 1)

/-- what stands before each token, from a column on, and after the last one -/
def gapsFrom (text : List Char) (start : Nat) : List Token → List (List Char)
  | [] => [between text start (text.length + 1)]
  | t :: more => between text start t.column :: gapsFrom text t.endColumn more

/-- what stands before each token of a line and after the last one -/
def gaps (text : List Char) (tokens : List Token) : List (List Char) := gapsFrom text 1 tokens

/-- gaps and tokens in turn -/
def weave : List (List Char) → List Token → List Char
  | gap :: later, t :: more => gap ++ t.text ++ weave later more
  | left, [] => left.flatten
  | [], _ :: _ => []

/-- the tokens are the line cut at blanks, each in its columns -/
structure Tiles (number : Int) (text : List Char) (tokens : List Token) : Prop where
  nonempty : ∀ t ∈ tokens, t.text ≠ []
  numbered : ∀ t ∈ tokens, t.line = number
  standing : ∀ t ∈ tokens, 1 ≤ t.column ∧ between text t.column t.endColumn = t.text
  ordered : tokens.Pairwise fun t u => t.endColumn ≤ u.column
  blank : ∀ gap ∈ gaps text tokens, ∀ c ∈ gap, isBlank c = true
  whole : weave (gaps text tokens) tokens = text

/-- what stands behind one text and before another -/
theorem between_behind {text before mid : List Char} (after : List Char) (h : text = before ++ mid ++ after) :
    between text (before.length + 1) ((before ++ mid).length + 1) = mid := by
  subst h
  unfold between
  rw [Nat.add_sub_cancel, Nat.add_sub_cancel, List.take_left', List.drop_left]
  rfl

theorem endColumn_behind (line : Int) (before : List Char) (l : Lexeme) :
    (⟨l, line, before.length + 1⟩ : Token).endColumn = (before ++ l.text).length + 1 := by
  simp only [Token.endColumn, Token.text, List.length_append]
  omega

/-! ## Segments set down behind a text -/

/-- a token that is set down comes from a segment -/
theorem mem_placed {line : Int} {column : Nat} {segments : List Segment} {t : Token}
    (ht : t ∈ placed line column segments) :
    t.line = line ∧ column ≤ t.column ∧ ∃ s ∈ segments, t.lexeme = s.lexeme := by
  induction segments generalizing column with
  | nil => simp [placed] at ht
  | cons s more ih =>
    rw [placed, List.mem_cons] at ht
    rcases ht with rfl | ht
    · exact ⟨rfl, Nat.le_add_right _ _, s, List.mem_cons_self, rfl⟩
    · obtain ⟨hline, hcolumn, u, hu, hlexeme⟩ := ih ht
      exact ⟨hline, le_trans (Nat.le_add_right _ _) hcolumn, u, List.mem_cons_of_mem s hu, hlexeme⟩

theorem ordered_placed (line : Int) (column : Nat) (segments : List Segment) :
    (placed line column segments).Pairwise fun t u => t.endColumn ≤ u.column := by
  induction segments generalizing column with
  | nil => exact .nil
  | cons s more ih =>
    refine List.Pairwise.cons (fun u hu => ?_) (ih _)
    have := (mem_placed hu).2.1
    simp only [Token.endColumn, Token.text, Segment.text, List.length_append] at this ⊢
    omega

section Behind

variable {text tail : List Char} {segments : List Segment}

theorem standing_placed (line : Int) {before : List Char}
    (h : text = before ++ segments.flatMap Segment.text ++ tail) :
    ∀ t ∈ placed line (before.length + 1) segments, 1 ≤ t.column ∧ between text t.column t.endColumn = t.text := by
  induction segments generalizing before with
  | nil => simp [placed]
  | cons s more ih =>
    obtain ⟨gap, l⟩ := s
    intro t ht
    rw [placed_cons_behind, List.mem_cons] at ht
    rcases ht with rfl | ht
    · refine ⟨Nat.le_add_left 1 _, ?_⟩
      rw [endColumn_behind]
      exact between_behind (more.flatMap Segment.text ++ tail) (by simpa [Segment.text] using h)
    · exact ih (by simpa [Segment.text] using h) t ht

/-- the gaps of the tokens are those of the segments -/
theorem gapsFrom_placed (line : Int) {before : List Char}
    (h : text = before ++ segments.flatMap Segment.text ++ tail) :
    gapsFrom text (before.length + 1) (placed line (before.length + 1) segments) =
      segments.map Segment.gap ++ [tail] := by
  induction segments generalizing before with
  | nil =>
    rw [List.flatMap_nil, List.append_nil] at h
    rw [placed, gapsFrom, h]
    exact congrArg (· :: []) (between_behind [] (List.append_nil _).symm)
  | cons s more ih =>
    obtain ⟨gap, l⟩ := s
    rw [placed_cons_behind, gapsFrom, endColumn_behind, ih (by simpa [Segment.text] using h),
      between_behind (l.text ++ more.flatMap Segment.text ++ tail) (by simpa [Segment.text] using h)]
    rfl

end Behind

theorem weave_placed (line : Int) (column : Nat) (tail : List Char) (segments : List Segment) :
    weave (segments.map Segment.gap ++ [tail]) (placed line column segments) =
      segments.flatMap Segment.text ++ tail := by
  induction segments generalizing column with
  | nil => simp [placed, weave]
  | cons s more ih => simp [placed, weave, ih, Segment.text, Token.text]

/-! ## What the scanner promises of its segments -/

namespace Segmentation

/-- gaps are blank and lexemes are not empty -/
structure Spaced (s : Segmentation) : Prop where
  gap : ∀ p ∈ s.segments, ∀ c ∈ p.gap, isBlank c = true
  lexeme : ∀ p ∈ s.segments, p.lexeme.text ≠ []
  tail : ∀ c ∈ s.tail, isBlank c = true

theorem spaced_ofFrom (leading : Bool) (s : List Char) : (ofFrom leading s).Spaced := by
  have hgap : ∀ s : List Char, ∀ c ∈ s.takeWhile isBlank, isBlank c = true := fun _ _ => List.mem_takeWhile_imp
  induction leading, s using ofFrom.induct with
  | case1 leading s hs =>
    rw [ofFrom_of_blank hs]
    exact ⟨by simp, by simp, List.dropWhile_eq_nil_iff.1 hs⟩
  | case2 leading s c rest hs hn =>
    rw [ofFrom_of_open hs hn]
    exact ⟨by simpa using hgap s, by simp [Lexeme.text], by simp⟩
  | case3 leading s c rest hs l after hn ih =>
    rw [ofFrom_of_lexeme hs hn]
    refine ⟨fun p hp => ?_, fun p hp => ?_, ih.tail⟩
    · rcases List.mem_cons.1 hp with rfl | hp
      · exact hgap s
      · exact ih.gap p hp
    · rcases List.mem_cons.1 hp with rfl | hp
      · exact next?_ne_nil hn
      · exact ih.lexeme p hp

/-- an unclosed literal is the last segment, and nothing stands after it -/
theorem ends_of_open {leading : Bool} {s : List Char} (h : (ofFrom leading s).closed = false) :
    (ofFrom leading s).tail = [] ∧
      ∃ earlier gap written, (ofFrom leading s).segments = earlier ++ [⟨gap, .stringLiteral written⟩] := by
  induction leading, s using ofFrom.induct with
  | case1 leading s hs => rw [ofFrom_of_blank hs] at h; cases h
  | case2 leading s c rest hs hn =>
    rw [ofFrom_of_open hs hn]
    exact ⟨rfl, [], _, _, rfl⟩
  | case3 leading s c rest hs l after hn ih =>
    rw [ofFrom_of_lexeme hs hn] at h ⊢
    obtain ⟨htail, earlier, gap, written, heq⟩ := ih h
    exact ⟨htail, ⟨s.takeWhile isBlank, l⟩ :: earlier, gap, written, by rw [heq]; rfl⟩

end Segmentation

theorem placed_append (line : Int) (column : Nat) (segments more : List Segment) :
    placed line column (segments ++ more) =
      placed line column segments ++ placed line (column + (segments.flatMap Segment.text).length) more := by
  induction segments generalizing column with
  | nil => simp [placed]
  | cons s segments ih => simp [placed, ih, Nat.add_assoc]

/-! ## Main result -/

/-- the gaps of a line are those of its segments -/
theorem gaps_of (number : Int) (text : List Char) : gaps text (placed number 1 (Segmentation.of text).segments) =
    (Segmentation.of text).segments.map Segment.gap ++ [(Segmentation.of text).tail] := by
  have htext : text = [] ++ (Segmentation.of text).segments.flatMap Segment.text ++ (Segmentation.of text).tail :=
    (Segmentation.text_of text).symm
  exact gapsFrom_placed number htext

theorem tiles_placed (number : Int) (text : List Char) :
    Tiles number text (placed number 1 (Segmentation.of text).segments) := by
  have hspaced : (Segmentation.of text).Spaced := Segmentation.spaced_ofFrom true text
  have htext : text = [] ++ (Segmentation.of text).segments.flatMap Segment.text ++ (Segmentation.of text).tail :=
    (Segmentation.text_of text).symm
  have hgaps := gaps_of number text
  exact {
    nonempty := fun t ht => by
      obtain ⟨-, -, s, hs, hlexeme⟩ := mem_placed ht
      unfold Token.text
      rw [hlexeme]
      exact hspaced.lexeme s hs
    numbered := fun t ht => (mem_placed ht).1
    standing := standing_placed number htext
    ordered := ordered_placed number 1 _
    blank := fun gap hgap => by
      rw [hgaps, List.mem_append, List.mem_map, List.mem_singleton] at hgap
      rcases hgap with ⟨s, hs, rfl⟩ | rfl
      · exact hspaced.gap s hs
      · exact hspaced.tail
    whole := by
      rw [hgaps, weave_placed]
      exact Segmentation.text_of text }

namespace Line

theorem tokens_read (number : Int) (text : List Char) :
    (read number text).tokens = placed number 1 (Segmentation.of text).segments := by
  cases hclosed : (Segmentation.of text).closed <;> simp [read, lex, hclosed]

theorem unclosed_read (number : Int) (text : List Char) :
    (read number text).unclosed = if (Segmentation.of text).closed then none
      else some (((placed number 1 (Segmentation.of text).segments).getLast?.map Token.column).getD 1) := by
  cases hclosed : (Segmentation.of text).closed <;> simp [read, lex, hclosed]

/-- the last token of a line with an unclosed literal -/
theorem getLast?_of_open {text : List Char} (number : Int) (h : (Segmentation.of text).closed = false) :
    ∃ before written, text = before ++ written ∧
      (placed number 1 (Segmentation.of text).segments).getLast? =
        some ⟨.stringLiteral written, number, before.length + 1⟩ := by
  obtain ⟨htail, earlier, gap, written, hsegments⟩ := Segmentation.ends_of_open h
  have htext := Segmentation.text_of text
  unfold Segmentation.of at htext ⊢
  unfold Segmentation.text at htext
  rw [htail, hsegments] at htext
  rw [hsegments, placed_append]
  refine ⟨earlier.flatMap Segment.text ++ gap, written, ?_, ?_⟩
  · rw [← htext]
    simp [Segment.text, Lexeme.text]
  · simp [placed, Nat.add_comm, Nat.add_left_comm]

/-- **Nothing is lost.** The tokens that are kept of a line tile it. If a string literal is not closed, it is the last
of them: it starts where the fault says and runs to the end of the line. -/
theorem read_tiles (number : Int) (text : List Char) :
    Tiles number text (read number text).tokens ∧
      ∀ e, (read number text).fault? = some e →
        ∃ written, (read number text).tokens.getLast? = some ⟨.stringLiteral written, number, e.column⟩ ∧
          written = text.drop (e.column - 1) ∧ e.column + written.length = text.length + 1 := by
  refine ⟨tokens_read number text ▸ tiles_placed number text, fun e he => ?_⟩
  obtain ⟨column, hcolumn, rfl⟩ := Option.map_eq_some_iff.1 he
  rw [unclosed_read] at hcolumn
  split at hcolumn
  · cases hcolumn
  · rename_i hopen
    obtain ⟨before, written, htext, hlast⟩ := getLast?_of_open number (Bool.eq_false_iff.2 hopen)
    rw [hlast] at hcolumn
    obtain rfl : before.length + 1 = column := Option.some.inj hcolumn
    refine ⟨written, by rw [tokens_read, hlast], ?_, ?_⟩
    · rw [htext, Nat.add_sub_cancel, List.drop_left]
    · simp only [htext, List.length_append]
      omega

/-- a literal that ends in a backslash is not closed and runs to the end -/
theorem read_tiles_backslash : (read 2 " f(\"a\\".toList).fault? = some ⟨2, 4, (read 2 " f(\"a\\".toList).tokens⟩ ∧
    ∃ written, (read 2 " f(\"a\\".toList).tokens.getLast? = some ⟨.stringLiteral written, 2, 4⟩ ∧
      written = "\"a\\".toList := by
  have hfault : (read 2 " f(\"a\\".toList).fault? = some ⟨2, 4, (read 2 " f(\"a\\".toList).tokens⟩ := by
    decide +kernel
  obtain ⟨written, hlast, hwritten, -⟩ := (read_tiles 2 " f(\"a\\".toList).2 _ hfault
  exact ⟨hfault, written, hlast, hwritten⟩

end Line

end VixStyle
