/-
Reports on a source with other characters in a string literal.

The characters between the quotes of a literal are replaced by as many others. The line then has the same tokens in the same
places (`Line.tokens_requoted`), and beside each of them the text looks the same, for a quote ends what is seen of the
literal (`sameBeside_requoted`). So all checks find the same, but that a declaration keyword with the literal in the place of a
name shows what the literal reads (`diagnostics_requoted`). Main statement, `lintDefault_requoted`: this is the only difference
between the reports. The order stays as well, though it depends on messages: of declarations without a name, no two are reported
at one place (`nameless_unique`).
-/
import VixStyle.Proofs.Lint.Alike
import VixStyle.Proofs.Lint.Composition
import VixStyle.Proofs.Source.Place
import VixStyle.Proofs.Token.Opaque

namespace VixStyle

open Grammar Rule.Spacing

/-! ## The line -/

section Line

variable {number : Int} {text old inner : List Char} {t : Token} (ht : t ∈ (Line.read number text).tokens)
  (hold : t.lexeme = .stringLiteral old) (hclosed : (Line.read number text).unclosed ≠ some t.column)
  (hlength : (quote inner).length = old.length)

include ht hold hclosed hlength

/-- **Beside each token**, the text looks the same. -/
theorem sameBeside_requoted {u : Token} (hu : u ∈ (Line.read number text).tokens) :
    SameBeside text (t.replaced (quote inner) text) u := by
  obtain ⟨x, body, y, rfl, htext, hcolumn, hreplaced⟩ := Line.exists_quoted ht hold hclosed
  have hlong : inner.length = body.length := by simpa [quote] using hlength
  have hend : t.endColumn = t.column + (quote body).length := by rw [Token.endColumn, Token.text, hold, Lexeme.text]
  rw [hreplaced, htext]
  by_cases hne : u = t
  · have hbefore : ∀ w, textBefore (x ++ w ++ y) t = x := by
      intro w
      rw [textBefore, hcolumn, Nat.add_sub_cancel, List.append_assoc, List.take_left]
    have hafter : ∀ w, w.length = (quote body).length → textAfter (x ++ w ++ y) t = y := by
      intro w hw
      have hdrop : t.endColumn - 1 = (x ++ w).length := by
        rw [hend, hcolumn, List.length_append, hw]
        omega
      rw [textAfter, hdrop, List.drop_left]
    rw [hne]
    exact .of_eq ((hbefore _).trans (hbefore _).symm) ((hafter _ hlength).trans (hafter _ rfl).symm)
  rcases Line.apart_of_ne (Line.wasRead_read number text) hu ht hne with hbefore | hbehind
  · -- the first quote ends what is seen of the literal
    have hquote : ∀ w, x ++ quote w ++ y = x ++ '"' :: (w ++ '"' :: y) := fun w => by simp [quote]
    rw [hquote, hquote]
    exact .of_before (by omega) (by decide)
  · -- so does the last quote
    have hquote : ∀ w, x ++ quote w ++ y = (x ++ '"' :: w) ++ '"' :: y := fun w => by simp [quote]
    rw [hquote, hquote]
    refine .of_behind ?_ ?_ (by decide)
    · simp [hlong]
    · simp only [quote, List.length_append, List.length_cons, List.length_nil] at hend ⊢
      omega

variable (hfirst : (text.dropWhile Text.isBlank).head? ≠ some '/') (hinner : StringBody inner)

include hfirst hinner

/-- **A line with another literal** is alike. -/
theorem Line.alike_requoted :
    Line.Alike (t.swap (quote inner)) (read number text) (read number (t.replaced (quote inner) text)) := by
  refine ⟨by rw [number_read, number_read], unclosed_requoted ht hold hclosed hfirst hinner hlength,
    code_requoted ht hold hclosed hfirst hinner hlength, fun _ => ?_⟩
  obtain ⟨x, body, y, rfl, htext, -, hreplaced⟩ := exists_quoted ht hold hclosed
  -- the first quote ends the blanks at the start of the line
  have hsolid : ∃ c ∈ x ++ ['"'], Text.isBlank c = false := ⟨'"', List.mem_append_right x List.mem_cons_self, by decide⟩
  have hquote : ∀ w, x ++ quote w ++ y = x ++ ['"'] ++ (w ++ '"' :: y) := fun w => by simp [quote]
  unfold indentation Indentation.of Text.leadingBlanks
  rw [text_read, text_read, hreplaced, htext, hquote, hquote, takeWhile_front hsolid, takeWhile_front hsolid]

end Line

/-! ## The source -/

section Requoted

variable {above below : List (List Char)} {line old inner : List Char} {t : Token}
  (ht : t ∈ (Line.read (above.length + 1) line).tokens) (hold : t.lexeme = .stringLiteral old)
  (hclosed : (Line.read (above.length + 1) line).unclosed ≠ some t.column)
  (hfirst : (line.dropWhile Text.isBlank).head? ≠ some '/') (hinner : StringBody inner)
  (hlength : (quote inner).length = old.length) (text text' : List Char) (options : Options)

include ht hold hclosed hfirst hinner hlength

/-- **All lines are alike.** -/
theorem lines_requoted : List.Forall₂ (Line.Alike (t.swap (quote inner))) (Line.readAll (above ++ line :: below))
    (Line.readAll (above ++ t.replaced (quote inner) line :: below)) := by
  have hline : t.line = above.length + 1 := Line.numbered_read _ _ t ht ▸ Line.number_read _ line
  rw [Line.readAll_around, Line.readAll_around]
  refine Line.alike_around (fun l hl => ?_) (Line.alike_requoted ht hold hclosed hlength hfirst hinner)
  obtain ⟨hnumbered, hne⟩ := Line.mem_around hl
  refine (List.map_congr_left fun u hu => ?_).trans (List.map_id _)
  exact if_neg fun heq => hne (by rw [← hnumbered.code u hu, heq, hline])

/-- **A check on spacing** finds the same. -/
theorem spacing_requoted {check : Source → List Diagnostic} {find : Line → List Diagnostic}
    {say : List Char → Option Token → Token → List Diagnostic} (hcheck : LineByLine check find)
    (htoken : TokenByToken find say) : check (.ofLines text' (above ++ t.replaced (quote inner) line :: below)) =
      check (.ofLines text (above ++ line :: below)) := by
  have hfind : find (Line.read (above.length + 1) (t.replaced (quote inner) line)) =
      find (Line.read (above.length + 1) line) := by
    refine htoken.find_swapped (Token.swaps_swap hold (quote inner))
      (Line.code_requoted ht hold hclosed hfirst hinner hlength) fun u hu => ?_
    rw [Line.text_read, Line.text_read]
    exact sameBeside_requoted ht hold hclosed hlength (List.mem_of_mem_filter hu)
  exact hcheck.congr_around hfind (Line.readAll_around above below line) (Line.readAll_around above below _)

/-- **The findings with another literal** are the same, one by one, but for what stands in the place of names. -/
theorem diagnostics_requoted : List.Forall₂ (Diagnostic.Refound old (quote inner))
    ((Source.ofLines text (above ++ line :: below)).diagnostics options defaultRules)
    ((Source.ofLines text' (above ++ t.replaced (quote inner) line :: below)).diagnostics options defaultRules) := by
  rw [diagnostics_eq_namedChecks, diagnostics_eq_namedChecks]
  have hchecks : List.Forall₂ (fun c c' => c = c' ∧ c ∈ namedChecks options) (namedChecks options) (namedChecks options) :=
    List.forall₂_same.2 fun c hc => ⟨rfl, hc⟩
  refine List.rel_flatMap hchecks ?_
  rintro check check' ⟨rfl, hcheck⟩
  dsimp only
  rcases spacing_cases hcheck with ⟨-, find, say, hline, htoken⟩ | ⟨hoperator, hcomma⟩
  · exact Diagnostic.Refound.of_eq
      (spacing_requoted ht hold hclosed hfirst hinner hlength text text' hline htoken)
  · exact check_alike (Token.swaps_swap hold (quote inner)) (lines_requoted ht hold hclosed hfirst hinner hlength) hcheck
      hoperator hcomma

end Requoted

/-! ## The order -/

/-- of declarations without a name, no two are reported at one place -/
theorem nameless_unique {text : List Char} {lines : List (List Char)} {options : Options} {d e : Diagnostic}
    (hd : d ∈ (Source.ofLines text lines).diagnostics options defaultRules)
    (he : e ∈ (Source.ofLines text lines).diagnostics options defaultRules)
    (hrule : d.ruleId = Problem.malformedDeclaration.ruleId) (hrule' : e.ruleId = Problem.malformedDeclaration.ruleId)
    (hplace : d.place = e.place) : d = e := by
  have hcheck : (Problem.malformedDeclaration.ruleId, Source.namelessDiagnostics) ∈ namedChecks options :=
    List.mem_cons_of_mem _ List.mem_cons_self
  have hmem : ∀ d ∈ (Source.ofLines text lines).diagnostics options defaultRules,
      d.ruleId = Problem.malformedDeclaration.ruleId → d ∈ (Source.ofLines text lines).namelessDiagnostics := by
    intro d hd hrule
    have hfound : d ∈ ((Source.ofLines text lines).diagnostics options defaultRules).filter
        fun d => d.ruleId = Problem.malformedDeclaration.ruleId := List.mem_filter.2 ⟨hd, decide_eq_true hrule⟩
    rw [filter_diagnostics_of_check hcheck fun d hd => of_decide_eq_true hd] at hfound
    exact List.mem_of_mem_filter hfound
  have hordered : (Source.ofLines text lines).namelessDiagnostics.Pairwise fun d e => d.place < e.place := by
    refine namelessDiagnostics_lineByLine.ordered fun l hl => ?_
    have hcolumns := columns_of_findings (g := namelessDiagnostic?) (fun f d hd => ?_) l
    · have hread := Line.ordered_code (Line.wasRead_readAll l hl)
      exact List.pairwise_map.1 ((ordered_columnsOf hread).sublist hcolumns)
    · cases f with
      | declared _ => cases hd
      | nameless _ =>
        obtain rfl := Option.some.inj hd
        rfl
  have hnodup : ((Source.ofLines text lines).namelessDiagnostics.map Diagnostic.place).Nodup :=
    List.pairwise_map.2 (hordered.imp fun h => h.ne)
  exact List.inj_on_of_nodup_map hnodup (hmem d hd hrule) (hmem e he hrule') hplace

/-- diagnostics that belong together stand at one place under one id -/
theorem Diagnostic.Refound.site {old new : List Char} {d d' : Diagnostic} (h : Refound old new d d') :
    d'.line = d.line ∧ d'.column = d.column ∧ d'.ruleId = d.ruleId := by
  cases h with
  | same => exact ⟨rfl, rfl, rfl⟩
  | found n hn => exact ⟨rfl, rfl, rfl⟩

/-- where two diagnostics belong together and are not the same, a declaration has no name -/
theorem Diagnostic.Refound.eq_or {old new : List Char} {d d' : Diagnostic} (h : Refound old new d d') :
    d' = d ∨ d.ruleId = Problem.malformedDeclaration.ruleId := by
  cases h with
  | same => exact .inl rfl
  | found n hn => exact .inr rfl

/-- **Diagnostics that belong together** are in the same order. -/
theorem before_refound {text text' : List Char} {lines lines' : List (List Char)} {options : Options} {old new : List Char}
    {a a' b b' : Diagnostic} (ha : a ∈ (Source.ofLines text lines).diagnostics options defaultRules)
    (ha' : a' ∈ (Source.ofLines text' lines').diagnostics options defaultRules)
    (hb : b ∈ (Source.ofLines text lines).diagnostics options defaultRules)
    (hb' : b' ∈ (Source.ofLines text' lines').diagnostics options defaultRules)
    (haa : Diagnostic.Refound old new a a') (hbb : Diagnostic.Refound old new b b') : a'.before b' = a.before b := by
  obtain ⟨hline, hcolumn, hrule⟩ := haa.site
  obtain ⟨hline', hcolumn', hrule'⟩ := hbb.site
  refine Diagnostic.before_congr hcolumn hcolumn' hrule hrule' (by rw [hline, hline']) (by rw [hline, hline']) ?_
  intro hsame hsame' hid
  by_cases hnameless : a.ruleId = Problem.malformedDeclaration.ruleId
  · -- both are on one declaration
    have hab : a = b := nameless_unique ha hb hnameless (hid ▸ hnameless) (by simp [Diagnostic.place, hsame, hsame'])
    have hab' : a' = b' := by
      refine nameless_unique ha' hb' (hrule.trans hnameless) (hrule'.trans (hid ▸ hnameless)) ?_
      simp [Diagnostic.place, hline, hline', hcolumn, hcolumn', hsame, hsame']
    rw [hab, hab']
    exact iff_of_false (lt_irrefl _) (lt_irrefl _)
  · rw [haa.eq_or.resolve_right hnameless, hbb.eq_or.resolve_right fun h => hnameless (hid.trans h)]

/-- a literal ends no line if what it reads does not -/
theorem unbroken_quote {inner : List Char} (h : Text.Unbroken inner) : Text.Unbroken (quote inner) := by
  have hquote : '"' ≠ '\r' ∧ '"' ≠ '\n' := by simp
  intro c hc
  simp only [quote, List.mem_cons, List.mem_append, List.not_mem_nil, or_false] at hc
  rcases hc with rfl | hc | rfl
  · exact hquote
  · exact h c hc
  · exact hquote

/--
**What string literals read does not matter to the report.** The characters between the quotes of a closed literal are replaced
by as many others that end neither the literal nor the line. The reports have the same diagnostics in the same order, but that
one on a declaration keyword with the literal in the place of the name shows what the literal reads. The line must not start
with a slash, for then a second slash, in the literal, may end a comment.
-/
theorem lintDefault_requoted [Machine] {before old after : List Char} {l : Line}
    (hl : l ∈ (Source.ofText (before ++ old ++ after)).lines) {t : Token} (ht : t ∈ l.tokens)
    (hold : t.lexeme = .stringLiteral old) (hstands : t.StandsBehind before) (hclosed : l.unclosed ≠ some t.column)
    (hfirst : (l.text.dropWhile Text.isBlank).head? ≠ some '/') {inner : List Char}
    (hinner : ∀ c ∈ inner, c ≠ '"' ∧ c ≠ '\\' ∧ c ≠ '\n' ∧ c ≠ '\r') (hlength : inner.length + 2 = old.length)
    (options : Options) :
    (∀ e, lintDefault (before ++ quote inner ++ after) options = .error e ↔
        lintDefault (before ++ old ++ after) options = .error e) ∧
      ∀ r r', lintDefault (before ++ old ++ after) options = .ok r →
        lintDefault (before ++ quote inner ++ after) options = .ok r' →
          List.Forall₂ (Diagnostic.Refound old (quote inner)) r.diagnostics r'.diagnostics := by
  have hwritten : t.text = old := by rw [Token.text, hold, Lexeme.text]
  rw [← hwritten] at hl
  obtain ⟨above, below, hread, hlines, hreplaced⟩ := Source.lines_around hl ht hstands
  rw [hwritten] at hlines
  have hunbroken : Text.Unbroken inner := fun c hc => ⟨(hinner c hc).2.2.2, (hinner c hc).2.2.1⟩
  have hlines' := hreplaced (quote inner) (unbroken_quote hunbroken) (List.cons_ne_nil _ _)
  have hsource : ∀ text texts, Text.lines text = texts → Source.ofText text = .ofLines text texts := by
    rintro text texts rfl
    rfl
  rw [hread] at ht hclosed
  have hbody : StringBody inner := stringBody_of_forall fun c hc => ⟨(hinner c hc).1, (hinner c hc).2.1⟩
  have hlong : (quote inner).length = old.length := by simpa [quote] using hlength
  apply lintSource_rel (R := fun r r' => List.Forall₂ (Diagnostic.Refound old (quote inner)) r.diagnostics r'.diagnostics)
  rw [hsource _ _ hlines, hsource _ _ hlines']
  apply sortDiagnostics_forall₂ (diagnostics_requoted ht hold hclosed hfirst hbody hlong _ _ options)
  intro a ha a' ha' haa b hb b' hb' hbb
  exact before_refound ha ha' hb hb' haa hbb

/-- a literal in the place of a name, on the second line: only what it reads is shown otherwise -/
theorem lintDefault_requoted_const :
    (⟨.stringLiteral "\"a//\"".toList, 2, 7⟩ : Token) ∈ (Line.read 2 "const \"a//\" = f(1 ,2)".toList).tokens ∧
      ((Source.ofText ("x =1\r\nconst ".toList ++ "\"a//\"".toList ++ " = f(1 ,2)".toList)).report {}
        defaultRules).lineMessages =
          [(1, "missing space after \"=\""), (2, "`const` is not followed by a name (found `\"a//\"`)"),
            (2, "missing space after \",\""), (2, "unexpected space before \",\"")] ∧
      ((Source.ofText ("x =1\r\nconst ".toList ++ quote ['+', ',', ' '] ++ " = f(1 ,2)".toList)).report {}
        defaultRules).lineMessages =
          [(1, "missing space after \"=\""), (2, "`const` is not followed by a name (found `\"+, \"`)"),
            (2, "missing space after \",\""), (2, "unexpected space before \",\"")] ∧
      List.Forall₂ (Diagnostic.Refound "\"a//\"".toList (quote ['+', ',', ' ']))
        ((Source.ofText ("x =1\r\nconst ".toList ++ "\"a//\"".toList ++ " = f(1 ,2)".toList)).report {}
          defaultRules).diagnostics
        ((Source.ofText ("x =1\r\nconst ".toList ++ quote ['+', ',', ' '] ++ " = f(1 ,2)".toList)).report {}
          defaultRules).diagnostics := by
  have hlines : (Source.ofText ("x =1\r\nconst ".toList ++ "\"a//\"".toList ++ " = f(1 ,2)".toList)).lines =
      [Line.read 1 "x =1".toList, Line.read 2 "const \"a//\" = f(1 ,2)".toList] := by decide +kernel
  have hmem : (⟨.stringLiteral "\"a//\"".toList, 2, 7⟩ : Token) ∈
      (Line.read 2 "const \"a//\" = f(1 ,2)".toList).tokens := by decide +kernel
  have hstands : (⟨.stringLiteral "\"a//\"".toList, 2, 7⟩ : Token).StandsBehind "x =1\r\nconst ".toList :=
    ⟨by decide +kernel, by decide +kernel⟩
  have hinner : ∀ c ∈ ['+', ',', ' '], c ≠ '"' ∧ c ≠ '\\' ∧ c ≠ '\n' ∧ c ≠ '\r' := by simp
  have hreport : ∀ text, lintDefault text {} = .ok ((Source.ofText text).report {} defaultRules) := fun text =>
    lintDefault_eq text {}
  refine ⟨hmem, ?_, ?_, ?_⟩
  · rw [Report.lineMessages, diagnostics_report]
    decide +kernel
  · rw [Report.lineMessages, diagnostics_report]
    decide +kernel
  · exact (lintDefault_requoted (hlines ▸ List.mem_cons_of_mem _ List.mem_cons_self) hmem rfl hstands (by decide +kernel)
      (by decide +kernel) hinner rfl {}).2 _ _ (hreport _) (hreport _)

end VixStyle
