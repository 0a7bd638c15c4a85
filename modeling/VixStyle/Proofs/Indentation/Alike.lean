/-
The walk over lines that it does not tell apart.

The walk reads the number of a line, the blanks before its code, and its code, but neither its comments nor what its string
literals say. So two lines that differ in these only (`Line.Alike`) make it take the same step. Main statement,
`findings_alike`: over sources whose lines are alike, one by one, it finds the same.
-/
import VixStyle.Proofs.Indentation.Moved
import VixStyle.Proofs.Source.Alike

namespace VixStyle

namespace Rule.Indentation

theorem depthFault_alike {l l' : Lexeme} (h : l.Alike l') : depthFault l = depthFault l' := by
  refine h.congr depthFault fun _ _ => ?_
  funext unit p actual
  unfold depthFault
  cases p.anchor <;> rfl

theorem measure_alike {l l' : Lexeme} (h : l.Alike l') (unit : Option IndentUnit) (indentation : Indentation) :
    measure unit indentation l = measure unit indentation l' := by
  funext column p
  unfold measure
  rw [depthFault_alike h]

variable {old new : List Char} {f : Token → Token} (hf : Token.Swaps old new f)

include hf

theorem moves_swaps (code : List Token) (depth : Nat) : Moves id f id code depth depth where
  word _ := rfl
  lexeme := hf.alike
  pushed t _ word := by rw [hf.line, hf.column, id]
  stray t _ := by rw [strayAt, hf.line, hf.column, id, strayAt]

namespace Walk

variable {l l' : Line} (h : Line.Alike f l l') (w : Walk)

theorem placeOf_swaps (first : Token) : w.placeOf (f first) = w.placeOf first :=
  (hf.alike first).congr (place w.stack) fun _ _ => rfl

include h

theorem measured_alike (hcode : l.code ≠ []) (first : Token) (p : Place) :
    w.measured l' (f first) p = w.measured l first p := by
  unfold measured
  rw [h.indentation hcode, hf.column, measure_alike (hf.alike first)]

/-- **Lines that are alike** make the walk take the same step. -/
theorem step_alike : w.step l' = w.step l := by
  unfold step
  rw [h.code]
  cases hcode : l.code with
  | nil => rfl
  | cons first rest =>
    have hne : l.code ≠ [] := by simp [hcode]
    have hmoves := moves_swaps hf (first :: rest) (w.depthOf l first)
    have hplace := placeOf_swaps hf w first
    have hmeasured : w.measured l' (f first) (w.placeOf first) = w.measured l first (w.placeOf first) :=
      measured_alike hf h w hne first _
    have hdepth : w.depthOf l' (f first) = w.depthOf l first := by
      unfold depthOf
      rw [hplace, hmeasured]
    have hoff : w.offOf l' (f first) = w.offOf l first := by
      unfold offOf
      rw [hplace, hmeasured, h.number]
    have hanchor : (w.placeOf first).anchor = (w.placeOf first).anchor.map id := (congrFun Option.map_id _).symm
    have hstray : strayFirst (w.placeOf first) (f first) = strayFirst (w.placeOf first) first :=
      (strayFirst_moved hmoves hanchor List.mem_cons_self).trans (List.map_id _)
    have hnested : nested (w.placeOf first) (w.depthOf l first) (f first) (rest.map f) =
        nested (w.placeOf first) (w.depthOf l first) first rest := by
      have hmoved := nested_moved hmoves hanchor rfl (List.map_id _).symm
      rwa [List.map_id, List.map_id] at hmoved
    rw [List.map_cons]
    dsimp only
    rw [stepCode_eq, stepCode_eq, hplace, hmeasured, hdepth, hoff, hstray, hnested, ← List.map_cons,
      bracketBalance_map hf.alike, continuesOnNextLine_map hf.alike]

end Walk

theorem Walk.run_alike (w : Walk) {lines lines' : List Line} (h : List.Forall₂ (Line.Alike f) lines lines') :
    w.run lines' = w.run lines := by
  induction h generalizing w with
  | nil => rfl
  | cons hl _ ih =>
    unfold run
    rw [step_alike hf hl]
    dsimp only
    rw [ih]

/-- **Over lines that are alike**, one by one, the rule finds the same. -/
theorem findings_alike (options : Options) {lines lines' : List Line} (h : List.Forall₂ (Line.Alike f) lines lines') :
    findings options lines' = findings options lines := by
  unfold findings
  rw [Walk.run_alike hf _ h]

end Rule.Indentation

end VixStyle
