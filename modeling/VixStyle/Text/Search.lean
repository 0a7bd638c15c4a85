/-
Texts inside texts: whether one occurs in another, and a text cut at a character.
-/

namespace VixStyle.Text

/-- whether a text occurs in another -/
def occursIn (sought : List Char) : List Char → Bool
  | [] => sought.isEmpty
  | c :: rest => sought.isPrefixOf (c :: rest) || occursIn sought rest

theorem occursIn_iff {sought s : List Char} : occursIn sought s = true ↔ sought <:+: s := by
  induction s with
  | nil => simp [occursIn]
  | cons c rest ih => simp [occursIn, ih, List.infix_cons_iff]

/-- a text cut at every occurrence of a character -/
def cutAt (mark : Char) : List Char → List (List Char)
  | [] => [[]]
  | c :: rest =>
    if c = mark then [] :: cutAt mark rest
    else match cutAt mark rest with
      | part :: more => (c :: part) :: more
      | [] => [[c]]

end VixStyle.Text
