/-
Sets of words as sorted lists without repetition. Words are ordered by code point.
-/

namespace VixStyle.Text

/-- a word put into a sorted list, unless it is there -/
def insertWord (word : String) : List String → List String
  | [] => [word]
  | w :: more => if word < w then word :: w :: more else if word = w then w :: more else w :: insertWord word more

/-- the words of a list, each once, in ascending order -/
def wordSet (words : List String) : List String := words.foldr insertWord []

end VixStyle.Text
