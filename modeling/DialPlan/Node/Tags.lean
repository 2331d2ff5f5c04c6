import DialPlan.Text.Blank

/-!
# Tags

Tags are kept as one text with commas between them.  Splitting trims every piece, drops the empty
ones and keeps each tag once, in the order of first use.
-/

namespace DialPlan

/-- The pieces between the commas of a text, at least one. -/
def commaPieces : List Char → List (List Char)
  | [] => [[]]
  | c :: cs =>
    if c = ',' then [] :: commaPieces cs
    else
      match commaPieces cs with
      | [] => [[c]]
      | p :: ps => (c :: p) :: ps

/-- The trimmed pieces that are not empty. -/
def tagPieces (cs : List Char) : List (List Char) :=
  ((commaPieces cs).map Text.trimChars).filter (!·.isEmpty)

/-- **The tags of a text.** -/
def splitTags (s : String) : List String :=
  ((tagPieces s.toList).map String.ofList).eraseDups

@[simp] theorem commaPieces_nil : commaPieces [] = [[]] := rfl

@[simp] theorem commaPieces_comma (cs : List Char) :
    commaPieces (',' :: cs) = [] :: commaPieces cs := by simp [commaPieces]

theorem commaPieces_ne_nil (cs : List Char) : commaPieces cs ≠ [] := by
  cases cs with
  | nil => simp
  | cons c cs =>
    by_cases h : c = ',' <;> simp only [commaPieces, h, if_true, if_false]
    · simp
    · split <;> simp

end DialPlan
