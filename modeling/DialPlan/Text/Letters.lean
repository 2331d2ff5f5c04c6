import DialPlan.Text.CaseTable

/-!
# Small and capital letters

Lower-casing and upper-casing of whole texts.  Two characters leave the one-to-one table on the way
down: the dotted capital I becomes two characters, and a capital sigma becomes its final form when
it ends a word, that is, when a cased character stands before it and none stands after it, looking
through case-ignorable characters.
-/

namespace DialPlan.Text

/-- The first character that is not case-ignorable is a cased one. -/
def meetsCased : List Char → Bool
  | [] => false
  | c :: rest =>
    if inSpans ignorableSpans c.toNat then meetsCased rest else inSpans casedSpans c.toNat

/-- The small form of one character outside its context. -/
def lowerChar (c : Char) : Char :=
  Char.ofNat (mapByRuns lowerRuns c.toNat)

/-- The capital form of one character, where it is one character. -/
def upperChar (c : Char) : Char :=
  Char.ofNat (mapByRuns upperRuns c.toNat)

/-- Lower-casing with the characters already passed, nearest first. -/
def lowerFrom : List Char → List Char → List Char
  | _, [] => []
  | before, c :: rest =>
    let small :=
      if c == 'Σ' then
        if meetsCased before && !meetsCased rest then ['ς'] else ['σ']
      else if c == 'İ' then ['i', '\u0307']
      else [lowerChar c]
    small ++ lowerFrom (c :: before) rest

/-- **A text in small letters**, context rules included. -/
def lower (s : String) : String :=
  String.ofList (lowerFrom [] s.toList)

/-- The capital form of one character. -/
def upperForm (c : Char) : List Char :=
  match upperExpansions.lookup c.toNat with
  | some codes => codes.map Char.ofNat
  | none => [upperChar c]

/-- **A text in capital letters.** -/
def upper (s : String) : String :=
  String.ofList (s.toList.flatMap upperForm)

@[simp] theorem lowerFrom_nil (before : List Char) : lowerFrom before [] = [] := rfl

@[simp] theorem toList_lower (s : String) : (lower s).toList = lowerFrom [] s.toList := by
  simp [lower]

end DialPlan.Text
