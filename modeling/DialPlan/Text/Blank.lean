import DialPlan.Text.Span

/-!
# Blank characters and trimming

White space in the wide sense: the Unicode space characters, the line and paragraph separators, and
the four information separators U+001C to U+001F.  `trim` removes it from both ends of a text.
-/

namespace DialPlan.Text

/-- **The blank code points**, in ascending order. -/
def blankSpans : List (Nat × Nat) :=
  [(0x9, 0xD), (0x1C, 0x20), (0x85, 0x85), (0xA0, 0xA0), (0x1680, 0x1680), (0x2000, 0x200A),
   (0x2028, 0x2029), (0x202F, 0x202F), (0x205F, 0x205F), (0x3000, 0x3000)]

/-- White space in the wide sense. -/
def isBlank (c : Char) : Bool :=
  inSpans blankSpans c.toNat

/-- Drop the blanks at the end. -/
def trimEndChars (cs : List Char) : List Char :=
  (cs.reverse.dropWhile isBlank).reverse

/-- Drop the blanks at both ends. -/
def trimChars (cs : List Char) : List Char :=
  trimEndChars (cs.dropWhile isBlank)

/-- **A text without the blanks at its ends.** -/
def trim (s : String) : String :=
  String.ofList (trimChars s.toList)

/-- A text of blanks alone, the empty text included. -/
def isBlankText (s : String) : Bool :=
  s.toList.all isBlank

@[simp] theorem trimChars_nil : trimChars [] = [] := rfl

@[simp] theorem toList_trim (s : String) : (trim s).toList = trimChars s.toList := by
  simp [trim]

end DialPlan.Text
