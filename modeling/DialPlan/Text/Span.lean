/-!
# Spans of code points

Character classes are given as ascending lists of closed spans of code points.  A character is in
a class when one of the spans contains it; the search stops at the first span that starts beyond
it.
-/

namespace DialPlan.Text

/-- **Membership in a class**, given by its spans in ascending order. -/
def inSpans : List (Nat × Nat) → Nat → Bool
  | [], _ => false
  | (first, last) :: rest, n =>
    if n < first then false else if n ≤ last then true else inSpans rest n

@[simp] theorem inSpans_nil (n : Nat) : inSpans [] n = false := rfl

end DialPlan.Text
