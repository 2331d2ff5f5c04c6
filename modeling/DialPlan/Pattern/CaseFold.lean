import DialPlan.Pattern.Basic

/-!
# Letters that count as equal

Comparison of characters when a pattern ignores case.  Two characters are equal when they have the
same small form, or when their small forms have the same capital (`kinTable`): the long s is an s,
the final sigma is a sigma.
-/

namespace DialPlan.CaseFold

/-- Small letters of one capital, each with the others. -/
def kinTable : List (Nat × List Nat) :=
  [(0x69, [0x131]), (0x73, [0x17F]), (0xB5, [0x3BC]), (0x131, [0x69]), (0x17F, [0x73]),
   (0x345, [0x3B9, 0x1FBE]), (0x390, [0x1FD3]), (0x3B0, [0x1FE3]), (0x3B2, [0x3D0]),
   (0x3B5, [0x3F5]), (0x3B8, [0x3D1]), (0x3B9, [0x345, 0x1FBE]), (0x3BA, [0x3F0]),
   (0x3BC, [0xB5]), (0x3C0, [0x3D6]), (0x3C1, [0x3F1]), (0x3C2, [0x3C3]), (0x3C3, [0x3C2]),
   (0x3C6, [0x3D5]), (0x3D0, [0x3B2]), (0x3D1, [0x3B8]), (0x3D5, [0x3C6]), (0x3D6, [0x3C0]),
   (0x3F0, [0x3BA]), (0x3F1, [0x3C1]), (0x3F5, [0x3B5]), (0x432, [0x1C80]), (0x434, [0x1C81]),
   (0x43E, [0x1C82]), (0x441, [0x1C83]), (0x442, [0x1C84, 0x1C85]), (0x44A, [0x1C86]),
   (0x463, [0x1C87]), (0x1C80, [0x432]), (0x1C81, [0x434]), (0x1C82, [0x43E]), (0x1C83, [0x441]),
   (0x1C84, [0x442, 0x1C85]), (0x1C85, [0x442, 0x1C84]), (0x1C86, [0x44A]), (0x1C87, [0x463]),
   (0x1C88, [0xA64B]), (0x1E61, [0x1E9B]), (0x1E9B, [0x1E61]), (0x1FBE, [0x345, 0x3B9]),
   (0x1FD3, [0x390]), (0x1FE3, [0x3B0]), (0xA64B, [0x1C88]), (0xFB05, [0xFB06]),
   (0xFB06, [0xFB05])]

/-- The small form that a comparison goes by. -/
def small (fold : CaseFold) (n : Nat) : Nat :=
  match fold with
  | .exact => n
  | .ascii => if 0x41 ≤ n && n ≤ 0x5A then n + 32 else n
  | .wide => if n = 0x130 then 0x69 else Text.mapByRuns Text.lowerRuns n

/-- The small letters that count as equal to one. -/
def kin (fold : CaseFold) (n : Nat) : List Nat :=
  match fold with
  | .wide => n :: (kinTable.lookup n).getD []
  | _ => [n]

/-- The characters whose small form is the given one. -/
def variants (fold : CaseFold) (n : Nat) : List Nat :=
  match fold with
  | .exact => [n]
  | .ascii => if 0x61 ≤ n && n ≤ 0x7A then [n, n - 32] else [n]
  | .wide => n :: Text.lowerRuns.filterMap (·.source? n) ++ (if n = 0x69 then [0x130] else [])

/-- Equality of two characters. -/
def equal (fold : CaseFold) (a b : Nat) : Bool :=
  (kin fold (small fold a)).contains (small fold b)

/-- All characters that count as equal to one. -/
def relatives (fold : CaseFold) (n : Nat) : List Nat :=
  (kin fold (small fold n)).flatMap (variants fold)

end DialPlan.CaseFold
