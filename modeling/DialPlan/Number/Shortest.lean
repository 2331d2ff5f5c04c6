import DialPlan.Number.Binary64

/-!
# Shortest decimal text of a double

A double is written with the fewest significant digits that read back as the same double, the
nearest of those when there is a choice.  For one, two, ... seventeen digits the two neighbours of
the value on that decimal grid are tried; the first grid with a hit wins.

Notation is positional from 10^-4 up to 10^16 and always shows a fraction part; outside that range
it has one digit before the point and a signed exponent of at least two digits.
-/

namespace DialPlan

/-- The decimal digits of a natural number. -/
def decimalDigits (n : Nat) : List Char :=
  Nat.toDigits 10 n

/-- **A positive decimal number** `digits · 10^exponent`. -/
structure DecimalDigits where
  digits : Nat
  exponent : Int
  deriving DecidableEq, Repr

namespace DecimalDigits

/-- The double that the digits stand for. -/
def toBinary64 (d : DecimalDigits) (negative : Bool) : Binary64 :=
  Binary64.ofDecimal negative d.digits d.exponent

/-- The largest grid point not above `units · 2^-1074`, on the grid of multiples of
`10^exponent`. -/
def below (units : Nat) (exponent : Int) : DecimalDigits :=
  match exponent with
  | .ofNat e => ⟨units / (unitsPerOne * tenTo e), exponent⟩
  | .negSucc e => ⟨units * tenTo (e + 1) / unitsPerOne, exponent⟩

/-- Whether `units · 2^-1074` is nearer to the grid point above `d` than to `d`; at equal distance
the even one wins. -/
def nearerAbove (units : Nat) (d : DecimalDigits) : Bool :=
  let (num, den) := match d.exponent with
    | .ofNat e => (units, unitsPerOne * tenTo e)
    | .negSucc e => (units * tenTo (e + 1), unitsPerOne)
  let rest := 2 * (num % den)
  den < rest || (den == rest && d.digits % 2 == 1)

/-- The exponent of the leading decimal digit of `units · 2^-1074`, for positive counts. -/
def leadingExponent (units : Nat) : Int :=
  Int.ofNat (decimalDigits (units * tenTo 400 / unitsPerOne)).length - 401

/-- The grid points next to the value that read back as it, on one grid; the nearer first. -/
def hits (units : Nat) (target : Binary64) (negative : Bool) (exponent : Int) :
    List DecimalDigits :=
  let low := below units exponent
  let high := { low with digits := low.digits + 1 }
  let pair := if nearerAbove units low then [high, low] else [low, high]
  pair.filter fun d => d.toBinary64 negative == target

/-- Every double has a finite decimal expansion. -/
def exact (units : Nat) : DecimalDigits :=
  ⟨units * Nat.pow 5 1074, -1074⟩

/-- The first hit among the grids of `count` digits and more. -/
def search (units : Nat) (target : Binary64) (negative : Bool) (lead : Int) :
    List Nat → DecimalDigits
  | [] => exact units
  | count :: more =>
    match hits units target negative (lead - Int.ofNat count) with
    | d :: _ => d
    | [] => search units target negative lead more

/-- Without the zeros at the end of its digits. -/
def stripZeros : Nat → DecimalDigits → DecimalDigits
  | 0, d => d
  | fuel + 1, d =>
    if d.digits != 0 && d.digits % 10 == 0 then
      stripZeros fuel ⟨d.digits / 10, d.exponent + 1⟩
    else d

end DecimalDigits

/-- **The shortest digits** of a positive count. -/
def shortestDigits (negative : Bool) (units : Nat) : DecimalDigits :=
  DecimalDigits.search units (Binary64.ofUnits negative units) negative
    (DecimalDigits.leadingExponent units) (List.range 17)

/-- An exponent with its sign and at least two digits. -/
def exponentText (e : Int) : List Char :=
  let ds := decimalDigits e.natAbs
  (if e < 0 then '-' else '+') :: (if ds.length < 2 then '0' :: ds else ds)

/-- **The layout of a double's digits**: positional from 10^-4 up to 10^16, else scientific. -/
def layoutDigits (d : DecimalDigits) : List Char :=
  let d := DecimalDigits.stripZeros (decimalDigits d.digits).length d
  let ds := decimalDigits d.digits
  let point := Int.ofNat ds.length + d.exponent
  if -4 < point && point ≤ 16 then
    if point ≤ 0 then '0' :: '.' :: List.replicate point.natAbs '0' ++ ds
    else if point.natAbs < ds.length then
      ds.take point.natAbs ++ '.' :: ds.drop point.natAbs
    else ds ++ List.replicate (point.natAbs - ds.length) '0' ++ ['.', '0']
  else
    match ds with
    | [] => []
    | first :: rest =>
      (if rest.isEmpty then [first] else first :: '.' :: rest) ++ 'e' :: exponentText (point - 1)

namespace Binary64

/-- **The text of a double.** -/
def text : Binary64 → String
  | nan => "nan"
  | infinite negative => if negative then "-inf" else "inf"
  | finite negative units _ =>
    let body := if units = 0 then ['0', '.', '0'] else layoutDigits (shortestDigits negative units)
    String.ofList (if negative then '-' :: body else body)

end Binary64

end DialPlan
