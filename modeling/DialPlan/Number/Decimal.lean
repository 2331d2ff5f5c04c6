import DialPlan.Number.Shortest
import DialPlan.Text.Blank
import DialPlan.Text.Digit

/-!
# Decimal numbers and numerals

A decimal number keeps the digits it was written with: `1.50` and `1.5` are equal but print
differently.  This module reads the three numeral grammars that rule data may use:

* `Decimal.ofText?`, the decimal grammar: underscores anywhere, any decimal digits, `inf` and `nan`;
* `Binary64.ofText?`, the plain grammar of doubles: underscores only between digits;
* `readSignedDigits`, the grammar of integers.

All three ignore blanks at the ends.

An integer of too many digits (`digitLimit`) is neither read from digits nor written with them.
Whoever reads or writes one asks `hasNumeral` first; floating and decimal numbers know no such
limit.
-/

namespace DialPlan

/-- **A decimal number**: signed digits with an exponent, or one of the special values.  A
signalling not-a-number has no value as a double. -/
inductive Decimal
  | finite (negative : Bool) (digits : Nat) (exponent : Int)
  | infinite (negative : Bool)
  | nan (negative : Bool) (signalling : Bool) (payload : Option Nat)
  deriving DecidableEq, Repr, Inhabited

/-! ## Integers in digits -/

/-- **The most digits an integer is read from or written with.** -/
def digitLimit : Nat := 4300

/-- What is complained of where there are more, with their number where it is known. -/
def digitComplaint (found : Option Nat) : String :=
  "Exceeds the limit (" ++ toString digitLimit ++ " digits) for integer string conversion" ++
    (match found with
      | some count => ": value has " ++ toString count ++ " digits"
      | none => "") ++
    "; use sys.set_int_max_str_digits() to increase the limit"

/-- **Whether an integer has a numeral** that is not too long. -/
def hasNumeral (n : Int) : Bool := n.natAbs < tenTo digitLimit

theorem hasNumeral_iff {n : Int} : hasNumeral n = true ↔ n.natAbs < tenTo digitLimit := by
  simp [hasNumeral]

/-! ## Reading numerals -/

/-- A text with its digits in ASCII; `none` stands for a character no numeral can hold. -/
def asciiNumeral (c : Char) : Char :=
  match Text.digitValue? c with
  | some d => Char.ofNat (48 + d)
  | none => c

/-- The value of an ASCII digit string, most significant digit first. -/
def digitsValue (cs : List Char) : Nat :=
  cs.foldl (fun n c => 10 * n + (c.toNat - 48)) 0

/-- An optional sign; true when it is a minus. -/
def splitSign : List Char → Bool × List Char
  | '-' :: rest => (true, rest)
  | '+' :: rest => (false, rest)
  | cs => (false, cs)

/-- ASCII letters made small. -/
def asciiLower (cs : List Char) : List Char :=
  cs.map fun c => if 'A' ≤ c ∧ c ≤ 'Z' then Char.ofNat (c.toNat + 32) else c

/-- The unsigned part of a numeral with point and exponent: its digits and its exponent. -/
def readScientific (cs : List Char) : Option (Nat × Int) := do
  let whole := cs.takeWhile Char.isDigit
  let rest := cs.dropWhile Char.isDigit
  let (fraction, rest) := match rest with
    | '.' :: r => (r.takeWhile Char.isDigit, r.dropWhile Char.isDigit)
    | r => ([], r)
  if whole.isEmpty && fraction.isEmpty then none
  else
    let digits := digitsValue (whole ++ fraction)
    let scale := -Int.ofNat fraction.length
    match rest with
    | [] => some (digits, scale)
    | mark :: r =>
      if mark == 'e' || mark == 'E' then
        let (negative, ds) := splitSign r
        if ds.isEmpty || !ds.all Char.isDigit then none
        else
          let e := Int.ofNat (digitsValue ds)
          some (digits, scale + (if negative then -e else e))
      else none

/-- The payload of a not-a-number, after its name. -/
def readPayload (cs : List Char) : Option (Option Nat) :=
  if cs.isEmpty then some none
  else if cs.all Char.isDigit then some (some (digitsValue cs))
  else none

namespace Decimal

/-- The largest exponent of a leading digit. -/
def maxExponent : Int := 999999999999999999

/-- The smallest exponent of a last digit. -/
def minExponent : Int := -1999999999999999997

/-- Whether a number of this size can be held exactly. -/
def inRange (digits : Nat) (exponent : Int) : Bool :=
  minExponent ≤ exponent &&
    exponent + Int.ofNat (decimalDigits digits).length - 1 ≤ maxExponent

/-- **Reading a decimal numeral.**  Blanks at the ends and underscores anywhere are dropped. -/
def ofText? (s : String) : Option Decimal :=
  let cs := ((Text.trimChars s.toList).filter (· != '_')).map asciiNumeral
  let (negative, body) := splitSign cs
  let word := asciiLower body
  if word == "inf".toList || word == "infinity".toList then some (.infinite negative)
  else if word.take 3 == "nan".toList then
    (readPayload (word.drop 3)).map (.nan negative false)
  else if word.take 4 == "snan".toList then
    (readPayload (word.drop 4)).map (.nan negative true)
  else
    match readScientific body with
    | some (digits, exponent) =>
      if inRange digits exponent then some (.finite negative digits exponent) else none
    | none => none

/-- The nearest double; a signalling not-a-number has none. -/
def toBinary64? : Decimal → Option Binary64
  | finite negative digits exponent => some (.ofDecimal negative digits exponent)
  | infinite negative => some (.infinite negative)
  | nan _ signalling _ => if signalling then none else some .nan

/-- Neither zero of any exponent. -/
def isZero : Decimal → Bool
  | finite _ digits _ => digits == 0
  | _ => false

/-- **The text of a decimal number**: positional while the exponent is not positive and the leading
digit is at most six places behind the point, else scientific. -/
def text : Decimal → String
  | infinite negative => if negative then "-Infinity" else "Infinity"
  | nan negative signalling payload =>
    String.ofList <| (if negative then ['-'] else []) ++ (if signalling then ['s'] else []) ++
      "NaN".toList ++ (match payload with | some n => if n = 0 then [] else decimalDigits n
                                          | none => [])
  | finite negative digits exponent =>
    let ds := decimalDigits digits
    let left := exponent + Int.ofNat ds.length
    let body :=
      if exponent ≤ 0 && -6 < left then
        if left ≤ 0 then '0' :: '.' :: List.replicate left.natAbs '0' ++ ds
        else
          ds.take left.natAbs ++
            (if left.natAbs < ds.length then '.' :: ds.drop left.natAbs else [])
      else
        let e := left - 1
        ds.take 1 ++ (if 1 < ds.length then '.' :: ds.drop 1 else []) ++
          (if e = 0 then [] else
            'E' :: (if e < 0 then '-' else '+') :: decimalDigits e.natAbs)
    String.ofList (if negative then '-' :: body else body)

end Decimal

/-- Underscores are allowed between two digits only; dropping them. -/
def dropGroupMarks : Bool → List Char → Option (List Char)
  | _, [] => some []
  | afterDigit, '_' :: rest =>
    match rest with
    | c :: _ => if afterDigit && c.isDigit then dropGroupMarks false rest else none
    | [] => none
  | _, c :: rest => (dropGroupMarks c.isDigit rest).map (c :: ·)

/-- What the two plain grammars trim: blanks other than the information separators. -/
def isNumeralBlank (c : Char) : Bool :=
  Text.isBlank c && !(0x1C ≤ c.toNat && c.toNat ≤ 0x1F)

/-- The characters of a plain numeral, trimmed and with ASCII digits. -/
def plainNumeral (s : String) : Option (List Char) :=
  let cs := s.toList.dropWhile isNumeralBlank
  let cs := (cs.reverse.dropWhile isNumeralBlank).reverse
  dropGroupMarks false (cs.map asciiNumeral)

/-- **Reading a double** in the plain grammar. -/
def Binary64.ofText? (s : String) : Option Binary64 := do
  let cs ← plainNumeral s
  let (negative, body) := splitSign cs
  let word := asciiLower body
  if word == "inf".toList || word == "infinity".toList then some (.infinite negative)
  else if word == "nan".toList then some .nan
  else
    let (digits, exponent) ← readScientific body
    some (.ofDecimal negative digits exponent)

/-- **Reading an integer**: whether it is negative, and its digits. -/
def readSignedDigits (s : String) : Option (Bool × List Char) := do
  let cs ← plainNumeral s
  let (negative, body) := splitSign cs
  if body.isEmpty || !body.all Char.isDigit then none else some (negative, body)

/-- The integer of a sign and digits. -/
def signedValue (negative : Bool) (digits : List Char) : Int :=
  let n := Int.ofNat (digitsValue digits)
  if negative then -n else n

end DialPlan
