import DialPlan.Text.Encoding
import DialPlan.Value.Basic

/-!
# Reading JSON

`Json.read` turns JSON text into a value.  Beyond the standard it takes `NaN`, `Infinity` and
`-Infinity`; a key written twice keeps its first place and its last value; a number with a point or
an exponent is a double, any other an integer.  An integer of too many digits stops the reading
where it stands, whatever follows it.

The reader works on characters and hands on what it has not read.  Every nested value costs at least
one character, so the length of the text is enough fuel.
-/

namespace DialPlan.Json

/-- The blanks between tokens. -/
def isGap (c : Char) : Bool :=
  c == ' ' || c == '\t' || c == '\n' || c == '\r'

/-- Skip blanks. -/
def skipGap (cs : List Char) : List Char :=
  cs.dropWhile isGap

/-- The value of a hexadecimal digit. -/
def hexValue? (c : Char) : Option Nat :=
  if '0' ≤ c && c ≤ '9' then some (c.toNat - 48)
  else if 'a' ≤ c && c ≤ 'f' then some (c.toNat - 87)
  else if 'A' ≤ c && c ≤ 'F' then some (c.toNat - 55)
  else none

/-- The four hexadecimal digits of an escape. -/
def hexFour (a b c d : Char) : Option Nat := do
  let a ← hexValue? a
  let b ← hexValue? b
  let c ← hexValue? c
  let d ← hexValue? d
  some (((a * 16 + b) * 16 + c) * 16 + d)

/-- The character that a letter after a backslash stands for. -/
def unescape? (c : Char) : Option Char :=
  match c with
  | '"' => some '"'
  | '\\' => some '\\'
  | '/' => some '/'
  | 'b' => some '\x08'
  | 'f' => some '\x0c'
  | 'n' => some '\n'
  | 'r' => some '\r'
  | 't' => some '\t'
  | _ => none

/-- The character of two surrogates. -/
def pairValue (high low : Nat) : Char :=
  Char.ofNat (0x10000 + (high - 0xD800) * 0x400 + (low - 0xDC00))

/-- The character of a single code unit; a lone surrogate is represented by its stand-in. -/
def unitValue (n : Nat) : Char :=
  if 0xD800 ≤ n && n ≤ 0xDFFF then Text.standIn n else Char.ofNat n

/-- The code points of a string up to its closing quote, and what follows; an escaped code unit
stands for itself, surrogate or not. -/
def readCodes : List Char → Option (List Nat × List Char)
  | [] => none
  | '"' :: rest => some ([], rest)
  | '\\' :: 'u' :: a :: b :: c :: d :: rest => do
    let code ← hexFour a b c d
    let (codes, rest) ← readCodes rest
    some (code :: codes, rest)
  | '\\' :: c :: rest => do
    let c ← unescape? c
    let (codes, rest) ← readCodes rest
    some (c.toNat :: codes, rest)
  | c :: rest =>
    if c.toNat < 0x20 || c == '\\' then none
    else do
      let (codes, rest) ← readCodes rest
      some (c.toNat :: codes, rest)

/-- The characters of code points, two surrogates that belong together being one. -/
def joinCodes : List Nat → List Char
  | [] => []
  | high :: low :: rest =>
    if 0xD800 ≤ high && high ≤ 0xDBFF && 0xDC00 ≤ low && low ≤ 0xDFFF then
      pairValue high low :: joinCodes rest
    else unitValue high :: joinCodes (low :: rest)
  | [code] => [unitValue code]

/-- The characters of a string up to its closing quote, and what follows. -/
def readString (cs : List Char) : Option (List Char × List Char) :=
  (readCodes cs).map fun (codes, rest) => (joinCodes codes, rest)

/-- The digits of an integer part: a zero alone or digits that do not start with one. -/
def readWhole (cs : List Char) : Option (List Char × List Char) :=
  match cs with
  | '0' :: rest => some (['0'], rest)
  | c :: _ =>
    if c.isDigit then some (cs.takeWhile Char.isDigit, cs.dropWhile Char.isDigit) else none
  | [] => none

/-- The digits after a point, if a point with digits follows. -/
def readFraction (cs : List Char) : List Char × List Char :=
  match cs with
  | '.' :: rest =>
    let ds := rest.takeWhile Char.isDigit
    if ds.isEmpty then ([], cs) else (ds, rest.dropWhile Char.isDigit)
  | _ => ([], cs)

/-- The exponent, if one follows. -/
def readExponent (cs : List Char) : Option Int × List Char :=
  match cs with
  | mark :: rest =>
    if mark == 'e' || mark == 'E' then
      let (negative, digits) := splitSign rest
      let ds := digits.takeWhile Char.isDigit
      if ds.isEmpty then (none, cs)
      else
        let n := Int.ofNat (digitsValue ds)
        (some (if negative then -n else n), digits.dropWhile Char.isDigit)
    else (none, cs)
  | [] => (none, [])

/-- **What is wrong with JSON text**: it has a mistake, or an integer in it has too many digits. -/
inductive Flaw
  | malformed
  | tooManyDigits (count : Nat)
  deriving DecidableEq, Repr

/-- A part that was read, or else a mistake. -/
def orMalformed {α : Type} : Option α → Except Flaw α
  | some a => .ok a
  | none => .error .malformed

@[simp] theorem orMalformed_some {α : Type} (a : α) : orMalformed (some a) = .ok a := rfl

@[simp] theorem orMalformed_none {α : Type} : orMalformed (none : Option α) = .error .malformed :=
  rfl

/-- A number. -/
def readNumber (cs : List Char) : Except Flaw (Value × List Char) := do
  let (negative, body) := match cs with
    | '-' :: rest => (true, rest)
    | _ => (false, cs)
  let (whole, rest) ← orMalformed (readWhole body)
  let (fraction, rest) := readFraction rest
  let (exponent, rest) := readExponent rest
  if fraction.isEmpty && exponent.isNone then
    if digitLimit < whole.length then .error (.tooManyDigits whole.length)
    else .ok (.int (signedValue negative whole), rest)
  else
    let digits := digitsValue (whole ++ fraction)
    let scale := exponent.getD 0 - Int.ofNat fraction.length
    .ok (.float (.ofDecimal negative digits scale), rest)

/-- The text after a given word. -/
def afterWord? (word : String) (cs : List Char) : Option (List Char) :=
  let w := word.toList
  if cs.take w.length == w then some (cs.drop w.length) else none

/-- A word or a number. -/
def readScalar (cs : List Char) : Except Flaw (Value × List Char) :=
  if let some rest := afterWord? "null" cs then .ok (.null, rest)
  else if let some rest := afterWord? "true" cs then .ok (.bool true, rest)
  else if let some rest := afterWord? "false" cs then .ok (.bool false, rest)
  else if let some rest := afterWord? "NaN" cs then .ok (.float .nan, rest)
  else if let some rest := afterWord? "Infinity" cs then .ok (.float (.infinite false), rest)
  else if let some rest := afterWord? "-Infinity" cs then .ok (.float (.infinite true), rest)
  else readNumber cs

mutual

/-- A value at the start of the characters, and what follows it. -/
def readValue : Nat → List Char → Except Flaw (Value × List Char)
  | 0, _ => .error .malformed
  | fuel + 1, cs =>
    match cs with
    | '"' :: rest => do
      let (s, rest) ← orMalformed (readString rest)
      .ok (.str (String.ofList s), rest)
    | '[' :: rest =>
      match skipGap rest with
      | ']' :: rest => .ok (.list [], rest)
      | rest => do
        let (items, rest) ← readItems fuel rest
        .ok (.list items, rest)
    | '\x7b' :: rest =>
      match skipGap rest with
      | '\x7d' :: rest => .ok (.dict [], rest)
      | rest => do
        let (entries, rest) ← readEntries fuel rest []
        .ok (.dict entries, rest)
    | cs => readScalar cs

/-- The items of an array up to its closing bracket. -/
def readItems : Nat → List Char → Except Flaw (List Value × List Char)
  | 0, _ => .error .malformed
  | fuel + 1, cs => do
    let (v, rest) ← readValue fuel cs
    match skipGap rest with
    | ']' :: rest => .ok ([v], rest)
    | ',' :: rest =>
      let (vs, rest) ← readItems fuel (skipGap rest)
      .ok (v :: vs, rest)
    | _ => .error .malformed

/-- The entries of an object up to its closing brace, added to those read before. -/
def readEntries : Nat → List Char → Entries → Except Flaw (Entries × List Char)
  | 0, _, _ => .error .malformed
  | fuel + 1, cs, seen =>
    match cs with
    | '"' :: rest => do
      let (key, rest) ← orMalformed (readString rest)
      match skipGap rest with
      | ':' :: rest =>
        let (v, rest) ← readValue fuel (skipGap rest)
        let seen := Entries.put seen (.str (String.ofList key)) v
        match skipGap rest with
        | '\x7d' :: rest => .ok (seen, rest)
        | ',' :: rest => readEntries fuel (skipGap rest) seen
        | _ => .error .malformed
      | _ => .error .malformed
    | _ => .error .malformed

end

/-- **Reading JSON text**: one value with nothing but blanks around it. -/
def read (text : String) : Except Flaw Value := do
  let cs := text.toList
  let (v, rest) ← readValue (cs.length + 1) (skipGap cs)
  if (skipGap rest).isEmpty then .ok v else .error .malformed

end DialPlan.Json
