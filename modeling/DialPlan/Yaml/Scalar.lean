import DialPlan.Fault
import DialPlan.Json.Reader

/-!
# Tags and scalars

A tag says what a node is to be made into.  A scalar that is written without quotes and without a
tag has the tag of its form: null, a boolean, an integer, a double, a date or a time, and a text
otherwise (`formTag`).  The forms are those of version 1.1 of the language: words such as `yes` and
`off`, integers with a base mark, underscores or parts of 60, and doubles that need a point.

What a scalar is made into depends on its tag alone (`scalarValue`).  A tag may stand with a text
that does not fit it, and a text may have the form of a date or an integer and still stand for none;
that is a fault.
-/

namespace DialPlan.Yaml

/-! ## Tags -/

/-- **What nodes are made into.** -/
inductive Tag
  | null
  | bool
  | int
  | float
  | binary
  | timestamp
  | str
  | seq
  | omap
  | pairs
  | map
  | set
  /-- A key that adds the entries of other mappings. -/
  | merge
  /-- A key whose value is what its mapping stands for. -/
  | value
  | unknown
  deriving DecidableEq, Repr, Inhabited

namespace Tag

/-- The tags that have a name, by the last part of it. -/
def named : List (String × Tag) :=
  [("null", null), ("bool", bool), ("int", int), ("float", float), ("binary", binary),
    ("timestamp", timestamp), ("str", str), ("seq", seq), ("omap", omap), ("pairs", pairs),
    ("map", map), ("set", set), ("merge", merge), ("value", value)]

/-- What the names of tags start with. -/
def standardPrefix : String := "tag:yaml.org,2002:"

/-- **The tag of a name** in full. -/
def ofName (name : String) : Tag :=
  match named.find? fun e => standardPrefix ++ e.1 == name with
  | some e => e.2
  | none => unknown

/-- Whether collections are made of it. -/
def isCollection : Tag → Bool
  | seq | omap | pairs | map | set => true
  | _ => false

end Tag

/-! ## Words -/

/-- The words for null. -/
def nullWords : List String := ["", "~", "null", "Null", "NULL"]

/-- The words for true. -/
def trueWords : List String :=
  ["yes", "Yes", "YES", "true", "True", "TRUE", "on", "On", "ON"]

/-- The words for false. -/
def falseWords : List String :=
  ["no", "No", "NO", "false", "False", "FALSE", "off", "Off", "OFF"]

/-! ## Numbers -/

/-- A digit or an underscore. -/
def isDigitOrMark (c : Char) : Bool := c.isDigit || c == '_'

/-- A text without its underscores. -/
def dropMarks (cs : List Char) : List Char := cs.filter (· != '_')

/-- The pieces between colons. -/
def colonPieces : List Char → List (List Char)
  | [] => [[]]
  | c :: cs =>
    match colonPieces cs with
    | [] => [[c]]
    | p :: ps => if c == ':' then [] :: p :: ps else (c :: p) :: ps

/-- A part of 60 behind a colon: one or two digits, the first of two below 6. -/
def isSixtieth (cs : List Char) : Bool :=
  match cs with
  | [d] => d.isDigit
  | [d, e] => '0' ≤ d && d ≤ '5' && e.isDigit
  | _ => false

/-- A nonempty text that starts with a digit and goes on with digits and underscores. -/
def isCount (cs : List Char) : Bool :=
  match cs with
  | d :: rest => d.isDigit && rest.all isDigitOrMark
  | [] => false

/-- A text with parts of 60: a count and at least one sixtieth. -/
def isSexagesimal (cs : List Char) : Bool :=
  match colonPieces cs with
  | whole :: part :: parts => isCount whole && (part :: parts).all isSixtieth
  | _ => false

/-- The form of an integer without a sign. -/
def isCardinal (cs : List Char) : Bool :=
  match cs with
  | '0' :: 'b' :: d :: ds => (d :: ds).all fun c => c == '0' || c == '1' || c == '_'
  | '0' :: 'x' :: d :: ds => (d :: ds).all fun c => (Json.hexValue? c).isSome || c == '_'
  | '0' :: ds => ds.all fun c => ('0' ≤ c && c ≤ '7') || c == '_'
  | cs => isCount cs || isSexagesimal cs

/-- **The form of an integer.** -/
def isInteger (cs : List Char) : Bool := isCardinal (splitSign cs).2

/-- An exponent with its sign, or nothing. -/
def isExponent (cs : List Char) : Bool :=
  match cs with
  | [] => true
  | mark :: sign :: d :: ds =>
    (mark == 'e' || mark == 'E') && (sign == '-' || sign == '+') && (d :: ds).all Char.isDigit
  | _ => false

/-- What stands before a point and what stands behind it. -/
def splitPoint (cs : List Char) : Option (List Char × List Char) :=
  match cs.dropWhile (· != '.') with
  | _ :: after => some (cs.takeWhile (· != '.'), after)
  | [] => none

/-- A number with a point and perhaps an exponent. -/
def isScientific (signed : Bool) (before after : List Char) : Bool :=
  let digits := after.takeWhile isDigitOrMark
  isExponent (after.dropWhile isDigitOrMark) &&
    (if before.isEmpty then !signed && isCount digits else isCount before)

/-- The form of a double without its sign. -/
def isMagnitude (signed : Bool) (cs : List Char) : Bool :=
  [".inf", ".Inf", ".INF"].contains (String.ofList cs) ||
    (!signed && [".nan", ".NaN", ".NAN"].contains (String.ofList cs)) ||
    match splitPoint cs with
    | none => false
    | some (before, after) =>
      isScientific signed before after || (isSexagesimal before && after.all isDigitOrMark)

/-- **The form of a double.** -/
def isDouble (cs : List Char) : Bool :=
  match cs with
  | '-' :: body | '+' :: body => isMagnitude true body
  | body => isMagnitude false body

/-! ## Dates and times -/

/-- One or two digits, and what follows. -/
def takeShort (cs : List Char) : Option (Nat × List Char) :=
  match cs with
  | d :: e :: rest =>
    if d.isDigit then
      if e.isDigit then some (digitsValue [d, e], rest) else some (digitsValue [d], e :: rest)
    else none
  | [d] => if d.isDigit then some (digitsValue [d], []) else none
  | [] => none

/-- Spaces and tabs. -/
def isInlineBlank (c : Char) : Bool := c == ' ' || c == '\t'

/-- An offset in minutes, or none; it ends the text. -/
def takeOffset (cs : List Char) : Option (Option Int) :=
  match cs.dropWhile isInlineBlank with
  | [] => if cs.isEmpty then some none else none
  | ['Z'] => some (some 0)
  | sign :: rest =>
    if sign == '+' || sign == '-' then do
      let (hours, rest) ← takeShort rest
      let minutes ← match rest with
        | [] => some 0
        | [':', d, e] => if d.isDigit && e.isDigit then some (digitsValue [d, e]) else none
        | _ => none
      let total := Int.ofNat (hours * 60 + minutes)
      some (some (if sign == '-' then -total else total))
    else none

/-- The microseconds behind a point. -/
def microsOf (ds : List Char) : Nat :=
  digitsValue ((ds ++ List.replicate 6 '0').take 6)

/-- The parts of a time of day. -/
structure ClockParts where
  hour : Nat
  minute : Nat
  second : Nat
  micros : Nat
  offset : Option Int

/-- A time of day behind a date. -/
def takeClock (cs : List Char) : Option ClockParts := do
  let cs ← match cs with
    | mark :: rest =>
      if mark == 'T' || mark == 't' then some rest
      else if isInlineBlank mark then some (rest.dropWhile isInlineBlank)
      else none
    | [] => none
  let (hour, cs) ← takeShort cs
  let cs ← DateTime.takeChar ':' cs
  let (minute, cs) ← DateTime.takeDigits 2 cs
  let cs ← DateTime.takeChar ':' cs
  let (second, cs) ← DateTime.takeDigits 2 cs
  let (micros, cs) := match cs with
    | '.' :: rest => (microsOf (rest.takeWhile Char.isDigit), rest.dropWhile Char.isDigit)
    | rest => (0, rest)
  let offset ← takeOffset cs
  some ⟨hour, minute, second, micros, offset⟩

/-- The parts of a date, its own digits counted: a date alone has two for month and day. -/
def takeDate (cs : List Char) : Option ((Nat × Nat × Nat) × List Char) := do
  let (year, cs) ← DateTime.takeDigits 4 cs
  let cs ← DateTime.takeChar '-' cs
  let (month, cs) ← takeShort cs
  let cs ← DateTime.takeChar '-' cs
  let (day, cs) ← takeShort cs
  some ((year, month, day), cs)

/-- A date that the calendar has. -/
def dateOf (year month day : Nat) : Except Fault CivilDate :=
  match CivilDate.ofParts? year month day with
  | some d => .ok d
  | none =>
    .error (if year < 1 || 9999 < year then .yearOutOfRange year
      else if month < 1 || 12 < month then .monthOutOfRange
      else .dayOutOfRange)

/-- A time that a clock shows. -/
def timeOf (year month day : Nat) (c : ClockParts) : Except Fault DateTime := do
  let offset := c.offset.getD 0
  if 1440 ≤ offset.natAbs then .error (.offsetOutOfRange offset)
  let date ← dateOf year month day
  match DateTime.ofParts? date c.hour c.minute c.second c.micros c.offset with
  | some t => .ok t
  | none =>
    .error (if 24 ≤ c.hour then .hourOutOfRange
      else if 60 ≤ c.minute then .minuteOutOfRange
      else .secondOutOfRange)

/-- A date or a time. -/
def readTime (cs : List Char) : Option (Except Fault Value) := do
  let ((year, month, day), rest) ← takeDate cs
  if rest.isEmpty then some ((dateOf year month day).map .date)
  else
    let c ← takeClock rest
    some ((timeOf year month day c).map .time)

/-- **The form of a date or a time**; a date alone has two digits for month and day. -/
def isTime (cs : List Char) : Bool :=
  (readTime cs).isSome && ((takeDate cs).all (!·.2.isEmpty) || cs.length = 10)

/-! ## Forms -/

/-- A text without a line break at its end; a line break alone stays. -/
def dropLastBreak (cs : List Char) : List Char :=
  if cs.getLast? = some '\n' && 1 < cs.length then cs.dropLast else cs

/-- **The tag of the form of a text.**  A line break at its end does not count. -/
def formTag (text : String) : Tag :=
  let cs := dropLastBreak text.toList
  let s := String.ofList cs
  if trueWords.contains s || falseWords.contains s then .bool
  else if isDouble cs then .float
  else if isInteger cs then .int
  else if s == "<<" then .merge
  else if nullWords.contains s then .null
  else if isTime cs then .timestamp
  else if s == "=" then .value
  else if ["!", "&", "*"].contains s then .unknown
  else .str

/-! ## Values -/

/-- The value of a digit in a base. -/
def digitIn? (base : Nat) (c : Char) : Option Nat := (Json.hexValue? c).filter (· < base)

/-- The mark that may stand before digits in a base. -/
def baseMark (base : Nat) : Option Char :=
  if base = 2 then some 'b' else if base = 8 then some 'o' else if base = 16 then some 'x' else none

/-- The digits of a numeral behind the mark of their base. -/
def dropBaseMark (base : Nat) (cs : List Char) : List Char :=
  match cs with
  | '0' :: mark :: rest => if baseMark base = some mark.toLower then rest else cs
  | cs => cs

/-- **An integer in a base.**  Too many decimal digits in a row are a fault, whatever comes behind
them. -/
def integerIn (base : Nat) (cs : List Char) : Except Fault Int :=
  let trimmed := ((cs.dropWhile isNumeralBlank).reverse.dropWhile isNumeralBlank).reverse
  let (negative, body) := splitSign (trimmed.map asciiNumeral)
  let body := dropBaseMark base body
  let digits := body.takeWhile Char.isDigit
  if base = 10 && digitLimit < digits.length then .error (.tooManyDigits (some digits.length))
  else
    match if body.isEmpty then none else body.mapM (digitIn? base) with
    | some ds =>
      let n := Int.ofNat (ds.foldl (fun n d => base * n + d) 0)
      .ok (if negative then -n else n)
    | none => .error (.notAnInteger base (String.ofList cs))

/-- An integer without its sign. -/
def cardinalValue (cs : List Char) : Except Fault Int :=
  match cs with
  | [] => .error .emptyNumeral
  | ['0'] => .ok 0
  | '0' :: 'b' :: ds => integerIn 2 ds
  | '0' :: 'x' :: ds => integerIn 16 ds
  | '0' :: _ => integerIn 8 cs
  | _ =>
    if cs.contains ':' then do
      .ok ((← (colonPieces cs).mapM (integerIn 10)).foldl (fun n part => 60 * n + part) 0)
    else integerIn 10 cs

/-- A numeral, which may not be empty, as its sign and what is behind it. -/
def signed (cs : List Char) : Except Fault (Bool × List Char) :=
  if cs.isEmpty then .error .emptyNumeral else .ok (splitSign cs)

/-- **The integer of a text.** -/
def integerValue (cs : List Char) : Except Fault Int := do
  let (negative, body) ← signed (dropMarks cs)
  let n ← cardinalValue body
  .ok (if negative then -n else n)

/-- The double of a numeral. -/
def doubleOf (cs : List Char) : Except Fault Binary64 :=
  match Binary64.ofText? (String.ofList cs) with
  | some x => .ok x
  | none => .error (.notADouble (String.ofList cs))

/-- The sum of numbers, the last one first, each weighing 60 times the one before it. -/
def addSixtieths (weight : Nat) (sum : Binary64) : List Binary64 → Except Fault Binary64
  | [] => .ok sum
  | x :: xs =>
    if (Binary64.ofInt weight).isFinite then
      addSixtieths (60 * weight) (sum.add (x.mul (.ofInt weight))) xs
    else .error .tooLarge

/-- A double without its sign. -/
def magnitudeValue (cs : List Char) : Except Fault Binary64 :=
  if cs == ".inf".toList then .ok (.infinite false)
  else if cs.contains ':' then do
    addSixtieths 1 .zero (← (colonPieces cs).mapM doubleOf).reverse
  else doubleOf cs

/-- **The double of a text.** -/
def doubleValue (cs : List Char) : Except Fault Binary64 := do
  let (negative, body) ← signed (Text.lower (String.ofList (dropMarks cs))).toList
  if body == ".nan".toList then .ok .nan
  else
    let x ← magnitudeValue body
    .ok (if negative then (Binary64.ofInt (-1)).mul x else x)

/-- The value of a letter of base 64. -/
def sextet? (c : Char) : Option Nat :=
  let n := c.toNat
  if 'A' ≤ c && c ≤ 'Z' then some (n - 65)
  else if 'a' ≤ c && c ≤ 'z' then some (n - 71)
  else if c.isDigit then some (n + 4)
  else if c == '+' then some 62
  else if c == '/' then some 63
  else none

/-- **The bytes of base 64.**  `count` letters of the present group of four have been met, `left` is
what is left of the last of them, and `pads` fillers came behind it; other characters are passed
over.  The text ends where fillers complete a group, and may not end inside of one. -/
def readBase64 (count left pads : Nat) : List Char → Option (List UInt8)
  | [] => if count = 0 then some [] else none
  | c :: cs =>
    if c == '=' then
      if count < 2 then readBase64 count left pads cs
      else if 4 ≤ count + pads + 1 then some []
      else readBase64 count left (pads + 1) cs
    else
      match sextet? c with
      | none => readBase64 count left pads cs
      | some d =>
        match count with
        | 0 => readBase64 1 d 0 cs
        | 1 => (readBase64 2 (d % 16) 0 cs).map (UInt8.ofNat (4 * left + d / 16) :: ·)
        | 2 => (readBase64 3 (d % 4) 0 cs).map (UInt8.ofNat (16 * left + d / 4) :: ·)
        | _ => (readBase64 0 0 0 cs).map (UInt8.ofNat (64 * left + d) :: ·)

/-- **Why a text cannot be read.** -/
inductive Flaw
  /-- The text has a mistake. -/
  | malformed
  /-- A scalar stands for a value that does not exist. -/
  | unusable (fault : Fault)
  deriving DecidableEq

/-- The result of reading. -/
abbrev Result (α : Type) := Except Flaw α

/-- The result of something that may be a mistake. -/
def orMalformed {α : Type} : Option α → Result α
  | some a => .ok a
  | none => .error .malformed

/-- The result of making a value. -/
def orUnusable {α : Type} : Except Fault α → Result α
  | .ok a => .ok a
  | .error f => .error (.unusable f)

/-- **What a scalar with a tag stands for.** -/
def scalarValue (tag : Tag) (text : String) : Result Value :=
  match tag with
  | .null => .ok .null
  | .str => .ok (.str text)
  | .bool =>
    let word := Text.lower text
    if ["yes", "true", "on"].contains word then .ok (.bool true)
    else if ["no", "false", "off"].contains word then .ok (.bool false)
    else .error (.unusable (.unknownWord word))
  | .int => orUnusable ((integerValue text.toList).map .int)
  | .float => orUnusable ((doubleValue text.toList).map .float)
  | .binary =>
    if text.toList.all (·.toNat < 0x80) then
      (orMalformed (readBase64 0 0 0 text.toList)).map .bytes
    else .error .malformed
  | .timestamp =>
    match readTime (dropLastBreak text.toList) with
    | some r => orUnusable r
    | none => .error (.unusable .notATime)
  | .seq | .omap | .pairs | .map | .set | .merge | .value | .unknown => .error .malformed

end DialPlan.Yaml
