import DialPlan.Fault
import DialPlan.Node.Tags
import DialPlan.Text.Letters
import DialPlan.Vocabulary

/-!
# Coercion

A comparison reads both of its sides in the declared type of the field: as a number, as a duration
in milliseconds, as a text or as a set of texts.  A value that cannot be read that way is a fault.
-/

namespace DialPlan

/-- **A value as a number.**  Booleans are none; a text is read in the decimal grammar. -/
def coerceNumber : Value → Except Fault Binary64
  | .bool _ => .error (.booleanAs "number")
  | .int n => numberOfInt n
  | .float x => .ok x
  | .decimal d => numberOfDecimal d
  | .str s =>
    match Decimal.ofText? s with
    | some d => numberOfDecimal d
    | none => .error (.notANumber (.str s))
  | v => .error (.notCoercible v.kindName "number")
where
  /-- An integer beyond the doubles is a fault. -/
  numberOfInt (n : Int) : Except Fault Binary64 :=
    let x := Binary64.ofInt n
    if x.isFinite then .ok x else .error .tooLarge
  /-- A signalling not-a-number is a fault. -/
  numberOfDecimal (d : Decimal) : Except Fault Binary64 :=
    match d.toBinary64? with
    | some x => .ok x
    | none => .error .signallingNan

/-! ## Durations -/

/-- The units of a duration. -/
inductive DurationUnit
  | milliseconds
  | seconds
  | minutes
  | hours
  deriving DecidableEq, Repr

/-- The length of a unit in milliseconds. -/
def DurationUnit.length : DurationUnit → Nat
  | milliseconds => 1
  | seconds => 1000
  | minutes => 60000
  | hours => 3600000

/-- Letters that the unit *s* may be written with: the long s passes for one. -/
def isSecondsLetter (c : Char) : Bool := c == 's' || c == 'S' || c == 'ſ'

/-- A unit mark.  A mark with a long s has the form of a unit but names none. -/
def readUnit : List Char → Option (Except Fault DurationUnit)
  | [] => some (.ok .milliseconds)
  | [c] =>
    if c == 'm' || c == 'M' then some (.ok .minutes)
    else if c == 'h' || c == 'H' then some (.ok .hours)
    else if isSecondsLetter c then
      some (if c == 'ſ' then .error (.unknownUnit "ſ") else .ok .seconds)
    else none
  | [c, d] =>
    if (c == 'm' || c == 'M') && isSecondsLetter d then
      some (if d == 'ſ' then .error (.unknownUnit "mſ") else .ok .milliseconds)
    else none
  | _ => none

/-- A text of the form of a duration: its number, and its unit. -/
def readDuration (s : String) : Option (Binary64 × Except Fault DurationUnit) := do
  let cs := s.toList.dropWhile Text.isBlank
  let (negative, cs) := match cs with
    | '-' :: rest => (true, rest)
    | _ => (false, cs)
  let whole := cs.takeWhile Text.isDigit
  let cs := cs.dropWhile Text.isDigit
  if whole.isEmpty then none
  else
    let (fraction, cs) ← match cs with
      | '.' :: rest =>
        let ds := rest.takeWhile Text.isDigit
        if ds.isEmpty then none else some (ds, rest.dropWhile Text.isDigit)
      | _ => some ([], cs)
    let unit ← readUnit (Text.trimEndChars (cs.dropWhile Text.isBlank))
    let digits := digitsValue ((whole ++ fraction).map asciiNumeral)
    some (.ofDecimal negative digits (-Int.ofNat fraction.length), unit)

/-- **A value as a duration in milliseconds.**  Numbers are milliseconds; a text may have a unit,
by which its number is multiplied. -/
def parseDuration : Value → Except Fault Binary64
  | .bool _ => .error (.booleanAs "duration")
  | .int n => coerceNumber.numberOfInt n
  | .float x => .ok x
  | .decimal d => coerceNumber.numberOfDecimal d
  | .str s =>
    match readDuration s with
    | some (x, unit) => do .ok (x.mul (.ofInt (← unit).length))
    | none => .error (.notADuration (.str s))
  | v => .error (.notCoercible v.kindName "duration")

/-! ## Texts and sets -/

/-- **A value as a text**: a double without fraction like the integer it is.  An integer of too many
digits has none. -/
def coerceText : Value → Except Fault String
  | .str s => .ok s
  | .bool b => .ok (if b then "true" else "false")
  | .float x => .ok (if x.isIntegral then toString x.truncate else x.text)
  | .int n => numeralOf n
  | .decimal d => .ok d.text
  | v => .error (.notCoercible v.kindName "text")

/-- The texts of several values, the first fault winning. -/
def coerceTexts : List Value → Except Fault (List String)
  | [] => .ok []
  | v :: vs => do .ok ((← coerceText v) :: (← coerceTexts vs))

/-- **A value as a set of texts**: the tags of a text, or the texts of a collection. -/
def coerceSet : Value → Except Fault (List String)
  | .str s => .ok (splitTags s)
  | .list items | .tuple items | .set items => do .ok (← coerceTexts items).eraseDups
  | v => .error (.notCoercible v.kindName "set")

/-- **A value as the right side of a list operator.** -/
def asList (v : Value) : Except Fault (List Value) :=
  match v.collection? with
  | some items => .ok items
  | none => .error .listExpected

/-! ## Scalars -/

/-- What a scalar comparison compares. -/
inductive Scalar
  | text (s : String)
  | number (x : Binary64)
  deriving DecidableEq, Inhabited

namespace Scalar

/-- Equality of scalars. -/
def same : Scalar → Scalar → Bool
  | text a, text b => a == b
  | number x, number y => x.same y
  | _, _ => false

/-- Strict order of scalars. -/
def lt : Scalar → Scalar → Bool
  | text a, text b => a < b
  | number x, number y => x.lt y
  | _, _ => false

/-- Order of scalars. -/
def le : Scalar → Scalar → Bool
  | text a, text b => !(b < a)
  | number x, number y => x.le y
  | _, _ => false

end Scalar

/-- How the values of a field type are read, when they are single values. -/
def FieldType.coercion? : FieldType → Option (Value → Except Fault Scalar)
  | .string | .enum => some fun v => Scalar.text <$> coerceText v
  | .number => some fun v => Scalar.number <$> coerceNumber v
  | .duration => some fun v => Scalar.number <$> parseDuration v
  | .set => none

/-- How the values of a field type are read, for an operator on single values. -/
def FieldType.coercion (t : FieldType) (o : Operator) :
    Except Fault (Value → Except Fault Scalar) :=
  match t.coercion? with
  | some f => .ok f
  | none => .error (.unsupportedField o.name t.name)

/-- The readings of several values, the first fault winning. -/
def coerceAll (f : Value → Except Fault Scalar) : List Value → Except Fault (List Scalar)
  | [] => .ok []
  | v :: vs => do .ok ((← f v) :: (← coerceAll f vs))

end DialPlan
