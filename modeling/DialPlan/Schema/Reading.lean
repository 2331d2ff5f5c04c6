import DialPlan.Fault
import DialPlan.Number.Decimal
import DialPlan.Schema.Issue
import DialPlan.Text.Encoding
import DialPlan.Text.Letters
import DialPlan.Table

/-!
# Reading data by shape

A reader takes a value of any kind and gives what it stands for, or all the issues it has
(`Checked`).  Readers of several fields are joined applicatively, so that the issues of every field
are collected, in the order of the fields.

Data can be in shape and still not be put to use, because an identifier in it cannot be put into
words.  Such a reading is stuck: issues anywhere else go before, and who uses what was read meets
the fault.

Readers are forgiving where the meaning is plain: a whole double or a numeral is an integer, `"yes"`
is true, a number of seconds is a time.
-/

namespace DialPlan

/-- **A reading**: what was read, what was read with the fault of using it, or everything that is
wrong. -/
inductive Checked (α : Type)
  | good (a : α)
  | stuck (fault : Fault) (a : α)
  | bad (issues : List Issue)
  deriving Inhabited

namespace Checked

variable {α β γ : Type}

/-- Apply a function to what was read. -/
def map (f : α → β) : Checked α → Checked β
  | good a => good (f a)
  | stuck e a => stuck e (f a)
  | bad issues => bad issues

/-- Two readings at once; the issues of both are kept. -/
def join (f : α → β → γ) : Checked α → Checked β → Checked γ
  | bad is, bad js => bad (is ++ js)
  | bad is, _ => bad is
  | _, bad js => bad js
  | stuck e a, good b | stuck e a, stuck _ b => stuck e (f a b)
  | good a, stuck e b => stuck e (f a b)
  | good a, good b => good (f a b)

instance : Applicative Checked where
  pure := good
  map := map
  seq f a := join (fun g b => g b) f (a ())

/-- A check of something that was read without issues. -/
def andThen (c : Checked α) (f : α → Checked β) : Checked β :=
  match c with
  | good a => f a
  | stuck e a => join (fun _ b => b) (stuck e ()) (f a)
  | bad issues => bad issues

/-- One issue at the place itself. -/
def fail (kind : IssueKind) : Checked α := bad [⟨[], kind⟩]

/-- The same reading from one level further out. -/
def under (step : Value) : Checked α → Checked α
  | good a => good a
  | stuck e a => stuck e a
  | bad issues => bad (issues.map (·.under step))

/-- What a value is put into words as; without words, the reading is stuck. -/
def ofWording (e : Except Fault α) (otherwise : α) : Checked α :=
  match e with
  | .ok a => good a
  | .error f => stuck f otherwise

/-- All readings of a list. -/
def all : List (Checked α) → Checked (List α)
  | [] => good []
  | c :: cs => join List.cons c (all cs)

/-- Readings of a list, each at its index. -/
def indexed (cs : List (Checked α)) : Checked (List α) :=
  all (cs.zipIdx.map fun (c, i) => c.under (.int i))

@[simp] theorem map_good (f : α → β) (a : α) : map f (good a) = good (f a) := rfl

@[simp] theorem join_good (f : α → β → γ) (a : α) (b : β) :
    join f (good a) (good b) = good (f a b) := rfl

@[simp] theorem under_good (step : Value) (a : α) : under step (good a) = good a := rfl

@[simp] theorem andThen_good (a : α) (f : α → Checked β) : (good a).andThen f = f a := rfl

theorem join_eq_good_iff {f : α → β → γ} {c : Checked α} {d : Checked β} {r : γ} :
    join f c d = good r ↔ ∃ a b, c = good a ∧ d = good b ∧ f a b = r := by
  cases c <;> cases d <;> simp [join]

end Checked

namespace Schema

variable {α : Type}

/-! ## Single values -/

/-- A text; bytes are the text that they encode. -/
def text : Value → Checked String
  | .str s => .good s
  | .bytes bs =>
    match Text.ofUtf8? bs with
    | some s => .good s
    | none => .fail .notUnicode
  | _ => .fail .notAString

/-- Null, or what a reader takes. -/
def optional (read : Value → Checked α) : Value → Checked (Option α)
  | .null => .good none
  | v => (read v).map some

/-- The sign of a numeral, and the rest of it. -/
def takeSign : List Char → Option (Bool × List Char)
  | '+' :: '-' :: _ => none
  | '+' :: rest => some (false, rest)
  | '-' :: rest => some (true, rest)
  | cs => some (false, cs)

/-- The digits of a numeral for an integer: digits with single underscores between them, a sign, and
zeros behind a point. -/
def readNumeral (s : String) : Option (Bool × List Char) := do
  let cs := s.toList.dropWhile isNumeralBlank
  let cs := (cs.reverse.dropWhile isNumeralBlank).reverse
  let (negative, cs) ← takeSign cs
  let whole := cs.takeWhile (· != '.')
  let fraction := (cs.dropWhile (· != '.')).drop 1
  if !fraction.all (· == '0') then none
  else
    let digits ← dropGroupMarks false whole
    if digits.isEmpty || !digits.all Char.isDigit then none else some (negative, digits)

/-- The largest magnitude of a double that is taken for an integer: 2^63. -/
def integerLimit : Int := 9223372036854775808

/-- The integer of a numeral. -/
def integerOfText (s : String) : Checked Int :=
  match readNumeral s with
  | some (negative, digits) =>
    if digits.length ≤ digitLimit then .good (signedValue negative digits)
    else .fail .integerTooLarge
  | none => .fail .unreadableInteger

/-- **An integer.** -/
def integer : Value → Checked Int
  | .int n => .good n
  | .bool b => .good (if b then 1 else 0)
  | .float x =>
    if !x.isFinite then .fail .notFinite
    else if !x.isIntegral then .fail .fractional
    else
      let n := x.truncate
      if -integerLimit < n && n < integerLimit then .good n else .fail .integerTooLarge
  | .str s => integerOfText s
  | .bytes bs =>
    match Text.ofUtf8? bs with
    | some s => integerOfText s
    | none => .fail .unreadableInteger
  | _ => .fail .notAnInteger

/-- An integer above a bound. -/
def integerAbove (bound : Int) (v : Value) : Checked Int :=
  (integer v).andThen fun n => if bound < n then .good n else .fail .notGreater

/-- An integer of at least a bound. -/
def integerFrom (bound : Int) (v : Value) : Checked Int :=
  (integer v).andThen fun n => if bound ≤ n then .good n else .fail .notGreaterOrEqual

/-- The words for false. -/
def falseWords : List String := ["0", "off", "f", "false", "n", "no"]

/-- The words for true. -/
def trueWords : List String := ["1", "on", "t", "true", "y", "yes"]

/-- The boolean of a word. -/
def booleanOfText (s : String) : Checked Bool :=
  let word := Text.lower s
  if falseWords.contains word then .good false
  else if trueWords.contains word then .good true
  else .fail .unreadableBoolean

/-- **A boolean.**  A whole number other than 0 and 1 cannot be read as one, and any other number
is none at all. -/
def boolean : Value → Checked Bool
  | .bool b => .good b
  | .int n =>
    if n = 0 then .good false
    else if n = 1 then .good true
    else if -integerLimit ≤ n && n < integerLimit then .fail .unreadableBoolean
    else .fail .notABoolean
  | .float x =>
    if x.isZero then .good false
    else if x.same (.ofInt 1) then .good true
    else if x.isIntegral && -integerLimit < x.truncate && x.truncate < integerLimit then
      .fail .unreadableBoolean
    else .fail .notABoolean
  | .str s => booleanOfText s
  | .bytes bs =>
    match Text.ofUtf8? bs with
    | some s => booleanOfText s
    | none => .fail .unreadableBoolean
  | _ => .fail .notABoolean

/-- **An identifier**: a text, or else an integer. -/
def identifier (v : Value) : Checked Value :=
  match (text v).under (.str "str"), (integer v).under (.str "int") with
  | .bad asText, .bad asInteger => .bad (asText ++ asInteger)
  | .bad _, read => read.map .int
  | read, _ => read.map .str

/-- One of a list of words. -/
def oneOf (read? : String → Option α) : Value → Checked α
  | .str s => match read? s with | some a => .good a | none => .fail .notListed
  | _ => .fail .notListed

/-- A time given by a number of seconds. -/
def timeOfSeconds (x : Binary64) : Option DateTime :=
  match x with
  | .finite negative units _ =>
    let whole := Int.ofNat (units / unitsPerOne)
    let micros := divideToEven (units % unitsPerOne * 1000000) unitsPerOne
    if negative then
      if micros = 0 then DateTime.ofUnix? (-whole) 0
      else DateTime.ofUnix? (-whole - 1) (1000000 - micros)
    else DateTime.ofUnix? (whole + micros / 1000000) (micros % 1000000)
  | _ => none

/-- A result that may be missing, with the issue that its absence is. -/
def orFail (kind : IssueKind) : Option α → Checked α
  | some a => .good a
  | none => .fail kind

/-- The time of a text. -/
def timeOfText (s : String) : Checked DateTime :=
  match DateTime.ofText? s with
  | some t => .good t
  | none =>
    if s.toList.all fun c => c.isDigit || c == '.' || c == '-' || c == '+' then
      orFail .unreadableTime ((Binary64.ofText? s).bind timeOfSeconds)
    else .fail .unreadableTime

/-- **A time**: ISO text, a number of seconds since 1970, or a date. -/
def time : Value → Checked DateTime
  | .time t => .good t
  | .date d => .good (.midnight d)
  | .int n => orFail .outOfRangeTime (DateTime.ofUnix? n 0)
  | .float x => orFail .outOfRangeTime (timeOfSeconds x)
  | .str s => timeOfText s
  | .bytes bs => timeOfText (Text.ofLatin bs)
  | _ => .fail .notATime

/-! ## Lists and dictionaries -/

/-- **A list**, item by item. -/
def list (read : Value → Checked α) : Value → Checked (List α)
  | .list items | .tuple items | .set items => .indexed (items.map read)
  | _ => .fail .notAList

/-- A list with at least one item. -/
def nonEmptyList (read : Value → Checked α) (v : Value) : Checked (List α) :=
  (list read v).andThen fun xs => if xs.isEmpty then .fail .tooShort else .good xs

/-- A key as messages quote it, whether or not it can be put into words. -/
def shownKey (v : Value) : String :=
  if v.printable then v.shown else "<unprintable " ++ v.kindName ++ " object>"

/-- How a key shows in a place: texts and the integers of a machine word are themselves. -/
def keyStep : Value → Value
  | .str s => .str s
  | .bool b => .int (if b then 1 else 0)
  | .int n =>
    if -integerLimit ≤ n && n < integerLimit then .int n else .str (shownKey (.int n))
  | v => .str (shownKey v)

/-- **A dictionary with text keys**, value by value. -/
def table (read : Value → Checked α) : Value → Checked (Table α)
  | .dict entries =>
    (Checked.all (entries.map fun (k, v) =>
      (Checked.join Prod.mk ((text k).under (.str "[key]")) (read v)).under (keyStep k))).map
      Table.ofList
  | _ => .fail .notADict

/-! ## Fields -/

/-- The value of a field, which may go by its wire name or by its plain name. -/
def lookup (entries : Entries) (wire plain : String) : Option Value :=
  (entries.get? wire).or (entries.get? plain)

/-- **A field that may be absent.** -/
def field (entries : Entries) (wire plain : String) (read : Value → Checked α) (absent : α) :
    Checked α :=
  match lookup entries wire plain with
  | some v => (read v).under (.str wire)
  | none => .good absent

/-- **A field that has to be there.** -/
def required (entries : Entries) (wire plain : String) (read : Value → Checked α) : Checked α :=
  match lookup entries wire plain with
  | some v => (read v).under (.str wire)
  | none => Checked.fail .missing |>.under (.str wire)

/-- An optional field; null counts as absent. -/
def optionalField (entries : Entries) (wire plain : String) (read : Value → Checked α) :
    Checked (Option α) :=
  field entries wire plain (optional read) none

/-- **No fields beyond the known ones.** -/
def noOthers (entries : Entries) (known : List String) : Checked Unit :=
  let issues := entries.filterMap fun (k, _) =>
    match k with
    | .str s => if known.contains s then none else some ⟨[.str s], .extraForbidden⟩
    | k => some ⟨[keyStep k], .invalidKey⟩
  if issues.isEmpty then .good () else .bad issues

/-- The entries of an object. -/
def model (read : Entries → Checked α) : Value → Checked α
  | .dict entries => read entries
  | _ => .fail .notAModel

end Schema

end DialPlan
