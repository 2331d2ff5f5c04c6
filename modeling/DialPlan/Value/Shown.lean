import DialPlan.Text.Quoted
import DialPlan.Value.Basic

/-!
# Values in messages

Two texts of a value: `shown`, unambiguous, with quotes around texts, as messages quote values; and
`text`, in which a text is itself, as identifiers and names are formed.

A value with an integer of too many digits in it has neither.  `Value.printable` tells, and whoever
puts a value into words asks it first: `Value.asText` and `Value.asShown`, beside the faults, do,
and so does `Value.requirePrintable`.
-/

namespace DialPlan

/-- The arguments that a date shows. -/
def CivilDate.arguments (d : CivilDate) : String :=
  toString d.year ++ ", " ++ toString d.month ++ ", " ++ toString d.day

/-- An offset as it is shown: in seconds, counted from a day earlier when it is negative. -/
def DateTime.shownOffset (offset : Int) : String :=
  if offset = 0 then "datetime.timezone.utc"
  else if offset < 0 then
    "datetime.timezone(datetime.timedelta(days=-1, seconds=" ++
      toString (86400 + 60 * offset) ++ "))"
  else "datetime.timezone(datetime.timedelta(seconds=" ++ toString (60 * offset) ++ "))"

/-- A time as it is shown; seconds and microseconds only when there are any. -/
def DateTime.shown (t : DateTime) : String :=
  let seconds :=
    if t.micros != 0 then ", " ++ toString t.second ++ ", " ++ toString t.micros
    else if t.second != 0 then ", " ++ toString t.second
    else ""
  "datetime.datetime(" ++ t.date.arguments ++ ", " ++ toString t.hour ++ ", " ++
    toString t.minute ++ seconds ++
    (match t.offset with | some o => ", tzinfo=" ++ shownOffset o | none => "") ++ ")"

namespace Value

mutual

/-- **Whether a value can be put into words**: no integer in it has too many digits. -/
def printable : Value → Bool
  | int n => hasNumeral n
  | list items | tuple items | set items => printableItems items
  | dict entries => printableEntries entries
  | _ => true

/-- Whether all of several values can be put into words. -/
def printableItems : List Value → Bool
  | [] => true
  | v :: vs => printable v && printableItems vs

/-- Whether all keys and values of a dictionary can be put into words. -/
def printableEntries : List (Value × Value) → Bool
  | [] => true
  | (k, v) :: es => printable k && printable v && printableEntries es

end

@[simp] theorem printable_str (s : String) : printable (str s) = true := by simp [printable]

@[simp] theorem printable_null : printable null = true := by simp [printable]

@[simp] theorem printable_bool (b : Bool) : printable (bool b) = true := by simp [printable]

@[simp] theorem printable_float (x : Binary64) : printable (float x) = true := by simp [printable]

@[simp] theorem printable_int (n : Int) : printable (int n) = hasNumeral n := by simp [printable]

@[simp] theorem printableItems_eq_all (vs : List Value) : printableItems vs = vs.all printable := by
  induction vs with
  | nil => simp [printableItems]
  | cons v vs ih => simp [printableItems, ih]

mutual

/-- **A value as messages quote it**, where it can be put into words. -/
def shown : Value → String
  | null => "None"
  | bool b => if b then "True" else "False"
  | int n => toString n
  | float x => x.text
  | decimal d => "Decimal('" ++ d.text ++ "')"
  | str s => Text.quoted s
  | bytes bs => Text.quotedBytes bs
  | date d => "datetime.date(" ++ d.arguments ++ ")"
  | time t => t.shown
  | list items => "[" ++ shownItems items ++ "]"
  | tuple items => "(" ++ shownItems items ++ (if items.length == 1 then ",)" else ")")
  | set items => if items.isEmpty then "set()" else "\x7b" ++ shownItems items ++ "\x7d"
  | dict entries => "\x7b" ++ shownEntries entries ++ "\x7d"
  | object kind => "<" ++ kind ++ " object>"

/-- Items with commas between them. -/
def shownItems : List Value → String
  | [] => ""
  | [v] => shown v
  | v :: vs => shown v ++ ", " ++ shownItems vs

/-- Entries with commas between them. -/
def shownEntries : List (Value × Value) → String
  | [] => ""
  | [(k, v)] => shown k ++ ": " ++ shown v
  | (k, v) :: es => shown k ++ ": " ++ shown v ++ ", " ++ shownEntries es

end

/-- **A value as an identifier or a name**, where it can be put into words: a text is itself. -/
def text : Value → String
  | str s => s
  | decimal d => d.text
  | date d => d.text
  | time t => t.textWith " "
  | v => v.shown

@[simp] theorem text_str (s : String) : text (str s) = s := rfl

end Value

end DialPlan
