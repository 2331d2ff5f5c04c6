import DialPlan.Number.Shortest

/-!
# Dates and times

Calendar dates, and times of day on a date with or without an offset from UTC.  Times are read from
ISO text or from a count of seconds since 1970 and written as ISO text.

Design decisions:

* Only dates that the calendar has are dates, and only times that a clock shows are times: the
  bounds are part of the types.
* An offset is a whole number of minutes, less than a day.
* Nothing here reads a clock; whoever needs the present time is given it.
-/

namespace DialPlan

/-- Leap years of the Gregorian calendar. -/
def isLeapYear (year : Nat) : Bool :=
  year % 4 == 0 && (year % 100 != 0 || year % 400 == 0)

/-- The length of a month. -/
def daysInMonth (year month : Nat) : Nat :=
  match month with
  | 2 => if isLeapYear year then 29 else 28
  | 4 | 6 | 9 | 11 => 30
  | _ => 31

/-- **Dates that the calendar has**, in the years 1 to 9999. -/
def InCalendar (year month day : Nat) : Prop :=
  (1 ≤ year ∧ year ≤ 9999) ∧ (1 ≤ month ∧ month ≤ 12) ∧ 1 ≤ day ∧ day ≤ daysInMonth year month

instance (year month day : Nat) : Decidable (InCalendar year month day) := by
  unfold InCalendar; infer_instance

/-- **A calendar date.** -/
structure CivilDate where
  year : Nat
  month : Nat
  day : Nat
  inCalendar : InCalendar year month day
  deriving DecidableEq

instance : Inhabited CivilDate := ⟨⟨1970, 1, 1, by decide⟩⟩

/-- **Times that a clock shows**, with an offset of less than a day. -/
def OnClock (hour minute second micros : Nat) (offset : Option Int) : Prop :=
  hour < 24 ∧ minute < 60 ∧ second < 60 ∧ micros < 1000000 ∧ (offset.getD 0).natAbs < 1440

instance (hour minute second micros : Nat) (offset : Option Int) :
    Decidable (OnClock hour minute second micros offset) := by
  unfold OnClock; infer_instance

/-- **A time of day on a date**, with the offset from UTC in minutes when there is one. -/
structure DateTime where
  date : CivilDate
  hour : Nat
  minute : Nat
  second : Nat
  micros : Nat
  offset : Option Int
  onClock : OnClock hour minute second micros offset
  deriving DecidableEq

instance : Inhabited DateTime := ⟨⟨default, 0, 0, 0, 0, some 0, by decide⟩⟩

/-- A number with leading zeros up to a width. -/
def padded (width n : Nat) : String :=
  let ds := decimalDigits n
  String.ofList (List.replicate (width - ds.length) '0' ++ ds)

namespace CivilDate

/-- A date, where the calendar has it. -/
def ofParts? (year month day : Nat) : Option CivilDate :=
  if h : InCalendar year month day then some ⟨year, month, day, h⟩ else none

/-- The date a number of days after 1970-01-01; eras of 400 years, years starting in March. -/
def ofDays? (days : Int) : Option CivilDate :=
  let z := days + 719468
  let era := z.fdiv 146097
  let doe := (z - era * 146097).toNat
  let yoe := (doe - doe / 1460 + doe / 36524 - doe / 146096) / 365
  let doy := doe - (365 * yoe + yoe / 4 - yoe / 100)
  let mp := (5 * doy + 2) / 153
  let day := doy - (153 * mp + 2) / 5 + 1
  let month := if mp < 10 then mp + 3 else mp - 9
  let year := Int.ofNat yoe + era * 400 + (if month ≤ 2 then 1 else 0)
  ofParts? year.toNat month day

/-- The number of a date, counted from the first day of the year 1. -/
def ordinal (d : CivilDate) : Nat :=
  let years := d.year - 1
  365 * years + years / 4 - years / 100 + years / 400 +
    (List.range (d.month - 1)).foldl (fun days m => days + daysInMonth d.year (m + 1)) 0 + d.day

/-- `YYYY-MM-DD`. -/
def text (d : CivilDate) : String :=
  padded 4 d.year ++ "-" ++ padded 2 d.month ++ "-" ++ padded 2 d.day

end CivilDate

namespace DateTime

/-- A time of day on a date, where a clock shows it. -/
def ofParts? (date : CivilDate) (hour minute second micros : Nat) (offset : Option Int) :
    Option DateTime :=
  if h : OnClock hour minute second micros offset then
    some ⟨date, hour, minute, second, micros, offset, h⟩
  else none

/-- Midnight on a date, without an offset. -/
def midnight (date : CivilDate) : DateTime :=
  ⟨date, 0, 0, 0, 0, none, by decide⟩

/-- The microsecond that a time stands for; without an offset it is counted as if in UTC. -/
def instant (t : DateTime) : Int :=
  let minutes : Int := (t.date.ordinal * 24 + t.hour) * 60 + t.minute - t.offset.getD 0
  (minutes * 60 + t.second) * 1000000 + t.micros

/-- The offset as `+hh:mm`. -/
def offsetText (offset : Int) : String :=
  let n := offset.natAbs
  (if offset < 0 then "-" else "+") ++ padded 2 (n / 60) ++ ":" ++ padded 2 (n % 60)

/-- The text of a time with a given separator between date and time of day; fractions of a second
are shown with six digits when there are any. -/
def textWith (separator : String) (t : DateTime) : String :=
  t.date.text ++ separator ++ padded 2 t.hour ++ ":" ++ padded 2 t.minute ++ ":" ++
    padded 2 t.second ++ (if t.micros = 0 then "" else "." ++ padded 6 t.micros) ++
    (match t.offset with | some o => offsetText o | none => "")

/-- **ISO text** of a time. -/
def iso (t : DateTime) : String :=
  t.textWith "T"

/-- A number of seconds and microseconds after the start of 1970, in UTC; `none` outside the years
1600 to 9999.  Counts beyond 2·10^10 are taken as milliseconds. -/
def ofUnix? (seconds : Int) (micros : Nat) : Option DateTime :=
  let (seconds, micros) :=
    if 20000000000 < seconds.natAbs then
      (seconds.fdiv 1000, (seconds.fmod 1000).toNat * 1000 + micros / 1000)
    else (seconds, micros)
  if seconds < -11676096000 || 253402300799 < seconds then none
  else do
    let inDay := (seconds.fmod 86400).toNat
    let date ← CivilDate.ofDays? (seconds.fdiv 86400)
    ofParts? date (inDay / 3600) (inDay / 60 % 60) (inDay % 60) micros (some 0)

/-- A fixed number of ASCII digits and what follows them. -/
def takeDigits : Nat → List Char → Option (Nat × List Char)
  | count, cs =>
    let ds := cs.take count
    if ds.length == count && ds.all Char.isDigit then
      some (ds.foldl (fun n c => 10 * n + (c.toNat - 48)) 0, cs.drop count)
    else none

/-- One given character and what follows it. -/
def takeChar (expected : Char) : List Char → Option (List Char)
  | c :: rest => if c == expected then some rest else none
  | [] => none

/-- A date at the start of a text. -/
def readDate (cs : List Char) : Option (CivilDate × List Char) := do
  let (year, cs) ← takeDigits 4 cs
  let cs ← takeChar '-' cs
  let (month, cs) ← takeDigits 2 cs
  let cs ← takeChar '-' cs
  let (day, cs) ← takeDigits 2 cs
  let date ← CivilDate.ofParts? year month day
  some (date, cs)

/-- A fraction of a second, cut after six digits. -/
def readFraction (cs : List Char) : Option (Nat × List Char) :=
  match cs with
  | mark :: rest =>
    if mark == '.' || mark == ',' then
      let ds := rest.takeWhile Char.isDigit
      if ds.isEmpty then none
      else
        let six := (ds ++ List.replicate 6 '0').take 6
        some (six.foldl (fun n c => 10 * n + (c.toNat - 48)) 0, rest.dropWhile Char.isDigit)
    else some (0, cs)
  | [] => some (0, [])

/-- An offset from UTC, which has to end the text. -/
def readOffset (cs : List Char) : Option (Option Int) :=
  match cs with
  | [] => some none
  | ['Z'] | ['z'] => some (some 0)
  | sign :: rest =>
    if sign == '+' || sign == '-' || sign == '−' then do
      let (hours, rest) ← takeDigits 2 rest
      let rest := match rest with | ':' :: r => r | r => r
      let (minutes, rest) ← takeDigits 2 rest
      if rest.isEmpty && hours < 24 && minutes < 60 then
        let total := Int.ofNat (hours * 60 + minutes)
        some (some (if sign == '+' then total else -total))
      else none
    else none

/-- A time of day with an optional offset. -/
def readTime (date : CivilDate) (cs : List Char) : Option DateTime := do
  let (hour, cs) ← takeDigits 2 cs
  let cs ← takeChar ':' cs
  let (minute, cs) ← takeDigits 2 cs
  let (second, micros, cs) ← match cs with
    | ':' :: rest => do
      let (second, rest) ← takeDigits 2 rest
      let (micros, rest) ← readFraction rest
      some (second, micros, rest)
    | rest => some (0, 0, rest)
  let offset ← readOffset cs
  ofParts? date hour minute second micros offset

/-- **Reading ISO text**: a date, then `T`, a space or an underscore and a time of day; a date alone
is its midnight. -/
def ofText? (s : String) : Option DateTime := do
  let (date, cs) ← readDate s.toList
  match cs with
  | [] => some (midnight date)
  | mark :: rest =>
    if mark == 'T' || mark == 't' || mark == ' ' || mark == '_' then readTime date rest else none

end DateTime

end DialPlan
