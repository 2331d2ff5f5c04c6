import DialPlan.Proofs.Number.Digits
import DialPlan.Timestamp
import Mathlib.Algebra.Group.Nat.Defs

/-!
# Written times read back

The ISO text of a time is read back as the time itself (`ofText?_iso`): every number stands in as
many digits as its reader takes, a fraction of a second is left out exactly when it is zero, and an
offset keeps its sign.
-/

namespace DialPlan

/-! ## Numbers with leading zeros -/

theorem toList_padded (width n : Nat) : (padded width n).toList =
    List.replicate (width - (decimalDigits n).length) '0' ++ decimalDigits n :=
  String.toList_ofList

theorem allDigits_padded (width n : Nat) : AllDigits (padded width n).toList := by
  rw [toList_padded]
  exact (allDigits_zeros _).append (allDigits_decimalDigits n)

theorem digitsValue_padded (width n : Nat) : digitsValue (padded width n).toList = n := by
  rw [toList_padded, digitsValue_zeros_append, digitsValue_decimalDigits]

theorem length_padded {width n : Nat} (hwidth : 0 < width) (hn : n < 10 ^ width) :
    (padded width n).toList.length = width := by
  have hdigits : (decimalDigits n).length ≤ width :=
    (Nat.length_toDigits_le_iff (by decide) hwidth).mpr hn
  rw [toList_padded, List.length_append, List.length_replicate]
  omega

namespace DateTime

/-- **A padded number is read back** by a reader of its width. -/
theorem takeDigits_padded (width n : Nat) (hwidth : 0 < width) (hn : n < 10 ^ width)
    (rest : List Char) : takeDigits width ((padded width n).toList ++ rest) = some (n, rest) := by
  have hlength := length_padded hwidth hn
  have hall : (padded width n).toList.all Char.isDigit = true :=
    List.all_eq_true.mpr (allDigits_padded width n)
  have hvalue := digitsValue_padded width n
  rw [digitsValue] at hvalue
  simp only [takeDigits, List.take_left' hlength, List.drop_left' hlength, hlength, hall, hvalue,
    beq_self_eq_true, Bool.and_self, if_true]

theorem takeChar_self (c : Char) (rest : List Char) : takeChar c (c :: rest) = some rest := by
  rw [takeChar, if_pos (beq_self_eq_true c)]

/-! ## Dates -/

theorem daysInMonth_le (year month : Nat) : daysInMonth year month ≤ 31 := by
  unfold daysInMonth
  split
  · split <;> decide
  all_goals decide

/-- **A written date is read back.** -/
theorem readDate_text (d : CivilDate) (rest : List Char) :
    readDate (d.text.toList ++ rest) = some (d, rest) := by
  obtain ⟨⟨-, hyear⟩, ⟨-, hmonth⟩, -, hday⟩ := d.inCalendar
  have hlast := daysInMonth_le d.year d.month
  have hdate : CivilDate.ofParts? d.year d.month d.day = some d := dif_pos d.inCalendar
  have htext : d.text.toList ++ rest = (padded 4 d.year).toList ++ '-' ::
      ((padded 2 d.month).toList ++ '-' :: ((padded 2 d.day).toList ++ rest)) := by
    simp only [CivilDate.text, String.toList_append, List.append_assoc]
    rfl
  have hyears := takeDigits_padded 4 d.year (by decide) (by omega)
  have hmonths := takeDigits_padded 2 d.month (by decide) (by omega)
  have hdays := takeDigits_padded 2 d.day (by decide) (by omega)
  simp only [readDate, htext, hyears, hmonths, hdays, takeChar_self, hdate, Option.bind_eq_bind,
    Option.bind_some]

/-! ## Times of day -/

/-- The mark of an offset. -/
def offsetMark (offset : Int) : Char := if offset < 0 then '-' else '+'

theorem toList_offsetText (offset : Int) : (offsetText offset).toList = offsetMark offset ::
    ((padded 2 (offset.natAbs / 60)).toList ++ ':' :: (padded 2 (offset.natAbs % 60)).toList) := by
  simp only [offsetText, String.toList_append, List.append_assoc]
  by_cases hsign : offset < 0
  · rw [offsetMark, if_pos hsign, if_pos hsign]
    rfl
  · rw [offsetMark, if_neg hsign, if_neg hsign]
    rfl

/-- The characters of an offset, which may be missing. -/
def offsetChars : Option Int → List Char
  | some o => (offsetText o).toList
  | none => []

/-- The characters of a fraction of a second; none for zero. -/
def fractionChars (micros : Nat) : List Char :=
  if micros = 0 then [] else '.' :: (padded 6 micros).toList

theorem offsetChars_head (offset : Option Int) :
    ∀ c ∈ (offsetChars offset).head?, c = '+' ∨ c = '-' := by
  intro c hc
  cases offset with
  | none => cases hc
  | some o =>
    rw [offsetChars, toList_offsetText] at hc
    cases hc
    rw [offsetMark]
    split
    · exact Or.inr rfl
    · exact Or.inl rfl

theorem readFraction_fractionChars {micros : Nat} (h : micros < 1000000) (offset : Option Int) :
    readFraction (fractionChars micros ++ offsetChars offset) =
      some (micros, offsetChars offset) := by
  have hhead := offsetChars_head offset
  by_cases hzero : micros = 0
  · subst hzero
    rw [fractionChars, if_pos rfl, List.nil_append]
    cases hchars : offsetChars offset with
    | nil => rfl
    | cons c cs =>
      rw [hchars] at hhead
      rcases hhead c rfl with rfl | rfl <;> rfl
  · -- the digits are six, so the zeros that are put behind them are cut off again
    have hlength : (padded 6 micros).toList.length = 6 := length_padded (by decide) (by omega)
    have hne : (padded 6 micros).toList.isEmpty = false := by
      rw [← Bool.not_eq_true, List.isEmpty_iff]
      intro hnil
      rw [hnil] at hlength
      cases hlength
    have hnext : NoDigitNext (offsetChars offset) := by
      intro c hc
      rcases hhead c hc with rfl | rfl <;> rfl
    have hvalue := digitsValue_padded 6 micros
    rw [digitsValue] at hvalue
    rw [fractionChars, if_neg hzero, List.cons_append]
    simp only [readFraction, takeWhile_digits (allDigits_padded 6 micros) hnext,
      dropWhile_digits (allDigits_padded 6 micros) hnext, hne, List.take_left' hlength, hvalue]
    rfl

/-- A time that has a mark in front of its offset has that offset. -/
theorem readOffset_marked {mark : Char} (hmark : mark = '+' ∨ mark = '-') {hours minutes : Nat}
    (hhours : hours < 24) (hminutes : minutes < 60) :
    readOffset (mark :: ((padded 2 hours).toList ++ ':' :: (padded 2 minutes).toList)) =
      some (some (if mark == '+' then Int.ofNat (hours * 60 + minutes)
        else -Int.ofNat (hours * 60 + minutes))) := by
  have htakeHours := takeDigits_padded 2 hours (by decide) (by omega)
  have htakeMinutes := takeDigits_padded 2 minutes (by decide) (by omega) []
  rw [List.append_nil] at htakeMinutes
  have hends : ([] : List Char).isEmpty && decide (hours < 24) && decide (minutes < 60) := by
    simp [hhours, hminutes]
  unfold readOffset
  split
  · next heq => cases heq
  · next heq =>
    have hletter := (List.cons.inj heq).1
    rcases hmark with rfl | rfl <;> exact absurd hletter (by decide)
  · next heq =>
    have hletter := (List.cons.inj heq).1
    rcases hmark with rfl | rfl <;> exact absurd hletter (by decide)
  · next heq =>
    cases heq
    have hsign : (mark == '+' || mark == '-' || mark == '−') = true := by
      rcases hmark with rfl | rfl <;> decide
    simp only [hsign, if_true, htakeHours, htakeMinutes, Option.bind_eq_bind, Option.bind_some]
    rw [if_pos hends]

theorem readOffset_offsetChars {offset : Option Int} (h : (offset.getD 0).natAbs < 1440) :
    readOffset (offsetChars offset) = some offset := by
  cases offset with
  | none => rfl
  | some o =>
    have hminutes : o.natAbs < 1440 := h
    have htotal : o.natAbs / 60 * 60 + o.natAbs % 60 = o.natAbs := Nat.div_add_mod' o.natAbs 60
    have hmark : offsetMark o = '+' ∨ offsetMark o = '-' := offsetChars_head (some o) _ (by
      rw [offsetChars, toList_offsetText]
      rfl)
    rw [offsetChars, toList_offsetText, readOffset_marked hmark (by omega) (by omega), htotal,
      offsetMark]
    by_cases hsign : o < 0
    · rw [if_pos hsign, if_neg (by decide), Int.ofNat_eq_natCast]
      have hvalue : -(o.natAbs : Int) = o := by omega
      rw [hvalue]
    · rw [if_neg hsign, if_pos (by decide), Int.ofNat_eq_natCast]
      have hvalue : (o.natAbs : Int) = o := by omega
      rw [hvalue]

/-! ## Whole times -/

theorem toList_iso (t : DateTime) : t.iso.toList = t.date.text.toList ++ 'T' ::
    ((padded 2 t.hour).toList ++ ':' :: ((padded 2 t.minute).toList ++ ':' ::
      ((padded 2 t.second).toList ++ (fractionChars t.micros ++ offsetChars t.offset)))) := by
  have hfraction : (if t.micros = 0 then "" else "." ++ padded 6 t.micros).toList =
      fractionChars t.micros := by
    by_cases hzero : t.micros = 0
    · rw [fractionChars, if_pos hzero, if_pos hzero, String.toList_empty]
    · rw [fractionChars, if_neg hzero, if_neg hzero, String.toList_append]
      rfl
  have hmark : "T".toList = ['T'] := rfl
  have hcolon : ":".toList = [':'] := rfl
  rw [iso, textWith]
  simp only [String.toList_append, List.append_assoc, hfraction, hmark, hcolon, List.cons_append,
    List.nil_append]
  cases t.offset <;> rfl

/-- **A written time is read back.** -/
theorem ofText?_iso (t : DateTime) : ofText? t.iso = some t := by
  obtain ⟨hhour, hminute, hsecond, hmicros, hoffset⟩ := t.onClock
  have hclock : ofParts? t.date t.hour t.minute t.second t.micros t.offset = some t :=
    dif_pos t.onClock
  have hhours := takeDigits_padded 2 t.hour (by decide) (by omega)
  have hminutes := takeDigits_padded 2 t.minute (by decide) (by omega)
  have hseconds := takeDigits_padded 2 t.second (by decide) (by omega)
  have htime : readTime t.date ((padded 2 t.hour).toList ++ ':' ::
      ((padded 2 t.minute).toList ++ ':' :: ((padded 2 t.second).toList ++
        (fractionChars t.micros ++ offsetChars t.offset)))) = some t := by
    simp only [readTime, hhours, hminutes, hseconds, takeChar_self,
      readFraction_fractionChars hmicros, readOffset_offsetChars hoffset, hclock,
      Option.bind_eq_bind, Option.bind_some]
  simp only [ofText?, toList_iso, readDate_text, Option.bind_eq_bind, Option.bind_some]
  exact htime

end DateTime

end DialPlan
