import DialPlan.Json.Reader
import DialPlan.Json.Writer

/-!
# Written strings read back

A string is written character by character, and every character is read back as its code point.
Code points of characters are no surrogates, so joining them gives the characters themselves.
-/

namespace DialPlan.Json

/-! ## Single characters -/

/-- The escape of a control character is read back. -/
theorem hexFour_hexDigits : ∀ n < 0x20, ∃ a b c d,
    Text.hexDigits 4 n = [a, b, c, d] ∧ hexFour a b c d = some n := by
  intro n hn
  refine ⟨_, _, _, _, rfl, ?_⟩
  revert n
  decide

/-- What is put in front of a reading of code points. -/
def consCode (code : Nat) (r : Option (List Nat × List Char)) : Option (List Nat × List Char) :=
  r.map fun p => (code :: p.1, p.2)

theorem readCodes_plain {c : Char} (rest : List Char) (hquote : c ≠ '"') (hescape : c ≠ '\\')
    (hcontrol : ¬ c.toNat < 0x20) : readCodes (c :: rest) = consCode c.toNat (readCodes rest) := by
  rw [readCodes.eq_def]
  split
  · next heq => cases heq
  · next heq =>
    cases heq
    exact absurd rfl hquote
  · next heq =>
    cases heq
    exact absurd rfl hescape
  · next heq =>
    cases heq
    exact absurd rfl hescape
  · next heq =>
    cases heq
    have hplain : (decide (c.toNat < 0x20) || c == '\\') = false := by
      simp [hcontrol, hescape]
    rw [hplain, if_neg Bool.false_ne_true, consCode]
    cases readCodes rest <;> rfl

theorem readCodes_control {n : Nat} (hn : n < 0x20) (rest : List Char) :
    readCodes (unitEscape n ++ rest) = consCode n (readCodes rest) := by
  obtain ⟨a, b, c, d, hdigits, hvalue⟩ := hexFour_hexDigits n hn
  rw [unitEscape, hdigits]
  show readCodes ('\\' :: 'u' :: a :: b :: c :: d :: rest) = _
  rw [readCodes, hvalue, consCode]
  cases readCodes rest <;> rfl

/-- A character that a letter stands for is read back. -/
theorem readCodes_letter {letter c : Char} (hletter : letter ≠ 'u')
    (hunescape : unescape? letter = some c) (rest : List Char) :
    readCodes ('\\' :: letter :: rest) = consCode c.toNat (readCodes rest) := by
  rw [readCodes.eq_def]
  split
  · next heq => cases heq
  · next heq => cases heq
  · next heq =>
    cases heq
    exact absurd rfl hletter
  · next heq =>
    cases heq
    rw [hunescape, consCode]
    cases readCodes rest <;> rfl
  · next hno heq =>
    cases heq
    exact (hno letter rest rfl rfl).elim

/-- **A written character is read back** as its code point. -/
theorem readCodes_writeChar (c : Char) (rest : List Char) :
    readCodes (writeChar false c ++ rest) = consCode c.toNat (readCodes rest) := by
  unfold writeChar
  split
  · exact readCodes_letter (by decide) rfl rest
  · exact readCodes_letter (by decide) rfl rest
  · exact readCodes_letter (by decide) rfl rest
  · exact readCodes_letter (by decide) rfl rest
  · exact readCodes_letter (by decide) rfl rest
  · exact readCodes_letter (by decide) rfl rest
  · exact readCodes_letter (by decide) rfl rest
  · next hquote hescape _ _ _ _ _ =>
    split
    · next hcontrol => exact readCodes_control hcontrol rest
    · next hcontrol =>
      rw [Bool.false_and, if_neg Bool.false_ne_true]
      exact readCodes_plain rest hquote hescape hcontrol

/-! ## Joining code points -/

theorem not_surrogate (c : Char) : ¬ (0xD800 ≤ c.toNat ∧ c.toNat ≤ 0xDFFF) := by
  rintro ⟨hlow, hhigh⟩
  have hvalid : c.toNat < 0xD800 ∨ 0xDFFF < c.toNat ∧ c.toNat < 0x110000 := c.valid
  omega

theorem unitValue_toNat (c : Char) : unitValue c.toNat = c := by
  have hno := not_surrogate c
  rw [unitValue, if_neg (by simpa using hno), Char.ofNat_toNat]

/-- **The code points of characters join to the characters.** -/
theorem joinCodes_map_toNat (cs : List Char) : joinCodes (cs.map Char.toNat) = cs := by
  induction cs with
  | nil => rfl
  | cons c cs ih =>
    cases cs with
    | nil =>
      show [unitValue c.toNat] = [c]
      rw [unitValue_toNat]
    | cons d cs =>
      have hno : ¬ (0xD800 ≤ c.toNat ∧ c.toNat ≤ 0xDBFF) := fun h =>
        not_surrogate c ⟨h.1, by omega⟩
      rw [List.map_cons, List.map_cons, joinCodes, if_neg, unitValue_toNat, ← List.map_cons, ih]
      simp only [Bool.and_eq_true, decide_eq_true_eq]
      exact fun h => hno h.1.1

/-! ## Strings -/

theorem readCodes_body (cs rest : List Char) :
    readCodes (cs.flatMap (writeChar false) ++ '"' :: rest) = some (cs.map Char.toNat, rest) := by
  induction cs with
  | nil => rfl
  | cons c cs ih =>
    rw [List.flatMap_cons, List.append_assoc, readCodes_writeChar, ih]
    rfl

/-- **A written string is read back**, behind its opening quote. -/
theorem readString_writeString (s : String) (rest : List Char) :
    readString (s.toList.flatMap (writeChar false) ++ '"' :: rest) = some (s.toList, rest) := by
  rw [readString, readCodes_body]
  exact congrArg (fun cs => some (cs, rest)) (joinCodes_map_toNat s.toList)

end DialPlan.Json
