import DialPlan.Number.Binary64

/-!
# The order of doubles

Doubles are compared by their counts, the infinities standing beyond all of them.  Not-a-number has
no count and compares false both ways; between any two others the order is that of the integers, so
what is known of a comparison is best said in counts (`Binary64.lt_iff`, `Binary64.le_iff`).
-/

namespace DialPlan.Binary64

variable {x y z : Binary64}

theorem lt_iff : x.lt y = true ↔ ∃ a b, x.scaled? = some a ∧ y.scaled? = some b ∧ a < b := by
  unfold lt
  cases x.scaled? <;> cases y.scaled? <;> simp

theorem le_iff : x.le y = true ↔ ∃ a b, x.scaled? = some a ∧ y.scaled? = some b ∧ a ≤ b := by
  unfold le
  cases x.scaled? <;> cases y.scaled? <;> simp

theorem same_iff : x.same y = true ↔ ∃ a, x.scaled? = some a ∧ y.scaled? = some a := by
  unfold same
  cases hx : x.scaled? <;> cases hy : y.scaled? <;> simp
  exact eq_comm

theorem zero_ne_nan : zero ≠ .nan := nofun

/-- **Every number has a count.** -/
theorem exists_scaled (h : x ≠ .nan) : ∃ a, x.scaled? = some a := by
  cases x with
  | nan => exact absurd rfl h
  | infinite negative => exact ⟨_, rfl⟩
  | finite negative units exact => exact ⟨_, rfl⟩

/-- What is compared is a number. -/
theorem ne_nan_of_lt (h : x.lt y = true) : y ≠ .nan := by
  rintro rfl
  obtain ⟨a, b, -, hb, -⟩ := lt_iff.mp h
  cases hb

/-- **Two numbers are in one order or the other.** -/
theorem lt_or_le (hx : x ≠ .nan) (hy : y ≠ .nan) : x.lt y = true ∨ y.le x = true := by
  obtain ⟨a, ha⟩ := exists_scaled hx
  obtain ⟨b, hb⟩ := exists_scaled hy
  rcases Int.lt_or_le a b with hab | hba
  · exact Or.inl (lt_iff.mpr ⟨a, b, ha, hb, hab⟩)
  · exact Or.inr (le_iff.mpr ⟨b, a, hb, ha, hba⟩)

theorem not_le_of_lt (h : x.lt y = true) : ¬ y.le x = true := by
  intro hle
  obtain ⟨a, b, ha, hb, hab⟩ := lt_iff.mp h
  obtain ⟨b', a', hb', ha', hba⟩ := le_iff.mp hle
  rw [ha] at ha'
  rw [hb] at hb'
  cases ha'
  cases hb'
  omega

theorem le_refl_of_ne_nan (h : x ≠ .nan) : x.le x = true := by
  obtain ⟨a, ha⟩ := exists_scaled h
  exact le_iff.mpr ⟨a, a, ha, ha, Int.le_refl a⟩

theorem le_of_lt_of_le (hxy : x.lt y = true) (hyz : y.le z = true) : x.le z = true := by
  obtain ⟨a, b, ha, hb, hab⟩ := lt_iff.mp hxy
  obtain ⟨b', c, hb', hc, hbc⟩ := le_iff.mp hyz
  rw [hb] at hb'
  cases hb'
  exact le_iff.mpr ⟨a, c, ha, hc, by omega⟩

theorem le_trans (hxy : x.le y = true) (hyz : y.le z = true) : x.le z = true := by
  obtain ⟨a, b, ha, hb, hab⟩ := le_iff.mp hxy
  obtain ⟨b', c, hb', hc, hbc⟩ := le_iff.mp hyz
  rw [hb] at hb'
  cases hb'
  exact le_iff.mpr ⟨a, c, ha, hc, by omega⟩

/-- What equals a number is above what the number is above. -/
theorem lt_of_same (hxy : x.lt y = true) (hyz : z.same y = true) : x.lt z = true := by
  obtain ⟨a, b, ha, hb, hab⟩ := lt_iff.mp hxy
  obtain ⟨b', hz, hb'⟩ := same_iff.mp hyz
  rw [hb] at hb'
  cases hb'
  exact lt_iff.mpr ⟨a, b, ha, hz, hab⟩

/-- What is at most a number is at most what equals it. -/
theorem le_of_le_of_same (hxy : x.le y = true) (hyz : y.same z = true) : x.le z = true := by
  obtain ⟨a, b, ha, hb, hab⟩ := le_iff.mp hxy
  obtain ⟨b', hb', hz⟩ := same_iff.mp hyz
  rw [hb] at hb'
  cases hb'
  exact le_iff.mpr ⟨a, b, ha, hz, hab⟩

end DialPlan.Binary64
