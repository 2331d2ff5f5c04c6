import DialPlan.Rule.Validation

/-!
# Outcomes in steps

An operation that is a row of steps succeeds exactly when each of its steps does.  These lemmas take
such operations apart, one step at a time.
-/

namespace DialPlan

/-- **A row of two steps** gives an answer exactly when both do. -/
theorem bind_eq_ok_iff {ε α β : Type} {x : Except ε α} {f : α → Except ε β} {b : β} :
    (x >>= f) = .ok b ↔ ∃ a, x = .ok a ∧ f a = .ok b := by
  cases x with
  | error e => simp [bind, Except.bind]
  | ok a => simp [bind, Except.bind]

theorem ok_bind {ε α β : Type} (a : α) (f : α → Except ε β) : ((.ok a : Except ε α) >>= f) = f a :=
  rfl

theorem error_bind {ε α β : Type} (e : ε) (f : α → Except ε β) :
    ((.error e : Except ε α) >>= f) = .error e :=
  rfl

theorem map_eq_ok_iff {ε α β : Type} {x : Except ε α} {f : α → β} {b : β} :
    f <$> x = .ok b ↔ ∃ a, x = .ok a ∧ f a = b := by
  cases x with
  | error e => simp [Functor.map, Except.map]
  | ok a => simp [Functor.map, Except.map]

/-- It breaks off where its first step does, or else where its second does. -/
theorem bind_eq_error_iff {ε α β : Type} {x : Except ε α} {f : α → Except ε β} {e : ε} :
    (x >>= f) = .error e ↔ x = .error e ∨ ∃ a, x = .ok a ∧ f a = .error e := by
  cases x with
  | error e' => simp [bind, Except.bind]
  | ok a => simp [bind, Except.bind]

theorem map_eq_error_iff {ε α β : Type} {x : Except ε α} {f : α → β} {e : ε} :
    f <$> x = .error e ↔ x = .error e := by
  cases x with
  | error e' => simp [Functor.map, Except.map]
  | ok a => simp [Functor.map, Except.map]

namespace Outcome

theorem ofFault_eq_ok_iff {α : Type} {e : Except Fault α} {a : α} :
    ofFault e = .ok a ↔ e = .ok a := by
  cases e <;> simp

theorem ofFault_bind {α β : Type} (x : Except Fault α) (f : α → Except Fault β) :
    ofFault (x >>= f) = ofFault x >>= fun a => ofFault (f a) := by
  cases x <;> rfl

@[simp] theorem refuse_ne_ok {α : Type} {r : Refusal} {a : α} : (refuse r : Outcome α) ≠ .ok a := by
  simp [refuse]

end Outcome

/-! ## Breaking off -/

/-- **A row of steps breaks off.** -/
def BreaksOff {ε α : Type} (x : Except ε α) : Prop := ∃ e, x = .error e

@[simp] theorem not_breaksOff_ok {ε α : Type} {a : α} : ¬ BreaksOff (.ok a : Except ε α) := by
  simp [BreaksOff]

theorem exists_ok_iff_not_breaksOff {ε α : Type} {x : Except ε α} :
    (∃ a, x = .ok a) ↔ ¬ BreaksOff x := by
  cases x <;> simp [BreaksOff]

theorem breaksOff_iff_not_exists_ok {ε α : Type} {x : Except ε α} :
    BreaksOff x ↔ ¬ ∃ a, x = .ok a := by
  cases x <;> simp [BreaksOff]

/-- Steps that are both taken break off where one of them does. -/
theorem breaksOff_both_iff {ε α β γ : Type} {x : Except ε α} {y : Except ε β} {g : α → β → γ} :
    BreaksOff (x >>= fun a => y >>= fun b => .ok (g a b)) ↔ BreaksOff x ∨ BreaksOff y := by
  cases x <;> cases y <;> simp [BreaksOff, bind, Except.bind]

/-- They give an answer where each of them does. -/
theorem exists_ok_both_iff {ε α β γ : Type} {x : Except ε α} {y : Except ε β} {g : α → β → γ} :
    (∃ c, (x >>= fun a => y >>= fun b => .ok (g a b)) = .ok c) ↔
      (∃ a, x = .ok a) ∧ ∃ b, y = .ok b := by
  simp only [exists_ok_iff_not_breaksOff, breaksOff_both_iff, not_or]

theorem breaksOff_map_iff {ε α β : Type} {x : Except ε α} {f : α → β} :
    BreaksOff (x.map f) ↔ BreaksOff x := by
  cases x <;> simp [BreaksOff, Except.map]

namespace Outcome

/-- **An operation breaks off with a fault**, where a refusal would be an answer. -/
def Faults {α : Type} (x : Outcome α) : Prop := ∃ f, x = .error (.fault f)

@[simp] theorem not_faults_ok {α : Type} {a : α} : ¬ Faults (.ok a : Outcome α) := by
  simp [Faults]

@[simp] theorem not_faults_refuse {α : Type} {r : Refusal} : ¬ Faults (refuse r : Outcome α) := by
  simp [Faults, refuse]

@[simp] theorem faults_error {α : Type} {f : Fault} : Faults (.error (.fault f) : Outcome α) :=
  ⟨f, rfl⟩

theorem faults_ofFault_iff {α : Type} {x : Except Fault α} : Faults (ofFault x) ↔ BreaksOff x := by
  cases x <;> simp [Faults, BreaksOff]

theorem faults_bind_iff {α β : Type} {x : Outcome α} {g : α → Outcome β} :
    Faults (x >>= g) ↔ Faults x ∨ ∃ a, x = .ok a ∧ Faults (g a) := by
  cases x <;> simp [Faults, bind, Except.bind]

/-- An operation that answers after two steps breaks off where one of them does. -/
theorem faults_both_iff {α β γ : Type} {x : Except Fault α} {y : Except Fault β}
    {g : α → β → Outcome γ} (hg : ∀ a b, ¬ Faults (g a b)) :
    Faults (ofFault x >>= fun a => ofFault y >>= g a) ↔ BreaksOff x ∨ BreaksOff y := by
  cases x with
  | error f => simp [BreaksOff, Faults, bind, Except.bind]
  | ok a =>
    cases y with
    | error f => simp [BreaksOff, Faults, bind, Except.bind]
    | ok b => simpa [BreaksOff, Faults, bind, Except.bind] using hg a b

/-- **What becomes of an input**: where it is good there is an answer, where it is bad a fault of
one kind gets out, and otherwise it is rejected with one of certain failures. -/
inductive Judged {α : Type} (k : FaultKind) (rejects : Failure → Prop) (good bad : Prop) :
    Outcome α → Prop
  | answer (a : α) : good → ¬ bad → Judged k rejects good bad (.ok a)
  | escape {f : Fault} : ¬ good → bad → f.kind = k → Judged k rejects good bad (.error (.fault f))
  | rejection {e : Failure} : ¬ good → ¬ bad → rejects e → Judged k rejects good bad (.error e)

namespace Judged

variable {α β : Type} {k : FaultKind} {rejects rejects' : Failure → Prop}
  {good bad good' bad' : Prop} {x : Outcome α}

theorem congr (h : Judged k rejects good bad x) (hgood : good ↔ good') (hbad : bad ↔ bad') :
    Judged k rejects good' bad' x := by
  rwa [← hgood, ← hbad]

theorem mono (h : Judged k rejects good bad x) (hrejects : ∀ e, rejects e → rejects' e) :
    Judged k rejects' good bad x := by
  cases h with
  | answer a hgood hbad => exact .answer a hgood hbad
  | escape hgood hbad hk => exact .escape hgood hbad hk
  | rejection hgood hbad hreject => exact .rejection hgood hbad (hrejects _ hreject)

/-- **One step after the other**: what the second step makes of the input matters only where it is
good for the first. -/
theorem bind {f : α → Outcome β} (hx : Judged k rejects good bad x)
    (hf : ∀ a, x = .ok a → Judged k rejects good' bad' (f a)) :
    Judged k rejects (good ∧ good') (bad ∨ good ∧ bad') (x >>= f) := by
  cases hx with
  | answer a hgood hbad =>
    refine (hf a rfl).congr ?_ ?_
    · simp [hgood]
    · simp [hgood, hbad]
  | escape hgood hbad hk => exact .escape (fun h => hgood h.1) (Or.inl hbad) hk
  | rejection hgood hbad hreject =>
    exact .rejection (fun h => hgood h.1) (fun h => h.elim hbad fun h => hgood h.1) hreject

/-- A last step that always gives an answer changes nothing. -/
theorem bind_answer {f : α → β} (hx : Judged k rejects good bad x) :
    Judged k rejects good bad (x >>= fun a => .ok (f a)) := by
  have h : Judged k rejects (good ∧ True) (bad ∨ good ∧ False) (x >>= fun a => .ok (f a)) :=
    hx.bind fun a _ => .answer (f a) trivial id
  exact h.congr (by simp) (by simp)

/-- Failures may be told in other words, as long as what gets out stays as it is. -/
theorem mapError {tell : Failure → Failure} (hx : Judged k rejects good bad x)
    (hescape : ∀ f : Fault, f.kind = k → tell (.fault f) = .fault f)
    (hrejects : ∀ e, rejects e → rejects' (tell e)) :
    Judged k rejects' good bad (x.mapError tell) := by
  cases hx with
  | answer a hgood hbad => exact .answer a hgood hbad
  | escape hgood hbad hk =>
    show Judged k rejects' good bad (.error (tell _))
    rw [hescape _ hk]
    exact .escape hgood hbad hk
  | rejection hgood hbad hreject => exact .rejection hgood hbad (hrejects _ hreject)

/-- **The three answers tell what the input is.** -/
theorem iffs (h : Judged k rejects good bad x) (hrejects : ∀ e, rejects e → ∃ r, e = .refused r) :
    ((∃ a, x = .ok a) ↔ good) ∧
      ((∃ f, x = .error (.fault f) ∧ f.kind = k) ↔ bad) ∧
      ((∃ r, x = refuse r ∧ rejects (.refused r)) ↔ ¬ good ∧ ¬ bad) := by
  cases h with
  | answer a hgood hbad => simp [hgood, hbad, refuse]
  | escape hgood hbad hk => simp [hgood, hbad, hk, refuse]
  | rejection hgood hbad hreject =>
    obtain ⟨r, rfl⟩ := hrejects _ hreject
    simp [hgood, hbad, hreject, refuse]

end Judged

end Outcome

/-! ## Lists gone through in order -/

/-- **A list stops at a bad item** when all items before it are good. -/
def StopsAt {α : Type} (good bad : α → Prop) (xs : List α) : Prop :=
  ∃ before x after, xs = before ++ x :: after ∧ (∀ w ∈ before, good w) ∧ bad x

@[simp] theorem not_stopsAt_nil {α : Type} {good bad : α → Prop} : ¬ StopsAt good bad [] := by
  simp [StopsAt]

theorem stopsAt_cons_iff {α : Type} {good bad : α → Prop} {x : α} {xs : List α} :
    StopsAt good bad (x :: xs) ↔ bad x ∨ good x ∧ StopsAt good bad xs := by
  constructor
  · rintro ⟨before, y, after, heq, hbefore, hbad⟩
    cases before with
    | nil =>
      cases heq
      exact Or.inl hbad
    | cons _ before =>
      cases heq
      obtain ⟨hgood, hbefore⟩ := List.forall_mem_cons.mp hbefore
      exact Or.inr ⟨hgood, before, y, after, rfl, hbefore, hbad⟩
  · rintro (hbad | ⟨hgood, before, y, after, rfl, hbefore, hbad⟩)
    · exact ⟨[], x, xs, rfl, nofun, hbad⟩
    · exact ⟨x :: before, y, after, rfl, List.forall_mem_cons.mpr ⟨hgood, hbefore⟩, hbad⟩

/-- **A rule passes the check exactly when it is accepted.** -/
theorem Vocabulary.require_eq_ok_iff {v : Vocabulary} {r : Rule} :
    v.require r = .ok () ↔ v.Accepts r := by
  unfold require Accepts ruleErrors
  cases hcheck : v.checkRule r with
  | error f => simp [bind, Except.bind, Except.map]
  | ok problems =>
    cases problems with
    | nil => simp [bind, Except.bind, Except.map]
    | cons problem problems =>
      cases (if r.name.truthy then r.name else r.id).requirePrintable <;>
        simp [bind, Except.bind, Except.map]

end DialPlan
