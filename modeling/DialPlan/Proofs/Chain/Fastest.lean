import DialPlan.Proofs.Chain.Soundness
import DialPlan.Proofs.Condition.Comparison
import DialPlan.Proofs.Number.Order

/-!
# The fastest pick

A fastest pick goes through the candidates once and keeps the one it holds to be the fastest so far.
What it is meant to find is said by `Fastest`: the first of the candidates of least positive delay,
or the first candidate when no delay is positive.

It finds that one unless a delay gets in its way (`pick_fastest_exact`).  An integer beyond the
doubles has no delay, and breaks the pick off as soon as there is anything to compare.  And a first
candidate whose delay is not a number is never given up, since no delay is below it and it is not
below zero (`not_beats_nan`); anywhere else such a delay is passed over.
-/

namespace DialPlan

/-! ## Delays -/

/-- **A node takes some time**: its delay can be read, and is positive. -/
def NodeView.Takes (n : NodeView) (d : Binary64) : Prop :=
  delayOf n = .ok d ∧ Binary64.zero.lt d = true

/-- A node of positive delay. -/
def NodeView.Timed (n : NodeView) : Prop := ∃ d, n.Takes d

/-- The delay of a node is an integer beyond the doubles. -/
def NodeView.Overruns (n : NodeView) : Prop :=
  ∃ k : Int, n.present? "delay_time" = some (.int k) ∧ (Binary64.ofInt k).isFinite = false

variable {n m : NodeView} {d : Binary64} {views : List NodeView}

/-- **Only an integer beyond the doubles has no delay**; what cannot be read counts as zero. -/
theorem delayOf_eq_error_iff {f : Fault} : delayOf n = .error f ↔ n.Overruns ∧ f = .tooLarge := by
  unfold delayOf NodeView.Overruns
  cases hpresent : n.present? "delay_time" with
  | none => simp
  | some v =>
    cases v <;> simp only [numberOfInt_eq_error_iff, Option.some.injEq, Value.int.injEq,
      exists_eq_left', reduceCtorEq, false_and, exists_false]

theorem not_overruns_of_delayOf (h : delayOf n = .ok d) : ¬ n.Overruns := by
  intro hover
  cases h.symm.trans (delayOf_eq_error_iff.mpr ⟨hover, rfl⟩)

/-- A node takes one time only. -/
theorem NodeView.Takes.le_of_takes {d' : Binary64} (h : n.Takes d) (h' : n.Takes d') :
    d.le d' = true := by
  cases h.1.symm.trans h'.1
  exact Binary64.le_refl_of_ne_nan (Binary64.ne_nan_of_lt h.2)

/-! ## What is meant -/

/-- **The quickest of several nodes** takes a time that none falls below, and none before it takes
as well. -/
structure Quickest (views : List NodeView) (n : NodeView) (d : Binary64) : Prop where
  takes : n.Takes d
  least : ∀ m ∈ views, ∀ d', m.Takes d' → d.le d' = true
  earliest : ∃ before after, views = before ++ n :: after ∧
    ∀ m ∈ before, ∀ d', delayOf m = .ok d' → d'.same d = false

/-- **The fastest of several nodes**: the quickest one, or the first when none is timed. -/
structure Fastest (views : List NodeView) (n : NodeView) : Prop where
  timed : (∃ m ∈ views, m.Timed) → ∃ d, Quickest views n d
  untimed : (∀ m ∈ views, ¬ m.Timed) → views.head? = some n

theorem Quickest.mem (h : Quickest views n d) : n ∈ views := by
  obtain ⟨before, after, rfl, -⟩ := h.earliest
  simp

theorem Quickest.fastest (h : Quickest views n d) : Fastest views n where
  timed _ := ⟨d, h⟩
  untimed hnone := absurd ⟨d, h.takes⟩ (hnone n h.mem)

/-! ## One comparison -/

theorem beats_iff {delay chosen : Binary64} :
    beats delay chosen = true ↔ Binary64.zero.lt delay = true ∧
      (chosen.le .zero = true ∨ delay.lt chosen = true) := by
  simp [beats]

/-- **Nothing beats what is not a number.** -/
theorem not_beats_nan (delay : Binary64) : beats delay .nan = false := by
  rw [Bool.eq_false_iff, Ne, beats_iff]
  rintro ⟨-, hle | hlt⟩
  · obtain ⟨a, -, ha, -⟩ := Binary64.le_iff.mp hle
    cases ha
  · exact Binary64.ne_nan_of_lt hlt rfl

/-- Where none was timed, the first timed node is the quickest. -/
theorem Quickest.first (h : ∀ m ∈ views, ¬ m.Timed) (hn : n.Takes d) :
    Quickest (views ++ [n]) n d where
  takes := hn
  least := List.forall_mem_append.mpr ⟨fun m hm d' htakes => absurd ⟨d', htakes⟩ (h m hm),
    List.forall_mem_singleton.mpr fun _ => hn.le_of_takes⟩
  earliest := by
    refine ⟨views, [], rfl, fun m hm d' hd' => Bool.eq_false_iff.mpr fun hsame => ?_⟩
    exact h m hm ⟨d', hd', Binary64.lt_of_same hn.2 hsame⟩

/-- A quickest node is beaten by a quicker one, which is then the quickest. -/
theorem Quickest.beaten {c : Binary64} (h : Quickest views m c) (hn : n.Takes d)
    (hlt : d.lt c = true) : Quickest (views ++ [n]) n d where
  takes := hn
  least := List.forall_mem_append.mpr
    ⟨fun w hw d' htakes => Binary64.le_of_lt_of_le hlt (h.least w hw d' htakes),
      List.forall_mem_singleton.mpr fun _ => hn.le_of_takes⟩
  earliest := by
    refine ⟨views, [], rfl, fun w hw d' hd' => Bool.eq_false_iff.mpr fun hsame => ?_⟩
    -- one of the same delay would have been quicker than the quickest
    have hle : c.le d' = true := h.least w hw d' ⟨hd', Binary64.lt_of_same hn.2 hsame⟩
    exact Binary64.not_le_of_lt hlt (Binary64.le_of_le_of_same hle hsame)

/-- A quickest node stays one as long as none is quicker. -/
theorem Quickest.kept {c : Binary64} (h : Quickest views m c)
    (hn : ∀ d, n.Takes d → c.le d = true) : Quickest (views ++ [n]) m c where
  takes := h.takes
  least := List.forall_mem_append.mpr ⟨h.least, List.forall_mem_singleton.mpr hn⟩
  earliest := by
    obtain ⟨before, after, rfl, hbefore⟩ := h.earliest
    exact ⟨before, after ++ [n], by simp, hbefore⟩

theorem fastest_singleton : Fastest [n] n where
  timed := by
    rintro ⟨m, hm, d, htakes⟩
    cases List.mem_singleton.mp hm
    have hfirst : Quickest ([] ++ [n]) n d := .first nofun htakes
    exact ⟨d, hfirst⟩
  untimed _ := rfl

/-- **One comparison keeps the fastest node of all that were seen**, as long as the delay of the
chosen one is a number. -/
theorem Fastest.step {c : Binary64} (h : Fastest views m) (hn : delayOf n = .ok d)
    (hm : delayOf m = .ok c) (hc : c ≠ .nan) :
    Fastest (views ++ [n]) (if beats d c then n else m) := by
  by_cases htimed : ∃ w ∈ views, w.Timed
  case pos =>
    obtain ⟨c', hquick⟩ := h.timed htimed
    cases hm.symm.trans hquick.takes.1
    split
    case isTrue hbeats =>
      obtain ⟨hpos, hle | hlt⟩ := beats_iff.mp hbeats
      · exact absurd hle (Binary64.not_le_of_lt hquick.takes.2)
      · exact (hquick.beaten ⟨hn, hpos⟩ hlt).fastest
    case isFalse hbeats =>
      refine (hquick.kept fun d' htakes => ?_).fastest
      cases hn.symm.trans htakes.1
      refine (Binary64.lt_or_le (Binary64.ne_nan_of_lt htakes.2) hc).resolve_left fun hlt => ?_
      exact hbeats (beats_iff.mpr ⟨htakes.2, Or.inr hlt⟩)
  case neg =>
    have hnone : ∀ w ∈ views, ¬ w.Timed := fun w hw ht => htimed ⟨w, hw, ht⟩
    have hhead := h.untimed hnone
    have hc0 : c.le .zero = true :=
      (Binary64.lt_or_le Binary64.zero_ne_nan hc).resolve_left fun hpos =>
        hnone m (List.mem_of_head? hhead) ⟨c, hm, hpos⟩
    split
    case isTrue hbeats => exact (Quickest.first hnone ⟨hn, (beats_iff.mp hbeats).1⟩).fastest
    case isFalse hbeats =>
      have hall : ∀ w ∈ views ++ [n], ¬ w.Timed := by
        intro w hw
        rcases List.mem_append.mp hw with hw | hw
        · exact hnone w hw
        · cases List.mem_singleton.mp hw
          rintro ⟨d', htakes⟩
          cases hn.symm.trans htakes.1
          exact hbeats (beats_iff.mpr ⟨htakes.2, Or.inl hc0⟩)
      refine ⟨fun ⟨w, hw, ht⟩ => absurd ht (hall w hw), fun _ => ?_⟩
      rw [List.head?_append, hhead, Option.some_or]

/-! ## The whole pass -/

/-- **A pass that starts from a number finds the fastest node.** -/
theorem fastest_of_fastestFrom {rest : List NodeView} {c : Binary64} (h : Fastest views m)
    (hm : delayOf m = .ok c) (hc : c ≠ .nan) (hpass : fastestFrom m rest = .ok n) :
    Fastest (views ++ rest) n := by
  -- what one comparison keeps holds of all nodes that were seen so far
  induction rest generalizing views m c with
  | nil =>
    cases hpass
    rwa [List.append_nil]
  | cons w rest ih =>
    obtain ⟨d, hw, hpass⟩ := bind_eq_ok_iff.mp hpass
    obtain ⟨c', hm', hpass⟩ := bind_eq_ok_iff.mp hpass
    cases hm.symm.trans hm'
    rw [List.append_cons]
    refine ih (c := if beats d c then d else c) (h.step hw hm hc) ?_ ?_ hpass
    · split
      · exact hw
      · exact hm
    · split
      case isTrue hbeats => exact Binary64.ne_nan_of_lt (beats_iff.mp hbeats).1
      case isFalse => exact hc

/-- **A pass that starts from what is not a number ends where it starts.** -/
theorem eq_of_fastestFrom_nan {rest : List NodeView} (hm : delayOf m = .ok .nan)
    (hpass : fastestFrom m rest = .ok n) : n = m := by
  induction rest with
  | nil => cases hpass; rfl
  | cons w rest ih =>
    obtain ⟨d, hw, hpass⟩ := bind_eq_ok_iff.mp hpass
    obtain ⟨c, hm', hpass⟩ := bind_eq_ok_iff.mp hpass
    cases hm.symm.trans hm'
    rw [not_beats_nan] at hpass
    exact ih hpass

/-- **What makes a pass break off**: something to compare, and a delay beyond the doubles, which it
meets wherever it stands. -/
def Overrun (first : NodeView) (rest : List NodeView) : Prop :=
  rest ≠ [] ∧ ∃ n ∈ first :: rest, n.Overruns

/-- A pass whose start has a delay breaks off at one of the nodes that follow. -/
theorem overrun_iff_of_not {rest : List NodeView} (h : ¬ m.Overruns) :
    Overrun m rest ↔ ∃ n ∈ rest, n.Overruns := by
  refine ⟨fun ⟨_, w, hw, hover⟩ => ?_, fun ⟨w, hw, hover⟩ => ⟨List.ne_nil_of_mem hw, w, ?_, hover⟩⟩
  · rcases List.mem_cons.mp hw with rfl | hw
    · exact absurd hover h
    · exact ⟨w, hw, hover⟩
  · exact List.mem_cons_of_mem m hw

theorem fastestFrom_eq_error_iff {rest : List NodeView} {f : Fault} :
    fastestFrom m rest = .error f ↔ Overrun m rest ∧ f = .tooLarge := by
  induction rest generalizing m with
  | nil => simp [fastestFrom, Overrun]
  | cons w rest ih =>
    cases hw : delayOf w with
    | error g =>
      obtain ⟨hover, rfl⟩ := delayOf_eq_error_iff.mp hw
      rw [fastestFrom, hw, error_bind, Except.error.injEq, eq_comm]
      exact (and_iff_right ⟨List.cons_ne_nil w rest, w, by simp, hover⟩).symm
    | ok d =>
      have hwover : ¬ w.Overruns := not_overruns_of_delayOf hw
      cases hm : delayOf m with
      | error g =>
        obtain ⟨hover, rfl⟩ := delayOf_eq_error_iff.mp hm
        rw [fastestFrom, hw, ok_bind, hm, error_bind, Except.error.injEq, eq_comm]
        exact (and_iff_right ⟨List.cons_ne_nil w rest, m, by simp, hover⟩).symm
      | ok c =>
        have hmover : ¬ m.Overruns := not_overruns_of_delayOf hm
        have hnext : ¬ (if beats d c then w else m).Overruns := by split <;> assumption
        rw [fastestFrom, hw, ok_bind, hm, ok_bind, ih, overrun_iff_of_not hnext,
          overrun_iff_of_not hmover]
        simp [hwover]

/-! ## The pick -/

/-- **What leads a pass astray**: a start whose delay is not a number, and a node that takes some
time after it. -/
def Misled (first : NodeView) (rest : List NodeView) : Prop :=
  delayOf first = .ok .nan ∧ ∃ n ∈ rest, n.Timed

/-- A pick that is led astray answers with the first candidate, though another one is timed. -/
theorem Misled.not_fastest {first : NodeView} {rest : List NodeView} (h : Misled first rest) :
    ¬ Fastest (first :: rest) first := by
  obtain ⟨hnan, w, hw, htimed⟩ := h
  intro hfast
  obtain ⟨d, hquick⟩ := hfast.timed ⟨w, List.mem_cons_of_mem first hw, htimed⟩
  cases hnan.symm.trans hquick.takes.1
  exact Binary64.ne_nan_of_lt hquick.takes.2 rfl

theorem fastestFrom_of_misled {first : NodeView} {rest : List NodeView}
    (hover : ¬ Overrun first rest) (h : Misled first rest) :
    fastestFrom first rest = .ok first := by
  cases hpass : fastestFrom first rest with
  | error f => exact absurd (fastestFrom_eq_error_iff.mp hpass).1 hover
  | ok n => rw [eq_of_fastestFrom_nan h.1 hpass]

/-- **A pass that is not led astray finds the fastest node.** -/
theorem fastest_of_not_misled {first : NodeView} {rest : List NodeView}
    (hpass : fastestFrom first rest = .ok n) (h : ¬ Misled first rest) :
    Fastest (first :: rest) n := by
  cases rest with
  | nil =>
    cases hpass
    exact fastest_singleton
  | cons w rest =>
    have ⟨_, _, hcompared⟩ := bind_eq_ok_iff.mp hpass
    have ⟨c, hfirst, _⟩ := bind_eq_ok_iff.mp hcompared
    by_cases hc : c = .nan
    case neg => exact fastest_of_fastestFrom fastest_singleton hfirst hc hpass
    case pos =>
      subst hc
      cases eq_of_fastestFrom_nan hfirst hpass
      -- nothing is timed, so the first candidate is the one to stay with
      refine ⟨fun ⟨m, hm, htimed⟩ => ?_, fun _ => rfl⟩
      rcases List.mem_cons.mp hm with rfl | hm
      · obtain ⟨d, htakes⟩ := htimed
        cases hfirst.symm.trans htakes.1
        exact absurd rfl (Binary64.ne_nan_of_lt htakes.2)
      · exact absurd ⟨hfirst, m, hm, htimed⟩ h

/-- **The fastest pick finds the fastest candidate**, for every row of candidates with any delays,
in every order, but in two cases.  It breaks off when there is anything to compare and some delay
is an integer beyond the doubles; and it stays with a first candidate whose delay is not a number
though another candidate is timed. -/
theorem pick_fastest_exact (seed : Option String) (first : NodeView) (rest : List NodeView) :
    ((∃ n, pick .fastest seed first rest = .ok n ∧ Fastest (first :: rest) n) ↔
      ¬ Overrun first rest ∧ ¬ Misled first rest) ∧
    (pick .fastest seed first rest = .error (.fault .tooLarge) ↔ Overrun first rest) ∧
    ((pick .fastest seed first rest = .ok first ∧ ¬ Fastest (first :: rest) first) ↔
      ¬ Overrun first rest ∧ Misled first rest) := by
  rw [pick]
  by_cases hover : Overrun first rest
  case pos =>
    rw [fastestFrom_eq_error_iff.mpr ⟨hover, rfl⟩]
    simp [hover]
  case neg =>
    by_cases hmisled : Misled first rest
    case pos =>
      rw [fastestFrom_of_misled hover hmisled]
      simp [hover, hmisled, hmisled.not_fastest]
    case neg =>
      cases hpass : fastestFrom first rest with
      | error f => exact absurd (fastestFrom_eq_error_iff.mp hpass).1 hover
      | ok n =>
        have hfast := fastest_of_not_misled hpass hmisled
        refine ⟨iff_of_true ⟨n, rfl, hfast⟩ ⟨hover, hmisled⟩, iff_of_false nofun hover,
          iff_of_false ?_ fun h => hmisled h.2⟩
        rintro ⟨heq, hnot⟩
        cases heq
        exact hnot hfast

/-- Two candidates cannot be compared when one of them takes `10 ^ 400`; and a candidate that takes
five is passed over for one whose delay is not a number. -/
theorem pick_fastest_not_always :
    (¬ ∀ seed first rest, ∃ n, pick .fastest seed first rest = .ok n) ∧
      ¬ ∀ seed first rest n, pick .fastest seed first rest = .ok n → Fastest (first :: rest) n := by
  constructor
  case left =>
    intro h
    let quick : NodeView := .mapping [(.str "id", .str "a"), (.str "delay_time", .int 1)]
    let slow : NodeView := .mapping [(.str "id", .str "b"), (.str "delay_time", .int (10 ^ 400))]
    have hslow : slow.Overruns := ⟨10 ^ 400, rfl, by decide +kernel⟩
    have hover : Overrun quick [slow] := ⟨List.cons_ne_nil slow [], slow, by simp, hslow⟩
    obtain ⟨n, hn⟩ := h none quick [slow]
    rw [pick, fastestFrom_eq_error_iff.mpr ⟨hover, rfl⟩] at hn
    cases hn
  case right =>
    intro h
    let odd : NodeView := .mapping [(.str "id", .str "a"), (.str "delay_time", .float .nan)]
    let timed : NodeView :=
      .mapping [(.str "id", .str "b"), (.str "delay_time", .float (.ofInt 5))]
    have htimed : timed.Takes (.ofInt 5) := ⟨rfl, by decide +kernel⟩
    have hmisled : Misled odd [timed] := ⟨rfl, timed, List.mem_singleton_self timed, _, htimed⟩
    have hover : ¬ Overrun odd [timed] := by
      rw [overrun_iff_of_not (not_overruns_of_delayOf hmisled.1)]
      simpa using not_overruns_of_delayOf htimed.1
    refine hmisled.not_fastest (h none odd [timed] odd ?_)
    rw [pick, fastestFrom_of_misled hover hmisled, Outcome.ofFault_ok]

end DialPlan
