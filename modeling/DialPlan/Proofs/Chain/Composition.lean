import DialPlan.Chain.Resolution
import Mathlib.Data.List.Basic

/-!
# Chains are resolved part by part

No hop of a chain looks at its neighbours.  So two chains in a row are resolved one after the other,
the second one so many places further on (`resolve_append`), and a chain that cannot be resolved
fails where its first hop does that cannot be resolved on its own (`resolve_eq_error_iff`).

Both rest on what the position is for: resolving a hop does nothing with it but hand it on
(`ReportsPlace`).  This is closed under the steps that resolution is made of, so each selector has
to be looked at once.
-/

namespace DialPlan

/-! ## Places further on -/

/-- A resolved hop so many places further on. -/
def ResolvedHop.later (k : Nat) (h : ResolvedHop) : ResolvedHop :=
  { h with position := h.position + k }

/-- A failure so many places further on. -/
def Unresolved.later (k : Nat) (e : Unresolved) : Unresolved :=
  { e with position := e.position + k }

namespace ResolvedChain

/-- A resolved chain so many places further on. -/
def later (k : Nat) (c : ResolvedChain) : ResolvedChain :=
  ⟨c.hops.map (·.later k), c.groups⟩

/-- **One resolved chain behind another.** -/
def append (c d : ResolvedChain) : ResolvedChain :=
  ⟨c.hops ++ d.hops, c.groups ++ d.groups⟩

end ResolvedChain

namespace Resolution

variable {α β : Type} {move : Nat → α → α}

/-- A resolution so many places further on; `move` is what becomes of an answer. -/
def later (move : α → α) (k : Nat) : Resolution α → Resolution α
  | .ok (.ok a) => .ok (.ok (move a))
  | .ok (.error e) => .ok (.error (e.later k))
  | .error f => .error f

theorem andThen_assoc {γ : Type} (x : Resolution α) (f : α → Resolution β)
    (g : β → Resolution γ) :
    (x.andThen f).andThen g = x.andThen fun a => (f a).andThen g := by
  rcases x with _ | _ | _ <;> rfl

theorem later_andThen_found_eq_error_iff {place : α → α} {k : Nat} {f : α → β} {x : Resolution α}
    {e : Unresolved} : ((x.later place k).andThen fun a => .found (f a)) = .ok (.error e) ↔
      ∃ e', x = .ok (.error e') ∧ e'.later k = e := by
  rcases x with _ | _ | _ <;> simp [later, andThen, found]

/-- **A resolution that only hands its position on**: from places further on it is the same, so
many places further on, and where it fails is where it stands. -/
structure ReportsPlace (move : Nat → α → α) (f : Nat → Resolution α) : Prop where
  later : ∀ p k, f (p + k) = (f p).later (move k) k
  position : ∀ p e, f p = .ok (.error e) → e.position = p

namespace ReportsPlace

theorem failed (cause : Cause) (reference : String) :
    ReportsPlace move (Resolution.failed cause reference) where
  later _ _ := rfl
  position _ _ h := by
    cases h
    rfl

theorem error (f : Failure) : ReportsPlace move fun _ => .error f where
  later _ _ := rfl
  position _ _ h := by cases h

theorem found {a : α} (h : ∀ k, move k a = a) : ReportsPlace move fun _ => .found a where
  later p k := by
    show Resolution.found a = Resolution.found (move k a)
    rw [h]
  position _ _ h := by cases h

/-- **A step that knows no position**, and then one that hands it on. -/
theorem bind {x : Outcome β} {g : β → Nat → Resolution α} (h : ∀ b, ReportsPlace move (g b)) :
    ReportsPlace move fun p => (x >>= fun b => g b p : Outcome (Except Unresolved α)) := by
  cases x with
  | error f => exact .error f
  | ok b => exact ⟨(h b).later, (h b).position⟩

/-- **Two steps that hand it on**, one after the other; what the first one answers knows no
position. -/
theorem andThen {f : Nat → Resolution β} {g : β → Nat → Resolution α}
    (hf : ReportsPlace (fun _ => id) f) (hg : ∀ b, ReportsPlace move (g b)) :
    ReportsPlace move fun p => (f p).andThen fun b => g b p where
  later p k := by
    rw [hf.later]
    rcases f p with _ | _ | b
    · rfl
    · rfl
    · exact (hg b).later p k
  position p e h := by
    cases hfirst : f p with
    | error f =>
      rw [hfirst] at h
      cases h
    | ok result =>
      rw [hfirst] at h
      cases result with
      | error e' =>
        cases h
        exact hf.position p e hfirst
      | ok b => exact (hg b).position p e h

end ReportsPlace

end Resolution

namespace Resolver

open Resolution

variable {r : Resolver} {hop : Hop} {declared : Selector} {seed : Option String}
  {xs ys : List (Slot Hop)}

/-! ## Single hops -/

/-- A resolved step so many places further on. -/
def laterStep (k : Nat) (step : Step) : Step := (step.1.later k, step.2)

theorem reportsPlace_step (kind : HopKind) (name reference : String) (declared : Selector)
    (group : Option CustomGroup) :
    ReportsPlace laterStep fun p => .found (⟨kind, name, reference, p, declared⟩, group) where
  later _ _ := rfl
  position _ _ h := by cases h

theorem reportsPlace_resolveNode :
    ReportsPlace laterStep fun p => r.resolveNode hop p declared := by
  unfold resolveNode
  cases r.provider.node? hop.reference with
  | none => exact .failed _ _
  | some n => exact .bind fun name => reportsPlace_step _ _ _ _ _

theorem reportsPlace_resolveGroup :
    ReportsPlace laterStep fun p => r.resolveGroup hop p declared := by
  unfold resolveGroup
  split
  · exact .failed _ _
  · exact .error _
  · exact .error _
  · refine .bind fun empty => ?_
    cases empty with
    | true => exact .failed _ _
    | false => exact reportsPlace_step _ _ _ _ _

theorem reportsPlace_resolveDynamic :
    ReportsPlace laterStep fun p => r.resolveDynamic hop p declared seed := by
  unfold resolveDynamic
  split
  · exact .failed _ _
  · refine .bind fun views => ?_
    cases views with
    | nil => exact .failed _ _
    | cons first rest =>
      exact .bind fun chosen => .bind fun name => .bind fun id => reportsPlace_step _ _ _ _ _

theorem reportsPlace_resolveCustom :
    ReportsPlace laterStep fun p => r.resolveCustom hop p declared := by
  unfold resolveCustom
  split
  · exact .failed _ _
  · split
    · exact .failed _ _
    · refine .bind fun nodes => .bind fun proxies => ?_
      split
      · exact .failed _ _
      · exact reportsPlace_step _ _ _ _ _

/-- Following templates hands the position of the declared hop on, however far it goes. -/
theorem reportsPlace_expandFrom (start : Hop) (fuel : Nat) (visited : List String)
    (current : Hop) :
    ReportsPlace (fun _ => id) fun p => r.expandFrom start p fuel visited current := by
  induction fuel generalizing visited current with
  | zero =>
    unfold expandFrom
    cases current.selector with
    | node | group => exact .found fun _ => rfl
    | dynamic | custom => exact .failed _ _
    | template =>
      dsimp only
      split <;> exact .failed _ _
  | succ fuel ih =>
    unfold expandFrom
    cases current.selector with
    | node | group => exact .found fun _ => rfl
    | dynamic | custom => exact .failed _ _
    | template =>
      dsimp only
      split
      · exact .failed _ _
      · rcases r.lookup current.reference with _ | next | value
        · exact .failed _ _
        · exact ih _ _
        · exact .error _

/-- **Resolving what stands in the place of a hop only hands the position on.** -/
theorem reportsPlace_resolveSlot (slot : Slot Hop) :
    ReportsPlace laterStep fun p => r.resolveSlot slot p seed := by
  cases slot with
  | foreign value => exact .error _
  | holds hop =>
    show ReportsPlace laterStep fun p => r.resolveHop hop p seed
    unfold resolveHop
    cases hop.selector with
    | node => exact reportsPlace_resolveNode
    | group => exact reportsPlace_resolveGroup
    | dynamic => exact reportsPlace_resolveDynamic
    | custom => exact reportsPlace_resolveCustom
    | template =>
      refine .andThen (reportsPlace_expandFrom hop _ [] hop) fun expanded => ?_
      cases expanded.selector with
      | node => exact reportsPlace_resolveNode
      | _ => exact reportsPlace_resolveGroup

/-! ## Chains -/

theorem resolveFrom_later (p k : Nat) :
    r.resolveFrom seed (p + k) xs = (r.resolveFrom seed p xs).later (·.later k) k := by
  induction xs generalizing p with
  | nil => rfl
  | cons slot xs ih =>
    rw [resolveFrom, resolveFrom, (reportsPlace_resolveSlot slot).later, Nat.add_right_comm, ih]
    rcases r.resolveSlot slot p seed with _ | _ | step
    · rfl
    · rfl
    · rcases r.resolveFrom seed (p + 1) xs with _ | _ | rest <;> rfl

theorem resolveFrom_append (p : Nat) :
    r.resolveFrom seed p (xs ++ ys) = (r.resolveFrom seed p xs).andThen fun c =>
      (r.resolveFrom seed (p + xs.length) ys).andThen fun d => .found (c.append d) := by
  induction xs generalizing p with
  | nil =>
    show r.resolveFrom seed p ys = (r.resolveFrom seed p ys).andThen fun d => .found d
    rcases r.resolveFrom seed p ys with _ | _ | d <;> rfl
  | cons slot xs ih =>
    have hlength : p + (slot :: xs).length = p + 1 + xs.length := by
      rw [List.length_cons]
      omega
    have hstep : ∀ (step : Step) (c d : ResolvedChain),
        addStep step (c.append d) = (addStep step c).append d := by
      intro step c d
      simp only [addStep, ResolvedChain.append, List.cons_append, List.append_assoc]
    rw [List.cons_append, resolveFrom, resolveFrom, ih, hlength]
    simp only [andThen_assoc, andThen_found, hstep]

/-- **Two chains in a row are resolved one after the other**, the second one so many places further
on. -/
theorem resolve_append (r : Resolver) (seed : Option String) (xs ys : List (Slot Hop)) :
    r.resolve (xs ++ ys) seed = (r.resolve xs seed).andThen fun c =>
      ((r.resolve ys seed).later (·.later xs.length) xs.length).andThen fun d =>
        .found (c.append d) := by
  rw [resolve, resolveFrom_append, resolveFrom_later]
  rfl

/-- A chain of one hop fails at its first place. -/
theorem position_of_resolve_single {slot : Slot Hop} {e : Unresolved}
    (h : r.resolve [slot] seed = .ok (.error e)) : e.position = 0 := by
  have hplace : ReportsPlace laterStep fun p => r.resolveSlot slot p seed :=
    reportsPlace_resolveSlot slot
  refine hplace.position 0 e ?_
  rw [resolve, resolveFrom] at h
  rcases hslot : r.resolveSlot slot 0 seed with _ | _ | step <;> rw [hslot] at h <;> cases h
  rfl

/-- **The first hop of a chain that cannot be resolved on its own**, and why. -/
structure FailsAt (r : Resolver) (seed : Option String) (chain : List (Slot Hop)) (i : Nat)
    (e : Unresolved) : Prop where
  before : ∀ slot ∈ chain.take i, ∃ c, r.resolve [slot] seed = .ok (.ok c)
  failing : ∃ slot, chain[i]? = some slot ∧ r.resolve [slot] seed = .ok (.error e)

theorem failsAt_cons_iff {slot : Slot Hop} {i : Nat} {e : Unresolved} :
    r.FailsAt seed (slot :: xs) i e ↔
      (i = 0 ∧ r.resolve [slot] seed = .ok (.error e)) ∨
        ∃ j c, i = j + 1 ∧ r.resolve [slot] seed = .ok (.ok c) ∧ r.FailsAt seed xs j e := by
  constructor
  · rintro ⟨hbefore, other, hother, hfailing⟩
    cases i with
    | zero =>
      cases hother
      exact Or.inl ⟨rfl, hfailing⟩
    | succ j =>
      obtain ⟨⟨c, hc⟩, hbefore⟩ := List.forall_mem_cons.mp hbefore
      exact Or.inr ⟨j, c, rfl, hc, hbefore, other, hother, hfailing⟩
  · rintro (⟨rfl, hfailing⟩ | ⟨j, c, rfl, hc, hbefore, other, hother, hfailing⟩)
    · exact ⟨nofun, slot, rfl, hfailing⟩
    · exact ⟨List.forall_mem_cons.mpr ⟨⟨c, hc⟩, hbefore⟩, other, hother, hfailing⟩

/-- **A chain fails where its first hop does that cannot be resolved on its own**, and for the same
reason. -/
theorem resolve_eq_error_iff {e : Unresolved} :
    r.resolve xs seed = .ok (.error e) ↔
      r.FailsAt seed xs e.position { e with position := 0 } := by
  induction xs generalizing e with
  | nil => exact iff_of_false nofun fun ⟨_, _, h, _⟩ => by cases h
  | cons slot xs ih =>
    rw [failsAt_cons_iff, ← List.singleton_append, resolve_append]
    rcases hslot : r.resolve [slot] seed with f | e' | c
    · exact iff_of_false nofun (by simp)
    · have hposition := position_of_resolve_single hslot
      simp only [Resolution.andThen, Except.ok.injEq, Except.error.injEq, reduceCtorEq, false_and,
        and_false, exists_false, or_false]
      constructor
      · rintro rfl
        exact ⟨hposition, by rw [← hposition]⟩
      · rintro ⟨hzero, rfl⟩
        rw [← hzero]
    · refine later_andThen_found_eq_error_iff.trans ?_
      constructor
      · rintro ⟨e', he', rfl⟩
        exact Or.inr ⟨e'.position, c, rfl, rfl, ih.mp he'⟩
      · rintro (⟨-, ⟨⟩⟩ | ⟨j, _, hposition, -, hfails⟩)
        refine ⟨{ e with position := j }, ih.mpr hfails, ?_⟩
        show { e with position := j + 1 } = e
        rw [← hposition]

/-! ## Seeds -/

/-- **Only a dynamic hop asks which node is ruled.** -/
theorem resolveSlot_seed {slot : Slot Hop} (h : ∀ hop, slot = .holds hop → hop.selector ≠ .dynamic)
    (p : Nat) (other : Option String) : r.resolveSlot slot p other = r.resolveSlot slot p seed := by
  cases slot with
  | foreign value => rfl
  | holds hop =>
    show r.resolveHop hop p other = r.resolveHop hop p seed
    unfold resolveHop
    cases hselector : hop.selector with
    | dynamic => exact absurd hselector (h hop rfl)
    | _ => rfl

theorem resolveFrom_seed (h : ∀ hop, .holds hop ∈ xs → hop.selector ≠ .dynamic) (p : Nat)
    (other : Option String) : r.resolveFrom other p xs = r.resolveFrom seed p xs := by
  induction xs generalizing p with
  | nil => rfl
  | cons slot xs ih =>
    have hslot : ∀ hop, slot = .holds hop → hop.selector ≠ .dynamic :=
      fun hop heq => h hop (heq ▸ List.mem_cons_self)
    rw [resolveFrom, resolveFrom, resolveSlot_seed hslot p other,
      ih fun hop hhop => h hop (List.mem_cons_of_mem slot hhop)]

/-! ## Compositionality -/

/-- **Chains are resolved part by part.**  Two chains in a row come to the failure of the first one;
or else to that of the second one, so many places further on; or else to the hops and the groups of
both, those of the second one so many places further on.  So a chain fails exactly where its first
hop does that cannot be resolved on its own; and without dynamic hops it comes to the same whichever
node is ruled. -/
theorem resolve_compositional (r : Resolver) (seed : Option String) (xs ys : List (Slot Hop)) :
    (∀ e, r.resolve xs seed = .ok (.error e) → r.resolve (xs ++ ys) seed = .ok (.error e)) ∧
    (∀ c e, r.resolve xs seed = .ok (.ok c) → r.resolve ys seed = .ok (.error e) →
      r.resolve (xs ++ ys) seed = .ok (.error (e.later xs.length))) ∧
    (∀ c d, r.resolve xs seed = .ok (.ok c) → r.resolve ys seed = .ok (.ok d) →
      r.resolve (xs ++ ys) seed = .ok (.ok (c.append (d.later xs.length)))) ∧
    (∀ e, r.resolve xs seed = .ok (.error e) ↔
      r.FailsAt seed xs e.position { e with position := 0 }) ∧
    ((∀ hop, .holds hop ∈ xs → hop.selector ≠ .dynamic) →
      ∀ other, r.resolve xs other = r.resolve xs seed) := by
  refine ⟨?_, ?_, ?_, fun e => resolve_eq_error_iff, fun h other => resolveFrom_seed h 0 other⟩
  · intro e hx
    rw [resolve_append, hx]
    rfl
  · intro c e hx hy
    rw [resolve_append, hx, hy]
    rfl
  · intro c d hx hy
    rw [resolve_append, hx, hy]
    rfl

/-- A picked node and a generated group, and behind them a group and a node that is not there: each
part on its own, and both in a row. -/
theorem resolve_compositional_mixed :
    let inHk : Slot Condition := .holds (.compare "link_country" "equals" (.str "HK"))
    let nodes : List Node :=
      [{ id := "a", linkCountry := .str "HK" }, { id := "b", linkCountry := .str "HK" }]
    let s : NodeSnapshot := { nodes, groups := [("relay", ["b"])], templates := [] }
    let r : Resolver := ⟨s.provider, .standard, 8⟩
    let xs : List (Slot Hop) :=
      [.holds { selector := .dynamic, conditions := some inHk },
        .holds { selector := .custom, reference := "Pool", conditions := some inHk }]
    let ys : List (Slot Hop) := [.holds (.ofGroup "relay"), .holds (.ofNode "c")]
    let c : ResolvedChain :=
      { hops := [⟨.node, "b", "b", 0, .dynamic⟩, ⟨.group, "Pool", "Pool", 1, .custom⟩]
        groups := [{ name := "Pool", type := .str "select", proxies := ["a", "b"] }] }
    r.resolve xs (some "a") = .ok (.ok c) ∧
      r.resolve ys (some "a") = .failed (.missingNode "c") "c" 1 ∧
      r.resolve (xs ++ ys) (some "a") = .failed (.missingNode "c") "c" 3 ∧
      r.FailsAt (some "a") ys 1 ⟨.missingNode "c", "c", 0, none⟩ ∧
      r.resolve ys none = .failed (.missingNode "c") "c" 1 := by
  intro inHk nodes s r xs ys c
  have hx : r.resolve xs (some "a") = .ok (.ok c) := by decide +kernel
  have hy : r.resolve ys (some "a") = .failed (.missingNode "c") "c" 1 := by decide +kernel
  obtain ⟨-, hfails, -, -, -⟩ := resolve_compositional r (some "a") xs ys
  obtain ⟨-, -, -, hfirst, hseed⟩ := resolve_compositional r (some "a") ys []
  have hnamed : ∀ hop, Slot.holds hop ∈ ys → hop.selector ≠ .dynamic := by
    simp [ys, Hop.ofGroup, Hop.ofNode]
  exact ⟨hx, hy, hfails c _ hx hy, (hfirst _).mp hy, (hseed hnamed none).trans hy⟩

end Resolver

end DialPlan
