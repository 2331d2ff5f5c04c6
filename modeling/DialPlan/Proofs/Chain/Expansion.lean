import DialPlan.Chain.Resolution
import DialPlan.Proofs.Outcome
import Mathlib.Data.List.Nodup

/-!
# What a template comes to

A template stands for a hop, which may be a template again, and so on: names and hops form any
graph, cycles included.  `Trail` is the path that following takes through that graph, with the names
that were looked up on it.  `Expands` says what a declared hop comes to at the end of such a path,
and `expand_exact` that following templates comes to just that.

Three facts carry this module.

* Following keeps to its trail: as long as no name comes up twice and look-ups are left, it stands
  where the trail ends (`expand_of_followed`).
* A trail that is followed has names of its own and no more of them than look-ups are allowed
  (`Followed`).  Cycles are noticed at the first name that comes up again, wherever on the trail it
  was met, and before the limit is.
* Only the names on the trail are looked up, each of them once (`expandFrom_local`).
-/

namespace DialPlan

/-- **A trail of templates**, with the names that are looked up on it, from a hop to the one that is
reached. -/
inductive Trail (lookup : String → Option (Slot Hop)) (start : Hop) : List String → Hop → Prop
  | here : Trail lookup start [] start
  | step {names : List String} {last next : Hop} :
    Trail lookup start names last → last.selector = .template →
      lookup last.reference = some (.holds next) →
        Trail lookup start (names ++ [last.reference]) next

theorem Trail.head_cases {lookup : String → Option (Slot Hop)} {start last : Hop}
    {names : List String} (h : Trail lookup start names last) :
    (names = [] ∧ last = start) ∨ ∃ next rest, start.selector = .template ∧
      lookup start.reference = some (.holds next) ∧ names = start.reference :: rest ∧
        Trail lookup next rest last := by
  induction h with
  | here => exact Or.inl ⟨rfl, rfl⟩
  | @step names last next htrail htemplate hnext ih =>
    right
    rcases ih with ⟨rfl, rfl⟩ | ⟨second, rest, hstart, hsecond, rfl, hrest⟩
    · exact ⟨next, [], htemplate, hnext, rfl, .here⟩
    · exact ⟨second, _, hstart, hsecond, rfl, hrest.step htemplate hnext⟩

/-- **A trail has one end**: no two trails from a hop lead to different hops that are no
template. -/
theorem Trail.last_unique {lookup : String → Option (Slot Hop)} {start a b : Hop}
    {names names' : List String} (ha : Trail lookup start names a)
    (hb : Trail lookup start names' b) (hatemplate : a.selector ≠ .template)
    (hbtemplate : b.selector ≠ .template) : a = b := by
  induction names generalizing start names' with
  | nil =>
    rcases ha.head_cases with ⟨-, rfl⟩ | ⟨_, _, _, _, hnames, _⟩
    · rcases hb.head_cases with ⟨-, rfl⟩ | ⟨_, _, hstart, _⟩
      · rfl
      · exact absurd hstart hatemplate
    · cases hnames
  | cons name names ih =>
    rcases ha.head_cases with ⟨hnames, -⟩ | ⟨next, rest, hstart, hnext, hnames, harest⟩
    · cases hnames
    · rcases hb.head_cases with ⟨-, rfl⟩ | ⟨next', rest', -, hnext', -, hbrest⟩
      · exact absurd hstart hbtemplate
      · rw [hnext] at hnext'
        cases hnext'
        cases hnames
        exact ih harest hbrest

/-- **A trail that is followed** to its end under a limit: no name comes up twice, and there are no
more names than look-ups.  A limit below zero allows none. -/
structure Followed (lookup : String → Option (Slot Hop)) (limit : Int) (start : Hop)
    (names : List String) (last : Hop) : Prop where
  trail : Trail lookup start names last
  distinct : names.Nodup
  within : names.length ≤ limit.toNat

/-- **What a declared hop comes to**, by the trail of its templates. -/
inductive Expands (lookup : String → Option (Slot Hop)) (limit : Int) (start : Hop)
    (position : Nat) : Resolution Hop → Prop
  /-- A node or a group is reached. -/
  | found {names : List String} {last : Hop} :
    Followed lookup limit start names last → last.selector = .node ∨ last.selector = .group →
      Expands lookup limit start position (.found last)
  /-- A hop is reached that a template must not stand for. -/
  | invalid {names : List String} {last : Hop} :
    Followed lookup limit start names last → last.selector = .dynamic ∨ last.selector = .custom →
      Expands lookup limit start position
        (.failed (.invalidTemplate start.reference last.selector) start.reference position)
  /-- A name comes up again. -/
  | cycle {names : List String} {last : Hop} :
    Followed lookup limit start names last → last.selector = .template →
      last.reference ∈ names →
        Expands lookup limit start position
          (.failed (.templateCycle (names ++ [last.reference])) start.reference position)
  /-- A new name comes up, and all look-ups are made. -/
  | depth {names : List String} {last : Hop} :
    Followed lookup limit start names last → last.selector = .template →
      last.reference ∉ names → names.length = limit.toNat →
        Expands lookup limit start position
          (.failed (.templateDepth limit) start.reference position)
  /-- A new name is looked up, and stands for nothing. -/
  | missing {names : List String} {last : Hop} :
    Followed lookup limit start names last → last.selector = .template →
      last.reference ∉ names → names.length < limit.toNat → lookup last.reference = none →
        Expands lookup limit start position
          (.failed (.missingTemplate last.reference) last.reference position)
  /-- A new name is looked up, and stands for a value that is no hop. -/
  | refused {names : List String} {last : Hop} {w : Value} :
    Followed lookup limit start names last → last.selector = .template →
      last.reference ∉ names → names.length < limit.toNat →
        lookup last.reference = some (.foreign w) →
          Expands lookup limit start position
            (Outcome.refuse (.templateNotAHop last.reference w.kindName))

theorem nodup_concat_iff {names : List String} {name : String} :
    (names ++ [name]).Nodup ↔ names.Nodup ∧ name ∉ names := by
  rw [List.nodup_append]
  simp [List.forall_mem_ne']

/-- **A trail is followed one name further** when that name is new and look-ups are left. -/
theorem Followed.succ {lookup : String → Option (Slot Hop)} {limit : Int} {start last next : Hop}
    {names : List String} (h : Followed lookup limit start names last)
    (htemplate : last.selector = .template) (hnew : last.reference ∉ names)
    (hleft : names.length < limit.toNat) (hnext : lookup last.reference = some (.holds next)) :
    Followed lookup limit start (names ++ [last.reference]) next where
  trail := h.trail.step htemplate hnext
  distinct := nodup_concat_iff.mpr ⟨h.distinct, hnew⟩
  within := by
    rw [List.length_append, List.length_singleton]
    exact hleft

/-- **A higher limit changes nothing**, but where all look-ups were made. -/
theorem Expands.of_le {lookup : String → Option (Slot Hop)} {limit higher : Int} {start : Hop}
    {position : Nat} {result : Resolution Hop} (h : Expands lookup limit start position result)
    (hle : limit ≤ higher)
    (hdepth : result ≠ .failed (.templateDepth limit) start.reference position) :
    Expands lookup higher start position result := by
  have hlimit : limit.toNat ≤ higher.toNat := Int.toNat_le_toNat hle
  have hfollowed : ∀ {names : List String} {last : Hop},
      Followed lookup limit start names last → Followed lookup higher start names last :=
    fun h => ⟨h.trail, h.distinct, Nat.le_trans h.within hlimit⟩
  cases h with
  | found h hnamed => exact .found (hfollowed h) hnamed
  | invalid h hcollected => exact .invalid (hfollowed h) hcollected
  | cycle h htemplate hmem => exact .cycle (hfollowed h) htemplate hmem
  | depth => exact absurd rfl hdepth
  | missing h htemplate hnew hless hnone =>
    exact .missing (hfollowed h) htemplate hnew (Nat.lt_of_lt_of_le hless hlimit) hnone
  | refused h htemplate hnew hless hforeign =>
    exact .refused (hfollowed h) htemplate hnew (Nat.lt_of_lt_of_le hless hlimit) hforeign

namespace Resolver

variable {r : Resolver} {start current next : Hop} {position fuel : Nat} {names : List String}

/-! ## Look-ups -/

theorem expansion?_eq_some_iff {x : Option (Slot Hop)} {e : Slot Hop} :
    expansion? x = some e ↔ e ≠ .foreign .null ∧ x = some e := by
  unfold expansion?
  split
  · simp +contextual [eq_comm]
  · next hnull => exact ⟨fun h => ⟨fun he => hnull (he ▸ h), h⟩, fun h => h.2⟩

theorem expansion?_eq_none_iff {x : Option (Slot Hop)} :
    expansion? x = none ↔ x = none ∨ x = some (.foreign .null) := by
  unfold expansion?
  split
  · simp
  · next hnull => exact ⟨Or.inl, fun h => h.resolve_right hnull⟩

/-- **A name stands for the provider's template**, and for the vocabulary's only when the provider
has none; null is none. -/
theorem lookup_eq_some_iff {name : String} {e : Slot Hop} :
    r.lookup name = some e ↔ e ≠ .foreign .null ∧
      (r.provider.template? name = some e ∨
        (r.provider.template? name = none ∨ r.provider.template? name = some (.foreign .null)) ∧
          r.vocabulary.templates.get? name = some e) := by
  rw [lookup, Option.or_eq_some_iff, expansion?_eq_some_iff, expansion?_eq_none_iff,
    expansion?_eq_some_iff, and_left_comm, ← and_or_left]

/-! ## One step -/

theorem expandFrom_of_named (h : current.selector = .node ∨ current.selector = .group) :
    r.expandFrom start position fuel names current = .found current := by
  unfold expandFrom
  rcases h with h | h <;> rw [h]

theorem expandFrom_of_collected (h : current.selector = .dynamic ∨ current.selector = .custom) :
    r.expandFrom start position fuel names current =
      .failed (.invalidTemplate start.reference current.selector) start.reference position := by
  unfold expandFrom
  rcases h with h | h <;> rw [h]

theorem expandFrom_of_mem (h : current.selector = .template) (hmem : current.reference ∈ names) :
    r.expandFrom start position fuel names current =
      .failed (.templateCycle (names ++ [current.reference])) start.reference position := by
  unfold expandFrom
  rw [h]
  exact if_pos (List.contains_iff_mem.mpr hmem)

theorem expandFrom_zero (h : current.selector = .template) (hnew : current.reference ∉ names) :
    r.expandFrom start position 0 names current =
      .failed (.templateDepth r.templateLimit) start.reference position := by
  unfold expandFrom
  rw [h]
  exact if_neg (mt List.contains_iff_mem.mp hnew)

/-- A new name is looked up while there are look-ups left. -/
theorem expandFrom_succ (h : current.selector = .template) (hnew : current.reference ∉ names) :
    r.expandFrom start position (fuel + 1) names current =
      match r.lookup current.reference with
      | none => .failed (.missingTemplate current.reference) current.reference position
      | some (.foreign w) => Outcome.refuse (.templateNotAHop current.reference w.kindName)
      | some (.holds next) =>
        r.expandFrom start position fuel (names ++ [current.reference]) next := by
  rw [expandFrom, h]
  exact if_neg (mt List.contains_iff_mem.mp hnew)

/-! ## Along a trail -/

/-- A hop that is no template, or one whose name came up before, settles what following comes to. -/
theorem expandFrom_expands_of_settled (h : Followed r.lookup r.templateLimit start names current)
    (hsettled : current.selector = .template → current.reference ∈ names) :
    Expands r.lookup r.templateLimit start position
      (r.expandFrom start position fuel names current) := by
  cases hselector : current.selector with
  | node =>
    rw [expandFrom_of_named (Or.inl hselector)]
    exact .found h (Or.inl hselector)
  | group =>
    rw [expandFrom_of_named (Or.inr hselector)]
    exact .found h (Or.inr hselector)
  | dynamic =>
    rw [expandFrom_of_collected (Or.inl hselector)]
    exact .invalid h (Or.inl hselector)
  | custom =>
    rw [expandFrom_of_collected (Or.inr hselector)]
    exact .invalid h (Or.inr hselector)
  | template =>
    rw [expandFrom_of_mem hselector (hsettled hselector)]
    exact .cycle h hselector (hsettled hselector)

/-- **Following comes to what its trail comes to**, from wherever it stands. -/
theorem expandFrom_expands (h : Followed r.lookup r.templateLimit start names current)
    (hfuel : names.length + fuel = r.templateLimit.toNat) :
    Expands r.lookup r.templateLimit start position
      (r.expandFrom start position fuel names current) := by
  -- the look-ups made and those left always add up to the limit
  induction fuel generalizing names current with
  | zero =>
    by_cases hsettled : current.selector = .template → current.reference ∈ names
    · exact expandFrom_expands_of_settled h hsettled
    · obtain ⟨htemplate, hnew⟩ := Classical.not_imp.mp hsettled
      rw [expandFrom_zero htemplate hnew]
      exact .depth h htemplate hnew hfuel
  | succ fuel ih =>
    by_cases hsettled : current.selector = .template → current.reference ∈ names
    · exact expandFrom_expands_of_settled h hsettled
    · obtain ⟨htemplate, hnew⟩ := Classical.not_imp.mp hsettled
      have hleft : names.length < r.templateLimit.toNat := by omega
      rw [expandFrom_succ htemplate hnew]
      split
      · next hnone => exact .missing h htemplate hnew hleft hnone
      · next w hforeign => exact .refused h htemplate hnew hleft hforeign
      · next next hnext =>
        refine ih (h.succ htemplate hnew hleft hnext) ?_
        rw [List.length_append, List.length_singleton]
        omega

/-- **Following keeps to a trail** whose names are new and within the limit. -/
theorem expand_of_followed {last : Hop} (h : Followed r.lookup r.templateLimit start names last) :
    r.expand start position =
      r.expandFrom start position (r.templateLimit.toNat - names.length) names last := by
  obtain ⟨htrail, hdistinct, hwithin⟩ := h
  induction htrail with
  | here => rfl
  | @step names last next _ htemplate hnext ih =>
    obtain ⟨hdistinct, hnew⟩ := nodup_concat_iff.mp hdistinct
    rw [List.length_append, List.length_singleton] at hwithin
    have hleft : r.templateLimit.toNat - names.length =
        r.templateLimit.toNat - (names ++ [last.reference]).length + 1 := by
      rw [List.length_append, List.length_singleton]
      omega
    rw [ih hdistinct (by omega), hleft, expandFrom_succ htemplate hnew, hnext]

/-- **What a trail comes to, following comes to.** -/
theorem expand_of_expands {result : Resolution Hop}
    (h : Expands r.lookup r.templateLimit start position result) :
    r.expand start position = result := by
  have hleft : ∀ {names : List String}, names.length < r.templateLimit.toNat →
      r.templateLimit.toNat - names.length = r.templateLimit.toNat - names.length - 1 + 1 :=
    fun _ => by omega
  cases h with
  | found h hnamed => rw [expand_of_followed h, expandFrom_of_named hnamed]
  | invalid h hcollected => rw [expand_of_followed h, expandFrom_of_collected hcollected]
  | cycle h htemplate hmem => rw [expand_of_followed h, expandFrom_of_mem htemplate hmem]
  | depth h htemplate hnew hlength =>
    rw [expand_of_followed h, hlength, Nat.sub_self, expandFrom_zero htemplate hnew]
  | missing h htemplate hnew hless hnone =>
    rw [expand_of_followed h, hleft hless, expandFrom_succ htemplate hnew, hnone]
  | refused h htemplate hnew hless hforeign =>
    rw [expand_of_followed h, hleft hless, expandFrom_succ htemplate hnew, hforeign]

theorem expand_eq_iff {result : Resolution Hop} :
    r.expand start position = result ↔
      Expands r.lookup r.templateLimit start position result := by
  constructor
  · rintro rfl
    exact expandFrom_expands ⟨.here, List.nodup_nil, Nat.zero_le _⟩ (Nat.zero_add _)
  · exact expand_of_expands

/-! ## Other look-ups and other limits -/

theorem expandFrom_congr_of_settled {r' : Resolver}
    (hsettled : current.selector = .template → current.reference ∈ names) :
    r'.expandFrom start position fuel names current =
      r.expandFrom start position fuel names current := by
  cases hselector : current.selector with
  | node => rw [expandFrom_of_named (Or.inl hselector), expandFrom_of_named (Or.inl hselector)]
  | group => rw [expandFrom_of_named (Or.inr hselector), expandFrom_of_named (Or.inr hselector)]
  | dynamic =>
    rw [expandFrom_of_collected (Or.inl hselector), expandFrom_of_collected (Or.inl hselector)]
  | custom =>
    rw [expandFrom_of_collected (Or.inr hselector), expandFrom_of_collected (Or.inr hselector)]
  | template =>
    have hmem := hsettled hselector
    rw [expandFrom_of_mem hselector hmem, expandFrom_of_mem hselector hmem]

/-- **Only so many names are looked up**, each of them once: what any other name stands for does not
matter. -/
theorem expandFrom_local (r : Resolver) (start : Hop) (position fuel : Nat) (names : List String)
    (current : Hop) :
    ∃ asked : List String, asked.Nodup ∧ (∀ name ∈ asked, name ∉ names) ∧ asked.length ≤ fuel ∧
      ∀ r' : Resolver, r'.templateLimit = r.templateLimit →
        (∀ name ∈ asked, r'.lookup name = r.lookup name) →
          r'.expandFrom start position fuel names current =
            r.expandFrom start position fuel names current := by
  induction fuel generalizing names current with
  | zero =>
    refine ⟨[], List.nodup_nil, by simp, Nat.le_refl _, fun r' hlimit _ => ?_⟩
    by_cases hsettled : current.selector = .template → current.reference ∈ names
    · exact expandFrom_congr_of_settled hsettled
    · obtain ⟨htemplate, hnew⟩ := Classical.not_imp.mp hsettled
      rw [expandFrom_zero htemplate hnew, expandFrom_zero htemplate hnew, hlimit]
  | succ fuel ih =>
    by_cases hsettled : current.selector = .template → current.reference ∈ names
    · exact ⟨[], List.nodup_nil, by simp, Nat.zero_le _,
        fun r' _ _ => expandFrom_congr_of_settled hsettled⟩
    obtain ⟨htemplate, hnew⟩ := Classical.not_imp.mp hsettled
    by_cases hgoesOn : ∃ next, r.lookup current.reference = some (.holds next)
    · -- the name of the template is looked up, and then those that come up behind it
      obtain ⟨next, hnext⟩ := hgoesOn
      obtain ⟨asked, hdistinct, hfresh, hlength, hlocal⟩ := ih (names ++ [current.reference]) next
      have hself : current.reference ∉ asked := fun hmem => hfresh _ hmem (by simp)
      refine ⟨current.reference :: asked, List.nodup_cons.mpr ⟨hself, hdistinct⟩,
        List.forall_mem_cons.mpr ⟨hnew, fun name hname hold => ?_⟩, Nat.succ_le_succ hlength,
        fun r' hlimit hagree => ?_⟩
      · exact hfresh name hname (List.mem_append_left _ hold)
      · obtain ⟨hagree, hrest⟩ := List.forall_mem_cons.mp hagree
        rw [expandFrom_succ htemplate hnew, expandFrom_succ htemplate hnew, hagree, hnext]
        exact hlocal r' hlimit hrest
    · refine ⟨[current.reference], List.nodup_singleton _, by simpa using hnew, by simp,
        fun r' _ hagree => ?_⟩
      rw [expandFrom_succ htemplate hnew, expandFrom_succ htemplate hnew,
        hagree _ (List.mem_singleton_self _)]
      cases hfound : r.lookup current.reference with
      | none => rfl
      | some e =>
        cases e with
        | holds next => exact absurd ⟨next, hfound⟩ hgoesOn
        | foreign w => rfl

/-! ## Templates exactly -/

/-- **Following templates is exact.**  Names are looked up with the provider first; a declared hop
comes to what its trail says and to nothing else; at most as many names are looked up as the limit
allows; there is a hop or a cause unless a template is a value that is no hop; and a higher limit
makes a difference only where the limit was the cause. -/
theorem expand_exact (r : Resolver) (hop : Hop) (position : Nat) :
    (∀ (name : String) (e : Slot Hop), r.lookup name = some e ↔ e ≠ .foreign .null ∧
      (r.provider.template? name = some e ∨
        (r.provider.template? name = none ∨ r.provider.template? name = some (.foreign .null)) ∧
          r.vocabulary.templates.get? name = some e)) ∧
    (∀ result : Resolution Hop, r.expand hop position = result ↔
      Expands r.lookup r.templateLimit hop position result) ∧
    (∃ asked : List String, asked.Nodup ∧ asked.length ≤ r.templateLimit.toNat ∧
      ∀ r' : Resolver, r'.templateLimit = r.templateLimit →
        (∀ name ∈ asked, r'.lookup name = r.lookup name) →
          r'.expand hop position = r.expand hop position) ∧
    ((∀ (name : String) (w : Value), r.provider.template? name = some (.foreign w) → w = .null) →
      (∀ (name : String) (w : Value),
        r.vocabulary.templates.get? name = some (.foreign w) → w = .null) →
          ∃ answer, r.expand hop position = .ok answer) ∧
    ∀ limit : Int, r.templateLimit ≤ limit →
      r.expand hop position ≠ .failed (.templateDepth r.templateLimit) hop.reference position →
        ({ r with templateLimit := limit } : Resolver).expand hop position =
          r.expand hop position := by
  refine ⟨fun _ _ => lookup_eq_some_iff, fun _ => expand_eq_iff, ?_, ?_, ?_⟩
  · obtain ⟨asked, hdistinct, -, hlength, hlocal⟩ :=
      expandFrom_local r hop position r.templateLimit.toNat [] hop
    refine ⟨asked, hdistinct, hlength, fun r' hlimit hagree => ?_⟩
    rw [expand, hlimit]
    exact hlocal r' hlimit hagree
  · intro hprovider hvocabulary
    obtain ⟨result, hresult⟩ : ∃ result, r.expand hop position = result := ⟨_, rfl⟩
    rw [hresult]
    cases expand_eq_iff.mp hresult with
    | refused _ _ _ _ hforeign =>
      obtain ⟨hnull, hfound⟩ := lookup_eq_some_iff.mp hforeign
      rcases hfound with hfound | ⟨-, hfound⟩
      · exact absurd (congrArg Slot.foreign (hprovider _ _ hfound)) hnull
      · exact absurd (congrArg Slot.foreign (hvocabulary _ _ hfound)) hnull
    | _ => exact ⟨_, rfl⟩
  · intro limit hle hdepth
    exact expand_of_expands ((expand_eq_iff.mp rfl).of_le hle hdepth)

/-- A trail that runs into a cycle behind its first name, and a provider whose template stands
before the vocabulary's. -/
theorem expand_exact_rho :
    let templates : Table (Slot Hop) :=
      [("in", .holds (.ofTemplate "a")), ("a", .holds (.ofTemplate "b"))]
    let r : Resolver :=
      { provider := ⟨[], fun _ => none, fun _ => .null, templates.get?⟩
        vocabulary := .standard [("a", .holds (.ofNode "n")), ("b", .holds (.ofTemplate "a"))]
        templateLimit := 3 }
    Expands r.lookup 3 (.ofTemplate "in") 2
        (.failed (.templateCycle ["in", "a", "b", "a"]) "in" 2) ∧
      ({ r with templateLimit := 9 } : Resolver).expand (.ofTemplate "in") 2 =
        .failed (.templateCycle ["in", "a", "b", "a"]) "in" 2 := by
  intro templates r
  obtain ⟨-, hexpand, -, -, hraise⟩ := expand_exact r (.ofTemplate "in") 2
  have hcycle : r.expand (.ofTemplate "in") 2 =
      .failed (.templateCycle ["in", "a", "b", "a"]) "in" 2 := rfl
  exact ⟨(hexpand _).mp hcycle, (hraise 9 (by decide) (by rw [hcycle]; nofun)).trans hcycle⟩

end Resolver

end DialPlan
