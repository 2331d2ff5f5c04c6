import DialPlan.Decision.FirstMatch
import DialPlan.Proofs.Outcome

/-!
# Which rule decides

The rules that are enabled and whose targets select a node *claim* it.  The engine walks through all
rules, asks for chains on the way and keeps the failures that it passes over; `firstMatch` says what
this comes to in terms of the claiming rules alone.  Under the closed policy the first of them
decides.  Under the open policy it is the first whose chain is resolved, and the failures of those
before it are kept.

Two facts hold even where targets or chains of other rules cannot be judged: a rule that does not
claim the node may be put anywhere, and nothing behind the deciding rule is looked at.
-/

namespace DialPlan

/-- What a rule comes to, given what its chain comes to. -/
def Ruling.ofResult (r : Rule) : Except Unresolved ResolvedChain → Ruling
  | .ok c => .chained r c
  | .error err => .failed r (err.ofRule r)

/-- The failure of a rule, if its chain is one. -/
def Rule.failure? (r : Rule) : Except Unresolved ResolvedChain → Option Unresolved
  | .ok _ => none
  | .error err => some (err.ofRule r)

/-- **First match**: the decision of the rules that claim a node, by what their chains come to. -/
def firstMatch (policy : Policy) (node : String) (result : Rule → Except Unresolved ResolvedChain)
    (claimants : List Rule) : Decision :=
  match policy with
  | .failClosed =>
    match claimants.head? with
    | none => { node, ruling := .unruled }
    | some r => { node, ruling := .ofResult r (result r) }
  | .failOpen =>
    let passedOver := claimants.takeWhile fun r => !(result r).isOk
    let skipped := passedOver.filterMap fun r => r.failure? (result r)
    match claimants.find? fun r => (result r).isOk with
    | none => { node, ruling := .unruled, skipped }
    | some r => { node, ruling := .ofResult r (result r), skipped }

namespace Engine

/-- Whether a rule claims a node: it is enabled, and its target selects the node. -/
def claims (e : Engine) (n : NodeView) (r : Rule) : Bool :=
  r.isEnabled &&
    match r.target.selects e.vocabulary n with
    | .ok selected => selected
    | .error _ => false

variable {e : Engine} {n : NodeView} {id : String} {r : Rule} {rules : List Rule}

/-! ## One rule -/

theorem applies_eq_claims
    (h : r.isEnabled = true → ∃ selected, r.target.selects e.vocabulary n = .ok selected) :
    e.applies n r = .ok (e.claims n r) := by
  unfold applies claims
  by_cases henabled : r.isEnabled = true
  · obtain ⟨selected, hselects⟩ := h henabled
    rw [if_pos henabled, hselects, henabled, Bool.true_and]
  · rw [if_neg henabled, Bool.eq_false_iff.mpr henabled, Bool.false_and]

/-- A rule that is switched off, or does not select the node, does not apply. -/
theorem applies_eq_false
    (h : r.isEnabled = false ∨ r.target.selects e.vocabulary n = .ok false) :
    e.applies n r = .ok false := by
  unfold applies
  rcases h with hoff | helsewhere
  · rw [hoff, if_neg Bool.false_ne_true]
  · rw [helsewhere, ite_self]

theorem chainOf_eq_ok {result : Except Unresolved ResolvedChain}
    (h : e.resolver.resolve r.chain (some id) = .ok result) :
    e.chainOf id r = .ok (result.mapError (·.ofRule r)) := by
  rw [chainOf, h]
  rfl

/-- A rule that does not apply is passed by. -/
theorem rule_cons_of_not_applies (h : e.applies n r = .ok false) :
    e.rule n id (r :: rules) = e.rule n id rules := by
  rw [rule, h]
  rfl

/-- A rule that applies, and whose chain is resolved, decides. -/
theorem rule_cons_of_chained {c : ResolvedChain} (h : e.applies n r = .ok true)
    (hchain : e.chainOf id r = .ok (.ok c)) :
    e.rule n id (r :: rules) = .ok ([], .chained r c) := by
  rw [rule, h, hchain]
  rfl

/-- Under the closed policy, so does one whose chain is not. -/
theorem rule_cons_of_failed_closed {err : Unresolved} (hpolicy : e.policy = .failClosed)
    (h : e.applies n r = .ok true) (hchain : e.chainOf id r = .ok (.error err)) :
    e.rule n id (r :: rules) = .ok ([], .failed r err) := by
  rw [rule, h, hchain, hpolicy]
  rfl

/-- Under the open policy its failure is kept, and the rules behind it are asked. -/
theorem rule_cons_of_failed_open {err : Unresolved} (hpolicy : e.policy = .failOpen)
    (h : e.applies n r = .ok true) (hchain : e.chainOf id r = .ok (.error err)) :
    e.rule n id (r :: rules) =
      (e.rule n id rules).map fun rest => (err :: rest.1, rest.2) := by
  rw [rule, h, hchain, hpolicy]
  cases e.rule n id rules <;> rfl

/-! ## All rules -/

/-- **The walk through the rules ends where the first match is.** -/
theorem rule_eq_firstMatch {result : Rule → Except Unresolved ResolvedChain}
    (hselects : ∀ r ∈ rules, r.isEnabled = true →
      ∃ selected, r.target.selects e.vocabulary n = .ok selected)
    (hresult : ∀ r ∈ rules, e.claims n r = true →
      e.resolver.resolve r.chain (some id) = .ok (result r)) :
    e.rule n id rules =
      let d := firstMatch e.policy id result (rules.filter (e.claims n))
      .ok (d.skipped, d.ruling) := by
  induction rules with
  | nil =>
    rw [rule, List.filter_nil]
    cases e.policy <;> rfl
  | cons r rules ih =>
    obtain ⟨hfirst, hselects⟩ := List.forall_mem_cons.mp hselects
    obtain ⟨hfirstResult, hresult⟩ := List.forall_mem_cons.mp hresult
    have happlies := applies_eq_claims hfirst
    have hrest := ih hselects hresult
    by_cases hclaims : e.claims n r = true
    · rw [hclaims] at happlies
      have hchain := chainOf_eq_ok (hfirstResult hclaims)
      rw [List.filter_cons_of_pos hclaims]
      cases hr : result r with
      | ok c =>
        rw [hr] at hchain
        rw [rule_cons_of_chained happlies hchain]
        cases hpolicy : e.policy <;> simp [firstMatch, hr, Ruling.ofResult, Except.isOk,
          Except.toBool]
      | error err =>
        rw [hr] at hchain
        cases hpolicy : e.policy with
        | failClosed =>
          rw [rule_cons_of_failed_closed hpolicy happlies hchain]
          simp [firstMatch, hr, Ruling.ofResult]
        | failOpen =>
          -- the failure is put in front of those that the other rules leave
          rw [rule_cons_of_failed_open hpolicy happlies hchain, hrest, hpolicy]
          simp only [firstMatch, Except.map]
          have hfails : (result r).isOk = false := by rw [hr]; rfl
          rw [List.find?_cons_of_neg (by simp [hfails]),
            List.takeWhile_cons_of_pos (by simp [hfails]), List.filterMap_cons, hr, Rule.failure?]
          cases (rules.filter (e.claims n)).find? fun r => (result r).isOk <;> rfl
    · rw [Bool.eq_false_iff.mpr hclaims] at happlies
      rw [rule_cons_of_not_applies happlies, List.filter_cons_of_neg hclaims, hrest]

/-- The walk depends on what it comes to behind a rule, and not on how. -/
theorem rule_cons_congr {others : List Rule} (h : e.rule n id rules = e.rule n id others) :
    e.rule n id (r :: rules) = e.rule n id (r :: others) := by
  rw [rule, rule, h]

/-- **A rule that does not apply may be put anywhere.** -/
theorem rule_insert (h : e.applies n r = .ok false) (before after : List Rule) :
    e.rule n id (before ++ r :: after) = e.rule n id (before ++ after) := by
  induction before with
  | nil => exact rule_cons_of_not_applies h
  | cons first before ih => exact rule_cons_congr ih

/-- **What the first rule can do** to a walk that comes to an end. -/
theorem rule_cons_cases {skipped : List Unresolved} {ruling : Ruling}
    (h : e.rule n id (r :: rules) = .ok (skipped, ruling)) :
    (e.applies n r = .ok false ∧ e.rule n id rules = .ok (skipped, ruling)) ∨
    ((∃ c, ruling = .chained r c) ∨ ∃ err, ruling = .failed r err) ∧
      (∀ others, e.rule n id (r :: others) = .ok (skipped, ruling)) ∨
    ∃ err rest, e.policy = .failOpen ∧ e.applies n r = .ok true ∧
      e.chainOf id r = .ok (.error err) ∧ skipped = err :: rest ∧
      e.rule n id rules = .ok (rest, ruling) := by
  have hstep := h
  rw [rule, bind_eq_ok_iff] at hstep
  obtain ⟨selected, happlies, hstep⟩ := hstep
  cases selected with
  | false => exact Or.inl ⟨happlies, hstep⟩
  | true =>
    rw [if_pos rfl, bind_eq_ok_iff] at hstep
    obtain ⟨result, hchain, hstep⟩ := hstep
    cases result with
    | ok c =>
      cases hstep
      exact Or.inr (Or.inl ⟨Or.inl ⟨c, rfl⟩, fun _ => rule_cons_of_chained happlies hchain⟩)
    | error err =>
      cases hpolicy : e.policy with
      | failClosed =>
        rw [rule_cons_of_failed_closed hpolicy happlies hchain] at h
        cases h
        exact Or.inr (Or.inl ⟨Or.inr ⟨err, rfl⟩,
          fun _ => rule_cons_of_failed_closed hpolicy happlies hchain⟩)
      | failOpen =>
        rw [rule_cons_of_failed_open hpolicy happlies hchain] at h
        cases hrest : e.rule n id rules with
        | error f =>
          rw [hrest] at h
          cases h
        | ok rest =>
          rw [hrest] at h
          cases h
          exact Or.inr (Or.inr ⟨err, rest.1, rfl, happlies, hchain, rfl, rfl⟩)

/-- **Nothing behind the deciding rule is looked at.** -/
theorem rule_settled {d : Decision} (h : e.rule n id rules = .ok (d.skipped, d.ruling))
    (hdecides : d.rule? = some r) :
    ∃ before after, rules = before ++ r :: after ∧
      ∀ others, e.rule n id (before ++ r :: others) = .ok (d.skipped, d.ruling) := by
  induction rules generalizing d with
  | nil =>
    obtain ⟨node, ruling, skipped⟩ := d
    rw [rule] at h
    cases h
    cases hdecides
  | cons first rules ih =>
    rcases rule_cons_cases h with ⟨happlies, hrest⟩ | ⟨hruling, hothers⟩ |
      ⟨err, rest, hpolicy, happlies, hchain, hskipped, hrest⟩
    · obtain ⟨before, after, rfl, hall⟩ := ih hrest hdecides
      refine ⟨first :: before, after, rfl, fun others => ?_⟩
      rw [List.cons_append, rule_cons_of_not_applies happlies, hall]
    · have hfirst : first = r := by
        rw [Decision.rule?] at hdecides
        rcases hruling with ⟨c, hruling⟩ | ⟨err, hruling⟩
        · rw [hruling] at hdecides
          exact Option.some.inj hdecides
        · rw [hruling] at hdecides
          exact Option.some.inj hdecides
      subst hfirst
      exact ⟨[], rules, rfl, hothers⟩
    · obtain ⟨before, after, rfl, hall⟩ := ih (d := { d with skipped := rest }) hrest hdecides
      refine ⟨first :: before, after, rfl, fun others => ?_⟩
      rw [List.cons_append, rule_cons_of_failed_open hpolicy happlies hchain, hall, hskipped]
      rfl

/-! ## Decisions -/

theorem decide_eq_ok {skipped : List Unresolved} {ruling : Ruling} (hid : n.id = .ok id)
    (h : e.rule n id rules = .ok (skipped, ruling)) :
    e.decide n rules = .ok { node := id, ruling, skipped } := by
  rw [decide, hid]
  show (e.rule n id rules >>= _) = _
  rw [h]
  rfl

theorem decide_congr {others : List Rule} (h : ∀ id, e.rule n id rules = e.rule n id others) :
    e.decide n rules = e.decide n others := by
  rw [decide, decide]
  cases n.id with
  | error f => rfl
  | ok id =>
    show (e.rule n id rules >>= _) = (e.rule n id others >>= _)
    rw [h]

/-- **Failures of a first match** are those of claiming rules, and name them. -/
theorem errors_firstMatch {policy : Policy} {result : Rule → Except Unresolved ResolvedChain}
    {claimants : List Rule} {x : Unresolved}
    (h : x ∈ (firstMatch policy id result claimants).errors) :
    ∃ r ∈ claimants, ∃ err, result r = .error err ∧ x = err.ofRule r := by
  cases policy with
  | failClosed =>
    cases claimants with
    | nil => cases h
    | cons r claimants =>
      refine ⟨r, List.mem_cons_self, ?_⟩
      cases hr : result r with
      | ok c => simp [firstMatch, Decision.errors, Decision.error?, Ruling.ofResult, hr] at h
      | error err =>
        refine ⟨err, rfl, ?_⟩
        simpa [firstMatch, Decision.errors, Decision.error?, Ruling.ofResult, hr] using h
  | failOpen =>
    -- the rule that is named has a chain, so every failure was skipped
    have hskipped : x ∈ (claimants.takeWhile fun r => !(result r).isOk).filterMap
        fun r => r.failure? (result r) := by
      cases hfound : claimants.find? fun r => (result r).isOk with
      | none =>
        simpa only [firstMatch, hfound, Decision.errors, Decision.error?, Option.toList,
          List.append_nil] using h
      | some r =>
        have hok : (result r).isOk = true := by simpa using List.find?_some hfound
        cases hr : result r with
        | ok c =>
          simpa only [firstMatch, hfound, hr, Ruling.ofResult, Decision.errors, Decision.error?,
            Option.toList, List.append_nil] using h
        | error err =>
          rw [hr] at hok
          cases hok
    obtain ⟨r, hmem, hfailure⟩ := List.mem_filterMap.mp hskipped
    refine ⟨r, (List.takeWhile_sublist _).subset hmem, ?_⟩
    cases hr : result r with
    | ok c =>
      rw [hr] at hfailure
      cases hfailure
    | error err =>
      rw [hr] at hfailure
      cases hfailure
      exact ⟨err, rfl, rfl⟩

/-- **The decision is that of the first match.**  Every failure in it carries the id and the
subscription of its own rule; a rule that is switched off or does not select the node may be put
anywhere; and the rules behind the deciding one may be any. -/
theorem decide_eq_firstMatch {result : Rule → Except Unresolved ResolvedChain}
    (hid : n.id = .ok id)
    (hselects : ∀ r ∈ rules, r.isEnabled = true →
      ∃ selected, r.target.selects e.vocabulary n = .ok selected)
    (hresult : ∀ r ∈ rules, e.claims n r = true →
      e.resolver.resolve r.chain (some id) = .ok (result r)) :
    let d := firstMatch e.policy id result (rules.filter (e.claims n))
    e.decide n rules = .ok d ∧
      (∀ x ∈ d.errors, ∃ r ∈ rules, e.claims n r = true ∧ ∃ err, result r = .error err ∧
        x = err.ofRule r ∧ x.rule = some (r.id, r.subscription)) ∧
      (∀ (before after : List Rule) (r : Rule),
        r.isEnabled = false ∨ r.target.selects e.vocabulary n = .ok false →
          e.decide n (before ++ r :: after) = e.decide n (before ++ after)) ∧
      ∀ r, d.rule? = some r → ∃ before after, rules = before ++ r :: after ∧
        ∀ others, e.decide n (before ++ r :: others) = .ok d := by
  intro d
  have hwalk := rule_eq_firstMatch hselects hresult
  have hnode : d = { node := id, ruling := d.ruling, skipped := d.skipped } := by
    show firstMatch _ _ _ _ = _
    unfold d firstMatch
    cases e.policy with
    | failClosed => cases (rules.filter (e.claims n)).head? <;> rfl
    | failOpen => cases (rules.filter (e.claims n)).find? fun r => (result r).isOk <;> rfl
  refine ⟨?_, ?_, ?_, ?_⟩
  · rw [hnode]
    exact decide_eq_ok hid hwalk
  · intro x hx
    obtain ⟨r, hmem, err, hr, rfl⟩ := errors_firstMatch hx
    obtain ⟨hmem, hclaims⟩ := List.mem_filter.mp hmem
    exact ⟨r, hmem, hclaims, err, hr, rfl, rfl⟩
  · intro before after r hr
    exact decide_congr fun id => rule_insert (applies_eq_false hr) before after
  · intro r hdecides
    obtain ⟨before, after, hrules, hothers⟩ := rule_settled hwalk hdecides
    refine ⟨before, after, hrules, fun others => ?_⟩
    rw [hnode]
    exact decide_eq_ok hid (hothers others)

/-- Of four rules one is switched off, one names a node that is gone, one selects another node, and
the last claims the node with an empty chain. -/
theorem decide_eq_firstMatch_open :
    let rule : String → Bool → List (Slot Hop) → Target → Rule := fun id on chain target =>
      { id := .str id, subscription := "s", enabled := .bool on, chain, target := .holds target,
        created := default, updated := default }
    let rules := [rule "off" false [] .all, rule "broken" true [.holds (.ofNode "gone")] .all,
      rule "elsewhere" true [] (.node (some "m")), rule "direct" true [] (.node (some "n"))]
    let e : Engine :=
      { provider := ⟨[], fun _ => none, fun _ => .null, fun _ => none⟩, vocabulary := .standard,
        policy := .failOpen }
    let n := NodeView.mapping [(.str "id", .str "n")]
    let result : Rule → Except Unresolved ResolvedChain := fun r =>
      if r.id = .str "broken" then
        .error { cause := .missingNode "gone", reference := "gone", position := 0 }
      else .ok {}
    n.id = .ok "n" ∧
      (∀ r ∈ rules, r.isEnabled = true →
        ∃ selected, r.target.selects e.vocabulary n = .ok selected) ∧
      (∀ r ∈ rules, e.claims n r = true →
        e.resolver.resolve r.chain (some "n") = .ok (result r)) ∧
      e.decide n rules = .ok (firstMatch .failOpen "n" result (rules.filter (e.claims n))) ∧
      (firstMatch .failOpen "n" result (rules.filter (e.claims n))).ruleId = .str "direct" := by
  intro rule rules e n result
  have hselects : ∀ r ∈ rules, r.isEnabled = true →
      ∃ selected, r.target.selects e.vocabulary n = .ok selected := by
    intro r hr _
    simp only [rules, List.mem_cons, List.not_mem_nil, or_false] at hr
    rcases hr with rfl | rfl | rfl | rfl <;> exact ⟨_, rfl⟩
  have hresult : ∀ r ∈ rules, e.claims n r = true →
      e.resolver.resolve r.chain (some "n") = .ok (result r) := by
    intro r hr _
    simp only [rules, List.mem_cons, List.not_mem_nil, or_false] at hr
    rcases hr with rfl | rfl | rfl | rfl <;> rfl
  exact ⟨rfl, hselects, hresult, (decide_eq_firstMatch rfl hselects hresult).1, rfl⟩

end Engine

end DialPlan
