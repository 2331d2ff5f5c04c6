import DialPlan.Proofs.Chain.Expansion
import DialPlan.Proofs.Chain.Soundness
import DialPlan.Proofs.Decision.FirstMatch

/-!
# Nodes in their own chains

The ruled node stands behind the last hop of its chain and must not be one of the hops: it would be
wired to dial itself.  A dynamic hop never picks it.  A hop that names a node is taken at its word,
and so is a template that leads to such a hop; a rule that selects the very node it names gives that
node a chain through itself.

`mem_own_chain_iff` says that this is the only way: hop by hop, a resolved chain dials the ruled
node exactly where the declared hop names it.
-/

namespace DialPlan

namespace ResolvedHop

/-- A resolved hop that dials the node of an id. -/
def Dials (x : ResolvedHop) (id : String) : Prop := x.kind = .node ∧ x.reference = id

end ResolvedHop

namespace Resolver

/-- **A hop names a node**, itself or by way of templates. -/
def Names (r : Resolver) (hop : Hop) (id : String) : Prop :=
  ∃ names last, Trail r.lookup hop names last ∧ last.selector = .node ∧ last.reference = id

variable {r : Resolver} {hop : Hop} {position : Nat} {declared : Selector} {id : String}
  {seed : Option String} {step : Step}

/-! ## Single hops -/

theorem resolveNode_reference (h : r.resolveNode hop position declared = .ok (.ok step)) :
    step.1.kind = .node ∧ step.1.reference = hop.reference := by
  unfold resolveNode at h
  split at h
  · cases h
  · obtain ⟨name, -, h⟩ := bind_eq_ok_iff.mp h
    cases h
    exact ⟨rfl, rfl⟩

theorem resolveGroup_kind (h : r.resolveGroup hop position declared = .ok (.ok step)) :
    step.1.kind = .group := by
  unfold resolveGroup at h
  split at h
  · cases h
  · cases h
  · cases h
  · obtain ⟨empty, -, h⟩ := bind_eq_ok_iff.mp h
    cases empty with
    | true => cases h
    | false =>
      cases h
      rfl

theorem resolveCustom_kind (h : r.resolveCustom hop position declared = .ok (.ok step)) :
    step.1.kind = .group := by
  unfold resolveCustom at h
  split at h
  · cases h
  split at h
  · cases h
  obtain ⟨nodes, -, h⟩ := bind_eq_ok_iff.mp h
  obtain ⟨proxies, -, h⟩ := bind_eq_ok_iff.mp h
  split at h
  · cases h
  · cases h
    rfl

/-- The seed is not among the others. -/
theorem id_ne_of_mem_others {views rest : List NodeView} {n : NodeView}
    (h : others (some id) views = .ok rest) (hn : n ∈ rest) : n.id ≠ .ok id := by
  induction views generalizing rest with
  | nil =>
    cases h
    cases hn
  | cons m views ih =>
    obtain ⟨found, hfound, h⟩ := bind_eq_ok_iff.mp h
    obtain ⟨kept, hkept, h⟩ := bind_eq_ok_iff.mp h
    cases h
    split at hn
    · exact ih hkept hn
    · next hother =>
      rcases List.mem_cons.mp hn with rfl | hn
      · intro hid
        rw [hfound] at hid
        cases hid
        exact hother rfl
      · exact ih hkept hn

/-- **A dynamic hop picks another node.** -/
theorem resolveDynamic_reference_ne
    (h : r.resolveDynamic hop position declared (some id) = .ok (.ok step)) :
    step.1.reference ≠ id := by
  unfold resolveDynamic at h
  split at h
  · cases h
  obtain ⟨views, hcandidates, h⟩ := bind_eq_ok_iff.mp h
  obtain ⟨matched, -, hothers⟩ := bind_eq_ok_iff.mp hcandidates
  cases views with
  | nil => cases h
  | cons first rest =>
    obtain ⟨chosen, hpick, h⟩ := bind_eq_ok_iff.mp h
    obtain ⟨name, -, h⟩ := bind_eq_ok_iff.mp h
    obtain ⟨found, hfound, h⟩ := bind_eq_ok_iff.mp h
    cases h
    rintro rfl
    exact id_ne_of_mem_others hothers (mem_of_pick hpick) hfound

/-- A hop that is no template names a node only when it is the hop of that node. -/
theorem names_iff_of_ne_template (h : hop.selector ≠ .template) :
    r.Names hop id ↔ hop.selector = .node ∧ hop.reference = id := by
  constructor
  · rintro ⟨names, last, htrail, hnode, hid⟩
    rcases htrail.head_cases with ⟨-, rfl⟩ | ⟨_, _, hstart, _⟩
    · exact ⟨hnode, hid⟩
    · exact absurd hstart h
  · rintro ⟨hnode, hid⟩
    exact ⟨[], hop, .here, hnode, hid⟩

/-- A template names the node that it comes to. -/
theorem names_iff_of_expand {expanded : Hop} (h : r.expand hop position = .found expanded) :
    r.Names hop id ↔ r.Names expanded id := by
  cases expand_eq_iff.mp h with
  | @found names _ hfollowed hnamed =>
    have hend : expanded.selector ≠ .template := by
      rcases hnamed with hnamed | hnamed <;> simp [hnamed]
    rw [names_iff_of_ne_template hend]
    constructor
    · rintro ⟨names', last, htrail, hnode, hid⟩
      have hlast := hfollowed.trail.last_unique htrail hend (by simp [hnode])
      subst hlast
      exact ⟨hnode, hid⟩
    · rintro ⟨hnode, hid⟩
      exact ⟨names, expanded, hfollowed.trail, hnode, hid⟩

/-- **A resolved hop dials the ruled node exactly when the declared hop names it.** -/
theorem resolveHop_dials_iff (h : r.resolveHop hop position (some id) = .ok (.ok step)) :
    step.1.Dials id ↔ r.Names hop id := by
  -- a hop of a node dials what it names, and a hop of a group dials no node
  have hnode : ∀ {expanded : Hop} {declared : Selector}, expanded.selector = .node →
      r.resolveNode expanded position declared = .ok (.ok step) →
        (step.1.Dials id ↔ r.Names expanded id) := by
    intro expanded declared hselector h
    obtain ⟨hkind, hreference⟩ := resolveNode_reference h
    rw [names_iff_of_ne_template (by simp [hselector]), ResolvedHop.Dials, hreference]
    simp only [hkind, hselector, true_and]
  have hgroup : ∀ {expanded : Hop}, expanded.selector ≠ .node → expanded.selector ≠ .template →
      step.1.kind = .group → (step.1.Dials id ↔ r.Names expanded id) := by
    intro expanded hnode htemplate hkind
    rw [names_iff_of_ne_template htemplate, ResolvedHop.Dials]
    simp only [hkind, hnode, reduceCtorEq, false_and]
  unfold resolveHop at h
  cases hselector : hop.selector with
  | node =>
    rw [hselector] at h
    exact hnode hselector h
  | group =>
    rw [hselector] at h
    exact hgroup (by simp [hselector]) (by simp [hselector]) (resolveGroup_kind h)
  | dynamic =>
    rw [hselector] at h
    have hother := resolveDynamic_reference_ne h
    rw [names_iff_of_ne_template (by simp [hselector]), ResolvedHop.Dials]
    simp only [hother, hselector, reduceCtorEq, and_false, false_and]
  | custom =>
    rw [hselector] at h
    exact hgroup (by simp [hselector]) (by simp [hselector]) (resolveCustom_kind h)
  | template =>
    rw [hselector] at h
    obtain ⟨expanded, hexpand, h⟩ := Resolution.andThen_eq_found_iff.mp h
    rw [names_iff_of_expand hexpand]
    have hends : expanded.selector = .node ∨ expanded.selector = .group := by
      cases expand_eq_iff.mp hexpand with
      | found _ hnamed => exact hnamed
    rcases hends with hends | hends
    · rw [hends] at h
      exact hnode hends h
    · rw [hends] at h
      exact hgroup (by simp [hends]) (by simp [hends]) (resolveGroup_kind h)

/-! ## Whole chains -/

/-- What stands in the place of a hop names a node. -/
def SlotNames (r : Resolver) (slot : Slot Hop) (id : String) : Prop :=
  ∃ hop, slot = .holds hop ∧ r.Names hop id

@[simp] theorem slotNames_holds : r.SlotNames (.holds hop) id ↔ r.Names hop id := by
  simp [SlotNames]

theorem resolveFrom_dials {chain : List (Slot Hop)} {c : ResolvedChain}
    (h : r.resolveFrom (some id) position chain = .ok (.ok c)) :
    List.Forall₂ (fun slot x => x.Dials id ↔ r.SlotNames slot id) chain c.hops := by
  induction chain generalizing position c with
  | nil =>
    cases h
    exact List.Forall₂.nil
  | cons slot chain ih =>
    rw [resolveFrom] at h
    obtain ⟨step, hstep, h⟩ := Resolution.andThen_eq_found_iff.mp h
    obtain ⟨rest, hrest, h⟩ := Resolution.andThen_eq_found_iff.mp h
    cases h
    cases slot with
    | foreign w => cases hstep
    | holds hop =>
      refine List.Forall₂.cons ?_ (ih hrest)
      rw [slotNames_holds]
      exact resolveHop_dials_iff hstep

end Resolver

namespace Engine

variable {e : Engine} {n : NodeView} {id : String} {r : Rule} {rules : List Rule}

theorem resolve_of_chainOf {c : ResolvedChain} (h : e.chainOf id r = .ok (.ok c)) :
    e.resolver.resolve r.chain (some id) = .ok (.ok c) := by
  unfold chainOf at h
  cases hresolve : e.resolver.resolve r.chain (some id) with
  | error f =>
    rw [hresolve] at h
    cases h
  | ok result =>
    rw [hresolve] at h
    cases result with
    | error err => cases h
    | ok found =>
      cases h
      rfl

/-- **A ruling with a chain is that of a rule in the list**, and the chain is what the hops of that
rule come to. -/
theorem resolve_of_chained {skipped : List Unresolved} {c : ResolvedChain}
    (h : e.rule n id rules = .ok (skipped, .chained r c)) :
    r ∈ rules ∧ e.resolver.resolve r.chain (some id) = .ok (.ok c) := by
  induction rules generalizing skipped with
  | nil => cases h
  | cons first rules ih =>
    have hlater : ∀ {skipped : List Unresolved},
        e.rule n id rules = .ok (skipped, .chained r c) →
          r ∈ first :: rules ∧ e.resolver.resolve r.chain (some id) = .ok (.ok c) := by
      intro skipped h
      obtain ⟨hmem, hresolve⟩ := ih h
      exact ⟨List.mem_cons_of_mem first hmem, hresolve⟩
    rw [rule] at h
    obtain ⟨selected, -, h⟩ := bind_eq_ok_iff.mp h
    cases selected with
    | false => exact hlater h
    | true =>
      obtain ⟨result, hchain, h⟩ := bind_eq_ok_iff.mp h
      cases result with
      | ok found =>
        cases h
        exact ⟨List.mem_cons_self, resolve_of_chainOf hchain⟩
      | error err =>
        cases hpolicy : e.policy with
        | failClosed =>
          rw [hpolicy] at h
          cases h
        | failOpen =>
          rw [hpolicy] at h
          obtain ⟨⟨passed, ruling⟩, hrest, h⟩ := bind_eq_ok_iff.mp h
          cases h
          exact hlater hrest

theorem rule_of_decide {d : Decision} (h : e.decide n rules = .ok d) :
    n.id = .ok d.node ∧ e.rule n d.node rules = .ok (d.skipped, d.ruling) := by
  obtain ⟨node, hid, h⟩ := bind_eq_ok_iff.mp h
  obtain ⟨⟨skipped, ruling⟩, hrule, h⟩ := bind_eq_ok_iff.mp h
  cases h
  exact ⟨hid, hrule⟩

theorem exists_mem_iff_of_forall₂ {α β : Type} {P : α → Prop} {Q : β → Prop} {as : List α}
    {bs : List β} (h : List.Forall₂ (fun a b => Q b ↔ P a) as bs) :
    (∃ b ∈ bs, Q b) ↔ ∃ a ∈ as, P a := by
  induction h with
  | nil => simp
  | cons hab _ ih => simp [hab, ih]

/-- **A node is in its own chain exactly where the deciding rule names it.**  A chain comes from one
of the rules, hop by hop, and a hop of it dials the ruled node exactly when the declared hop names
that node, itself or by way of templates.  So no other hop dials it, and a dynamic hop never
does. -/
theorem mem_own_chain_iff {d : Decision} {c : ResolvedChain} (hdecide : e.decide n rules = .ok d)
    (hchain : d.chain? = some c) :
    ∃ r ∈ rules, d.rule? = some r ∧ n.id = .ok d.node ∧
      List.Forall₂ (fun slot x => x.Dials d.node ↔ e.resolver.SlotNames slot d.node)
        r.chain c.hops ∧
      ((∃ x ∈ c.hops, x.Dials d.node) ↔ ∃ slot ∈ r.chain, e.resolver.SlotNames slot d.node) := by
  obtain ⟨hid, hrule⟩ := rule_of_decide hdecide
  obtain ⟨node, ruling, skipped⟩ := d
  cases ruling with
  | chained r found =>
    cases hchain
    obtain ⟨hmem, hresolve⟩ := resolve_of_chained hrule
    have hdials := Resolver.resolveFrom_dials hresolve
    exact ⟨r, hmem, rfl, hid, hdials, exists_mem_iff_of_forall₂ hdials⟩
  | unruled | failed | preserved => cases hchain

/-- Of two nodes that a dynamic hop may pick it passes over the ruled one, and the template behind
it leads back to that node. -/
theorem mem_own_chain_template :
    let n : Node := { id := "n", linkCountry := .str "HK" }
    let m : Node := { id := "m", linkCountry := .str "HK" }
    let s : NodeSnapshot :=
      { nodes := [n, m], groups := []
        templates := [("front", .holds (.ofTemplate "inner")), ("inner", .holds (.ofNode "n"))] }
    let inHk : Slot Condition := .holds (.compare "link_country" "equals" (.str "HK"))
    let r : Rule :=
      { id := .str "r1", subscription := "S", target := .holds .all, created := default,
        updated := default,
        chain := [.holds { selector := .dynamic, conditions := some inHk },
          .holds (.ofTemplate "front")] }
    let e : Engine := { provider := s.provider, vocabulary := .standard }
    let c : ResolvedChain :=
      { hops := [⟨.node, "m", "m", 0, .dynamic⟩, ⟨.node, "n", "n", 1, .template⟩] }
    let d : Decision := { node := "n", ruling := .chained r c }
    e.decide (.record n) [r] = .ok d ∧ d.chain? = some c ∧
      ∃ slot ∈ r.chain, e.resolver.SlotNames slot "n" := by
  intro n m s inHk r e c d
  have hresolve : e.resolver.resolve r.chain (some "n") = .ok (.ok c) := by decide +kernel
  have hrule : e.rule (.record n) "n" [r] = .ok ([], .chained r c) :=
    rule_cons_of_chained rfl (chainOf_eq_ok hresolve)
  have hdecide : e.decide (.record n) [r] = .ok d := decide_eq_ok rfl hrule
  obtain ⟨r', hmem, -, -, -, howned⟩ := mem_own_chain_iff hdecide (rfl : d.chain? = some c)
  have hr : r' = r := List.mem_singleton.mp hmem
  rw [hr] at howned
  exact ⟨hdecide, rfl, howned.mp ⟨⟨.node, "n", "n", 1, .template⟩, by simp [c], rfl, rfl⟩⟩

/-- A snapshot, a rule that is accepted and selects every node, and the node that the rule names: it
gets a chain through itself. -/
theorem own_chain_not_excluded :
    ¬ ∀ (s : NodeSnapshot) (v : Vocabulary) (policy : Policy) (n : NodeView) (rules : List Rule)
      (d : Decision) (c : ResolvedChain),
      (∃ nodes groups templates, NodeSnapshot.build nodes groups templates = .ok s) →
        (∀ r ∈ rules, v.Accepts r) →
          decide { provider := s.provider, vocabulary := v, policy } n rules = .ok d →
            d.chain? = some c → ∀ x ∈ c.hops, x.kind = .node → x.reference ≠ d.node := by
  intro h
  let s : NodeSnapshot := { nodes := [{ id := "n" }], groups := [], templates := [] }
  let r : Rule :=
    { id := .str "r1", subscription := "S", chain := [.holds (.ofNode "n")], target := .holds .all,
      created := default, updated := default }
  let x : ResolvedHop := ⟨.node, "n", "n", 0, .node⟩
  have hbuild : NodeSnapshot.build [{ id := "n" }] [] [] = .ok s := rfl
  have haccepted : ∀ r' ∈ [r], Vocabulary.standard.Accepts r' := by
    intro r' hr'
    rw [List.mem_singleton.mp hr']
    rfl
  exact h s .standard .failClosed (.record { id := "n" }) [r]
    { node := "n", ruling := .chained r { hops := [x] } } { hops := [x] } ⟨_, _, _, hbuild⟩
    haccepted rfl rfl x List.mem_cons_self rfl rfl

end Engine

end DialPlan
