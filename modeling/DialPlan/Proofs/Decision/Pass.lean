import DialPlan.Decision.Pass
import DialPlan.Proofs.Decision.RuledNode

/-!
# What a pass collects

A pass is one walk through the nodes that decides and collects at once.  It comes to what the nodes
come to one by one (`Engine.Entry`): a decision depends on its own node and on the rules alone, the
failures are those of all decisions, one after the other, and of the groups that the chains need the
first of every name is kept (`FirstPerName`).

The walk is followed by an invariant (`Engine.Collected`) that holds of the empty pass and is kept
by every further decision.  Where a chain needs a group, its hop says so by its selector, and the
groups come in the order of these hops (`Resolver.CarriesGroups`).
-/

namespace DialPlan

/-! ## The first group of every name -/

theorem eraseDups_concat {α : Type} [DecidableEq α] (xs : List α) (a : α) :
    (xs ++ [a]).eraseDups = if a ∈ xs then xs.eraseDups else xs.eraseDups ++ [a] := by
  rw [List.eraseDups_append, List.removeAll]
  split
  · next h => simp [h]
  · next h =>
    rw [List.filter_cons_of_pos (by simpa using h)]
    rfl

/-- **A group is the first of its name** among some groups. -/
def CustomGroup.IsFirst (g : CustomGroup) (all : List CustomGroup) : Prop :=
  all.find? (·.name = g.name) = some g

/-- **The first group of every name is kept**, in the order in which the names first come up. -/
structure FirstPerName (all kept : List CustomGroup) : Prop where
  names : kept.map (·.name) = (all.map (·.name)).eraseDups
  nodup : (kept.map (·.name)).Nodup
  first : ∀ g ∈ kept, g.IsFirst all

namespace FirstPerName

variable {all kept : List CustomGroup} {g : CustomGroup}

theorem nil : FirstPerName [] [] :=
  ⟨rfl, List.nodup_nil, fun _ h => absurd h List.not_mem_nil⟩

theorem mem_names_iff (h : FirstPerName all kept) {name : String} :
    (∃ g ∈ kept, g.name = name) ↔ ∃ g ∈ all, g.name = name := by
  rw [← List.mem_map, ← List.mem_map, h.names, List.mem_eraseDups]

/-- A group is kept exactly when it is the first of its name. -/
theorem mem_iff (h : FirstPerName all kept) : g ∈ kept ↔ g.IsFirst all := by
  refine ⟨h.first g, fun hfirst => ?_⟩
  obtain ⟨k, hk, hname⟩ := h.mem_names_iff.mpr ⟨g, List.mem_of_find?_eq_some hfirst, rfl⟩
  have hsame := h.first k hk
  rw [CustomGroup.IsFirst, hname, hfirst] at hsame
  exact Option.some.inj hsame ▸ hk

/-- One more group goes to the end, or is not the first of its name. -/
theorem addGroup (h : FirstPerName all kept) (g : CustomGroup) :
    FirstPerName (all ++ [g]) (Pass.addGroup kept g) := by
  have hfirst : ∀ k ∈ kept, k.IsFirst (all ++ [g]) := by
    intro k hk
    rw [CustomGroup.IsFirst, List.find?_append, h.first k hk]
    rfl
  have hmem : g.name ∈ all.map (·.name) ↔ ∃ k ∈ kept, k.name = g.name := by
    rw [List.mem_map, h.mem_names_iff]
  unfold Pass.addGroup
  split
  · next hknown =>
    have hold : ∃ k ∈ kept, k.name = g.name := by simpa using hknown
    refine ⟨?_, h.nodup, hfirst⟩
    rw [List.map_append, List.map_singleton, eraseDups_concat, if_pos (hmem.mpr hold), h.names]
  · next hnew =>
    have hfresh : ∀ k ∈ kept, k.name ≠ g.name := by simpa using hnew
    have hnone : g.name ∉ all.map (·.name) := by
      rw [hmem]
      exact fun ⟨k, hk, hname⟩ => hfresh k hk hname
    refine ⟨?_, ?_, ?_⟩
    · rw [List.map_append, List.map_append, List.map_singleton, eraseDups_concat, if_neg hnone,
        h.names]
    · rw [List.map_append]
      refine List.nodup_append.mpr ⟨h.nodup, List.nodup_singleton _, ?_⟩
      intro a ha b hb heq
      obtain ⟨k, hk, rfl⟩ := List.mem_map.mp ha
      exact hfresh k hk (heq.trans (List.mem_singleton.mp hb))
    · intro k hk
      rcases List.mem_append.mp hk with hk | hk
      · exact hfirst k hk
      · obtain rfl := List.mem_singleton.mp hk
        rw [CustomGroup.IsFirst, List.find?_append, List.find?_eq_none.mpr (by simpa using hnone)]
        simp

theorem addGroups (h : FirstPerName all kept) (more : List CustomGroup) :
    FirstPerName (all ++ more) (more.foldl Pass.addGroup kept) := by
  induction more generalizing all kept with
  | nil =>
    rw [List.append_nil]
    exact h
  | cons g more ih =>
    rw [List.append_cons]
    exact ih (h.addGroup g)

end FirstPerName

/-! ## The groups of a chain -/

namespace Resolver

/-- **A chain carries the groups that its hops ask for**: one for each custom hop, in their order
and under their names. -/
def CarriesGroups (hops : List ResolvedHop) (groups : List CustomGroup) : Prop :=
  groups.map (·.name) = (hops.filter (·.selector = .custom)).map (·.reference)

variable {r : Resolver} {hop : Hop} {position : Nat} {declared : Selector} {seed : Option String}
  {step : Step}

/-- A step that asks for no group, and brings none. -/
theorem carriesGroups_of_none (hselector : step.1.selector ≠ .custom) (hnone : step.2 = none) :
    CarriesGroups [step.1] step.2.toList := by
  rw [CarriesGroups, hnone, List.filter_cons_of_neg (by simpa using hselector)]
  rfl

theorem resolveNode_plain (h : r.resolveNode hop position declared = .ok (.ok step)) :
    step.1.selector = declared ∧ step.2 = none := by
  unfold resolveNode at h
  split at h
  · cases h
  · obtain ⟨name, -, h⟩ := bind_eq_ok_iff.mp h
    cases h
    exact ⟨rfl, rfl⟩

theorem resolveGroup_plain (h : r.resolveGroup hop position declared = .ok (.ok step)) :
    step.1.selector = declared ∧ step.2 = none := by
  unfold resolveGroup at h
  split at h
  · cases h
  · cases h
  · cases h
  · obtain ⟨empty, -, h⟩ := bind_eq_ok_iff.mp h
    cases empty with
    | true => cases h
    | false =>
      cases h
      exact ⟨rfl, rfl⟩

theorem resolveDynamic_plain (h : r.resolveDynamic hop position declared seed = .ok (.ok step)) :
    step.1.selector = declared ∧ step.2 = none := by
  unfold resolveDynamic at h
  split at h
  · cases h
  obtain ⟨views, -, h⟩ := bind_eq_ok_iff.mp h
  cases views with
  | nil => cases h
  | cons first rest =>
    obtain ⟨chosen, -, h⟩ := bind_eq_ok_iff.mp h
    obtain ⟨name, -, h⟩ := bind_eq_ok_iff.mp h
    obtain ⟨id, -, h⟩ := bind_eq_ok_iff.mp h
    cases h
    exact ⟨rfl, rfl⟩

theorem resolveCustom_carries (h : r.resolveCustom hop position .custom = .ok (.ok step)) :
    CarriesGroups [step.1] step.2.toList := by
  unfold resolveCustom at h
  split at h
  · cases h
  split at h
  · cases h
  obtain ⟨nodes, -, h⟩ := bind_eq_ok_iff.mp h
  obtain ⟨proxies, -, h⟩ := bind_eq_ok_iff.mp h
  split at h
  · cases h
  · cases h
    rfl

/-- **A resolved step brings a group along exactly when its hop asks for one.** -/
theorem resolveHop_carries (h : r.resolveHop hop position seed = .ok (.ok step)) :
    CarriesGroups [step.1] step.2.toList := by
  have hplain : ∀ {declared : Selector}, declared ≠ .custom →
      step.1.selector = declared ∧ step.2 = none → CarriesGroups [step.1] step.2.toList :=
    fun hdeclared ⟨hselector, hnone⟩ => carriesGroups_of_none (hselector ▸ hdeclared) hnone
  unfold resolveHop at h
  split at h
  · exact hplain (by decide) (resolveNode_plain h)
  · exact hplain (by decide) (resolveGroup_plain h)
  · exact hplain (by decide) (resolveDynamic_plain h)
  · exact resolveCustom_carries h
  · obtain ⟨expanded, -, h⟩ := Resolution.andThen_eq_found_iff.mp h
    split at h
    · exact hplain (by decide) (resolveNode_plain h)
    · exact hplain (by decide) (resolveGroup_plain h)

theorem resolveFrom_carries {chain : List (Slot Hop)} {c : ResolvedChain}
    (h : r.resolveFrom seed position chain = .ok (.ok c)) : CarriesGroups c.hops c.groups := by
  induction chain generalizing position c with
  | nil =>
    cases h
    rfl
  | cons slot chain ih =>
    rw [resolveFrom] at h
    obtain ⟨step, hstep, h⟩ := Resolution.andThen_eq_found_iff.mp h
    obtain ⟨rest, hrest, h⟩ := Resolution.andThen_eq_found_iff.mp h
    cases h
    cases slot with
    | foreign w => cases hstep
    | holds hop =>
      have hfirst := resolveHop_carries hstep
      rw [CarriesGroups] at hfirst
      show (step.2.toList ++ rest.groups).map _ = (([step.1] ++ rest.hops).filter _).map _
      rw [List.map_append, hfirst, ih hrest, List.filter_append, List.map_append]

end Resolver

namespace Engine

variable {e : Engine} {rules : List Rule} {n : NodeView} {d : Decision} {p : Pass}

/-! ## One node -/

/-- **What a pass says of a node**: that it keeps its dialer, when it has one and the engine keeps
dialers, and nothing else; or what the rules decide. -/
inductive Entry (e : Engine) (rules : List Rule) (n : NodeView) : Decision → Prop
  | kept {v : Value} {id dialer : String} : e.keepsDialers = true →
    n.attribute? "dialer_proxy_name" = some v → v.truthy = true → v.asText = .ok dialer →
      n.id = .ok id → Entry e rules n { node := id, ruling := .preserved dialer, skipped := [] }
  | decided {d : Decision} :
    (e.keepsDialers = true → ∀ v, n.attribute? "dialer_proxy_name" = some v → v.truthy = false) →
      e.decide n rules = .ok d → Entry e rules n d

/-- The dialer that a node keeps is the text of a true value. -/
theorem keptDialer?_eq_some_iff {dialer : String} : e.keptDialer? n = .ok (some dialer) ↔
    e.keepsDialers = true ∧ ∃ v, n.attribute? "dialer_proxy_name" = some v ∧ v.truthy = true ∧
      v.asText = .ok dialer := by
  unfold keptDialer?
  by_cases hkeeps : e.keepsDialers = true
  · rw [if_pos hkeeps, and_iff_right hkeeps]
    cases n.attribute? "dialer_proxy_name" with
    | none => simp
    | some v => by_cases htruthy : v.truthy = true <;> simp [htruthy, map_eq_ok_iff]
  · simp [hkeeps]

theorem keptDialer?_eq_none_iff : e.keptDialer? n = .ok none ↔
    (e.keepsDialers = true →
      ∀ v, n.attribute? "dialer_proxy_name" = some v → v.truthy = false) := by
  unfold keptDialer?
  by_cases hkeeps : e.keepsDialers = true
  · rw [if_pos hkeeps]
    cases n.attribute? "dialer_proxy_name" with
    | none => simp
    | some v => by_cases htruthy : v.truthy = true <;> simp [hkeeps, htruthy, map_eq_ok_iff]
  · simp [hkeeps]

theorem decideInPass_eq_ok_iff : e.decideInPass rules n = .ok d ↔ e.Entry rules n d := by
  unfold decideInPass
  simp only [bind_eq_ok_iff, Outcome.ofFault_eq_ok_iff]
  constructor
  · rintro ⟨_ | dialer, hkept, h⟩
    · exact .decided (keptDialer?_eq_none_iff.mp hkept) h
    · obtain ⟨hkeeps, v, hv, htruthy, htext⟩ := keptDialer?_eq_some_iff.mp hkept
      obtain ⟨id, hid, h⟩ := bind_eq_ok_iff.mp h
      cases h
      exact .kept hkeeps hv htruthy htext hid
  · rintro (⟨hkeeps, hv, htruthy, htext, hid⟩ | ⟨hnone, hdecide⟩)
    · refine ⟨_, keptDialer?_eq_some_iff.mpr ⟨hkeeps, _, hv, htruthy, htext⟩, ?_⟩
      exact bind_eq_ok_iff.mpr ⟨_, hid, rfl⟩
    · exact ⟨_, keptDialer?_eq_none_iff.mpr hnone, hdecide⟩

/-- A pass says one thing of a node. -/
theorem Entry.unique {d' : Decision} (h : e.Entry rules n d) (h' : e.Entry rules n d') :
    d = d' := by
  rw [← decideInPass_eq_ok_iff] at h h'
  exact Except.ok.inj (h.symm.trans h')

/-- The groups that a decision brings are those of its chain's custom hops. -/
theorem Entry.carriesGroups {c : ResolvedChain} (h : e.Entry rules n d)
    (hchain : d.chain? = some c) :
    d.groups = c.groups ∧ Resolver.CarriesGroups c.hops c.groups := by
  refine ⟨by rw [Decision.groups, hchain], ?_⟩
  cases h with
  | kept => cases hchain
  | decided _ hdecide =>
    obtain ⟨-, hrule⟩ := rule_of_decide hdecide
    obtain ⟨node, ruling, skipped⟩ := d
    cases ruling with
    | chained r found =>
      cases hchain
      exact Resolver.resolveFrom_carries (resolve_of_chained hrule).2
    | unruled | failed | preserved => cases hchain

/-! ## All nodes -/

/-- **What has been collected from some nodes.** -/
structure Collected (e : Engine) (rules : List Rule) (nodes : List NodeView) (p : Pass) : Prop where
  decisions : List.Forall₂ (e.Entry rules) nodes p.decisions
  errors : p.errors = p.decisions.flatMap fun d => d.skipped ++ d.error?.toList
  groups : FirstPerName (p.decisions.flatMap (·.groups)) p.groups

theorem Collected.empty : e.Collected rules [] {} :=
  ⟨List.Forall₂.nil, rfl, FirstPerName.nil⟩

/-- **One more decision is collected.** -/
theorem Collected.add {nodes : List NodeView} (h : e.Collected rules nodes p)
    (hentry : e.Entry rules n d) : e.Collected rules (nodes ++ [n]) (p.add d) where
  decisions := List.rel_append h.decisions (List.Forall₂.cons hentry List.Forall₂.nil)
  errors := by
    show p.errors ++ d.errors = (p.decisions ++ [d]).flatMap _
    rw [List.flatMap_append, List.flatMap_singleton, h.errors]
    rfl
  groups := by
    show FirstPerName ((p.decisions ++ [d]).flatMap _) (d.groups.foldl Pass.addGroup p.groups)
    rw [List.flatMap_append, List.flatMap_singleton]
    exact h.groups.addGroups d.groups

theorem Collected.passFrom {nodes more : List NodeView} {q : Pass} (h : e.Collected rules nodes p)
    (hpass : e.passFrom rules p more = .ok q) : e.Collected rules (nodes ++ more) q := by
  induction more generalizing nodes p with
  | nil =>
    cases hpass
    rw [List.append_nil]
    exact h
  | cons n more ih =>
    obtain ⟨d, hdecide, hpass⟩ := bind_eq_ok_iff.mp hpass
    rw [List.append_cons]
    exact ih (h.add (decideInPass_eq_ok_iff.mp hdecide)) hpass

theorem collected_of_pass {nodes : List NodeView} (h : e.pass rules nodes = .ok p) :
    e.Collected rules nodes p :=
  Collected.empty.passFrom h

/-- The decision at the place of a node. -/
theorem Collected.exists_entry {nodes : List NodeView} (h : e.Collected rules nodes p) {i : Nat}
    (hn : nodes[i]? = some n) : ∃ d, p.decisions[i]? = some d ∧ e.Entry rules n d := by
  obtain ⟨hi, rfl⟩ := List.getElem?_eq_some_iff.mp hn
  have hi' : i < p.decisions.length := h.decisions.length_eq ▸ hi
  exact ⟨_, List.getElem?_eq_getElem hi', h.decisions.get hi hi'⟩

/-- The node at the place of a decision. -/
theorem Collected.exists_node {nodes : List NodeView} (h : e.Collected rules nodes p)
    (hd : d ∈ p.decisions) : ∃ n ∈ nodes, e.Entry rules n d := by
  obtain ⟨i, hi, rfl⟩ := List.getElem_of_mem hd
  have hi' : i < nodes.length := h.decisions.length_eq ▸ hi
  exact ⟨_, List.getElem_mem hi', h.decisions.get hi' hi⟩

/-- **A pass comes to what its nodes come to one by one.**  It has one decision for each node, in
their order: that the node keeps its dialer, or what the rules decide, whatever other nodes there
are, in this pass or in another one.  The failures are those of every decision, first the ones that
were passed over.  No two groups have the same name; there is one for every custom hop of every
chain; and a group is there exactly when it is the first of its name, chain by chain and within a
chain in the order of the hops. -/
theorem pass_collects {nodes : List NodeView} (h : e.pass rules nodes = .ok p) :
    List.Forall₂ (e.Entry rules) nodes p.decisions ∧
    (∀ (others : List NodeView) (q : Pass), e.pass rules others = .ok q →
      ∀ (i j : Nat) (n : NodeView), nodes[i]? = some n → others[j]? = some n →
        p.decisions[i]? = q.decisions[j]?) ∧
    p.errors = p.decisions.flatMap (fun d => d.skipped ++ d.error?.toList) ∧
    (p.groups.map (·.name)).Nodup ∧
    (∀ d ∈ p.decisions, ∀ c, d.chain? = some c →
      c.groups.map (·.name) = (c.hops.filter (·.selector = .custom)).map (·.reference) ∧
      ∀ x ∈ c.hops, x.selector = .custom → ∃ g ∈ p.groups, g.name = x.reference) ∧
    ∀ g, g ∈ p.groups ↔ ∃ before after,
      p.decisions.flatMap (fun d => (d.chain?.map (·.groups)).getD []) = before ++ g :: after ∧
        ∀ k ∈ before, k.name ≠ g.name := by
  have hcollected := collected_of_pass h
  have hgroups : (fun d : Decision => (d.chain?.map (·.groups)).getD []) = Decision.groups := by
    funext d
    unfold Decision.groups
    cases d.chain? <;> rfl
  refine ⟨hcollected.decisions, ?_, hcollected.errors, hcollected.groups.nodup, ?_, ?_⟩
  · intro others q hq i j n hi hj
    obtain ⟨d, hd, hentry⟩ := hcollected.exists_entry hi
    obtain ⟨d', hd', hentry'⟩ := (collected_of_pass hq).exists_entry hj
    rw [hd, hd', hentry.unique hentry']
  · intro d hd c hchain
    obtain ⟨n, -, hentry⟩ := hcollected.exists_node hd
    obtain ⟨hdgroups, hcarries⟩ := hentry.carriesGroups hchain
    refine ⟨hcarries, fun x hx hcustom => ?_⟩
    have hname : x.reference ∈ c.groups.map (·.name) := by
      rw [hcarries]
      exact List.mem_map_of_mem (List.mem_filter.mpr ⟨hx, by simpa using hcustom⟩)
    obtain ⟨g, hg, hgname⟩ := List.mem_map.mp hname
    exact hcollected.groups.mem_names_iff.mpr
      ⟨g, List.mem_flatMap.mpr ⟨d, hd, hdgroups ▸ hg⟩, hgname⟩
  · intro g
    rw [hcollected.groups.mem_iff, hgroups, CustomGroup.IsFirst, List.find?_eq_some_iff_append]
    simp

/-- One node keeps its dialer.  Another has its first rule passed over, as that names a node that is
gone, and gets a chain through a generated group.  A third gets one through a group of the same
name, of another type, which is not kept. -/
theorem pass_collects_pool :
    let inHk : Slot Condition := .holds (.compare "link_country" "equals" (.str "HK"))
    let pool : Value → Hop := fun type =>
      { selector := .custom, reference := "Pool", conditions := some inHk, groupType := type }
    let rule : String → Hop → Target → Rule := fun id hop target =>
      { id := .str id, subscription := "s", chain := [.holds hop], target := .holds target,
        created := default, updated := default }
    let broken := rule "broken" (.ofNode "gone") (.node (some "b"))
    let first := rule "first" (pool (.str "select")) (.node (some "b"))
    let second := rule "second" (pool (.str "fallback")) .all
    let s : NodeSnapshot :=
      { nodes := [{ id := "a", dialer := .str "D" }, { id := "b" },
          { id := "c", linkCountry := .str "HK" }]
        groups := [], templates := [] }
    let e : Engine := { provider := s.provider, vocabulary := .standard, policy := .failOpen }
    let x : ResolvedHop := ⟨.group, "Pool", "Pool", 0, .custom⟩
    let group : Value → CustomGroup := fun type => { name := "Pool", type, proxies := ["c"] }
    let gone : Unresolved :=
      { cause := .missingNode "gone", reference := "gone", position := 0,
        rule := some (.str "broken", "s") }
    let p : Pass :=
      { decisions := [
          { node := "a", ruling := .preserved "D" },
          { node := "b", skipped := [gone]
            ruling := .chained first { hops := [x], groups := [group (.str "select")] } },
          { node := "c"
            ruling := .chained second { hops := [x], groups := [group (.str "fallback")] } }]
        groups := [group (.str "select")]
        errors := [gone] }
    e.pass [broken, first, second] s.provider.nodes = .ok p ∧
      ∀ g, g ∈ p.groups ↔ ∃ before after,
        p.decisions.flatMap (fun d => (d.chain?.map (·.groups)).getD []) = before ++ g :: after ∧
          ∀ k ∈ before, k.name ≠ g.name := by
  intro inHk pool rule broken first second s e x group gone p
  let rules := [broken, first, second]
  have hb : e.Entry rules (.record { id := "b" })
      { node := "b", skipped := [gone]
        ruling := .chained first { hops := [x], groups := [group (.str "select")] } } := by
    have hfirst : e.resolver.resolve first.chain (some "b") =
        .ok (.ok { hops := [x], groups := [group (.str "select")] }) := by decide +kernel
    have hgone : e.chainOf "b" broken = .ok (.error gone) := rfl
    refine .decided (by simp [NodeView.attribute?, Node.known?, Node.fields, Table.get?])
      (decide_eq_ok rfl ?_)
    rw [rule_cons_of_failed_open rfl rfl hgone, rule_cons_of_chained rfl (chainOf_eq_ok hfirst)]
    rfl
  have hc : e.Entry rules (.record { id := "c", linkCountry := .str "HK" })
      { node := "c"
        ruling := .chained second { hops := [x], groups := [group (.str "fallback")] } } := by
    have hsecond : e.resolver.resolve second.chain (some "c") =
        .ok (.ok { hops := [x], groups := [group (.str "fallback")] }) := by decide +kernel
    refine .decided (by simp [NodeView.attribute?, Node.known?, Node.fields, Table.get?])
      (decide_eq_ok rfl ?_)
    rw [rule_cons_of_not_applies rfl, rule_cons_of_not_applies rfl,
      rule_cons_of_chained rfl (chainOf_eq_ok hsecond)]
  have hpass : e.pass rules s.provider.nodes = .ok p := by
    show e.passFrom rules {} [.record { id := "a", dialer := .str "D" }, .record { id := "b" },
      .record { id := "c", linkCountry := .str "HK" }] = _
    simp only [passFrom, decideInPass_eq_ok_iff.mpr hb, decideInPass_eq_ok_iff.mpr hc]
    rfl
  exact ⟨hpass, (pass_collects hpass).2.2.2.2.2⟩

end Engine

end DialPlan
