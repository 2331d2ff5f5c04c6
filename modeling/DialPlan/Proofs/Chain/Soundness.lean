import DialPlan.Chain.Resolution
import DialPlan.Proofs.Outcome
import Mathlib.Data.List.Forall2
import Mathlib.Data.List.Nodup

/-!
# Resolved chains name what there is

Resolution is closed against failure: a chain is resolved hop by hop, or not at all.  So whoever
gets a resolved chain may rely on all of its references (`resolve_sound`).  A hop that dials a node
names a node of the snapshot, one that dials a group names a group with members, and the only groups
that the snapshot need not know are those that come along with the chain.

A hop and what it is resolved to are two hops: a template is followed to a node or to a group, and a
dynamic hop picks a node.  `SoundHop` therefore speaks about the resolved hop alone, apart from the
declared selector, and `Collects` about a declared hop and its group.
-/

namespace DialPlan

/-! ## Nodes of a snapshot -/

/-- **The text that a node is published under**: its name, or its id when it has none. -/
def Node.publishedName (n : Node) : String :=
  if n.name.truthy then n.name.text else n.id

theorem Node.text_proxyName (n : Node) : n.proxyName.text = n.publishedName := by
  unfold proxyName publishedName
  split <;> simp [Value.text]

namespace NodeView

theorem id_record (n : Node) : (record n).id = .ok n.id := rfl

theorem proxyName_record (n : Node) :
    (record n).proxyName = Outcome.ofFault n.proxyName.asText := by
  show (if n.name.truthy then Outcome.ofFault n.name.asText else (record n).id) = _
  unfold Node.proxyName
  split
  · rfl
  · rw [Value.asText_str]
    exact id_record n

/-- **A record has a published name** unless its name is a number of too many digits. -/
theorem proxyName_record_eq_ok_iff {n : Node} {name : String} : (record n).proxyName = .ok name ↔
    n.proxyName.printable = true ∧ name = n.publishedName := by
  rw [proxyName_record, Outcome.ofFault_eq_ok_iff, Value.asText_eq_ok_iff, Node.text_proxyName,
    eq_comm (a := name)]

end NodeView

namespace NodeSnapshot

theorem deriveGroups_eq_ok {nodes : List Node} {seen : List String}
    {groups all : Table (List String)}
    (h : deriveGroups nodes seen groups = .ok all) :
    (nodes.map (·.id)).Nodup ∧ ∀ n ∈ nodes, n.id ∉ seen := by
  induction nodes generalizing seen groups with
  | nil => exact ⟨List.nodup_nil, by simp⟩
  | cons n nodes ih =>
    rw [deriveGroups] at h
    split at h
    · exact absurd h Outcome.refuse_ne_ok
    · next hnew =>
      obtain ⟨joined, -, hrest⟩ := bind_eq_ok_iff.mp h
      obtain ⟨hnodup, hfresh⟩ := ih hrest
      have hn : n.id ∉ seen := by simpa using hnew
      refine ⟨?_, List.forall_mem_cons.mpr ⟨hn, fun m hm => ?_⟩⟩
      · rw [List.map_cons, List.nodup_cons]
        refine ⟨fun hmem => ?_, hnodup⟩
        obtain ⟨m, hm, hid⟩ := List.mem_map.mp hmem
        exact hfresh m hm (hid ▸ List.mem_cons_self)
      · exact fun hseen => hfresh m hm (List.mem_cons_of_mem _ hseen)

/-- **The nodes of a snapshot have ids of their own.** -/
theorem nodup_ids_of_build {nodes : List Node} {groups : Table Value}
    {templates : Table (Slot Hop)} {s : NodeSnapshot} (h : build nodes groups templates = .ok s) :
    (s.nodes.map (·.id)).Nodup := by
  obtain ⟨derived, hderived, h⟩ := bind_eq_ok_iff.mp h
  obtain ⟨all, -, h⟩ := bind_eq_ok_iff.mp h
  cases h
  exact (deriveGroups_eq_ok hderived).1

/-- So a node is found by its id. -/
theorem node?_of_mem {s : NodeSnapshot} (hids : (s.nodes.map (·.id)).Nodup) {n : Node}
    (hn : n ∈ s.nodes) : s.node? n.id = some n := by
  unfold node?
  cases hfound : s.nodes.find? (·.id = n.id) with
  | none => exact absurd (List.find?_eq_none.mp hfound n hn) (by simp)
  | some m =>
    have hm : m.id = n.id := by simpa using List.find?_some hfound
    rw [List.inj_on_of_nodup_map hids (List.mem_of_find?_eq_some hfound) hn hm]

/-- The nodes that satisfy what stands in the place of a condition, in their order. -/
def members (s : NodeSnapshot) (v : Vocabulary) (root : Option (Slot Condition)) : List Node :=
  s.nodes.filter fun n => satisfies v (.record n) root = .ok true

end NodeSnapshot

/-! ## Sound hops and groups -/

/-- **A resolved hop that can be relied on**, for a declared one at a position. -/
structure SoundHop (s : NodeSnapshot) (declared : Hop) (position : Nat) (h : ResolvedHop) :
    Prop where
  position : h.position = position
  selector : h.selector = declared.selector
  /-- A hop that dials a node refers to a node of the snapshot, and gives the name it has there. -/
  node : h.kind = .node → ∃ n ∈ s.nodes, s.node? h.reference = some n ∧
    h.proxyName = n.publishedName
  /-- A hop that dials a group, unless one is generated for it, gives the name of a group of the
  snapshot that has members. -/
  group : h.kind = .group → declared.selector ≠ .custom →
    ∃ ids, s.groups.get? h.proxyName = some ids ∧ ids ≠ [] ∧ h.reference = h.proxyName
  /-- A hop that a group is generated for dials that group. -/
  custom : declared.selector = .custom → h.kind = .group ∧ h.proxyName = declared.reference ∧
    h.reference = declared.reference

/-- **A group that collects what its hop asks for.** -/
structure Collects (s : NodeSnapshot) (v : Vocabulary) (declared : Hop) (g : CustomGroup) :
    Prop where
  name : g.name = declared.reference
  nonempty : g.proxies ≠ []
  /-- Every node was judged. -/
  judged : ∀ n ∈ s.nodes, ∃ good, satisfies v (.record n) declared.conditions = .ok good
  proxies : g.proxies = (s.members v declared.conditions).map (·.publishedName)

/-- The hops of a chain that a group is generated for. -/
def customHops (chain : List (Slot Hop)) : List Hop :=
  (chain.filterMap (·.part?)).filter (·.selector = .custom)

theorem Resolution.andThen_eq_found_iff {α β : Type} {r : Resolution α} {f : α → Resolution β}
    {b : β} : r.andThen f = .ok (.ok b) ↔ ∃ a, r = .ok (.ok a) ∧ f a = .ok (.ok b) := by
  rcases r with e | e | a <;> simp [andThen]

namespace Resolver

variable {r : Resolver} {s : NodeSnapshot} {hop : Hop} {position : Nat} {declared : Selector}
  {seed : Option String} {step : Step}

/-! ## Collecting and picking -/

theorem matching_eq_ok {v : Vocabulary} {root : Option (Slot Condition)} {nodes : List Node}
    {views : List NodeView} (h : matching v root (nodes.map .record) = .ok views) :
    (∀ n ∈ nodes, ∃ good, satisfies v (.record n) root = .ok good) ∧
      views = (nodes.filter fun n => satisfies v (.record n) root = .ok true).map .record := by
  induction nodes generalizing views with
  | nil =>
    cases h
    exact ⟨by simp, rfl⟩
  | cons n nodes ih =>
    obtain ⟨good, hgood, h⟩ := bind_eq_ok_iff.mp h
    obtain ⟨rest, hrest, h⟩ := bind_eq_ok_iff.mp h
    obtain ⟨hjudged, rfl⟩ := ih hrest
    cases h
    refine ⟨List.forall_mem_cons.mpr ⟨⟨good, hgood⟩, hjudged⟩, ?_⟩
    cases good with
    | true => rw [List.filter_cons_of_pos (by simp [hgood])]; rfl
    | false => rw [List.filter_cons_of_neg (by simp [hgood])]; rfl

theorem namesOf_map_record_eq_ok_iff {nodes : List Node} {names : List String} :
    namesOf (nodes.map .record) = .ok names ↔
      (∀ n ∈ nodes, n.proxyName.printable = true) ∧ names = nodes.map (·.publishedName) := by
  induction nodes generalizing names with
  | nil =>
    rw [List.map_nil, namesOf, Except.ok.injEq, eq_comm]
    simp
  | cons n nodes ih =>
    simp only [List.map_cons, namesOf, bind_eq_ok_iff, NodeView.proxyName_record_eq_ok_iff, ih,
      List.forall_mem_cons, Except.ok.injEq]
    constructor
    · rintro ⟨name, ⟨hn, rfl⟩, more, ⟨hmore, rfl⟩, rfl⟩
      exact ⟨⟨hn, hmore⟩, rfl⟩
    · rintro ⟨⟨hn, hmore⟩, rfl⟩
      exact ⟨_, ⟨hn, rfl⟩, _, ⟨hmore, rfl⟩, rfl⟩

theorem subset_of_others {views rest : List NodeView} (h : others seed views = .ok rest) :
    rest ⊆ views := by
  induction views generalizing rest with
  | nil =>
    cases h
    exact List.Subset.refl []
  | cons n views ih =>
    obtain ⟨id, -, h⟩ := bind_eq_ok_iff.mp h
    obtain ⟨kept, hkept, h⟩ := bind_eq_ok_iff.mp h
    have hsub := ih hkept
    cases h
    split
    · exact List.subset_cons_of_subset n hsub
    · exact List.cons_subset_cons n hsub

theorem mem_of_fastestFrom {chosen n : NodeView} {views : List NodeView}
    (h : fastestFrom chosen views = .ok n) : n ∈ chosen :: views := by
  induction views generalizing chosen with
  | nil =>
    cases h
    exact List.mem_cons_self
  | cons m views ih =>
    obtain ⟨delay, -, h⟩ := bind_eq_ok_iff.mp h
    obtain ⟨current, -, h⟩ := bind_eq_ok_iff.mp h
    have hmem := ih h
    split at hmem
    · exact List.mem_cons_of_mem chosen hmem
    · rcases List.mem_cons.mp hmem with rfl | hrest
      · exact List.mem_cons_self
      · exact List.mem_cons_of_mem _ (List.mem_cons_of_mem _ hrest)

/-- **A pick is one of the candidates**, in any mode. -/
theorem mem_of_pick {mode : SelectMode} {first n : NodeView} {rest : List NodeView}
    (h : pick mode seed first rest = .ok n) : n ∈ first :: rest := by
  cases mode with
  | first =>
    cases h
    exact List.mem_cons_self
  | fastest => exact mem_of_fastestFrom (Outcome.ofFault_eq_ok_iff.mp h)
  | random =>
    obtain ⟨ids, -, h⟩ := bind_eq_ok_iff.mp h
    obtain ⟨i, -, h⟩ := bind_eq_ok_iff.mp h
    cases h
    rw [List.getD_eq_getElem?_getD]
    cases hget : (first :: rest)[i]? with
    | none => exact List.mem_cons_self
    | some m => exact List.mem_of_getElem? hget

/-! ## Single hops -/

/-- A hop that names a node dials that node. -/
theorem resolveNode_sound (hr : r.provider = s.provider)
    (h : r.resolveNode hop position declared = .ok (.ok step)) :
    ∃ n, s.node? hop.reference = some n ∧
      step = (⟨.node, n.publishedName, hop.reference, position, declared⟩, none) := by
  unfold resolveNode at h
  rw [hr] at h
  cases hfound : s.node? hop.reference with
  | none =>
    have hnone : s.provider.node? hop.reference = none := by
      show (s.node? hop.reference).map _ = none
      rw [hfound]
      rfl
    rw [hnone] at h
    cases h
  | some n =>
    have hsome : s.provider.node? hop.reference = some (.record n) := by
      show (s.node? hop.reference).map _ = some _
      rw [hfound]
      rfl
    rw [hsome] at h
    obtain ⟨name, hname, h⟩ := bind_eq_ok_iff.mp h
    obtain ⟨-, rfl⟩ := NodeView.proxyName_record_eq_ok_iff.mp hname
    cases h
    exact ⟨n, rfl, rfl⟩

/-- A hop that names a group dials that group, which has members. -/
theorem resolveGroup_sound (hr : r.provider = s.provider)
    (h : r.resolveGroup hop position declared = .ok (.ok step)) :
    ∃ ids, s.groups.get? hop.reference = some ids ∧ ids ≠ [] ∧
      step = (⟨.group, hop.reference, hop.reference, position, declared⟩, none) := by
  unfold resolveGroup at h
  rw [hr] at h
  cases hfound : s.groups.get? hop.reference with
  | none =>
    have hnull : s.provider.group hop.reference = .null := by
      simp only [NodeSnapshot.provider, hfound]
    rw [hnull] at h
    cases h
  | some ids =>
    have hids : s.provider.group hop.reference = .tuple (ids.map .str) := by
      simp only [NodeSnapshot.provider, hfound]
    rw [hids] at h
    cases ids with
    | nil => cases h
    | cons id ids =>
      cases h
      exact ⟨id :: ids, rfl, List.cons_ne_nil id ids, rfl⟩

/-- A dynamic hop dials one of the nodes. -/
theorem resolveDynamic_sound (hr : r.provider = s.provider)
    (h : r.resolveDynamic hop position declared seed = .ok (.ok step)) :
    ∃ n ∈ s.nodes, step = (⟨.node, n.publishedName, n.id, position, declared⟩, none) := by
  unfold resolveDynamic at h
  split at h
  · cases h
  · obtain ⟨views, hcandidates, h⟩ := bind_eq_ok_iff.mp h
    cases views with
    | nil => cases h
    | cons first rest =>
      obtain ⟨chosen, hpick, h⟩ := bind_eq_ok_iff.mp h
      -- the pick is a candidate, a candidate is a matching node, and a matching node a node
      obtain ⟨matched, hmatched, hothers⟩ := bind_eq_ok_iff.mp hcandidates
      rw [hr, Outcome.ofFault_eq_ok_iff] at hmatched
      obtain ⟨-, rfl⟩ := matching_eq_ok hmatched
      have hmem := subset_of_others hothers (mem_of_pick hpick)
      obtain ⟨n, hn, rfl⟩ := List.mem_map.mp hmem
      obtain ⟨name, hname, h⟩ := bind_eq_ok_iff.mp h
      obtain ⟨-, rfl⟩ := NodeView.proxyName_record_eq_ok_iff.mp hname
      rw [NodeView.id_record] at h
      cases h
      exact ⟨n, (List.mem_filter.mp hn).1, rfl⟩

/-- A custom hop dials the group that comes along with it. -/
theorem resolveCustom_sound (hr : r.provider = s.provider)
    (h : r.resolveCustom hop position declared = .ok (.ok step)) :
    ∃ g, Collects s r.vocabulary hop g ∧
      step = (⟨.group, hop.reference, hop.reference, position, declared⟩, some g) := by
  unfold resolveCustom at h
  split at h
  · cases h
  split at h
  · cases h
  obtain ⟨views, hmatched, h⟩ := bind_eq_ok_iff.mp h
  rw [hr, Outcome.ofFault_eq_ok_iff] at hmatched
  obtain ⟨hjudged, rfl⟩ := matching_eq_ok hmatched
  obtain ⟨names, hnames, h⟩ := bind_eq_ok_iff.mp h
  obtain ⟨-, rfl⟩ := namesOf_map_record_eq_ok_iff.mp hnames
  split at h
  · cases h
  · next hne =>
    cases h
    exact ⟨_, ⟨rfl, by simpa using hne, hjudged, rfl⟩, rfl⟩

/-- **A resolved step is sound**, and brings a group along exactly when its hop asks for one. -/
theorem resolveHop_sound (hids : (s.nodes.map (·.id)).Nodup) (hr : r.provider = s.provider)
    (h : r.resolveHop hop position seed = .ok (.ok step)) :
    SoundHop s hop position step.1 ∧
      List.Forall₂ (Collects s r.vocabulary) (customHops [.holds hop]) step.2.toList := by
  have hcustomHops : hop.selector ≠ .custom → customHops [.holds hop] = [] := by
    intro hne
    exact List.filter_cons_of_neg (by simpa using hne)
  -- one case for a step that dials a node, and one for a step that dials a known group
  have hnode : ∀ (n : Node) (reference : String), n ∈ s.nodes → s.node? reference = some n →
      hop.selector ≠ .custom →
      step = (⟨.node, n.publishedName, reference, position, hop.selector⟩, none) →
      SoundHop s hop position step.1 ∧
        List.Forall₂ (Collects s r.vocabulary) (customHops [.holds hop]) step.2.toList := by
    rintro n reference hn hfound hne rfl
    refine ⟨⟨rfl, rfl, fun _ => ⟨n, hn, hfound, rfl⟩, nofun, fun heq => absurd heq hne⟩, ?_⟩
    rw [hcustomHops hne]
    exact List.Forall₂.nil
  have hgroup : ∀ (name : String) (ids : List String), s.groups.get? name = some ids → ids ≠ [] →
      hop.selector ≠ .custom →
      step = (⟨.group, name, name, position, hop.selector⟩, none) →
      SoundHop s hop position step.1 ∧
        List.Forall₂ (Collects s r.vocabulary) (customHops [.holds hop]) step.2.toList := by
    rintro name ids hfound hnil hne rfl
    refine ⟨⟨rfl, rfl, nofun, fun _ _ => ⟨ids, hfound, hnil, rfl⟩, fun heq => absurd heq hne⟩, ?_⟩
    rw [hcustomHops hne]
    exact List.Forall₂.nil
  unfold resolveHop at h
  cases hselector : hop.selector with
  | node =>
    rw [hselector] at h hnode
    obtain ⟨n, hfound, hstep⟩ := resolveNode_sound hr h
    exact hnode n hop.reference (List.mem_of_find?_eq_some hfound) hfound nofun hstep
  | group =>
    rw [hselector] at h hgroup
    obtain ⟨ids, hfound, hnil, hstep⟩ := resolveGroup_sound hr h
    exact hgroup hop.reference ids hfound hnil nofun hstep
  | dynamic =>
    rw [hselector] at h hnode
    obtain ⟨n, hn, hstep⟩ := resolveDynamic_sound hr h
    exact hnode n n.id hn (NodeSnapshot.node?_of_mem hids hn) nofun hstep
  | custom =>
    rw [hselector] at h
    obtain ⟨g, hg, rfl⟩ := resolveCustom_sound hr h
    refine ⟨⟨rfl, hselector.symm, nofun, fun _ hne => absurd hselector hne,
      fun _ => ⟨rfl, rfl, rfl⟩⟩, ?_⟩
    have hself : customHops [.holds hop] = [hop] :=
      List.filter_cons_of_pos (by simpa using hselector)
    rw [hself]
    exact List.Forall₂.cons hg List.Forall₂.nil
  | template =>
    rw [hselector] at h hnode hgroup
    obtain ⟨expanded, -, h⟩ := Resolution.andThen_eq_found_iff.mp h
    split at h
    · obtain ⟨n, hfound, hstep⟩ := resolveNode_sound hr h
      exact hnode n expanded.reference (List.mem_of_find?_eq_some hfound) hfound nofun hstep
    · obtain ⟨ids, hfound, hnil, hstep⟩ := resolveGroup_sound hr h
      exact hgroup expanded.reference ids hfound hnil nofun hstep

/-! ## Whole chains -/

/-- **A resolved chain that can be relied on**, its first hop standing at a position. -/
structure SoundChain (s : NodeSnapshot) (v : Vocabulary) (position : Nat)
    (chain : List (Slot Hop)) (c : ResolvedChain) : Prop where
  length : c.hops.length = chain.length
  hops : ∀ (i : Nat) (slot : Slot Hop), chain[i]? = some slot →
    ∃ declared h, slot = .holds declared ∧ c.hops[i]? = some h ∧
      SoundHop s declared (position + i) h
  groups : List.Forall₂ (Collects s v) (customHops chain) c.groups

/-- **A sound step in front of a sound chain.** -/
theorem SoundChain.addStep {v : Vocabulary} {chain : List (Slot Hop)} {c : ResolvedChain}
    (hstep : SoundHop s hop position step.1)
    (hgroup : List.Forall₂ (Collects s v) (customHops [.holds hop]) step.2.toList)
    (hrest : SoundChain s v (position + 1) chain c) :
    SoundChain s v position (.holds hop :: chain) (addStep step c) where
  length := congrArg (· + 1) hrest.length
  hops i slot hi := by
    cases i with
    | zero =>
      cases hi
      exact ⟨hop, step.1, rfl, rfl, hstep⟩
    | succ i =>
      obtain ⟨declared, h, hslot, hh, hsound⟩ := hrest.hops i slot hi
      refine ⟨declared, h, hslot, hh, ?_⟩
      rw [← Nat.add_assoc, Nat.add_right_comm]
      exact hsound
  groups := by
    have hcons :
        customHops (.holds hop :: chain) = customHops [.holds hop] ++ customHops chain := by
      rw [customHops, customHops, customHops, ← List.filter_append, ← List.filterMap_append]
      rfl
    rw [hcons]
    exact List.rel_append hgroup hrest.groups

theorem resolveFrom_sound (hids : (s.nodes.map (·.id)).Nodup) (hr : r.provider = s.provider)
    {chain : List (Slot Hop)} {c : ResolvedChain}
    (h : r.resolveFrom seed position chain = .ok (.ok c)) :
    SoundChain s r.vocabulary position chain c := by
  induction chain generalizing position c with
  | nil =>
    cases h
    exact ⟨rfl, nofun, List.Forall₂.nil⟩
  | cons slot chain ih =>
    rw [resolveFrom] at h
    obtain ⟨step, hstep, h⟩ := Resolution.andThen_eq_found_iff.mp h
    obtain ⟨rest, hrest, h⟩ := Resolution.andThen_eq_found_iff.mp h
    cases h
    cases slot with
    | foreign value => cases hstep
    | holds hop =>
      obtain ⟨hsound, hgroup⟩ := resolveHop_sound hids hr hstep
      exact SoundChain.addStep hsound hgroup (ih hrest)

/-- **A resolved chain has no dangling reference.**  Whatever a resolver makes of a chain against a
snapshot: there is one hop for each declared one, at its place and with its selector; each names a
node or a group with members of the snapshot, or a generated group; and there is one generated group
for each hop that asks for one, in their order, made of all nodes that satisfy its conditions. -/
theorem resolve_sound {nodes : List Node} {groups : Table Value} {templates : Table (Slot Hop)}
    (hs : NodeSnapshot.build nodes groups templates = .ok s) (v : Vocabulary) (limit : Int)
    (seed : Option String) {chain : List (Slot Hop)} {c : ResolvedChain}
    (h : resolve ⟨s.provider, v, limit⟩ chain seed = .ok (.ok c)) : SoundChain s v 0 chain c :=
  resolveFrom_sound (NodeSnapshot.nodup_ids_of_build hs) rfl h

/-- A pick that passes over the ruled node, a generated group, a template and a node in one chain;
the node of id `b` has no name. -/
theorem resolve_sound_mixed :
    let nodes : List Node :=
      [{ id := "a", name := .str "Alpha", linkCountry := .str "HK" },
        { id := "b", linkCountry := .str "HK" }, { id := "c", group := .str "relay" }]
    let inHk : Slot Condition := .holds (.compare "link_country" "equals" (.str "HK"))
    let chain : List (Slot Hop) :=
      [.holds { selector := .dynamic, conditions := some inHk },
        .holds { selector := .custom, reference := "Pool", conditions := some inHk },
        .holds (.ofTemplate "front"), .holds (.ofNode "a")]
    let s : NodeSnapshot :=
      { nodes, groups := [("relay", ["c"])], templates := [("front", .holds (.ofGroup "relay"))] }
    let c : ResolvedChain :=
      { hops := [⟨.node, "b", "b", 0, .dynamic⟩, ⟨.group, "Pool", "Pool", 1, .custom⟩,
          ⟨.group, "relay", "relay", 2, .template⟩, ⟨.node, "Alpha", "a", 3, .node⟩]
        groups := [{ name := "Pool", type := .str "select", proxies := ["Alpha", "b"] }] }
    NodeSnapshot.build nodes [] s.templates = .ok s ∧
      resolve ⟨s.provider, .standard, 8⟩ chain (some "a") = .ok (.ok c) ∧
      SoundChain s .standard 0 chain c := by
  intro nodes inHk chain s c
  have hbuild : NodeSnapshot.build nodes [] s.templates = .ok s := rfl
  have hresolve : resolve ⟨s.provider, .standard, 8⟩ chain (some "a") = .ok (.ok c) := by
    decide +kernel
  exact ⟨hbuild, hresolve, resolve_sound hbuild .standard 8 (some "a") hresolve⟩

end Resolver

end DialPlan
