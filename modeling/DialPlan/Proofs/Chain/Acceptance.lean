import DialPlan.Proofs.Chain.Composition
import DialPlan.Proofs.Chain.Expansion
import DialPlan.Proofs.Chain.Picking

/-!
# Accepted rules and dangling references

The check of a rule and the resolution of its chain look at hops separately.  What the first lets
through, the second never finds fault with: an accepted rule that cannot be resolved refers to
something that is not there (`accepted_fails_only_dangling`).

The link is `Hop.Complete`, what a hop has to give for its selector.  The check ensures it for every
declared hop.  Templates bring in hops that were never checked; but following them ends in a node or
in a group, and those need no more than a name.

Besides, resolution may break off.  `Breaks` says which nodes it can come from, those that cannot be
judged or timed.  Where all can be, and templates are hops, what is left is a text that a hop needs
and that cannot be formed (`Garbles`): then resolution does break off, at the first such hop.
-/

namespace DialPlan

/-! ## What the check ensures -/

/-- **A hop that gives what its selector asks for.** -/
structure Hop.Complete (h : Hop) : Prop where
  reference : h.selector ≠ .dynamic → h.reference.isEmpty = false
  conditions : h.selector = .dynamic ∨ h.selector = .custom → h.conditions.isNone = false

namespace Vocabulary

variable {v : Vocabulary}

theorem conditions_of_checkConditions {h : Hop} (hcheck : checkHop.checkConditions v h = .ok []) :
    h.conditions.isNone = false := by
  unfold checkHop.checkConditions at hcheck
  cases hconditions : h.conditions with
  | none =>
    rw [hconditions] at hcheck
    cases hcheck
  | some c => rfl

theorem reference_of_check {h : Hop} {problem : Problem}
    (hcheck : (if h.reference.isEmpty then [problem] else []) = []) :
    h.reference.isEmpty = false := by
  cases hempty : h.reference.isEmpty with
  | false => rfl
  | true =>
    rw [hempty] at hcheck
    cases hcheck

theorem parts_of_checkHop_custom {h : Hop} (hselector : h.selector = .custom)
    (hcheck : v.checkHop h = .ok []) :
    checkHop.checkConditions v h = .ok [] ∧ h.reference.isEmpty = false := by
  unfold checkHop at hcheck
  rw [hselector] at hcheck
  obtain ⟨conditions, hconditions, hcheck⟩ := bind_eq_ok_iff.mp hcheck
  have hparts : conditions = [] ∧
      (if h.reference.isEmpty then [Problem.noGroupName] else []) = [] := by
    dsimp only at hcheck
    have hlast : ∀ {x : Except Fault (List Problem)} {type : List Problem},
        (x >>= fun urlTest => .ok (conditions ++
          (if h.reference.isEmpty then [Problem.noGroupName] else []) ++ type ++ urlTest)) =
            (.ok [] : Except Fault (List Problem)) → conditions = [] ∧
              (if h.reference.isEmpty then [Problem.noGroupName] else []) = [] := by
      intro x type hlast
      obtain ⟨urlTest, -, hlast⟩ := bind_eq_ok_iff.mp hlast
      simp only [Except.ok.injEq, List.append_eq_nil_iff] at hlast
      exact hlast.1.1
    -- an unknown type has to be quoted first
    split at hcheck
    · obtain ⟨⟨⟩, -, hcheck⟩ := bind_eq_ok_iff.mp hcheck
      split at hcheck <;> exact hlast hcheck
    · split at hcheck <;> exact hlast hcheck
  exact ⟨hparts.1 ▸ hconditions, reference_of_check hparts.2⟩

/-- Whoever collects nodes has its conditions checked. -/
theorem checkConditions_of_checkHop {h : Hop}
    (hselector : h.selector = .dynamic ∨ h.selector = .custom) (hcheck : v.checkHop h = .ok []) :
    checkHop.checkConditions v h = .ok [] := by
  rcases hselector with hselector | hselector
  · unfold checkHop at hcheck
    rw [hselector] at hcheck
    exact hcheck
  · exact (parts_of_checkHop_custom hselector hcheck).1

theorem complete_of_checkHop {h : Hop} (hcheck : v.checkHop h = .ok []) : h.Complete where
  reference hne := by
    cases hselector : h.selector with
    | node | group | template =>
      unfold checkHop at hcheck
      rw [hselector] at hcheck
      exact reference_of_check (Except.ok.inj hcheck)
    | dynamic => exact absurd hselector hne
    | custom => exact (parts_of_checkHop_custom hselector hcheck).2
  conditions hselector :=
    conditions_of_checkConditions (checkConditions_of_checkHop hselector hcheck)

theorem checkHop_of_checkChainFrom {first : Nat} {chain : List (Slot Hop)}
    (hcheck : v.checkChainFrom first chain = .ok []) :
    ∀ slot ∈ chain, ∃ hop, slot = .holds hop ∧ v.checkHop hop = .ok [] := by
  induction chain generalizing first with
  | nil => exact fun slot hslot => absurd hslot List.not_mem_nil
  | cons slot chain ih =>
    cases slot with
    | foreign w =>
      rw [checkChainFrom] at hcheck
      obtain ⟨problems, hproblems, hcheck⟩ := bind_eq_ok_iff.mp hcheck
      obtain ⟨rest, -, hcheck⟩ := bind_eq_ok_iff.mp hcheck
      cases hproblems
      cases hcheck
    | holds hop =>
      rw [checkChainFrom] at hcheck
      obtain ⟨problems, hproblems, hcheck⟩ := bind_eq_ok_iff.mp hcheck
      obtain ⟨rest, hrest, hcheck⟩ := bind_eq_ok_iff.mp hcheck
      simp only [Except.ok.injEq, List.append_eq_nil_iff, List.map_eq_nil_iff] at hcheck
      obtain ⟨rfl, rfl⟩ := hcheck
      exact List.forall_mem_cons.mpr ⟨⟨hop, rfl, hproblems⟩, ih hrest⟩

/-- **An accepted rule has an accepted chain and an accepted target.** -/
theorem Accepts.parts {r : Rule} (h : v.Accepts r) :
    v.checkChain r.chain = .ok [] ∧ v.checkTarget r.target = .ok [] := by
  obtain ⟨chain, hchain, h⟩ := bind_eq_ok_iff.mp h
  obtain ⟨target, htarget, h⟩ := bind_eq_ok_iff.mp h
  simp only [Except.ok.injEq, List.append_eq_nil_iff] at h
  obtain ⟨⟨-, rfl⟩, rfl⟩ := h
  exact ⟨hchain, htarget⟩

/-- **An accepted rule has complete hops**, and nothing else in its chain. -/
theorem Accepts.complete {r : Rule} (h : v.Accepts r) :
    ∀ slot ∈ r.chain, ∃ hop, slot = .holds hop ∧ hop.Complete := by
  intro slot hslot
  obtain ⟨hop, rfl, hcheck⟩ := checkHop_of_checkChainFrom h.parts.1 slot hslot
  exact ⟨hop, rfl, complete_of_checkHop hcheck⟩

end Vocabulary

/-! ## How resolution ends -/

/-- The reasons of a failure whose reference leads nowhere. -/
def danglingReasons : List String :=
  ["missing_node", "missing_group", "empty_group", "missing_template", "template_cycle",
    "template_depth", "invalid_template", "no_match"]

/-- **A node that cannot be judged or timed**, with the fault: evaluating the conditions of a hop on
it breaks off, or its delay has no number. -/
inductive Breaks (s : NodeSnapshot) (v : Vocabulary) (chain : List (Slot Hop)) : Fault → Prop
  | condition {hop : Hop} {n : Node} {f : Fault} : .holds hop ∈ chain →
    hop.selector = .dynamic ∨ hop.selector = .custom → n ∈ s.nodes →
      satisfies v (.record n) hop.conditions = .error f → Breaks s v chain f
  | delay {n : Node} {f : Fault} : n ∈ s.nodes → delayOf (.record n) = .error f → Breaks s v chain f

/-- A template of the snapshot or of the vocabulary that is no hop. -/
def NotAHop (s : NodeSnapshot) (v : Vocabulary) (name : String) (w : Value) : Prop :=
  w ≠ .null ∧
    (s.templates.get? name = some (.foreign w) ∨ v.templates.get? name = some (.foreign w))

/-- **A text that a hop needs cannot be formed**, with the fault: the name of a node that it dials
or collects is a number of too many digits, or the seed and the ids of the nodes that it picks from
at random cannot be encoded. -/
inductive Resolver.Garbles (r : Resolver) (s : NodeSnapshot) (seed : Option String) (hop : Hop) :
    Fault → Prop
  /-- The node that the hop names, itself or by a template. -/
  | node {names : List String} {named : Hop} {n : Node} :
      Followed r.lookup r.templateLimit hop names named → named.selector = .node →
        s.node? named.reference = some n → n.proxyName.printable = false →
          r.Garbles s seed hop (.tooManyDigits none)
  | digest {ids : List String} {complaint : String} : hop.selector = .dynamic →
      hop.selectMode = some .random → r.eligible hop seed ≠ [] →
        idsOf (r.eligible hop seed) = .ok ids →
          Text.encodingComplaint? ("|".intercalate (seed.getD "" :: ids)) = some complaint →
            r.Garbles s seed hop (.unencodable complaint)
  /-- The node that is picked. -/
  | pick {first : NodeView} {rest : List NodeView} {n : Node} : hop.selector = .dynamic →
      r.eligible hop seed = first :: rest →
        pick (hop.selectMode.getD .first) seed first rest = .ok (.record n) →
          n.proxyName.printable = false → r.Garbles s seed hop (.tooManyDigits none)
  | member {n : Node} : hop.selector = .custom → n ∈ s.members r.vocabulary hop.conditions →
      n.proxyName.printable = false → r.Garbles s seed hop (.tooManyDigits none)

/-- **How the resolution of complete hops ends**; `garbled` holds of the faults of texts that cannot
be formed. -/
inductive Ends (s : NodeSnapshot) (v : Vocabulary) (chain : List (Slot Hop))
    (garbled : Fault → Prop) {α : Type} : Resolution α → Prop
  | found (a : α) : Ends s v chain garbled (.ok (.ok a))
  | dangling {e : Unresolved} : e.cause.reason ∈ danglingReasons →
      Ends s v chain garbled (.ok (.error e))
  | broken {f : Fault} : Breaks s v chain f → Ends s v chain garbled (.error (.fault f))
  | garbled {f : Fault} : garbled f → Ends s v chain garbled (.error (.fault f))
  | refused {name : String} {w : Value} : NotAHop s v name w →
      Ends s v chain garbled (Outcome.refuse (.templateNotAHop name w.kindName))

theorem Ends.failed {s : NodeSnapshot} {v : Vocabulary} {chain : List (Slot Hop)}
    {garbled : Fault → Prop} {α : Type} {cause : Cause} {reference : String} {position : Nat}
    (h : cause.reason ∈ danglingReasons) :
    Ends s v chain garbled (Resolution.failed cause reference position : Resolution α) :=
  .dangling h

namespace Resolver

variable {r : Resolver} {s : NodeSnapshot} {chain : List (Slot Hop)} {hop : Hop} {position : Nat}
  {declared : Selector} {seed : Option String} {garbled : Fault → Prop}

/-! ## Nodes of a snapshot -/

theorem exists_of_matching_error {v : Vocabulary} {root : Option (Slot Condition)}
    {nodes : List Node} {f : Fault} (h : matching v root (nodes.map .record) = .error f) :
    ∃ n ∈ nodes, satisfies v (.record n) root = .error f := by
  induction nodes with
  | nil => cases h
  | cons n nodes ih =>
    rcases bind_eq_error_iff.mp h with hn | ⟨good, -, h⟩
    · exact ⟨n, List.mem_cons_self, hn⟩
    · rcases bind_eq_error_iff.mp h with hrest | ⟨_, -, h⟩
      · obtain ⟨m, hm, hjudged⟩ := ih hrest
        exact ⟨m, List.mem_cons_of_mem n hm, hjudged⟩
      · cases h

theorem exists_of_fastestFrom_error {chosen : NodeView} {views : List NodeView} {f : Fault}
    (h : fastestFrom chosen views = .error f) : ∃ n ∈ chosen :: views, delayOf n = .error f := by
  induction views generalizing chosen with
  | nil => cases h
  | cons n views ih =>
    rcases bind_eq_error_iff.mp h with hn | ⟨delay, -, h⟩
    · exact ⟨n, List.mem_cons_of_mem _ List.mem_cons_self, hn⟩
    · rcases bind_eq_error_iff.mp h with hchosen | ⟨current, -, h⟩
      · exact ⟨chosen, List.mem_cons_self, hchosen⟩
      · obtain ⟨m, hm, hdelay⟩ := ih h
        refine ⟨m, ?_, hdelay⟩
        rcases List.mem_cons.mp hm with rfl | hm
        · split
          · exact List.mem_cons_of_mem _ List.mem_cons_self
          · exact List.mem_cons_self
        · exact List.mem_cons_of_mem _ (List.mem_cons_of_mem _ hm)

theorem exists_ids_of_records {views : List NodeView} (h : ∀ view ∈ views, ∃ n, view = .record n) :
    ∃ ids, idsOf views = .ok ids := by
  induction views with
  | nil => exact ⟨[], rfl⟩
  | cons view views ih =>
    obtain ⟨⟨n, rfl⟩, hrest⟩ := List.forall_mem_cons.mp h
    obtain ⟨ids, hids⟩ := ih hrest
    refine ⟨n.id :: ids, ?_⟩
    rw [idsOf, NodeView.id_record, ok_bind, hids]
    rfl

theorem namesOf_map_record_of_unprintable {nodes : List Node} {n : Node} (hn : n ∈ nodes)
    (hprint : n.proxyName.printable = false) :
    namesOf (nodes.map .record) = .error (.fault (.tooManyDigits none)) := by
  induction nodes with
  | nil => cases hn
  | cons m nodes ih =>
    rw [List.map_cons, namesOf, NodeView.proxyName_record]
    cases hm : m.proxyName.asText with
    | error f =>
      obtain ⟨-, rfl⟩ := Value.asText_eq_error_iff.mp hm
      rfl
    | ok name =>
      rcases List.mem_cons.mp hn with rfl | hn
      · rw [(Value.asText_eq_ok_iff.mp hm).1] at hprint
        cases hprint
      · rw [Outcome.ofFault_ok, ok_bind, ih hn]
        rfl

theorem proxyName_record_of_unprintable {n : Node} (hprint : n.proxyName.printable = false) :
    (NodeView.record n).proxyName = .error (.fault (.tooManyDigits none)) := by
  rw [NodeView.proxyName_record, Value.asText_eq_error_iff.mpr ⟨hprint, rfl⟩]
  rfl

theorem nodes_of_snapshot (hr : r.provider = s.provider) :
    r.provider.nodes = s.nodes.map .record := by
  rw [hr]
  rfl

/-- The candidates of a dynamic hop are nodes of the snapshot. -/
theorem exists_of_mem_eligible (hr : r.provider = s.provider) {view : NodeView}
    (hview : view ∈ r.eligible hop seed) : ∃ n ∈ s.nodes, view = .record n := by
  have hmem : view ∈ s.nodes.map .record :=
    nodes_of_snapshot hr ▸ (List.mem_filter.mp hview).1
  obtain ⟨n, hn, rfl⟩ := List.mem_map.mp hmem
  exact ⟨n, hn, rfl⟩

/-- The nodes of a snapshot can be judged, unless one of them breaks the judgement. -/
theorem judges_of_quiet (hr : r.provider = s.provider) (hmem : .holds hop ∈ chain)
    (hselector : hop.selector = .dynamic ∨ hop.selector = .custom)
    (hquiet : ∀ f, ¬ Breaks s r.vocabulary chain f) : r.Judges hop := by
  constructor
  · rw [nodes_of_snapshot hr]
    intro view hview
    obtain ⟨n, hn, rfl⟩ := List.mem_map.mp hview
    cases hjudged : satisfies r.vocabulary (.record n) hop.conditions with
    | ok good => exact ⟨good, rfl⟩
    | error f => exact absurd (.condition hmem hselector hn hjudged) (hquiet f)
  · rw [nodes_of_snapshot hr]
    intro view hview _
    obtain ⟨n, -, rfl⟩ := List.mem_map.mp hview
    exact ⟨n.id, rfl⟩

/-! ## Single hops -/

theorem resolveNode_ends (hr : r.provider = s.provider)
    (hgarbled : ∀ n, s.node? hop.reference = some n → n.proxyName.printable = false →
      garbled (.tooManyDigits none)) :
    Ends s r.vocabulary chain garbled (r.resolveNode hop position declared) := by
  unfold resolveNode
  rw [hr]
  cases hfound : s.provider.node? hop.reference with
  | none => exact .failed (by simp [Cause.reason, danglingReasons])
  | some view =>
    obtain ⟨n, hn, rfl⟩ := Option.map_eq_some_iff.mp hfound
    dsimp only
    cases hprint : n.proxyName.printable with
    | true =>
      rw [NodeView.proxyName_record_eq_ok_iff.mpr ⟨hprint, rfl⟩, ok_bind]
      exact .found _
    | false =>
      rw [proxyName_record_of_unprintable hprint]
      exact .garbled (hgarbled n hn hprint)

theorem resolveGroup_ends (hr : r.provider = s.provider) :
    Ends s r.vocabulary chain garbled (r.resolveGroup hop position declared) := by
  unfold resolveGroup
  rw [hr]
  cases hfound : s.groups.get? hop.reference with
  | none =>
    simp only [NodeSnapshot.provider, hfound]
    exact .failed (by simp [Cause.reason, danglingReasons])
  | some ids =>
    simp only [NodeSnapshot.provider, hfound]
    cases ids with
    | nil => exact .failed (by simp [Cause.reason, danglingReasons])
    | cons id ids => exact .found _

/-- **A pick among nodes of the snapshot** is made, or breaks off on a delay or for want of a
digest. -/
theorem pick_ends (hr : r.provider = s.provider) (hselector : hop.selector = .dynamic)
    {first : NodeView} {rest : List NodeView} (hviews : r.eligible hop seed = first :: rest) :
    (∃ n, pick (hop.selectMode.getD .first) seed first rest = .ok (.record n)) ∨
      ∃ f, pick (hop.selectMode.getD .first) seed first rest = .error (.fault f) ∧
        (Breaks s r.vocabulary chain f ∨ r.Garbles s seed hop f) := by
  have hrecords : ∀ view ∈ first :: rest, ∃ n ∈ s.nodes, view = .record n := fun view hview =>
    exists_of_mem_eligible hr (hviews ▸ hview)
  cases hpick : pick (hop.selectMode.getD .first) seed first rest with
  | ok view =>
    obtain ⟨n, -, rfl⟩ := hrecords view (mem_of_pick hpick)
    exact Or.inl ⟨n, rfl⟩
  | error e =>
    right
    cases hmode : hop.selectMode.getD .first with
    | first =>
      rw [hmode] at hpick
      cases hpick
    | fastest =>
      rw [hmode, pick] at hpick
      cases hfastest : fastestFrom first rest with
      | ok view =>
        rw [hfastest] at hpick
        cases hpick
      | error f =>
        rw [hfastest] at hpick
        cases hpick
        obtain ⟨view, hview, hdelay⟩ := exists_of_fastestFrom_error hfastest
        obtain ⟨n, hn, rfl⟩ := hrecords view hview
        exact ⟨f, rfl, Or.inl (.delay hn hdelay)⟩
    | random =>
      have hrandom : hop.selectMode = some .random := by
        cases hselect : hop.selectMode with
        | none =>
          rw [hselect] at hmode
          cases hmode
        | some mode => rw [← hmode, hselect]; rfl
      obtain ⟨ids, hids⟩ := exists_ids_of_records fun view hview =>
        (hrecords view hview).imp fun _ h => h.2
      rw [hmode, pick, hids, ok_bind, seededIndex] at hpick
      split at hpick
      · next complaint hcomplaint =>
        cases hpick
        exact ⟨_, rfl, Or.inr (.digest hselector hrandom (by simp [hviews])
          (hviews ▸ hids) hcomplaint)⟩
      · cases hpick

/-- Every node of a snapshot has an id, so candidates are missing only where judging broke off. -/
theorem exists_of_candidates_error (hr : r.provider = s.provider) {e : Failure}
    (h : r.candidates hop seed = .error e) :
    ∃ n ∈ s.nodes, ∃ f, satisfies r.vocabulary (.record n) hop.conditions = .error f ∧
      e = .fault f := by
  rw [candidates, nodes_of_snapshot hr] at h
  cases hmatching : matching r.vocabulary hop.conditions (s.nodes.map .record) with
  | error f =>
    obtain ⟨n, hn, hjudged⟩ := exists_of_matching_error hmatching
    rw [hmatching] at h
    cases h
    exact ⟨n, hn, f, hjudged, rfl⟩
  | ok views =>
    obtain ⟨-, rfl⟩ := matching_eq_ok hmatching
    have hids : ∀ view ∈ (s.nodes.filter fun n =>
        satisfies r.vocabulary (.record n) hop.conditions = .ok true).map NodeView.record,
          ∃ id, view.id = .ok id := by
      intro view hview
      obtain ⟨n, -, rfl⟩ := List.mem_map.mp hview
      exact ⟨n.id, rfl⟩
    rw [hmatching, Outcome.ofFault_ok, ok_bind, others_eq_ok_iff.mpr ⟨hids, rfl⟩] at h
    cases h

theorem resolveDynamic_ends (hr : r.provider = s.provider) (hmem : .holds hop ∈ chain)
    (hselector : hop.selector = .dynamic) (hcomplete : hop.Complete) :
    Ends s r.vocabulary chain (r.Garbles s seed hop)
      (r.resolveDynamic hop position declared seed) := by
  unfold resolveDynamic
  rw [hcomplete.conditions (Or.inl hselector), if_neg Bool.false_ne_true]
  cases hcandidates : r.candidates hop seed with
  | error e =>
    obtain ⟨n, hn, f, hjudged, rfl⟩ := exists_of_candidates_error hr hcandidates
    exact .broken (.condition hmem (Or.inl hselector) hn hjudged)
  | ok views =>
    obtain ⟨-, hviews⟩ := candidates_eq_ok_iff.mp hcandidates
    rw [ok_bind]
    cases views with
    | nil => exact .failed (by simp [Cause.reason, danglingReasons])
    | cons first rest =>
      dsimp only
      rcases @pick_ends r s chain hop seed hr hselector _ _ hviews.symm with
        ⟨n, hpick⟩ | ⟨f, hpick, hbreaks | hgarbles⟩
      · rw [hpick, ok_bind]
        cases hprint : n.proxyName.printable with
        | true =>
          rw [NodeView.proxyName_record_eq_ok_iff.mpr ⟨hprint, rfl⟩, ok_bind,
            NodeView.id_record, ok_bind]
          exact .found _
        | false =>
          rw [proxyName_record_of_unprintable hprint]
          exact .garbled (.pick hselector hviews.symm hpick hprint)
      · rw [hpick]
        exact .broken hbreaks
      · rw [hpick]
        exact .garbled hgarbles

theorem resolveCustom_ends (hr : r.provider = s.provider) (hmem : .holds hop ∈ chain)
    (hselector : hop.selector = .custom) (hcomplete : hop.Complete) :
    Ends s r.vocabulary chain (r.Garbles s seed hop) (r.resolveCustom hop position declared) := by
  unfold resolveCustom
  rw [hcomplete.reference (by simp [hselector]), if_neg Bool.false_ne_true,
    hcomplete.conditions (Or.inr hselector), if_neg Bool.false_ne_true]
  rw [nodes_of_snapshot hr]
  cases hmatching : matching r.vocabulary hop.conditions (s.nodes.map .record) with
  | error f =>
    obtain ⟨n, hn, hjudged⟩ := exists_of_matching_error hmatching
    exact .broken (.condition hmem (Or.inr hselector) hn hjudged)
  | ok views =>
    obtain ⟨-, rfl⟩ := matching_eq_ok hmatching
    rw [Outcome.ofFault_ok, ok_bind, ← NodeSnapshot.members]
    by_cases hprint : ∀ n ∈ s.members r.vocabulary hop.conditions, n.proxyName.printable = true
    · rw [namesOf_map_record_eq_ok_iff.mpr ⟨hprint, rfl⟩, ok_bind]
      split
      · exact .failed (by simp [Cause.reason, danglingReasons])
      · exact .found _
    · simp only [not_forall, Bool.not_eq_true] at hprint
      obtain ⟨n, hn, hprint⟩ := hprint
      rw [namesOf_map_record_of_unprintable hn hprint]
      exact .garbled (.member hselector hn hprint)

/-- **A complete hop** is resolved, or what it refers to is not there, or resolution breaks off. -/
theorem resolveHop_ends (hr : r.provider = s.provider) (hmem : .holds hop ∈ chain)
    (hcomplete : hop.Complete) :
    Ends s r.vocabulary chain (r.Garbles s seed hop) (r.resolveHop hop position seed) := by
  unfold resolveHop
  cases hselector : hop.selector with
  | node =>
    exact resolveNode_ends hr fun n =>
      .node ⟨.here, List.nodup_nil, Nat.zero_le _⟩ hselector
  | group => exact resolveGroup_ends hr
  | dynamic => exact resolveDynamic_ends hr hmem hselector hcomplete
  | custom => exact resolveCustom_ends hr hmem hselector hcomplete
  | template =>
    -- what the templates led to was never checked, so nothing of it is known here
    obtain ⟨expanded, hexpanded⟩ : ∃ expanded, r.expand hop position = expanded := ⟨_, rfl⟩
    dsimp only
    rw [hexpanded]
    cases expand_eq_iff.mp hexpanded with
    | found hfollowed =>
      rw [Resolution.andThen_found]
      split
      · next hnode => exact resolveNode_ends hr fun n => .node hfollowed hnode
      · exact resolveGroup_ends hr
    | invalid => exact .failed (by simp [Cause.reason, danglingReasons])
    | cycle => exact .failed (by simp [Cause.reason, danglingReasons])
    | depth => exact .failed (by simp [Cause.reason, danglingReasons])
    | missing => exact .failed (by simp [Cause.reason, danglingReasons])
    | refused _ _ _ _ hforeign =>
      obtain ⟨hnull, hfound⟩ := lookup_eq_some_iff.mp hforeign
      refine .refused ⟨fun hw => hnull (congrArg Slot.foreign hw), ?_⟩
      rcases hfound with hfound | ⟨-, hfound⟩
      · rw [hr] at hfound
        exact Or.inl hfound
      · exact Or.inr hfound

theorem resolveNode_of_unprintable (hr : r.provider = s.provider) {n : Node}
    (hn : s.node? hop.reference = some n) (hprint : n.proxyName.printable = false) :
    r.resolveNode hop position declared = .error (.fault (.tooManyDigits none)) := by
  have hfound : r.provider.node? hop.reference = some (.record n) := by
    rw [hr]
    show (s.node? hop.reference).map _ = _
    rw [hn]
    rfl
  rw [resolveNode, hfound]
  dsimp only
  rw [proxyName_record_of_unprintable hprint]
  rfl

/-- A dynamic hop with candidates dials one of them. -/
theorem resolveHop_eq_dial (hselector : hop.selector = .dynamic) (hcomplete : hop.Complete)
    (hjudges : r.Judges hop) {first : NodeView} {rest : List NodeView}
    (hviews : r.eligible hop seed = first :: rest) :
    r.resolveHop hop position seed = dial hop position .dynamic seed (first :: rest) := by
  rw [resolveHop, hselector]
  dsimp only
  rw [resolveDynamic, hcomplete.conditions (Or.inl hselector), if_neg Bool.false_ne_true,
    candidates_eq_ok_iff.mpr ⟨hjudges, hviews.symm⟩]
  rfl

theorem matching_eq_members (hr : r.provider = s.provider) (hjudges : r.Judges hop) :
    matching r.vocabulary hop.conditions r.provider.nodes =
      .ok ((s.members r.vocabulary hop.conditions).map .record) := by
  refine matching_eq_ok_iff.mpr ⟨hjudges.judged, ?_⟩
  rw [nodes_of_snapshot hr, List.filter_map]
  rfl

/-- **A hop that needs a text which cannot be formed** is not resolved, wherever it stands. -/
theorem resolveHop_of_garbles (hr : r.provider = s.provider) (hmem : .holds hop ∈ chain)
    (hcomplete : hop.Complete) (hquiet : ∀ f, ¬ Breaks s r.vocabulary chain f) {f : Fault}
    (h : r.Garbles s seed hop f) (position : Nat) :
    r.resolveHop hop position seed = .error (.fault f) := by
  have hjudges (hselector : hop.selector = .dynamic ∨ hop.selector = .custom) : r.Judges hop :=
    judges_of_quiet hr hmem hselector hquiet
  cases h with
  | @node names named n hfollowed hnamed hn hprint =>
    rcases hfollowed.trail.head_cases with ⟨-, rfl⟩ | ⟨next, rest, hselector, -⟩
    · rw [resolveHop, hnamed]
      exact resolveNode_of_unprintable hr hn hprint
    · rw [resolveHop, hselector]
      dsimp only
      rw [expand_of_expands (.found hfollowed (Or.inl hnamed)), Resolution.andThen_found, hnamed]
      exact resolveNode_of_unprintable hr hn hprint
  | digest hselector hrandom hsome hids hcomplaint =>
    obtain ⟨first, rest, hviews⟩ := List.exists_cons_of_ne_nil hsome
    rw [hviews] at hids
    rw [resolveHop_eq_dial hselector hcomplete (hjudges (Or.inl hselector)) hviews, dial, hrandom,
      Option.getD_some, pick, hids, ok_bind, seededIndex, hcomplaint]
    rfl
  | pick hselector hviews hpick hprint =>
    rw [resolveHop_eq_dial hselector hcomplete (hjudges (Or.inl hselector)) hviews, dial, hpick,
      ok_bind, proxyName_record_of_unprintable hprint]
    rfl
  | member hselector hn hprint =>
    rw [resolveHop, hselector]
    dsimp only
    rw [resolveCustom, hcomplete.reference (by simp [hselector]), if_neg Bool.false_ne_true,
      hcomplete.conditions (Or.inr hselector), if_neg Bool.false_ne_true,
      matching_eq_members hr (hjudges (Or.inr hselector)), Outcome.ofFault_ok, ok_bind,
      namesOf_map_record_of_unprintable hn hprint]
    rfl

/-! ## Whole chains -/

/-- **A chain comes to a hop that needs a text which cannot be formed**, after hops that can be
resolved. -/
def GarblesChain (r : Resolver) (s : NodeSnapshot) (seed : Option String) (chain : List (Slot Hop))
    (f : Fault) : Prop :=
  StopsAt (fun slot => ∃ c, r.resolve [slot] seed = .ok (.ok c))
    (fun slot => ∃ hop, slot = .holds hop ∧ r.Garbles s seed hop f) chain

/-- A hop that is resolved at some place can be resolved on its own. -/
theorem exists_resolve_single_iff {slot : Slot Hop} :
    (∃ c, r.resolve [slot] seed = .ok (.ok c)) ↔
      ∃ step, r.resolveSlot slot position seed = .ok (.ok step) := by
  have hplace := (@reportsPlace_resolveSlot r seed slot).later 0 position
  rw [Nat.zero_add] at hplace
  rw [resolve, resolveFrom, hplace]
  rcases r.resolveSlot slot 0 seed with _ | _ | step <;>
    simp [Resolution.andThen, Resolution.later, resolveFrom, Resolution.found]

theorem resolveFrom_ends (hr : r.provider = s.provider) {hops : List (Slot Hop)}
    (hsub : hops ⊆ chain) (hcomplete : ∀ slot ∈ hops, ∃ hop, slot = .holds hop ∧ hop.Complete) :
    Ends s r.vocabulary chain (r.GarblesChain s seed hops) (r.resolveFrom seed position hops) := by
  induction hops generalizing position with
  | nil => exact .found _
  | cons slot hops ih =>
    obtain ⟨⟨hop, rfl, hhop⟩, hrest⟩ := List.forall_mem_cons.mp hcomplete
    obtain ⟨hmem, hsub⟩ := List.cons_subset.mp hsub
    have hfirst := @resolveHop_ends r s chain hop position seed hr hmem hhop
    have hlater := @ih (position + 1) hsub hrest
    rw [resolveFrom]
    cases hstep : r.resolveSlot (.holds hop) position seed with
    | error e =>
      rw [show r.resolveHop hop position seed = .error e from hstep] at hfirst
      cases hfirst with
      | broken hbreaks => exact .broken hbreaks
      | garbled hgarbles =>
        exact .garbled (stopsAt_cons_iff.mpr (Or.inl ⟨hop, rfl, hgarbles⟩))
      | refused hforeign => exact .refused hforeign
    | ok answer =>
      rw [show r.resolveHop hop position seed = .ok answer from hstep] at hfirst
      cases hfirst with
      | dangling hreason => exact .dangling hreason
      | found step =>
        show Ends _ _ _ _ ((r.resolveFrom seed (position + 1) hops).andThen fun rest =>
          .found (addStep step rest))
        generalize r.resolveFrom seed (position + 1) hops = rest at hlater
        cases hlater with
        | found c => exact .found _
        | dangling hreason => exact .dangling hreason
        | broken hbreaks => exact .broken hbreaks
        | garbled hgarbles =>
          exact .garbled (stopsAt_cons_iff.mpr
            (Or.inr ⟨exists_resolve_single_iff.mpr ⟨step, hstep⟩, hgarbles⟩))
        | refused hforeign => exact .refused hforeign

/-- **A chain that comes to such a hop** is not resolved. -/
theorem resolveFrom_of_garbles (hr : r.provider = s.provider)
    (hquiet : ∀ f, ¬ Breaks s r.vocabulary chain f) {hops : List (Slot Hop)} (hsub : hops ⊆ chain)
    (hcomplete : ∀ slot ∈ hops, ∃ hop, slot = .holds hop ∧ hop.Complete) {f : Fault}
    (h : r.GarblesChain s seed hops f) : r.resolveFrom seed position hops = .error (.fault f) := by
  induction hops generalizing position with
  | nil => exact absurd h not_stopsAt_nil
  | cons slot hops ih =>
    obtain ⟨⟨hop, rfl, hhop⟩, hrest⟩ := List.forall_mem_cons.mp hcomplete
    obtain ⟨hmem, hsub⟩ := List.cons_subset.mp hsub
    rw [resolveFrom]
    rcases stopsAt_cons_iff.mp h with ⟨_, ⟨⟩, hgarbles⟩ | ⟨hfirst, hlater⟩
    · rw [show r.resolveSlot (.holds hop) position seed = _ from
        resolveHop_of_garbles hr hmem hhop hquiet hgarbles position]
      rfl
    · obtain ⟨step, hstep⟩ := (@exists_resolve_single_iff r position seed _).mp hfirst
      rw [hstep, ih hsub hrest hlater]
      rfl

/-- **Accepted rules fail only for dangling references**, or for want of a text.  Resolving the
chain of an accepted rule against a snapshot ends in one of five ways (`Ends`).  Where no node of
the snapshot breaks a judgement or a delay, and templates are hops, a fault gets out exactly if the
chain comes to a hop that needs a text which cannot be formed; and otherwise there is a chain, or a
failure whose reference leads nowhere. -/
theorem accepted_fails_only_dangling {v : Vocabulary} {rule : Rule} (h : v.Accepts rule)
    (s : NodeSnapshot) (seed : Option String) (limit : Int) :
    let r : Resolver := ⟨s.provider, v, limit⟩
    Ends s v rule.chain (r.GarblesChain s seed rule.chain) (r.resolve rule.chain seed) ∧
    ((∀ f, ¬ Breaks s v rule.chain f) →
      (∀ name w, s.templates.get? name = some (.foreign w) → w = .null) →
      (∀ name w, v.templates.get? name = some (.foreign w) → w = .null) →
        (∀ f, r.resolve rule.chain seed = .error (.fault f) ↔
          r.GarblesChain s seed rule.chain f) ∧
        ((∀ f, ¬ r.GarblesChain s seed rule.chain f) →
          (∃ c, r.resolve rule.chain seed = .ok (.ok c)) ∨
            ∃ e, r.resolve rule.chain seed = .ok (.error e) ∧
              e.cause.reason ∈ danglingReasons)) := by
  intro r
  have hends : Ends s v rule.chain (r.GarblesChain s seed rule.chain)
      (r.resolve rule.chain seed) :=
    resolveFrom_ends (r := r) rfl (List.Subset.refl _) h.complete
  refine ⟨hends, fun hquiet hsnapshot hvocabulary => ⟨fun f => ⟨fun hf => ?_, fun hf => ?_⟩,
    fun hgood => ?_⟩⟩
  · rw [hf] at hends
    cases hends with
    | broken hbreaks => exact absurd hbreaks (hquiet f)
    | garbled hgarbles => exact hgarbles
  · exact resolveFrom_of_garbles (r := r) rfl hquiet (List.Subset.refl _) h.complete hf
  · cases hresult : r.resolve rule.chain seed with
    | ok answer =>
      rw [hresult] at hends
      cases hends with
      | found c => exact Or.inl ⟨c, rfl⟩
      | dangling hreason => exact Or.inr ⟨_, rfl, hreason⟩
    | error f =>
      rw [hresult] at hends
      cases hends with
      | broken hbreaks => exact absurd hbreaks (hquiet _)
      | garbled hgarbles => exact absurd hgarbles (hgood _)
      | refused hforeign =>
        obtain ⟨hnull, hfound⟩ := hforeign
        rcases hfound with hfound | hfound
        · exact absurd (hsnapshot _ _ hfound) hnull
        · exact absurd (hvocabulary _ _ hfound) hnull

/-- A pick by delay is made, and the template behind it leads to a hop that was never checked. -/
theorem accepted_fails_only_dangling_template :
    let inHk : Slot Condition := .holds (.compare "link_country" "equals" (.str "HK"))
    let fastest : Hop :=
      { selector := .dynamic, conditions := some inHk, selectMode := some .fastest }
    let rule : Rule :=
      { id := .str "r", subscription := "S", created := default, updated := default
        chain := [.holds fastest, .holds (.ofTemplate "front")] }
    let s : NodeSnapshot :=
      { nodes := [{ id := "a", linkCountry := .str "HK", delayTime := .str "20" },
          { id := "b", linkCountry := .str "HK", delayTime := .int 10 }]
        groups := []
        templates := [("front", .holds { selector := .custom })] }
    let r : Resolver := ⟨s.provider, .standard, 8⟩
    let result := r.resolve rule.chain (some "a")
    Vocabulary.standard.Accepts rule ∧ (∀ f, ¬ Breaks s .standard rule.chain f) ∧
      result = .failed (.invalidTemplate "front" .custom) "front" 1 ∧
      (∀ f, ¬ r.GarblesChain s (some "a") rule.chain f) ∧ ((∃ c, result = .ok (.ok c)) ∨
        ∃ e, result = .ok (.error e) ∧ e.cause.reason ∈ danglingReasons) := by
  intro inHk fastest rule s r result
  have haccepts : Vocabulary.standard.Accepts rule := rfl
  have hresult : result = .failed (.invalidTemplate "front" .custom) "front" 1 := by
    subst result r s rule fastest inHk
    decide +kernel
  have hjudged : ∀ n ∈ s.nodes, satisfies .standard (.record n) (some inHk) = .ok true := by
    subst s inHk
    decide +kernel
  have htimed : ∀ n ∈ s.nodes, (delayOf (.record n)).isOk = true := by
    subst s
    decide +kernel
  have hquiet : ∀ f, ¬ Breaks s .standard rule.chain f := by
    intro f hbreaks
    cases hbreaks with
    | condition hmem hselector hn hfault =>
      rcases List.mem_cons.mp hmem with heq | hmem
      · cases heq
        rw [hjudged _ hn] at hfault
        cases hfault
      · cases List.mem_singleton.mp hmem
        simp [Hop.ofTemplate] at hselector
    | delay hn hfault =>
      have hok := htimed _ hn
      rw [hfault] at hok
      cases hok
  have htemplates : ∀ name w, s.templates.get? name = some (.foreign w) → w = .null := by
    intro name w hw
    rw [Table.get?_cons] at hw
    split at hw <;> cases hw
  obtain ⟨hfaults, hends⟩ :=
    (accepted_fails_only_dangling haccepts s (some "a") 8).2 hquiet htemplates nofun
  have hformed : ∀ f, ¬ r.GarblesChain s (some "a") rule.chain f := by
    intro f hf
    have hfault : result = .error (.fault f) := (hfaults f).mpr hf
    rw [hresult] at hfault
    cases hfault
  exact ⟨haccepts, hquiet, hresult, hformed, hends hformed⟩

/-- A node whose name is a number of too many digits cannot be dialled. -/
theorem accepted_fails_on_a_name :
    ¬ ∀ (v : Vocabulary) (rule : Rule) (s : NodeSnapshot) (seed : Option String) (limit : Int),
      v.Accepts rule → (∀ f, ¬ Breaks s v rule.chain f) →
      (∀ name w, s.templates.get? name = some (.foreign w) → w = .null) →
      (∀ name w, v.templates.get? name = some (.foreign w) → w = .null) →
        (∃ c, resolve ⟨s.provider, v, limit⟩ rule.chain seed = .ok (.ok c)) ∨
          ∃ e, resolve ⟨s.provider, v, limit⟩ rule.chain seed = .ok (.error e) ∧
            e.cause.reason ∈ danglingReasons := by
  intro h
  let rule : Rule :=
    { id := .str "r", subscription := "S", created := default, updated := default
      chain := [.holds { selector := .node, reference := "n" }] }
  let s : NodeSnapshot :=
    { nodes := [{ id := "n", name := .int (tenTo 5000) }], groups := [], templates := [] }
  have haccepts : Vocabulary.standard.Accepts rule := rfl
  have hquiet : ∀ f, ¬ Breaks s .standard rule.chain f := by
    intro f hbreaks
    cases hbreaks with
    | condition hmem hselector =>
      cases List.mem_singleton.mp hmem
      simp at hselector
    | delay hn hfault =>
      cases List.mem_singleton.mp hn
      cases hfault
  have hresult : resolve ⟨s.provider, .standard, 8⟩ rule.chain none =
      .error (.fault (.tooManyDigits none)) := by decide +kernel
  rcases h .standard rule s none 8 haccepts hquiet nofun nofun with ⟨c, hc⟩ | ⟨e, he, -⟩
  · rw [hresult] at hc
    cases hc
  · rw [hresult] at he
    cases he

end Resolver

end DialPlan
