import DialPlan.Proofs.Chain.Soundness

/-!
# Picking is local

A dynamic hop looks at all nodes of a provider and dials one of them.  What it dials depends on its
candidates alone, the nodes that satisfy its conditions and are not the ruled one, in the order in
which the provider has them (`pick_local`).

Two facts carry this.  Whether a hop is resolved at all is a matter of judging every node
(`Resolver.Judges`); once they are judged, the candidates are a part of the nodes that can be named
without looking at the resolver (`candidates_eq_ok_iff`).  And what becomes of candidates is a
function of their own (`dial`), which for a random pick does not even look at more than their ids
(`dial_random`).
-/

namespace DialPlan

variable {v : Vocabulary} {hop : Hop} {position : Nat} {declared : Selector}
  {seed : Option String}

/-! ## Candidates -/

/-- **A candidate of a dynamic hop**: a node that satisfies the conditions and is not the ruled
one. -/
structure Candidate (v : Vocabulary) (hop : Hop) (seed : Option String) (n : NodeView) : Prop where
  satisfying : satisfies v n hop.conditions = .ok true
  another : ∃ id, n.id = .ok id ∧ some id ≠ seed

/-- Whether a node has an id other than the seed. -/
def NodeView.isOther (seed : Option String) (n : NodeView) : Bool :=
  n.id.toOption.any fun id => some id ≠ seed

theorem NodeView.isOther_of_id {n : NodeView} {id : String} (h : n.id = .ok id) :
    n.isOther seed = decide (some id ≠ seed) := by
  rw [isOther, h]
  rfl

theorem NodeView.isOther_iff {n : NodeView} :
    n.isOther seed = true ↔ ∃ id, n.id = .ok id ∧ some id ≠ seed := by
  cases h : n.id with
  | error f => simp [isOther, h, Except.toOption]
  | ok id => simp [isOther_of_id h]

theorem candidate_iff {n : NodeView} :
    Candidate v hop seed n ↔ satisfies v n hop.conditions = .ok true ∧ n.isOther seed = true := by
  rw [NodeView.isOther_iff]
  exact ⟨fun h => ⟨h.satisfying, h.another⟩, fun h => ⟨h.1, h.2⟩⟩

instance : DecidablePred (Candidate v hop seed) := fun _ => decidable_of_iff' _ candidate_iff

namespace Resolver

variable {r : Resolver} {views kept : List NodeView}

/-- **The candidates of a dynamic hop**, in the provider's order. -/
def eligible (r : Resolver) (hop : Hop) (seed : Option String) : List NodeView :=
  r.provider.nodes.filter (Candidate r.vocabulary hop seed ·)

theorem eligible_eq_nil_iff :
    r.eligible hop seed = [] ↔ ∀ n ∈ r.provider.nodes, ¬ Candidate r.vocabulary hop seed n := by
  simp [eligible]

/-- **A resolver that can judge every node** by the conditions of a hop, and knows which one it is
when it satisfies them. -/
structure Judges (r : Resolver) (hop : Hop) : Prop where
  judged : ∀ n ∈ r.provider.nodes, ∃ good, satisfies r.vocabulary n hop.conditions = .ok good
  identified : ∀ n ∈ r.provider.nodes, satisfies r.vocabulary n hop.conditions = .ok true →
    ∃ id, n.id = .ok id

theorem matching_eq_ok_iff {root : Option (Slot Condition)} :
    matching v root views = .ok kept ↔
      (∀ n ∈ views, ∃ good, satisfies v n root = .ok good) ∧
        kept = views.filter fun n => satisfies v n root = .ok true := by
  induction views generalizing kept with
  | nil => simp [matching, eq_comm]
  | cons n views ih =>
    simp only [matching, bind_eq_ok_iff, ih, List.forall_mem_cons]
    constructor
    · rintro ⟨good, hgood, rest, ⟨hjudged, rfl⟩, h⟩
      refine ⟨⟨⟨good, hgood⟩, hjudged⟩, ?_⟩
      cases h
      cases good <;> simp [hgood]
    · rintro ⟨⟨⟨good, hgood⟩, hjudged⟩, rfl⟩
      refine ⟨good, hgood, _, ⟨hjudged, rfl⟩, ?_⟩
      cases good <;> simp [hgood]

theorem others_eq_ok_iff :
    others seed views = .ok kept ↔
      (∀ n ∈ views, ∃ id, n.id = .ok id) ∧ kept = views.filter (·.isOther seed) := by
  induction views generalizing kept with
  | nil => simp [others, eq_comm]
  | cons n views ih =>
    simp only [others, bind_eq_ok_iff, ih, List.forall_mem_cons]
    constructor
    · rintro ⟨id, hid, rest, ⟨hids, rfl⟩, h⟩
      refine ⟨⟨⟨id, hid⟩, hids⟩, ?_⟩
      cases h
      by_cases hseed : some id = seed <;> simp [NodeView.isOther_of_id hid, hseed]
    · rintro ⟨⟨⟨id, hid⟩, hids⟩, rfl⟩
      refine ⟨id, hid, _, ⟨hids, rfl⟩, ?_⟩
      by_cases hseed : some id = seed <;> simp [NodeView.isOther_of_id hid, hseed]

/-- **The candidates are found** exactly when every node is judged. -/
theorem candidates_eq_ok_iff :
    r.candidates hop seed = .ok views ↔ r.Judges hop ∧ views = r.eligible hop seed := by
  simp only [candidates, bind_eq_ok_iff, Outcome.ofFault_eq_ok_iff, matching_eq_ok_iff,
    others_eq_ok_iff]
  have hfilter : (r.provider.nodes.filter fun n =>
      satisfies r.vocabulary n hop.conditions = .ok true).filter (·.isOther seed) =
        r.eligible hop seed := by
    rw [List.filter_filter, eligible]
    refine List.filter_congr fun n _ => ?_
    rw [Bool.and_comm, decide_eq_decide.mpr candidate_iff, Bool.decide_and, Bool.decide_coe]
  constructor
  · rintro ⟨_, ⟨hjudged, rfl⟩, hids, rfl⟩
    refine ⟨⟨hjudged, fun n hn hgood => hids n ?_⟩, hfilter⟩
    exact List.mem_filter.mpr ⟨hn, decide_eq_true hgood⟩
  · rintro ⟨⟨hjudged, hids⟩, rfl⟩
    refine ⟨_, ⟨hjudged, rfl⟩, fun n hn => ?_, hfilter.symm⟩
    obtain ⟨hn, hgood⟩ := List.mem_filter.mp hn
    exact hids n hn (of_decide_eq_true hgood)

/-! ## What becomes of candidates -/

/-- **Dialling one of the candidates.** -/
def dial (hop : Hop) (position : Nat) (declared : Selector) (seed : Option String) :
    List NodeView → Outcome (Except Unresolved Step)
  | [] => Resolution.failed .noCandidate hop.describe position
  | first :: rest => do
    let chosen ← pick (hop.selectMode.getD .first) seed first rest
    let name ← chosen.proxyName
    let id ← chosen.id
    Resolution.found (⟨.node, name, id, position, declared⟩, none)

/-- **A dynamic hop is resolved by judging all nodes and dialling one of the candidates.** -/
theorem resolveDynamic_eq_ok_iff (hconditions : hop.conditions.isSome)
    {result : Except Unresolved Step} :
    r.resolveDynamic hop position declared seed = .ok result ↔
      r.Judges hop ∧ dial hop position declared seed (r.eligible hop seed) = .ok result := by
  have hsome : ¬ hop.conditions.isNone := by
    rw [Option.isNone_iff_eq_none]
    rintro hnone
    rw [hnone] at hconditions
    cases hconditions
  rw [resolveDynamic, if_neg hsome, bind_eq_ok_iff]
  simp only [candidates_eq_ok_iff]
  constructor
  · rintro ⟨_, ⟨hjudges, rfl⟩, h⟩
    exact ⟨hjudges, h⟩
  · rintro ⟨hjudges, h⟩
    exact ⟨_, ⟨hjudges, rfl⟩, h⟩

theorem resolveHop_dynamic_eq_ok_iff (hselector : hop.selector = .dynamic)
    (hconditions : hop.conditions.isSome) {result : Except Unresolved Step} :
    r.resolveHop hop position seed = .ok result ↔
      r.Judges hop ∧ dial hop position .dynamic seed (r.eligible hop seed) = .ok result := by
  rw [← resolveDynamic_eq_ok_iff hconditions, resolveHop, hselector]

/-- **A node is dialled** by its name and its id. -/
def Dials (position : Nat) (declared : Selector) (n : NodeView) (result : Except Unresolved Step) :
    Prop :=
  ∃ name id, n.proxyName = .ok name ∧ n.id = .ok id ∧
    result = .ok (⟨.node, name, id, position, declared⟩, none)

theorem dial_cons_eq_ok_iff {first : NodeView} {rest : List NodeView}
    {result : Except Unresolved Step} :
    dial hop position declared seed (first :: rest) = .ok result ↔
      ∃ n, pick (hop.selectMode.getD .first) seed first rest = .ok n ∧
        Dials position declared n result := by
  simp only [dial, bind_eq_ok_iff, Dials]
  refine exists_congr fun n => and_congr_right fun _ => ⟨?_, ?_⟩
  · rintro ⟨name, hname, id, hid, h⟩
    cases h
    exact ⟨name, id, hname, hid, rfl⟩
  · rintro ⟨name, id, hname, hid, rfl⟩
    exact ⟨name, hname, id, hid, rfl⟩

/-- Nothing is dialled exactly when there is no candidate. -/
theorem dial_eq_ok_noCandidate_iff {result : Except Unresolved Step}
    (h : dial hop position declared seed views = .ok result) :
    result = .error { cause := .noCandidate, reference := hop.describe, position } ↔
      views = [] := by
  cases views with
  | nil =>
    cases h
    exact iff_of_true rfl rfl
  | cons first rest =>
    obtain ⟨n, -, name, id, -, -, rfl⟩ := dial_cons_eq_ok_iff.mp h
    exact iff_of_false nofun nofun

/-- **What is dialled is a candidate**, and the first of them unless another mode is asked for. -/
theorem dials_of_dial {result : Except Unresolved Step}
    (h : dial hop position declared seed views = .ok result) (hne : views ≠ []) :
    ∃ n ∈ views, Dials position declared n result ∧
      (hop.selectMode.getD .first = .first → views.head? = some n) := by
  cases views with
  | nil => exact absurd rfl hne
  | cons first rest =>
    obtain ⟨n, hpick, hdials⟩ := dial_cons_eq_ok_iff.mp h
    refine ⟨n, mem_of_pick hpick, hdials, fun hmode => ?_⟩
    rw [hmode] at hpick
    cases hpick
    rfl

/-! ## Random picks -/

theorem idsOf_congr {others : List NodeView} (h : others.map (·.id) = views.map (·.id)) :
    idsOf others = idsOf views := by
  induction views generalizing others with
  | nil => rw [List.map_eq_nil_iff.mp h]
  | cons n views ih =>
    obtain ⟨m, others, rfl, hm, hothers⟩ := List.map_eq_cons_iff.mp h
    rw [idsOf, idsOf, hm, ih hothers]

theorem lt_of_seededIndex {ids : List String} {count i : Nat} (hcount : 0 < count)
    (h : seededIndex seed ids count = .ok i) : i < count := by
  unfold seededIndex at h
  dsimp only at h
  split at h
  · cases h
  · cases h
    exact Nat.mod_lt _ hcount

/-- A random pick stands where the digest of the seed and the ids points. -/
theorem pick_random_eq_ok_iff {first n : NodeView} {rest : List NodeView} :
    pick .random seed first rest = .ok n ↔ ∃ ids, idsOf (first :: rest) = .ok ids ∧
      ∃ i, seededIndex seed ids (rest.length + 1) = .ok i ∧ (first :: rest)[i]? = some n := by
  have hget : ∀ i : Nat, i < (first :: rest).length →
      ((.ok ((first :: rest).getD i first) : Outcome NodeView) = .ok n ↔
        (first :: rest)[i]? = some n) := by
    intro i hi
    rw [List.getD_eq_getElem?_getD, List.getElem?_eq_getElem hi, Option.getD_some,
      Except.ok.injEq, Option.some.injEq]
  simp only [pick, bind_eq_ok_iff, Outcome.ofFault_eq_ok_iff]
  refine exists_congr fun ids => and_congr_right fun _ => exists_congr fun i => ?_
  exact and_congr_right fun hi => hget i (lt_of_seededIndex (Nat.succ_pos _) hi)

/-- **A random pick looks at ids only.**  Candidates of the same ids give the pick at the same
place. -/
theorem dial_random (hmode : hop.selectMode = some .random) {others : List NodeView}
    (hids : others.map (·.id) = views.map (·.id)) {result result' : Except Unresolved Step}
    (h : dial hop position declared seed views = .ok result)
    (h' : dial hop position declared seed others = .ok result') (hne : views ≠ []) :
    ∃ (i : Nat) (n n' : NodeView), views[i]? = some n ∧ others[i]? = some n' ∧
      Dials position declared n result ∧ Dials position declared n' result' := by
  cases views with
  | nil => exact absurd rfl hne
  | cons first rest =>
    cases others with
    | nil => cases hids
    | cons first' rest' =>
      obtain ⟨n, hpick, hdials⟩ := dial_cons_eq_ok_iff.mp h
      obtain ⟨n', hpick', hdials'⟩ := dial_cons_eq_ok_iff.mp h'
      rw [hmode, Option.getD_some, pick_random_eq_ok_iff] at hpick hpick'
      obtain ⟨ids, hviews, i, hi, hn⟩ := hpick
      obtain ⟨ids', hothers, i', hi', hn'⟩ := hpick'
      have hlength : rest'.length = rest.length := by simpa using congrArg List.length hids
      rw [idsOf_congr hids, hviews] at hothers
      rw [← Except.ok.inj hothers, hlength, hi] at hi'
      rw [← Except.ok.inj hi'] at hn'
      exact ⟨i, n, n', hn, hn', hdials, hdials'⟩

/-! ## Dynamic hops -/

/-- **Picks are sound and local.**  When a dynamic hop is resolved, there is no answer exactly when
there is no candidate; otherwise a candidate is dialled, and the first one unless another mode is
asked for.  Any resolver with the same candidates in the same order gives the same answer, if it can
judge all of its nodes; and a random pick is at the same place, and of the same id, whenever the
candidates' ids are the same. -/
theorem pick_local {result : Except Unresolved Step} (hselector : hop.selector = .dynamic)
    (hconditions : hop.conditions.isSome) (h : r.resolveHop hop position seed = .ok result) :
    (result = .error { cause := .noCandidate, reference := hop.describe, position } ↔
      ∀ n ∈ r.provider.nodes, ¬ Candidate r.vocabulary hop seed n) ∧
    ((∃ n ∈ r.provider.nodes, Candidate r.vocabulary hop seed n) →
      ∃ n ∈ r.provider.nodes, Candidate r.vocabulary hop seed n ∧
        Dials position .dynamic n result ∧ (hop.selectMode.getD .first = .first →
          r.provider.nodes.find? (Candidate r.vocabulary hop seed ·) = some n)) ∧
    (∀ r' : Resolver, r'.eligible hop seed = r.eligible hop seed →
      ((∃ result', r'.resolveHop hop position seed = .ok result') ↔ r'.Judges hop) ∧
      ∀ result', r'.resolveHop hop position seed = .ok result' → result' = result) ∧
    ∀ (r' : Resolver) (result' : Except Unresolved Step), hop.selectMode = some .random →
      (r'.eligible hop seed).map (·.id) = (r.eligible hop seed).map (·.id) →
      r'.resolveHop hop position seed = .ok result' → r.eligible hop seed ≠ [] →
      ∃ (i : Nat) (n n' : NodeView), (r.eligible hop seed)[i]? = some n ∧
        (r'.eligible hop seed)[i]? = some n' ∧ n'.id = n.id ∧
        Dials position .dynamic n result ∧ Dials position .dynamic n' result' := by
  obtain ⟨-, hdial⟩ := (resolveHop_dynamic_eq_ok_iff hselector hconditions).mp h
  refine ⟨(dial_eq_ok_noCandidate_iff hdial).trans eligible_eq_nil_iff, ?_, ?_, ?_⟩
  · rintro ⟨m, hm, hcandidate⟩
    have hne : r.eligible hop seed ≠ [] :=
      fun heq => eligible_eq_nil_iff.mp heq m hm hcandidate
    obtain ⟨n, hn, hdials, hfirst⟩ := dials_of_dial hdial hne
    obtain ⟨hmem, hn⟩ := List.mem_filter.mp hn
    refine ⟨n, hmem, of_decide_eq_true hn, hdials, fun hmode => ?_⟩
    rw [← List.head?_filter]
    exact hfirst hmode
  · intro r' hsame
    simp only [resolveHop_dynamic_eq_ok_iff hselector hconditions, hsame, hdial,
      Except.ok.injEq]
    refine ⟨⟨fun ⟨_, hjudges, _⟩ => hjudges, fun hjudges => ⟨result, hjudges, rfl⟩⟩, ?_⟩
    exact fun result' hr => hr.2.symm
  · intro r' result' hmode hids hr hne
    obtain ⟨-, hdial'⟩ := (resolveHop_dynamic_eq_ok_iff hselector hconditions).mp hr
    obtain ⟨i, n, n', hn, hn', hdials, hdials'⟩ := dial_random hmode hids hdial hdial' hne
    refine ⟨i, n, n', hn, hn', ?_, hdials, hdials'⟩
    have hi := congrArg (·[i]?) hids
    simp only [List.getElem?_map, hn, hn', Option.map_some] at hi
    exact Option.some.inj hi

/-- Of the two candidates the seed points at the first; a node elsewhere and another place of the
ruled node change nothing. -/
theorem pick_local_random :
    let hop : Hop :=
      { selector := .dynamic
        selectMode := some .random
        conditions := some (.holds (.compare "link_country" "equals" (.str "HK"))) }
    let inHk : String → Node := fun id => { id, linkCountry := .str "HK" }
    let resolver : List Node → Resolver := fun nodes =>
      ⟨({ nodes, groups := [], templates := [] } : NodeSnapshot).provider, .standard, 8⟩
    let r := resolver [inHk "a", inHk "b", inHk "c"]
    let r' := resolver [inHk "b", { id := "d" }, inHk "c", inHk "a"]
    let result : Except Unresolved Step := .ok (⟨.node, "b", "b", 0, .dynamic⟩, none)
    r.resolveHop hop 0 (some "a") = .ok result ∧
      r'.eligible hop (some "a") = r.eligible hop (some "a") ∧
      ∀ result', r'.resolveHop hop 0 (some "a") = .ok result' → result' = result := by
  intro hop inHk resolver r r' result
  have hresult : r.resolveHop hop 0 (some "a") = .ok result := by decide +kernel
  have hsame : r'.eligible hop (some "a") = r.eligible hop (some "a") := by decide +kernel
  have hlocal := pick_local rfl rfl hresult
  exact ⟨hresult, hsame, (hlocal.2.2.1 r' hsame).2⟩

end Resolver

end DialPlan
