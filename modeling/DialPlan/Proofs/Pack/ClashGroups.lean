import DialPlan.Proofs.Chain.Expansion
import DialPlan.Proofs.Pack.RuleIds

/-!
# The groups of a Clash template

A proxy group of a Clash template is known twice to a pack: as a template, which is made when the
pack is loaded and stands for the group of its name, and as a group of the provider, whose members
are computed from the nodes each time a snapshot is made.  The two stay in step, so the template
always leads to the group (`clash_group_resolves`).

Three sources may give members to one name: the Clash entries, the groups of the pack itself and the
groups of the nodes.  Which one counts is said by `Pack.effectiveGroup`, and `group_of_snapshot`
finds it in every snapshot.
-/

namespace DialPlan

/-! ## Groups of a snapshot -/

/-- The last of several groups that goes by a name. -/
def TemplateGroup.last? (groups : List TemplateGroup) (name : String) : Option TemplateGroup :=
  Table.last? (groups.map fun g => (g.name, g)) name

/-- **The members of a group by its name**, before nodes have their say: the pack's own group, or
else the last Clash group, over the names of the nodes. -/
def Pack.effectiveGroup (p : Pack) (nodes : List Node) (name : String) :
    Except Fault (List String) :=
  match p.groups.last? name, TemplateGroup.last? p.clashGroups name with
  | some members, _ => .ok members
  | none, some g => do Value.asTexts (← g.members (nodes.map Node.proxyName))
  | none, none => .ok []

namespace NodeSnapshot

variable {more : Table Value} {groups all : Table (List String)} {name : String}

/-- A name that is not added to groups keeps its members. -/
theorem get?_addGroups_of_none (h : addGroups more groups = .ok all)
    (hname : more.last? name = none) : all.get? name = groups.get? name := by
  induction more generalizing groups with
  | nil =>
    cases h
    rfl
  | cons e more ih =>
    obtain ⟨items, -, h⟩ := bind_eq_ok_iff.mp h
    obtain ⟨ids, -, h⟩ := bind_eq_ok_iff.mp h
    rw [Table.last?_cons, Option.or_eq_none_iff] at hname
    have hne : name ≠ e.1 := by
      rintro rfl
      simp at hname
    rw [ih h hname.1, Table.get?_put, if_neg hne]

/-- **What is added to groups last under a name wins**, over the groups there are as well. -/
theorem get?_addGroups_of_some {members : Value} (h : addGroups more groups = .ok all)
    (hname : more.last? name = some members) :
    ∃ items ids, Node.itemsOf members = .ok items ∧ Value.asTexts items = .ok ids ∧
      all.get? name = some ids := by
  induction more generalizing groups with
  | nil => cases hname
  | cons e more ih =>
    obtain ⟨items, hitems, h⟩ := bind_eq_ok_iff.mp h
    obtain ⟨ids, hids, h⟩ := bind_eq_ok_iff.mp h
    rw [Table.last?_cons, Option.or_eq_some_iff] at hname
    rcases hname with hlater | ⟨hnone, hfirst⟩
    · exact ih h hlater
    · split at hfirst
      · next heq =>
        cases hfirst
        refine ⟨items, ids, hitems, hids, ?_⟩
        rw [get?_addGroups_of_none h hnone, Table.get?_put, if_pos heq.symm]
      · cases hfirst

end NodeSnapshot

namespace Pack

variable {now : DateTime} {strict : Bool} {files : Files} {source : Option String} {base : Path}
  {pack : Pack} {parts : PackParts} {entries : Entries} {nodes : List Node} {s : NodeSnapshot}
  {g : String}

/-- **The computed members under a name** are those of the last group that goes by it. -/
theorem last?_clashMembers {names : List Value} {groups : List TemplateGroup}
    {table : Table Value} (h : clashMembers names groups = .ok table) :
    match TemplateGroup.last? groups g with
    | none => table.last? g = none
    | some group => ∃ members, group.members names = .ok members ∧
        table.last? g = some (.tuple members) := by
  induction groups generalizing table with
  | nil =>
    cases h
    rfl
  | cons first groups ih =>
    obtain ⟨members, hmembers, h⟩ := bind_eq_ok_iff.mp h
    obtain ⟨rest, hrest, h⟩ := bind_eq_ok_iff.mp h
    cases h
    have hrest := ih hrest
    unfold TemplateGroup.last? at hrest ⊢
    rw [List.map_cons, Table.last?_cons, Table.last?_cons]
    split at hrest
    · next hnone =>
      rw [hnone, hrest, Option.none_or, Option.none_or]
      by_cases hname : first.name = g
      · simp [hname, hmembers]
      · simp [hname]
    · next group hgroup =>
      obtain ⟨later, hlater, hlast⟩ := hrest
      rw [hgroup, hlast]
      exact ⟨later, hlater, rfl⟩

/-- **A snapshot of a pack** has its templates and, under the name of a Clash group, the effective
members. -/
theorem group_of_snapshot (hs : pack.snapshot nodes = .ok s)
    (hg : g ∈ pack.clashGroups.map (·.name)) :
    s.templates = pack.vocabulary.templates ∧
      ∃ members, pack.effectiveGroup nodes g = .ok members ∧ s.groups.get? g = some members := by
  obtain ⟨clash, hclash, hs⟩ := bind_eq_ok_iff.mp hs
  obtain ⟨derived, -, hs⟩ := bind_eq_ok_iff.mp hs
  obtain ⟨all, hall, hs⟩ := bind_eq_ok_iff.mp hs
  cases hs
  rw [Outcome.ofFault_eq_ok_iff] at hclash hall
  refine ⟨rfl, ?_⟩
  have hgiven : (Table.ofList (clash ++
      pack.groups.map fun e => (e.1, Value.tuple (e.2.map .str)))).last? g =
        ((pack.groups.last? g).map fun ids => .tuple (ids.map .str)).or (clash.last? g) := by
    rw [Table.last?_of_nodup (Table.nodup_keys_ofList _), Table.get?_ofList, Table.last?_append,
      Table.last?_map (fun ids : List String => Value.tuple (ids.map .str))]
  obtain ⟨group, hgroup⟩ : ∃ group, TemplateGroup.last? pack.clashGroups g = some group :=
    Table.exists_last?_map hg
  have hmembers := last?_clashMembers hclash (g := g)
  rw [hgroup] at hmembers
  obtain ⟨members, hmembers, hlast⟩ := hmembers
  unfold effectiveGroup
  rw [hgroup]
  cases hown : pack.groups.last? g with
  | some ids =>
    rw [hown, Option.map_some, Option.some_or] at hgiven
    obtain ⟨items, texts, hitems, htexts, hfound⟩ :=
      NodeSnapshot.get?_addGroups_of_some hall hgiven
    cases hitems
    refine ⟨ids, rfl, ?_⟩
    obtain ⟨-, rfl⟩ := Value.asTexts_eq_ok_iff.mp htexts
    rw [hfound, List.map_map]
    exact congrArg some (List.map_id ids)
  | none =>
    rw [hown, Option.map_none, Option.none_or, hlast] at hgiven
    obtain ⟨items, texts, hitems, htexts, hfound⟩ :=
      NodeSnapshot.get?_addGroups_of_some hall hgiven
    cases hitems
    dsimp only
    rw [hmembers]
    exact ⟨texts, htexts, hfound⟩

/-! ## Templates of a pack -/

/-- **A Clash group is a template** that stands for the group of its name. -/
theorem get?_templates {groups : List TemplateGroup} (hg : g ∈ groups.map (·.name)) :
    (ProxyGroup.templates groups).get? g = some (.ofGroup g) := by
  obtain ⟨hop, hlast⟩ : ∃ hop,
      Table.last? (groups.map fun group => (group.name, Hop.ofGroup group.name)) g = some hop :=
    Table.exists_last?_map hg
  rw [ProxyGroup.templates, Table.get?_ofList, hlast]
  obtain ⟨group, -, rfl, rfl⟩ := Table.last?_map_eq_some hlast
  rfl

/-- **A Clash group that the pack does not redefine as a template** is one, and stands for the group
of its name. -/
theorem template_of_ofValue
    (hload : ofValue now strict files source base (.dict entries) = .ok pack)
    (hparts : readPackEntries entries = .good parts) (hg : g ∈ pack.clashGroups.map (·.name))
    (hown : g ∉ parts.templates.keys) :
    pack.vocabulary.templates.get? g = some (.holds (.ofGroup g)) := by
  obtain ⟨_, parts', clashGroups, ⟨⟩, -, hparts', -, -, -, rfl⟩ := ofValue_eq_ok_iff.mp hload
  cases hparts.symm.trans hparts'
  change (vocabularyOf parts.vocabulary (knownTemplates clashGroups parts)).templates.get? g = _
  rw [templates_vocabularyOf, Table.get?_map, knownTemplates, Table.get?_merge,
    Table.last?_eq_none_iff.mpr hown, Option.none_or]
  exact congrArg (Option.map Slot.holds) (get?_templates hg)

end Pack

namespace Resolver

/-- **A template that stands for the group of its own name** leads to it after one look-up. -/
theorem resolve_own_template {s : NodeSnapshot} {v : Vocabulary} {limit : Int} {g : String}
    {members : List String} (htemplate : s.templates.get? g = some (.holds (.ofGroup g)))
    (hgroup : s.groups.get? g = some members) (hlimit : 1 ≤ limit) (seed : Option String) :
    resolve ⟨s.provider, v, limit⟩ [.holds (.ofTemplate g)] seed =
      if members.isEmpty then .failed (.emptyGroup g) g 0
      else .found ⟨[⟨.group, g, g, 0, .template⟩], []⟩ := by
  have hexpand : expand ⟨s.provider, v, limit⟩ (.ofTemplate g) 0 = .found (.ofGroup g) := by
    obtain ⟨left, hleft⟩ : ∃ left, limit.toNat = left + 1 := ⟨limit.toNat - 1, by omega⟩
    have hlookup : lookup ⟨s.provider, v, limit⟩ (Hop.ofTemplate g).reference =
        some (.holds (.ofGroup g)) := lookup_eq_some_iff.mpr ⟨nofun, Or.inl htemplate⟩
    rw [expand, hleft, expandFrom_succ rfl List.not_mem_nil, hlookup]
    exact expandFrom_of_named (Or.inr rfl)
  have hmembers : s.provider.group (Hop.ofGroup g).reference = .tuple (members.map .str) := by
    simp only [NodeSnapshot.provider, Hop.ofGroup, hgroup]
  have hhop : resolveHop ⟨s.provider, v, limit⟩ (.ofTemplate g) 0 seed =
      resolveGroup ⟨s.provider, v, limit⟩ (.ofGroup g) 0 .template := by
    show (expand ⟨s.provider, v, limit⟩ (.ofTemplate g) 0).andThen _ = _
    rw [hexpand]
    rfl
  rw [resolve, resolveFrom, resolveSlot, hhop, resolveGroup, hmembers]
  cases members <;> rfl

end Resolver

namespace Pack

/-- **A Clash group always resolves to its group.** -/
theorem clash_group_resolves {now : DateTime} {strict : Bool} {files : Files}
    {source : Option String} {base : Path} {entries : Entries} {parts : PackParts} {pack : Pack}
    {nodes : List Node} {s : NodeSnapshot} {limit : Int} {g : String}
    (hload : ofValue now strict files source base (.dict entries) = .ok pack)
    (hparts : readPackEntries entries = .good parts) (hs : pack.snapshot nodes = .ok s)
    (hlimit : 1 ≤ limit) (hg : g ∈ pack.clashGroups.map (·.name))
    (hown : g ∉ parts.templates.keys) (seed : Option String) :
    ∃ members, pack.effectiveGroup nodes g = .ok members ∧
      Resolver.resolve ⟨s.provider, pack.vocabulary, limit⟩ [.holds (.ofTemplate g)] seed =
        if members.isEmpty then .failed (.emptyGroup g) g 0
        else .found ⟨[⟨.group, g, g, 0, .template⟩], []⟩ := by
  obtain ⟨htemplates, members, hmembers, hgroup⟩ := group_of_snapshot hs hg
  have htemplate := template_of_ofValue hload hparts hg hown
  rw [← htemplates] at htemplate
  exact ⟨members, hmembers, Resolver.resolve_own_template htemplate hgroup hlimit seed⟩

theorem readClashGroups_of_text {template text : String} (hgiven : template ≠ "")
    (hpath : pathFault? (base.join (.ofText template)) = none)
    (hfile : files.read? (base.join (.ofText template)) = some (.text text)) :
    readClashGroups files base (some template) = ProxyGroup.ofText text := by
  unfold readClashGroups
  split
  case h_1 h => cases h
  case h_2 h => exact absurd (Option.some.inj h) hgiven
  case h_3 t _ h =>
    cases h
    dsimp only
    rw [hpath, hfile]

/-- A template in text: two groups of one name. -/
def twiceNamedTemplate : String :=
  "proxy-groups: [\x7bname: relay, proxies: [a]\x7d, \x7bname: relay, include-all: true\x7d]"

/-- Its groups. -/
def twiceNamedGroups : List TemplateGroup :=
  [{ name := "relay", proxies := ["a"] }, { name := "relay", includeAll := true }]

theorem ofText_twiceNamedTemplate :
    ProxyGroup.ofText twiceNamedTemplate = .ok twiceNamedGroups := by
  have hread : Files.yaml twiceNamedTemplate = .ok (.dict [(.str "proxy-groups", .list
      [.dict [(.str "name", .str "relay"), (.str "proxies", .list [.str "a"])],
        .dict [(.str "name", .str "relay"), (.str "include-all", .bool true)]])]) := by
    decide +kernel
  rw [ProxyGroup.ofText, Files.yaml_eq_ok_iff.mp hread]
  rfl

/-- Of two entries of one name the last one counts, and the group that the nodes form of that name
does not. -/
theorem clash_group_resolves_twice_named :
    let files : Files := [("c.yaml", twiceNamedTemplate)]
    let entries : Entries :=
      [(.str "subscription_id", .str "S"), (.str "clash_template", .str "c.yaml")]
    let parts : PackParts :=
      { subscription := .str "S", name := none, description := none, vocabulary := none
        templates := [], groups := [], clashTemplate := some "c.yaml", rules := [] }
    let pack := built default none twiceNamedGroups parts
    let nodes : List Node :=
      [{ id := "x", name := .str "Alpha", group := .str "relay" }, { id := "y" }]
    ofValue default true files none {} (.dict entries) = .ok pack ∧
      pack.effectiveGroup nodes "relay" = .ok ["Alpha", "y"] ∧
      ∃ s, pack.snapshot nodes = .ok s ∧
        Resolver.resolve ⟨s.provider, pack.vocabulary, 1⟩ [.holds (.ofTemplate "relay")] none =
          .found ⟨[⟨.group, "relay", "relay", 0, .template⟩], []⟩ := by
  intro files entries parts pack nodes
  have hparts : readPackEntries entries = .good parts := by
    subst entries parts
    with_unfolding_all rfl
  have hversion : requireVersion true entries = .ok () := by
    subst entries
    decide +kernel
  have hclash : readClashGroups files {} parts.clashTemplate = .ok twiceNamedGroups := by
    have hfile : files.read? (Path.join {} (.ofText "c.yaml")) =
        some (.text twiceNamedTemplate) := by decide +kernel
    have hpath : pathFault? (Path.join {} (.ofText "c.yaml")) = none := by decide +kernel
    exact (readClashGroups_of_text (by decide) hpath hfile).trans ofText_twiceNamedTemplate
  have hload : ofValue default true files none {} (.dict entries) = .ok pack :=
    ofValue_eq_ok_iff.mpr
      ⟨entries, parts, _, rfl, hversion, hparts, Value.printable_str "S", hclash, rfl, rfl⟩
  have hgroup : pack.effectiveGroup nodes "relay" = .ok ["Alpha", "y"] := by
    subst pack nodes
    decide +kernel
  have hsnapshot : pack.snapshot nodes = .ok
      { nodes, groups := [("relay", ["Alpha", "y"])], templates := pack.vocabulary.templates } := by
    have hclash : clashMembers (nodes.map Node.proxyName) twiceNamedGroups =
        .ok [("relay", .tuple [.str "a"]), ("relay", .tuple [.str "Alpha", .str "y"])] := by
      decide +kernel
    have hderived : NodeSnapshot.deriveGroups nodes [] [] = .ok [("relay", ["x"])] := by
      decide +kernel
    have hadded : NodeSnapshot.addGroups (Table.ofList [("relay", .tuple [.str "a"]),
        ("relay", .tuple [.str "Alpha", .str "y"])]) [("relay", ["x"])] =
          .ok [("relay", ["Alpha", "y"])] := by
      decide +kernel
    rw [snapshot, show pack.clashGroups = twiceNamedGroups from rfl, hclash,
      show pack.groups = [] from rfl]
    dsimp only [Outcome.ofFault, ok_bind]
    rw [List.map_nil, List.append_nil, NodeSnapshot.build, hderived, ok_bind, hadded]
    rfl
  obtain ⟨members, hmembers, hresolve⟩ := clash_group_resolves hload hparts hsnapshot
    (le_refl 1) List.mem_cons_self List.not_mem_nil none
  cases hgroup.symm.trans hmembers
  exact ⟨hload, hgroup, _, hsnapshot, hresolve⟩

end Pack

end DialPlan
