import DialPlan.Proofs.NodeList
import DialPlan.Proofs.Pack.ClashGroups
import DialPlan.Proofs.Value.Entries

/-!
# Which snapshots are refused

A snapshot of a pack is refused when two of its nodes have the same id.  Three things it does not
guard against.  The name of a node may be of any kind, and a Clash group that includes all nodes
looks for its filter in it; the group of a node may be of any kind, and the nodes of a group are
found under its name (`Pack.SnapshotBreaks`); and a group that has no filter may have a name among
its members that has too many digits to be put into words (`Pack.Unspeakable`).

Together with the reading of node lists this says what becomes of nodes on their way into a provider
(`node_reading_exact`).
-/

namespace DialPlan

open Outcome

/-! ## Members of Clash groups -/

namespace ProxyGroup

variable {admits : Value → Except Fault Bool} {searchable : Value → Prop}
  {members names : List Value}

/-- **Members are added until a name comes up that cannot be searched**, unless it is a member
already. -/
theorem breaksOff_addAdmitted_iff (hadmits : ∀ w, BreaksOff (admits w) ↔ ¬ searchable w)
    (hsame : ∀ m w : Value, m.same w = true → searchable m → searchable w) :
    BreaksOff (addAdmitted admits members names) ↔
      ∃ w ∈ names, ¬ searchable w ∧ members.any (Value.same · w) = false := by
  induction names generalizing members with
  | nil => simp [addAdmitted]
  | cons name names ih =>
    unfold addAdmitted
    rw [List.exists_mem_cons_iff]
    split
    case isTrue hknown =>
      rw [ih]
      exact (or_iff_right fun h => by simp [hknown] at h).symm
    case isFalse hnew =>
      rw [Bool.not_eq_true] at hnew
      cases hname : admits name with
      | error f =>
        exact iff_of_true ⟨f, rfl⟩ (Or.inl ⟨(hadmits name).mp ⟨f, hname⟩, hnew⟩)
      | ok passes =>
        have hgood : searchable name := by
          refine Classical.not_not.mp fun h => ?_
          simpa [hname] using (hadmits name).mpr h
        rw [ok_bind, ih]
        refine Iff.trans ?_ (or_iff_right fun h => h.1 hgood).symm
        refine exists_congr fun w => and_congr_right fun _ => and_congr_right fun hw => ?_
        -- a name that was added can be searched, and so can whatever is the same
        have hadded : name.same w = false :=
          Bool.eq_false_iff.mpr fun h => hw (hsame name w h hgood)
        cases passes <;> simp [hadded]

theorem kind_of_addAdmitted {f : Fault} (hadmits : ∀ w f, admits w = .error f → f.kind = .type)
    (h : addAdmitted admits members names = .error f) : f.kind = .type := by
  induction names generalizing members with
  | nil => cases h
  | cons name names ih =>
    unfold addAdmitted at h
    split at h
    · exact ih h
    · rcases bind_eq_error_iff.mp h with h | ⟨_, _, h⟩
      · exact hadmits name f h
      · exact ih h

end ProxyGroup

namespace TemplateGroup

variable {g : TemplateGroup} {names : List Value}

/-- **A group can look for its filter in a name**: a filter in bytes is looked for in bytes, a text
in texts, and without a filter nothing is looked for. -/
def Searches (g : TemplateGroup) (w : Value) : Prop :=
  (g.bytesFilter.isSome = true → ∃ bs, w = .bytes bs) ∧
    (g.bytesFilter = none → g.filter.isSome = true → ∃ s, w = .str s)

theorem breaksOff_admits_iff (w : Value) : BreaksOff (g.admits w) ↔ ¬ g.Searches w := by
  unfold admits ProxyGroup.admits Searches
  cases g.bytesFilter with
  | some f => cases w <;> simp [BreaksOff]
  | none =>
    cases g.filter with
    | some f => cases w <;> simp [BreaksOff]
    | none => simp

theorem kind_of_admits (w : Value) (f : Fault) (h : g.admits w = .error f) : f.kind = .type := by
  unfold admits ProxyGroup.admits at h
  repeat' split at h
  all_goals cases h
  all_goals rfl

/-- What is the same as a name is of its kind, where the kind matters. -/
theorem searches_of_same (m w : Value) (hsame : m.same w = true) (h : g.Searches m) :
    g.Searches w := by
  refine ⟨fun hbytes => ?_, fun hbytes htext => ?_⟩
  · obtain ⟨bs, rfl⟩ := h.1 hbytes
    cases w with
    | bytes cs => exact ⟨cs, rfl⟩
    | _ => simp [Value.same, Value.quantity?] at hsame
  · obtain ⟨s, rfl⟩ := h.2 hbytes htext
    exact ⟨s, (Value.str_same_iff.mp hsame)⟩

/-- **A name that a group breaks off at**: the group includes all nodes, the name is no fixed
member, and its filter cannot be looked for in it. -/
structure BreaksAt (g : TemplateGroup) (w : Value) : Prop where
  includesAll : g.includeAll = true
  notSearched : ¬ g.Searches w
  notFixed : ∀ s ∈ g.fixedMembers, w ≠ .str s

theorem breaksOff_members_iff : BreaksOff (g.members names) ↔ ∃ w ∈ names, g.BreaksAt w := by
  have hfixed : ∀ w : Value, (g.fixedMembers.map Value.str).any (Value.same · w) = false ↔
      ∀ s ∈ g.fixedMembers, w ≠ .str s := by
    intro w
    simp [List.any_eq_false, Value.str_same_iff]
  unfold members ProxyGroup.membersBy
  by_cases hall : g.includeAll = true
  case neg =>
    rw [if_neg hall]
    exact iff_of_false not_breaksOff_ok fun ⟨w, _, h⟩ => hall h.includesAll
  case pos =>
    rw [if_pos hall, ProxyGroup.breaksOff_addAdmitted_iff breaksOff_admits_iff searches_of_same]
    refine exists_congr fun w => and_congr_right fun _ => ?_
    rw [hfixed]
    exact ⟨fun h => ⟨hall, h.1, h.2⟩, fun h => ⟨h.notSearched, h.notFixed⟩⟩

theorem kind_of_members {f : Fault} (h : g.members names = .error f) : f.kind = .type := by
  unfold members ProxyGroup.membersBy at h
  split at h
  · exact ProxyGroup.kind_of_addAdmitted kind_of_admits h
  · cases h

end TemplateGroup

/-! ## Groups of nodes -/

namespace Node

variable {n : Node} {nodes : List Node}

/-- **A node that cannot be put in its group**: what it names as its group cannot be a key. -/
def Ungroupable (n : Node) : Prop :=
  n.group.truthy = true ∧ n.group.unhashablePart?.isSome = true

end Node

/-- A refusal of an id that is there more than once. -/
def Failure.Repeats (ids : List String) (e : Failure) : Prop :=
  ∃ id, e = .refused (.repeatedNode id) ∧ 2 ≤ ids.count id

namespace NodeSnapshot

variable {n : Node} {nodes : List Node} {seen : List String} {groups : Table (List String)}
  {rejects : Failure → Prop}

theorem judged_joinGroup (groups : Table (List String)) (n : Node) :
    Judged .type rejects (¬ n.Ungroupable) n.Ungroupable (ofFault (joinGroup groups n)) := by
  unfold joinGroup
  split
  case isTrue hfalse =>
    have hgroupable : ¬ n.Ungroupable := fun h => by simp [h.1] at hfalse
    exact .answer groups hgroupable hgroupable
  case isFalse htrue =>
    split
    case h_1 part hpart =>
      have h : n.Ungroupable := ⟨by simpa using htrue, by rw [hpart]; rfl⟩
      exact .escape (not_not_intro h) h rfl
    case h_2 | h_3 =>
      have h : ¬ n.Ungroupable := fun h => by simp_all [Node.Ungroupable]
      exact .answer _ h h

/-- **A node that cannot be grouped is met** before an id is met again. -/
def GroupsBreak (seen : List String) (nodes : List Node) : Prop :=
  ∃ before n after, nodes = before ++ n :: after ∧
    (seen ++ (before ++ [n]).map (·.id)).Nodup ∧ n.Ungroupable

theorem groupsBreak_cons_iff (hn : n.id ∉ seen) (hseen : seen.Nodup) :
    GroupsBreak seen (n :: nodes) ↔
      n.Ungroupable ∨ ¬ n.Ungroupable ∧ GroupsBreak (n.id :: seen) nodes := by
  have hids : ∀ ids, (seen ++ n.id :: ids).Nodup ↔ (n.id :: seen ++ ids).Nodup := fun ids =>
    List.perm_middle.nodup_iff
  constructor
  · rintro ⟨before, m, after, heq, hnodup, hbreaks⟩
    cases before with
    | nil =>
      cases heq
      exact Or.inl hbreaks
    | cons _ before =>
      cases heq
      by_cases hfirst : n.Ungroupable
      · exact Or.inl hfirst
      · exact Or.inr ⟨hfirst, before, m, after, rfl, (hids _).mp hnodup, hbreaks⟩
  · rintro (hbreaks | ⟨-, before, m, after, rfl, hnodup, hbreaks⟩)
    · refine ⟨[], n, nodes, rfl, (hids _).mpr ?_, hbreaks⟩
      simpa using ⟨hn, hseen⟩
    · exact ⟨n :: before, m, after, rfl, (hids _).mpr hnodup, hbreaks⟩

theorem judged_deriveGroups (hseen : seen.Nodup) :
    Judged .type (Failure.Repeats (seen ++ nodes.map (·.id)))
      ((seen ++ nodes.map (·.id)).Nodup ∧ ∀ n ∈ nodes, ¬ n.Ungroupable) (GroupsBreak seen nodes)
      (deriveGroups nodes seen groups) := by
  induction nodes generalizing seen groups with
  | nil =>
    refine .answer groups ⟨by simpa using hseen, nofun⟩ ?_
    rintro ⟨before, n, after, heq, -⟩
    cases before <;> cases heq
  | cons n nodes ih =>
    have hperm : (seen ++ n.id :: nodes.map (·.id)).Perm (n.id :: seen ++ nodes.map (·.id)) :=
      List.perm_middle
    unfold deriveGroups
    split
    case isTrue hknown =>
      have hmem : n.id ∈ seen := by simpa using hknown
      have hrepeated : ∀ ids, ¬ (seen ++ n.id :: ids).Nodup := fun ids h =>
        (List.nodup_append.mp h).2.2 _ hmem _ List.mem_cons_self rfl
      refine .rejection (fun h => hrepeated _ h.1) ?_ ⟨n.id, rfl, ?_⟩
      · rintro ⟨before, m, after, heq, hnodup, -⟩
        cases before <;> cases heq <;> exact hrepeated _ hnodup
      · have hpos : 0 < seen.count n.id := List.count_pos_iff.mpr hmem
        rw [List.map_cons, List.count_append, List.count_cons_self]
        omega
    case isFalse hnew =>
      have hn : n.id ∉ seen := by simpa using hnew
      have hrest : ∀ joined, Judged .type (Failure.Repeats (seen ++ (n :: nodes).map (·.id)))
          ((n.id :: seen ++ nodes.map (·.id)).Nodup ∧ ∀ m ∈ nodes, ¬ m.Ungroupable)
          (GroupsBreak (n.id :: seen) nodes) (deriveGroups nodes (n.id :: seen) joined) := by
        intro joined
        refine (ih (List.nodup_cons.mpr ⟨hn, hseen⟩)).mono ?_
        rintro e ⟨id, rfl, hcount⟩
        exact ⟨id, rfl, by rwa [List.map_cons, hperm.count_eq]⟩
      refine ((judged_joinGroup groups n).bind fun joined _ => hrest joined).congr ?_
        (groupsBreak_cons_iff hn hseen).symm
      rw [List.map_cons, hperm.nodup_iff, List.forall_mem_cons]
      exact and_left_comm

/-- Groups that list their members are added, as long as the members can be put into words. -/
theorem breaksOff_addGroups_iff {more : Table Value}
    (h : ∀ e ∈ more, ∃ items, e.2 = .tuple items) : BreaksOff (addGroups more groups) ↔
      ∃ e ∈ more, ∃ items, e.2 = .tuple items ∧ ∃ m ∈ items, m.printable = false := by
  induction more generalizing groups with
  | nil => simp [addGroups]
  | cons e more ih =>
    obtain ⟨⟨items, hitems⟩, hmore⟩ := List.forall_mem_cons.mp h
    have hsteps : addGroups (e :: more) groups =
        Value.asTexts items >>= fun ids => addGroups more (groups.put e.1 ids) := by
      rw [addGroups, hitems]
      rfl
    rw [List.exists_mem_cons_iff, hsteps]
    cases hids : Value.asTexts items with
    | ok ids =>
      have hprint := (Value.asTexts_eq_ok_iff.mp hids).1
      rw [ok_bind, ih hmore]
      refine (or_iff_right ?_).symm
      rintro ⟨items', hitems', m, hm, hlong⟩
      cases hitems.symm.trans hitems'
      exact absurd (hprint m hm) (ne_true_of_eq_false hlong)
    | error f =>
      exact iff_of_true ⟨f, rfl⟩ (Or.inl ⟨items, hitems, (Value.asTexts_eq_error_iff.mp hids).1⟩)

theorem kind_of_addGroups {more : Table Value} {f : Fault}
    (hmore : ∀ e ∈ more, ∃ items, e.2 = .tuple items)
    (h : addGroups more groups = .error f) : f.kind = .value := by
  induction more generalizing groups with
  | nil => cases h
  | cons e more ih =>
    obtain ⟨⟨items, hitems⟩, hmore⟩ := List.forall_mem_cons.mp hmore
    rw [addGroups, hitems] at h
    rcases bind_eq_error_iff.mp h with h | ⟨_, _, h⟩
    · cases h
    · rcases bind_eq_error_iff.mp h with h | ⟨ids, -, h⟩
      · obtain ⟨-, rfl⟩ := Value.asTexts_eq_error_iff.mp h
        rfl
      · exact ih hmore h

end NodeSnapshot

/-! ## Snapshots -/

namespace Pack

variable {p : Pack} {nodes : List Node} {names : List Value} {groups : List TemplateGroup}

theorem breaksOff_clashMembers_iff :
    BreaksOff (clashMembers names groups) ↔ ∃ g ∈ groups, ∃ w ∈ names, g.BreaksAt w := by
  induction groups with
  | nil => simp [clashMembers]
  | cons g groups ih =>
    rw [clashMembers, breaksOff_both_iff, TemplateGroup.breaksOff_members_iff, ih]
    simp

theorem kind_of_clashMembers {f : Fault} (h : clashMembers names groups = .error f) :
    f.kind = .type := by
  induction groups with
  | nil => cases h
  | cons g groups ih =>
    rcases bind_eq_error_iff.mp h with h | ⟨members, -, h⟩
    · exact TemplateGroup.kind_of_members h
    · rcases bind_eq_error_iff.mp h with h | ⟨rest, -, h⟩
      · exact ih h
      · cases h

theorem tuples_of_clashMembers {table : Table Value} (h : clashMembers names groups = .ok table) :
    ∀ e ∈ table, ∃ items, e.2 = .tuple items := by
  induction groups generalizing table with
  | nil =>
    cases h
    exact nofun
  | cons g groups ih =>
    obtain ⟨members, -, h⟩ := bind_eq_ok_iff.mp h
    obtain ⟨rest, hrest, h⟩ := bind_eq_ok_iff.mp h
    cases h
    exact List.forall_mem_cons.mpr ⟨⟨members, rfl⟩, ih hrest⟩

/-- **A snapshot breaks off.** -/
inductive SnapshotBreaks (p : Pack) (nodes : List Node) : Prop
  /-- A Clash group would look for its filter in a name of another kind. -/
  | name {g : TemplateGroup} {n : Node} : g ∈ p.clashGroups → n ∈ nodes →
    g.BreaksAt n.proxyName → SnapshotBreaks p nodes
  /-- Before any id is met again, a node cannot be put in its group. -/
  | group {before after : List Node} {n : Node} : nodes = before ++ n :: after →
    ((before ++ [n]).map (·.id)).Nodup → n.Ungroupable → SnapshotBreaks p nodes

/-- **A member cannot be put into words**: the group that counts under some name is a Clash group,
and one of its members has too many digits. -/
def Unspeakable (p : Pack) (nodes : List Node) : Prop :=
  ∃ name g members, p.groups.last? name = none ∧
    TemplateGroup.last? p.clashGroups name = some g ∧
      g.members (nodes.map Node.proxyName) = .ok members ∧ ∃ m ∈ members, m.printable = false

theorem snapshotBreaks_iff : SnapshotBreaks p nodes ↔
    BreaksOff (clashMembers (nodes.map Node.proxyName) p.clashGroups) ∨
      NodeSnapshot.GroupsBreak [] nodes := by
  rw [breaksOff_clashMembers_iff]
  constructor
  · intro h
    cases h with
    | name hg hn hbreaks => exact Or.inl ⟨_, hg, _, List.mem_map_of_mem hn, hbreaks⟩
    | group heq hnodup hbreaks => exact Or.inr ⟨_, _, _, heq, hnodup, hbreaks⟩
  · rintro (⟨g, hg, w, hw, hbreaks⟩ | ⟨before, n, after, heq, hnodup, hbreaks⟩)
    · obtain ⟨n, hn, rfl⟩ := List.mem_map.mp hw
      exact .name hg hn hbreaks
    · exact .group heq hnodup hbreaks

theorem not_groupsBreak_iff (hids : (nodes.map (·.id)).Nodup) :
    ¬ NodeSnapshot.GroupsBreak [] nodes ↔ ∀ n ∈ nodes, ¬ n.Ungroupable := by
  constructor
  · intro h n hn hbreaks
    obtain ⟨before, after, rfl⟩ := List.append_of_mem hn
    refine h ⟨before, n, after, rfl, hids.sublist ?_, hbreaks⟩
    simp
  · rintro h ⟨before, n, after, rfl, -, hbreaks⟩
    exact h n (by simp) hbreaks

/-- The groups that a snapshot is given: Clash groups, and over them the groups of the pack. -/
def given (p : Pack) (clash : Table Value) : Table Value :=
  Table.ofList (clash ++ p.groups.map fun e => (e.1, .tuple (e.2.map .str)))

theorem tuples_given {clash : Table Value} (h : ∀ e ∈ clash, ∃ items, e.2 = .tuple items) :
    ∀ e ∈ p.given clash, ∃ items, e.2 = .tuple items := by
  refine Table.forall_mem_ofList (P := fun v => ∃ items, v = Value.tuple items) ?_
  refine List.forall_mem_append.mpr ⟨h, fun e he => ?_⟩
  obtain ⟨group, -, rfl⟩ := List.mem_map.mp he
  exact ⟨_, rfl⟩

/-- The texts of a pack's own groups are no trouble, so members that are come from Clash groups. -/
theorem unspeakable_iff {clash : Table Value}
    (hclash : clashMembers (nodes.map Node.proxyName) p.clashGroups = .ok clash) :
    p.Unspeakable nodes ↔
      ∃ e ∈ p.given clash, ∃ items, e.2 = .tuple items ∧ ∃ m ∈ items, m.printable = false := by
  have hlookup : ∀ name, (p.given clash).get? name =
      ((p.groups.last? name).map fun ids => Value.tuple (ids.map .str)).or
        (clash.last? name) := by
    intro name
    rw [given, Table.get?_ofList, Table.last?_append,
      Table.last?_map fun ids : List String => Value.tuple (ids.map .str)]
  constructor
  · rintro ⟨name, g, members, hown, hgroup, hmembers, hlong⟩
    have hlast := last?_clashMembers hclash (g := name)
    rw [hgroup] at hlast
    obtain ⟨members', hmembers', hlast⟩ := hlast
    cases hmembers.symm.trans hmembers'
    refine ⟨(name, .tuple members), Table.mem_of_get? ?_, members, rfl, hlong⟩
    rw [hlookup, hown, hlast]
    rfl
  · rintro ⟨⟨name, v⟩, he, items, rfl, m, hm, hlong⟩
    have hget := Table.get?_of_mem (Table.nodup_keys_ofList _) he
    change (p.given clash).get? name = _ at hget
    rw [hlookup] at hget
    cases hown : p.groups.last? name with
    | some ids =>
      rw [hown] at hget
      cases hget
      obtain ⟨s, -, rfl⟩ := List.mem_map.mp hm
      simp at hlong
    | none =>
      rw [hown, Option.map_none, Option.none_or] at hget
      have hlast := last?_clashMembers hclash (g := name)
      cases hgroup : TemplateGroup.last? p.clashGroups name with
      | none =>
        rw [hgroup] at hlast
        cases hlast.symm.trans hget
      | some g =>
        rw [hgroup] at hlast
        obtain ⟨members, hmembers, hlast⟩ := hlast
        cases hlast.symm.trans hget
        exact ⟨name, g, items, hown, hgroup, hmembers, m, hm, hlong⟩

/-- The first steps of a snapshot: the members of the Clash groups, and the groups that the nodes
form. -/
def grouped (p : Pack) (nodes : List Node) : Outcome (Table Value × Table (List String)) := do
  let clash ← ofFault (clashMembers (nodes.map Node.proxyName) p.clashGroups)
  let derived ← NodeSnapshot.deriveGroups nodes [] []
  .ok (clash, derived)

theorem snapshot_eq (p : Pack) (nodes : List Node) : p.snapshot nodes = p.grouped nodes >>= fun e =>
    ofFault (NodeSnapshot.addGroups (p.given e.1) e.2) >>= fun groups =>
      .ok { nodes, groups, templates := p.vocabulary.templates } := by
  unfold snapshot grouped NodeSnapshot.build
  cases clashMembers (nodes.map Node.proxyName) p.clashGroups with
  | error f => rfl
  | ok clash => cases NodeSnapshot.deriveGroups nodes [] [] <;> rfl

/-- **What becomes of nodes in the first steps.** -/
theorem judged_grouped (p : Pack) (nodes : List Node) :
    Judged .type (Failure.Repeats (nodes.map (·.id)))
      (¬ SnapshotBreaks p nodes ∧ (nodes.map (·.id)).Nodup) (SnapshotBreaks p nodes)
      (p.grouped nodes) := by
  rw [snapshotBreaks_iff]
  unfold grouped
  cases hclash : clashMembers (nodes.map Node.proxyName) p.clashGroups with
  | error f =>
    have hbreaks : BreaksOff (.error f : Except Fault (Table Value)) := ⟨f, rfl⟩
    exact .escape (fun h => h.1 (Or.inl hbreaks)) (Or.inl hbreaks) (kind_of_clashMembers hclash)
  | ok clash =>
    refine (NodeSnapshot.judged_deriveGroups List.nodup_nil).bind_answer.congr ?_ (by simp)
    simp only [not_breaksOff_ok, false_or, List.nil_append]
    rw [and_comm]
    exact and_congr_left fun hids => (not_groupsBreak_iff hids).symm

/-- **What becomes of groups in the last step**, in which their members are put into words. -/
theorem judged_addGroups {clash : Table Value} {derived : Table (List String)}
    (h : p.grouped nodes = .ok (clash, derived)) {rejects : Failure → Prop} :
    Judged .value rejects (¬ p.Unspeakable nodes) (p.Unspeakable nodes)
      (ofFault (NodeSnapshot.addGroups (p.given clash) derived)) := by
  obtain ⟨clash', hclash, h⟩ := bind_eq_ok_iff.mp h
  obtain ⟨derived', -, h⟩ := bind_eq_ok_iff.mp h
  cases h
  rw [ofFault_eq_ok_iff] at hclash
  have htuples := p.tuples_given (tuples_of_clashMembers hclash)
  have hbreaks : BreaksOff (NodeSnapshot.addGroups (p.given clash) derived) ↔
      p.Unspeakable nodes := by
    rw [NodeSnapshot.breaksOff_addGroups_iff htuples, unspeakable_iff hclash]
  cases hadd : NodeSnapshot.addGroups (p.given clash) derived with
  | ok all =>
    have hspeakable : ¬ p.Unspeakable nodes := by
      rw [← hbreaks, hadd]
      exact not_breaksOff_ok
    exact .answer all hspeakable hspeakable
  | error f =>
    have hlong : p.Unspeakable nodes := hbreaks.mp ⟨f, hadd⟩
    exact .escape (not_not_intro hlong) hlong (NodeSnapshot.kind_of_addGroups htuples hadd)

/-- **What becomes of nodes that a snapshot is made of.** -/
theorem snapshot_iffs (p : Pack) (nodes : List Node) :
    ((∃ s, p.snapshot nodes = .ok s) ↔
      ¬ SnapshotBreaks p nodes ∧ (nodes.map (·.id)).Nodup ∧ ¬ p.Unspeakable nodes) ∧
    ((∃ f, p.snapshot nodes = .error (.fault f) ∧ f.kind = .type) ↔ SnapshotBreaks p nodes) ∧
    ((∃ f, p.snapshot nodes = .error (.fault f) ∧ f.kind = .value) ↔
      ¬ SnapshotBreaks p nodes ∧ (nodes.map (·.id)).Nodup ∧ p.Unspeakable nodes) ∧
    ((∃ r, p.snapshot nodes = refuse r ∧ Failure.Repeats (nodes.map (·.id)) (.refused r)) ↔
      ¬ SnapshotBreaks p nodes ∧ ¬ (nodes.map (·.id)).Nodup) := by
  have hgrouped := judged_grouped p nodes
  rw [snapshot_eq]
  cases hsteps : p.grouped nodes with
  | error e =>
    rw [hsteps] at hgrouped
    cases hgrouped with
    | escape hgood hbad hk => simp [error_bind, hbad, hk, refuse]
    | rejection hgood hbad hreject =>
      obtain ⟨id, rfl, hcount⟩ := hreject
      have hrepeated : ¬ (nodes.map (·.id)).Nodup := fun h => hgood ⟨hbad, h⟩
      simp [error_bind, hbad, hrepeated, refuse, Failure.Repeats, hcount]
  | ok e =>
    obtain ⟨clash, derived⟩ := e
    rw [hsteps] at hgrouped
    cases hgrouped with
    | answer _ hgood hbad =>
      have hlast : Judged .value (fun _ => False) (¬ p.Unspeakable nodes) (p.Unspeakable nodes)
          (ofFault (NodeSnapshot.addGroups (p.given clash) derived)) := judged_addGroups hsteps
      rw [ok_bind]
      dsimp only
      cases hadd : ofFault (NodeSnapshot.addGroups (p.given clash) derived) with
      | ok all =>
        rw [hadd] at hlast
        cases hlast with
        | answer _ hspeakable _ => simp [ok_bind, hbad, hgood.2, hspeakable, refuse]
      | error e =>
        rw [hadd] at hlast
        cases hlast with
        | escape _ hlong hk => simp [error_bind, hbad, hgood.2, hlong, hk, refuse]
        | rejection _ _ h => exact h.elim

end Pack

/-- **What becomes of nodes on their way into a provider.**  Data that is read as a node list gives
nodes, is refused as invalid, or breaks off with a fault of value; and nodes give a snapshot of a
pack, are refused because of an id that two of them have, or break off with a fault of type, or at
last with one of value. -/
theorem node_reading_exact (v : Value) (p : Pack) (nodes : List Node) :
    (((∃ read, NodeList.ofValue v = .ok read) ↔ NodeList.Reads v) ∧
      ((∃ f, NodeList.ofValue v = .error (.fault f) ∧ f.kind = .value) ↔ NodeList.Breaks v) ∧
      ((∃ r, NodeList.ofValue v = refuse r ∧ r.report.cls = .packValidation) ↔
        ¬ NodeList.Reads v ∧ ¬ NodeList.Breaks v)) ∧
    ((∃ s, p.snapshot nodes = .ok s) ↔
      ¬ p.SnapshotBreaks nodes ∧ (nodes.map (·.id)).Nodup ∧ ¬ p.Unspeakable nodes) ∧
      ((∃ f, p.snapshot nodes = .error (.fault f) ∧ f.kind = .type) ↔ p.SnapshotBreaks nodes) ∧
      ((∃ f, p.snapshot nodes = .error (.fault f) ∧ f.kind = .value) ↔
        ¬ p.SnapshotBreaks nodes ∧ (nodes.map (·.id)).Nodup ∧ p.Unspeakable nodes) ∧
      ((∃ r id, p.snapshot nodes = refuse r ∧ r.report.cls = .providerContract ∧
          r = .repeatedNode id ∧ 2 ≤ (nodes.map (·.id)).count id) ↔
        ¬ p.SnapshotBreaks nodes ∧ ¬ (nodes.map (·.id)).Nodup) := by
  constructor
  case left =>
    obtain ⟨hreads, hbreaks, hrefused⟩ :=
      (NodeList.judged_ofValue v).iffs fun e ⟨r, he, _⟩ => ⟨r, he⟩
    refine ⟨hreads, hbreaks, ?_⟩
    rw [← hrefused]
    simp [Failure.OfClass]
  case right =>
    obtain ⟨hanswers, hbreaks, hlong, hrefused⟩ := Pack.snapshot_iffs p nodes
    refine ⟨hanswers, hbreaks, hlong, ?_⟩
    rw [← hrefused]
    constructor
    · rintro ⟨_, id, hsnapshot, -, rfl, hcount⟩
      exact ⟨_, hsnapshot, id, rfl, hcount⟩
    · rintro ⟨_, hsnapshot, id, ⟨⟩, hcount⟩
      exact ⟨_, id, hsnapshot, rfl, rfl, hcount⟩

/-- Extra attributes that are a text, and a group that is a list, end the reading of a node list and
the making of a snapshot. -/
theorem node_reading_breaks_off :
    (¬ ∀ v, (∃ nodes, NodeList.ofValue v = .ok nodes) ∨
      ∃ r, NodeList.ofValue v = refuse r ∧ r.report.cls = .packValidation) ∧
    ¬ ∀ now strict files source base data listed p nodes,
      Pack.ofValue now strict files source base data = .ok p →
        NodeList.ofValue listed = .ok nodes → (∃ s, p.snapshot nodes = .ok s) ∨
          ∃ r, p.snapshot nodes = refuse r ∧ r.report.cls = .providerContract := by
  constructor
  case left =>
    intro h
    rcases h (.list [.dict [(.str "id", .str "n"), (.str "extra", .str "ab")]]) with
      ⟨nodes, hnodes⟩ | ⟨r, hr, -⟩
    · cases hnodes
    · cases hr
  case right =>
    intro h
    let entries : Entries := [(.str "subscription_id", .str "S")]
    let parts : PackParts :=
      { subscription := .str "S", name := none, description := none, vocabulary := none
        templates := [], groups := [], clashTemplate := none, rules := [] }
    have hparts : readPackEntries entries = .good parts := by
      subst entries parts
      with_unfolding_all rfl
    have hversion : Pack.requireVersion true entries = .ok () := by
      subst entries
      decide +kernel
    have hload : Pack.ofValue default true {} none {} (.dict entries) =
        .ok (Pack.built default none [] parts) :=
      Pack.ofValue_eq_ok_iff.mpr
        ⟨entries, parts, [], rfl, hversion, hparts, Value.printable_str "S", rfl, rfl, rfl⟩
    rcases h _ _ _ _ _ _ (.list [.dict [(.str "id", .str "n"), (.str "group", .list [.str "a"])]])
      _ [{ id := "n", group := .list [.str "a"] }] hload rfl with ⟨s, hs⟩ | ⟨r, hr, -⟩
    · cases hs
    · cases hr

end DialPlan
