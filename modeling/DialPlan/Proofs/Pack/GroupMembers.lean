import DialPlan.Clash
import DialPlan.Proofs.FirstOccurrence
import DialPlan.Proofs.Outcome
import DialPlan.Proofs.Value.Entries

/-!
# Who is a member of a Clash group

A group has its static proxies and the providers it uses.  One that includes all nodes goes through
their names and adds each that is no member yet and passes the filter, so what it looks in grows as
it goes.  In the end this comes to the names that pass and are no fixed members, each once
(`ProxyGroup.members_exact`).
-/

namespace DialPlan

namespace ProxyGroup

variable {g : ProxyGroup} {names again : List String}

/-- **A name passes the filter of a group**: there is none, or it finds a match in the name. -/
def Passes (g : ProxyGroup) (name : String) : Prop :=
  ∀ f ∈ g.filter, f.pattern.foundIn name = true

/-- **A name is included** in a group: the group includes all nodes, the name is no static proxy and
no provider in use, and it passes the filter. -/
structure Includes (g : ProxyGroup) (name : String) : Prop where
  includesAll : g.includeAll = true
  notProxy : name ∉ g.proxies
  notUsed : name ∉ g.use
  passes : g.Passes name

theorem mem_fixedMembers_iff {name : String} :
    name ∈ g.fixedMembers ↔ name ∈ g.proxies ∨ name ∈ g.use := by
  by_cases h : name ∈ g.proxies <;> simp [fixedMembers, h]

theorem exists_admits (g : ProxyGroup) (name : String) :
    ∃ passes : Bool, g.admits (.str name) = .ok passes ∧ (passes = true ↔ g.Passes name) := by
  unfold admits Passes
  cases g.filter with
  | none => exact ⟨true, rfl, by simp⟩
  | some f => exact ⟨f.pattern.foundIn name, rfl, by simp⟩

theorem any_same_map_str {members : List String} {name : String} :
    (members.map Value.str).any (Value.same · (.str name)) = true ↔ name ∈ members := by
  simp [Value.same_str_iff]

/-- **Names are gone through one by one**: those are added that are no members and pass. -/
theorem exists_addAdmitted_eq (g : ProxyGroup) (members names : List String) :
    ∃ added, addAdmitted g.admits (members.map .str) (names.map .str) =
        .ok ((members ++ added).map .str) ∧
      ListedOnce (fun name => name ∉ members ∧ g.Passes name) names added := by
  -- a name that is added is a member for the rest, so the induction is for all members at once
  induction names generalizing members with
  | nil =>
    refine ⟨[], ?_, .of_none fun _ h => absurd h List.not_mem_nil⟩
    rw [List.append_nil]
    rfl
  | cons name names ih =>
    rw [List.map_cons, addAdmitted]
    by_cases hmem : name ∈ members
    · obtain ⟨added, heq, hadded⟩ := ih members
      refine ⟨added, ?_, hadded.skip fun h => h.1 hmem⟩
      rw [if_pos (any_same_map_str.mpr hmem), heq]
    · rw [if_neg (mt any_same_map_str.mp hmem)]
      obtain ⟨passes, hadmits, hpasses⟩ := g.exists_admits name
      rw [hadmits, ok_bind]
      cases passes with
      | false =>
        obtain ⟨added, heq, hadded⟩ := ih members
        refine ⟨added, ?_, hadded.skip fun h => Bool.false_ne_true (hpasses.mpr h.2)⟩
        show addAdmitted g.admits (members.map .str ++ []) _ = _
        rw [List.append_nil, heq]
      | true =>
        obtain ⟨added, heq, hadded⟩ := ih (members ++ [name])
        refine ⟨name :: added, ?_, .take (hadded.congr fun other => ?_) ⟨hmem, hpasses.mp rfl⟩⟩
        · rw [if_pos rfl, List.append_cons, ← heq, List.map_append, List.map_singleton]
        · rw [List.mem_append, List.mem_singleton, not_or, and_comm (a := other ∉ members),
            and_assoc]

/-- **The members are the fixed ones and the included names.** -/
theorem exists_members_eq (g : ProxyGroup) (names : List String) :
    ∃ included, g.members (names.map .str) = .ok ((g.fixedMembers ++ included).map .str) ∧
      ListedOnce g.Includes names included := by
  unfold members membersBy
  by_cases hall : g.includeAll = true
  case pos =>
    obtain ⟨included, heq, hincluded⟩ := exists_addAdmitted_eq g g.fixedMembers names
    refine ⟨included, by rw [if_pos hall, heq], hincluded.congr fun name => ?_⟩
    rw [mem_fixedMembers_iff, not_or]
    exact ⟨fun ⟨⟨hproxy, huse⟩, hpasses⟩ => ⟨hall, hproxy, huse, hpasses⟩,
      fun h => ⟨⟨h.notProxy, h.notUsed⟩, h.passes⟩⟩
  case neg =>
    exact ⟨[], by rw [if_neg hall, List.append_nil], .of_none fun _ _ h => hall h.includesAll⟩

/-- **Names that come up again** make no difference. -/
theorem members_append_of_subset (h : again ⊆ names) :
    g.members ((names ++ again).map .str) = g.members (names.map .str) := by
  obtain ⟨included, heq, hincluded⟩ := g.exists_members_eq names
  obtain ⟨included', heq', hincluded'⟩ := g.exists_members_eq (names ++ again)
  rw [heq, heq', (hincluded.append_of_subset h).unique hincluded']

/-- **The members of a group, in order.**  For all names there are members: the static proxies, then
the providers in use that are none of them, then what is included of the names, each once, in the
order of its first occurrence.  The names given twice over make the same members. -/
theorem members_exact (g : ProxyGroup) (names : List String) :
    (∃ included : List String,
      g.members (names.map .str) =
        .ok ((g.proxies ++ g.use.filter (· ∉ g.proxies) ++ included).map .str) ∧
      ListedOnce g.Includes names included) ∧
    g.members ((names ++ names).map .str) = g.members (names.map .str) := by
  obtain ⟨included, heq, hincluded⟩ := g.exists_members_eq names
  have hfixed : g.fixedMembers = g.proxies ++ g.use.filter (· ∉ g.proxies) := by
    simp [fixedMembers]
  exact ⟨⟨included, hfixed ▸ heq, hincluded⟩, members_append_of_subset (List.Subset.refl names)⟩

/-- A name that is a provider in use already is not included. -/
example :
    let g : ProxyGroup := { name := "auto", proxies := ["a"], use := ["p"], includeAll := true }
    g.members (["b", "a", "p", "c", "b"].map .str) = .ok (["a", "p", "b", "c"].map .str) := by
  decide +kernel

end ProxyGroup

/-- **A group that a template lists** has the members of its proxy group, unless its filter is in
bytes. -/
theorem TemplateGroup.members_eq_of_text {g : TemplateGroup} (h : g.bytesFilter = none)
    (names : List Value) : g.members names = g.toProxyGroup.members names := by
  have hadmits : g.admits = g.toProxyGroup.admits := by
    funext name
    rw [admits, h]
  rw [members, hadmits, ProxyGroup.members]

end DialPlan
