import DialPlan.Proofs.Condition.Explanation
import DialPlan.Proofs.NodeList
import DialPlan.Proofs.Table
import DialPlan.Proofs.Value.Entries

/-!
# A mapping and the record made from it

A mapping may be judged as it is, or be made a record first.  The record keeps known attributes as
fields, moves all other entries to its extra attributes, and puts the entries of the mapping's own
`extra` on top of them.  A leaf sees the same in both (`Node.judge_record_unless_shadowed`), with
two exceptions.  A record has attributes besides its fields, such as its published name and its
operations, so an entry of one of their names is out of sight; and an entry that is no known
attribute gives way to one of the same name in the mapping's own `extra`, which in the mapping
itself only comes second.
-/

namespace DialPlan

namespace Node

variable {data : Entries} {n : Node} {key : String} {w : Value}

/-- What the mapping's own `extra` has under a name, the last of several. -/
def nested? (data : Entries) (key : String) : Option Value :=
  match extraOf data with
  | .ok more => (Entries.merge [] more).get? key
  | .error _ => none

/-- **What stands before an entry of the mapping** once it is a record: what the record has of
itself before an entry of that name, and what is nested before any that is no known attribute. -/
def shadow? (n : Node) (data : Entries) (key : String) : Option Value :=
  if knownNames.contains key then none else (n.inherited? key).or (nested? data key)

/-- **What a record keeps of a mapping**: its known attributes as they are, but for the id and the
tags, and all other entries with the nested ones on top. -/
theorem ofEntries_spec (h : ofEntries data = .ok n) :
    (∀ key w, knownNames.contains key = true → key ∉ ["id", "tags"] →
      data.get? key = some w → n.known? key = some w) ∧
    ∃ more, extraOf data = .ok more ∧ n.extra =
      Entries.merge (data.filter fun e => !isKnownKey e.1 && e.1 != .str "extra") more := by
  obtain ⟨more, hmore, h⟩ := bind_eq_ok_iff.mp h
  cases hid : data.get? "id" with
  | none =>
    rw [hid] at h
    obtain ⟨keys, -, h⟩ := bind_eq_ok_iff.mp h
    exact absurd h Outcome.refuse_ne_ok
  | some id =>
    rw [hid] at h
    obtain ⟨text, -, h⟩ := bind_eq_ok_iff.mp h
    obtain ⟨tags, -, h⟩ := bind_eq_ok_iff.mp h
    cases h
    refine ⟨fun key w hknown hkey hw => ?_, more, Outcome.ofFault_eq_ok_iff.mp hmore, rfl⟩
    simp only [knownNames, List.contains_eq_mem, decide_eq_true_eq, List.mem_cons,
      List.not_mem_nil, or_false, not_or] at hknown hkey
    -- a default counts only where there is no entry, so each field is the entry of its name
    rcases hknown with rfl | rfl | rfl | rfl | rfl | rfl | rfl | rfl | rfl | rfl | rfl | rfl | rfl |
      rfl | rfl | rfl
    all_goals first
      | exact absurd rfl hkey.1
      | exact absurd rfl hkey.2
      | exact congrArg (fun o => some (Option.getD o _)) hw

/-- **What is moved to the extra attributes**: what is nested comes first, then the entries that are
no known attributes. -/
theorem get?_extra (h : ofEntries data = .ok n) (hknown : knownNames.contains key = false)
    (hextra : key ≠ "extra") : n.extra.get? key = (nested? data key).or (data.get? key) := by
  obtain ⟨-, more, hmore, hn⟩ := ofEntries_spec h
  have hown : ∀ v : Value, (fun e : Value × Value => !isKnownKey e.1 && e.1 != .str "extra")
      (.str key, v) = true := by
    intro v
    simp only [isKnownKey, hknown]
    simpa using hextra
  rw [hn, Entries.get?_merge, Entries.get?_filter data hown, nested?, hmore]

/-- Nothing else is a field of a record but `extra`. -/
theorem get?_fields_of_not_known (hknown : knownNames.contains key = false)
    (hextra : key ≠ "extra") : n.fields.get? key = none := by
  refine Table.get?_eq_none_iff.mpr fun hmem => ?_
  rcases List.mem_append.mp (show key ∈ knownNames ++ ["extra"] from hmem) with hfield | hfield
  · rw [List.contains_iff_mem.mpr hfield] at hknown
    cases hknown
  · exact hextra (List.mem_singleton.mp hfield)

/-- **An attribute of the record is the entry of the mapping, or what stands before it.** -/
theorem attribute?_record (h : ofEntries data = .ok n) (hw : data.get? key = some w)
    (hkey : key ∉ ["id", "tags", "extra"]) :
    (NodeView.record n).attribute? key = some ((n.shadow? data key).getD w) := by
  simp only [List.mem_cons, List.not_mem_nil, or_false, not_or] at hkey
  rw [NodeView.attribute?, shadow?]
  by_cases hknown : knownNames.contains key = true
  · have hfield : n.known? key = some w :=
      (ofEntries_spec h).1 key w hknown (by simp [hkey]) hw
    rw [hfield, if_pos hknown]
    rfl
  · rw [Bool.not_eq_true] at hknown
    rw [if_neg (by rw [hknown]; exact Bool.false_ne_true)]
    rw [known?, get?_fields_of_not_known hknown hkey.2.2, Option.none_or,
      get?_extra h hknown hkey.2.2, hw]
    cases n.inherited? key with
    | some u => rfl
    | none => cases nested? data key <;> rfl

/-- **A mapping and the record made from it are judged alike, unless something stands before the
entry.**  Take an entry of a mapping that makes a record, other than the id, the tags and the extra
attributes, and a leaf over a field that reads it.  Where nothing shadows the entry the leaf comes
to the same verdict on both, down to why it degraded and to the fault it breaks off with; otherwise
it judges the record like the mapping in which the entry is what shadows it. -/
theorem judge_record_unless_shadowed (h : ofEntries data = .ok n) (hw : data.get? key = some w)
    (hkey : key ∉ ["id", "tags", "extra"]) (v : Vocabulary) (p : Predicate) (field : FieldSpec)
    (hfield : v.fields.get? p.field = some field) (hreads : field.attributeName = key) :
    (n.shadow? data key = none → p.judge v (.record n) = p.judge v (.mapping data)) ∧
      ∀ u, n.shadow? data key = some u →
        p.judge v (.record n) = p.judge v (.mapping (data.put (.str key) u)) := by
  have halike : ∀ entries : Entries, entries.get? key = some ((n.shadow? data key).getD w) →
      p.judge v (.record n) = p.judge v (.mapping entries) := by
    intro entries hentry
    refine Predicate.judge_congr fun name hname spec hspec => ?_
    cases List.mem_singleton.mp hname
    cases hfield.symm.trans hspec
    rw [hreads, attribute?_record h hw hkey, NodeView.attribute?, hentry, Option.some_or]
  refine ⟨fun hnone => halike data ?_, fun u hu => halike _ ?_⟩
  · rw [hnone, hw, Option.getD_none]
  · rw [Entries.get?_put, if_pos rfl, hu, Option.getD_some]

/-- A vocabulary with one field, which reads the attribute of its name. -/
def oneField (name : String) : Vocabulary :=
  { Vocabulary.standard with fields := [(name, { name, type := .string })] }

/-- Another nested entry is no hindrance. -/
theorem judge_record_unless_shadowed_region :
    let data : Entries := [(.str "id", .str "n"), (.str "region", .str "apac"),
      (.str "extra", .dict [(.str "tier", .int 2)])]
    let p : Predicate := ⟨"region", "equals", .str "apac"⟩
    ∃ n, ofEntries data = .ok n ∧
      p.judge (oneField "region") (.record n) = p.judge (oneField "region") (.mapping data) := by
  intro data p
  obtain ⟨n, h⟩ : ∃ n, ofEntries data = .ok n := ⟨_, rfl⟩
  have hentry : data.get? "region" = some (.str "apac") := rfl
  exact ⟨n, h, (judge_record_unless_shadowed h hentry (by decide) (oneField "region") p _ rfl
    rfl).1 rfl⟩

/-- An entry under the name of the published one is out of sight, a nested one goes before another
of the same name, and an entry under the name of an operation is out of sight as well. -/
theorem judge_record_not_always_alike :
    (¬ ∀ (data : Entries) (n : Node) (key : String) (w : Value) (v : Vocabulary) (p : Predicate)
      (field : FieldSpec), ofEntries data = .ok n → data.get? key = some w →
      key ∉ ["id", "tags", "extra"] → w ≠ .null → v.fields.get? p.field = some field →
      field.attributeName = key → data.get? "extra" = none →
      p.judge v (.record n) = p.judge v (.mapping data)) ∧
    (¬ ∀ (data : Entries) (n : Node) (key : String) (w : Value) (v : Vocabulary) (p : Predicate)
      (field : FieldSpec), ofEntries data = .ok n → data.get? key = some w →
      key ∉ ["id", "tags", "extra"] → w ≠ .null → v.fields.get? p.field = some field →
      field.attributeName = key → key ≠ "proxy_name" →
      p.judge v (.record n) = p.judge v (.mapping data)) ∧
    ¬ ∀ (data : Entries) (n : Node) (key : String) (w : Value) (v : Vocabulary) (p : Predicate)
      (field : FieldSpec), ofEntries data = .ok n → data.get? key = some w →
      key ∉ ["id", "tags", "extra"] → w ≠ .null → v.fields.get? p.field = some field →
      field.attributeName = key → key ≠ "proxy_name" → data.get? "extra" = none →
      p.judge v (.record n) = p.judge v (.mapping data) := by
  refine ⟨?_, ?_, ?_⟩
  · intro h
    let data : Entries := [(.str "id", .str "n"), (.str "proxy_name", .str "front")]
    have hsame := h data _ "proxy_name" _ (oneField "proxy_name")
      ⟨"proxy_name", "equals", .str "front"⟩ _ rfl rfl (by decide) nofun rfl rfl rfl
    exact absurd hsame (by decide +kernel)
  · intro h
    let data : Entries := [(.str "id", .str "n"), (.str "region", .str "apac"),
      (.str "extra", .dict [(.str "region", .str "emea")])]
    have hsame := h data _ "region" _ (oneField "region")
      ⟨"region", "equals", .str "apac"⟩ _ rfl rfl (by decide) nofun rfl rfl (by decide)
    exact absurd hsame (by decide +kernel)
  · intro h
    let data : Entries := [(.str "id", .str "n"), (.str "from_mapping", .str "x")]
    have hsame := h data _ "from_mapping" _ (oneField "from_mapping")
      ⟨"from_mapping", "equals", .str "x"⟩ _ rfl rfl (by decide) nofun rfl rfl (by decide) rfl
    exact absurd hsame (by decide +kernel)

end Node

end DialPlan
