import DialPlan.Proofs.Table
import DialPlan.Value.Shown

/-!
# Plain values

`Value.Plain` says which values JSON can hold.  The dictionaries among them are tables: their keys
are texts, so setting a value and looking one up mean the same in both forms (`put_toEntries`,
`get?_toEntries`).

A plain value may still have an integer in it with more digits than a text can have.
`Value.Writable` leaves those out.
-/

namespace DialPlan

/-- The entries of a table, its names being texts. -/
def Table.toEntries (t : Table Value) : Entries :=
  t.map fun e => (.str e.1, e.2)

namespace Table

@[simp] theorem toEntries_nil : toEntries [] = [] := rfl

@[simp] theorem toEntries_cons (e : String × Value) (t : Table Value) :
    toEntries (e :: t) = (.str e.1, e.2) :: toEntries t := rfl

theorem toEntries_injective {s t : Table Value} (h : s.toEntries = t.toEntries) : s = t := by
  refine List.map_injective_iff.mpr ?_ h
  rintro ⟨k, v⟩ ⟨l, w⟩ heq
  cases heq
  rfl

theorem get?_toEntries (t : Table Value) (name : String) :
    Entries.get? t.toEntries name = t.get? name := by
  induction t with
  | nil => rfl
  | cons e t ih =>
    rw [toEntries_cons, Entries.get?_cons, get?_cons, ih]
    simp only [Value.str.injEq]

theorem put_toEntries (t : Table Value) (name : String) (v : Value) :
    Entries.put t.toEntries (.str name) v = (t.put name v).toEntries := by
  induction t with
  | nil => rfl
  | cons e t ih =>
    obtain ⟨k, w⟩ := e
    rw [toEntries_cons, Entries.put, put, ih]
    by_cases h : k = name <;> simp [Value.same, h]

/-- A name that the table does not have goes to its end. -/
theorem put_of_not_mem {t : Table Value} {name : String} (h : name ∉ t.keys) (v : Value) :
    t.put name v = t ++ [(name, v)] := by
  induction t with
  | nil => rfl
  | cons e t ih =>
    obtain ⟨k, w⟩ := e
    rw [keys_cons, List.mem_cons, not_or] at h
    rw [put, if_neg (Ne.symm h.1), ih h.2, List.cons_append]

end Table

/-- **What JSON can hold**: words, numbers, texts, lists of such values, and tables of them with
pairwise distinct names. -/
inductive Value.Plain : Value → Prop
  | null : Plain null
  | bool (b : Bool) : Plain (bool b)
  | int (n : Int) : Plain (int n)
  | float (x : Binary64) : Plain (float x)
  | str (s : String) : Plain (str s)
  | list {items : List Value} : (∀ v ∈ items, Plain v) → Plain (list items)
  | dict {fields : Table Value} : fields.keys.Nodup → (∀ e ∈ fields, Plain e.2) →
    Plain (dict fields.toEntries)

theorem Entries.mem_of_get? {entries : Entries} {key : String} {v : Value}
    (h : entries.get? key = some v) : (.str key, v) ∈ entries := by
  induction entries with
  | nil => cases h
  | cons e entries ih =>
    obtain ⟨k, w⟩ := e
    rw [get?_cons] at h
    split at h
    · next hk =>
      cases h
      rw [hk]
      exact List.mem_cons_self
    · exact List.mem_cons_of_mem _ (ih h)

namespace Value.Plain

theorem exists_table {entries : Entries} (h : Plain (.dict entries)) : ∃ fields : Table Value,
    entries = fields.toEntries ∧ fields.keys.Nodup ∧ ∀ e ∈ fields, Plain e.2 := by
  cases h with
  | dict hkeys hvalues => exact ⟨_, rfl, hkeys, hvalues⟩

theorem empty : Plain (.dict []) := by
  refine @dict [] List.nodup_nil ?_
  exact fun e he => absurd he List.not_mem_nil

/-- Another name in front keeps a dictionary plain. -/
theorem cons {name : String} {v : Value} {t : Table Value} (hname : name ∉ t.keys) (hv : Plain v)
    (h : Plain (.dict t.toEntries)) : Plain (.dict (Table.toEntries ((name, v) :: t))) := by
  obtain ⟨fields, hfields, hkeys, hvalues⟩ := h.exists_table
  have heq : t = fields := Table.toEntries_injective hfields
  subst heq
  exact dict (List.nodup_cons.mpr ⟨hname, hkeys⟩) (List.forall_mem_cons.mpr ⟨hv, hvalues⟩)

theorem values {entries : Entries} (h : Plain (.dict entries)) : ∀ e ∈ entries, Plain e.2 := by
  obtain ⟨fields, rfl, -, hvalues⟩ := h.exists_table
  intro e he
  obtain ⟨f, hf, rfl⟩ := List.mem_map.mp he
  exact hvalues f hf

/-- Setting a text key to a plain value keeps a dictionary plain. -/
theorem put {entries : Entries} (h : Plain (.dict entries)) (key : String) {v : Value}
    (hv : Plain v) : Plain (.dict (entries.put (.str key) v)) := by
  obtain ⟨fields, rfl, hkeys, hvalues⟩ := h.exists_table
  rw [Table.put_toEntries]
  refine dict (Table.nodup_keys_put hkeys key v) ?_
  intro e he
  have hget := Table.get?_of_mem (Table.nodup_keys_put hkeys key v) he
  rw [Table.get?_put] at hget
  split at hget
  · exact Option.some.inj hget ▸ hv
  · exact hvalues _ (Table.mem_of_get? hget)

end Value.Plain

/-! ## Values that have a text -/

namespace Value

theorem printable_list_iff {items : List Value} :
    printable (list items) = true ↔ ∀ v ∈ items, printable v = true := by
  rw [printable, printableItems_eq_all, List.all_eq_true]

theorem printable_dict_iff {entries : Entries} : printable (dict entries) = true ↔
    ∀ e ∈ entries, printable e.1 = true ∧ printable e.2 = true := by
  rw [printable]
  induction entries with
  | nil => simp [printableEntries]
  | cons e entries ih => simp [printableEntries, ih]

theorem printable_toEntries_iff {t : Table Value} :
    printable (dict t.toEntries) = true ↔ ∀ e ∈ t, printable e.2 = true := by
  rw [printable_dict_iff, Table.toEntries, List.forall_mem_map]
  simp only [printable_str, true_and]

/-- **What has a JSON text**: a plain value whose integers can be put into digits. -/
structure Writable (v : Value) : Prop where
  plain : v.Plain
  printable : v.printable = true

namespace Writable

theorem null : Writable null := ⟨.null, printable_null⟩

theorem str (s : String) : Writable (str s) := ⟨.str s, printable_str s⟩

theorem list {items : List Value} (h : ∀ v ∈ items, Writable v) : Writable (list items) :=
  ⟨.list fun v hv => (h v hv).plain, printable_list_iff.mpr fun v hv => (h v hv).printable⟩

theorem empty : Writable (dict []) := ⟨.empty, by simp [printable_dict_iff]⟩

/-- Another name in front keeps a text for a dictionary. -/
theorem cons {name : String} {v : Value} {t : Table Value} (hname : name ∉ t.keys)
    (hv : Writable v) (h : Writable (dict t.toEntries)) :
    Writable (dict (Table.toEntries ((name, v) :: t))) := by
  refine ⟨.cons hname hv.plain h.plain, printable_toEntries_iff.mpr ?_⟩
  exact List.forall_mem_cons.mpr ⟨hv.printable, printable_toEntries_iff.mp h.printable⟩

theorem table {fields : Table Value} (hkeys : fields.keys.Nodup)
    (h : ∀ e ∈ fields, Writable e.2) : Writable (dict fields.toEntries) :=
  ⟨.dict hkeys fun e he => (h e he).plain,
    printable_toEntries_iff.mpr fun e he => (h e he).printable⟩

theorem items {items : List Value} (h : Writable (.list items)) : ∀ v ∈ items, Writable v := by
  cases h.plain with
  | list hitems => exact fun v hv => ⟨hitems v hv, printable_list_iff.mp h.printable v hv⟩

theorem values {entries : Entries} (h : Writable (dict entries)) :
    ∀ e ∈ entries, Writable e.2 := fun e he =>
  ⟨h.plain.values e he, (printable_dict_iff.mp h.printable e he).2⟩

/-- Setting a text key to a value that has a text keeps a text for a dictionary. -/
theorem put {entries : Entries} (h : Writable (dict entries)) (key : String) {v : Value}
    (hv : Writable v) : Writable (dict (entries.put (.str key) v)) := by
  refine ⟨h.plain.put key hv.plain, ?_⟩
  obtain ⟨fields, rfl, -, -⟩ := h.plain.exists_table
  rw [Table.put_toEntries, printable_toEntries_iff]
  have hfields := printable_toEntries_iff.mp h.printable
  exact Table.forall_mem_put (P := fun v : Value => v.printable = true) hfields key hv.printable

end Writable

/-- **A property of plain values that goes over to all they hold.** -/
structure Hereditary (P : Value → Prop) : Prop where
  plain : ∀ {v : Value}, P v → v.Plain
  null : P .null
  items : ∀ {items : List Value}, P (.list items) → ∀ v ∈ items, P v
  values : ∀ {entries : Entries}, P (.dict entries) → ∀ e ∈ entries, P e.2

theorem Plain.hereditary : Hereditary Plain where
  plain h := h
  null := .null
  items h := by
    cases h with
    | list hitems => exact hitems
  values h := h.values

theorem Writable.hereditary : Hereditary Writable where
  plain h := h.plain
  null := .null
  items h := h.items
  values h := h.values

end Value

end DialPlan
