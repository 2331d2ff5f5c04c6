import DialPlan.Table
import Mathlib.Data.List.Nodup

/-!
# Names of a table

What `put`, `erase` and look-ups do to the names of a table.  A name of a table has a value, so a
table whose names are pairwise distinct is determined, up to order, by its look-ups.
-/

namespace DialPlan.Table

variable {α : Type}

@[simp] theorem keys_nil : keys ([] : Table α) = [] := rfl

@[simp] theorem keys_cons (e : String × α) (t : Table α) : keys (e :: t) = e.1 :: keys t := rfl

theorem keys_append (s t : Table α) : keys (s ++ t) = keys s ++ keys t :=
  List.map_append

/-- **A name is in the table exactly when it has a value.** -/
theorem mem_keys_iff {t : Table α} {name : String} : name ∈ t.keys ↔ ∃ v, t.get? name = some v := by
  induction t with
  | nil => simp
  | cons e t ih =>
    obtain ⟨k, v⟩ := e
    rw [keys_cons, List.mem_cons, get?_cons]
    by_cases hk : k = name
    · simp [hk]
    · rw [if_neg hk, ← ih]
      exact ⟨fun h => h.resolve_left (Ne.symm hk), Or.inr⟩

theorem get?_eq_none_iff {t : Table α} {name : String} : t.get? name = none ↔ name ∉ t.keys := by
  rw [mem_keys_iff]
  cases t.get? name <;> simp

theorem mem_of_get? {t : Table α} {name : String} {v : α} (h : t.get? name = some v) :
    (name, v) ∈ t := by
  induction t with
  | nil => simp at h
  | cons e t ih =>
    obtain ⟨k, w⟩ := e
    rw [get?_cons] at h
    split at h
    · next hk =>
      cases h
      rw [hk]
      exact List.mem_cons_self
    · exact List.mem_cons_of_mem _ (ih h)

theorem get?_of_mem {t : Table α} (hn : t.keys.Nodup) {name : String} {v : α}
    (h : (name, v) ∈ t) : t.get? name = some v := by
  induction t with
  | nil => simp at h
  | cons e t ih =>
    obtain ⟨k, w⟩ := e
    rw [keys_cons, List.nodup_cons] at hn
    rw [get?_cons]
    rcases List.mem_cons.mp h with heq | hmem
    · cases heq
      exact if_pos rfl
    · have hne : k ≠ name := by
        intro hk
        subst hk
        exact hn.1 (List.mem_map_of_mem (f := (·.1)) hmem)
      rw [if_neg hne]
      exact ih hn.2 hmem

/-- When names are pairwise distinct, one is not among those before it. -/
theorem not_mem_keys_of_nodup {s t : Table α} {name : String} {v : α}
    (h : (keys (s ++ (name, v) :: t)).Nodup) : name ∉ s.keys := by
  rw [keys_append, keys_cons] at h
  intro hmem
  exact (List.nodup_append.mp h).2.2 name hmem name List.mem_cons_self rfl

/-! ## Setting a value -/

theorem get?_put (t : Table α) (name other : String) (value : α) :
    (t.put name value).get? other = if other = name then some value else t.get? other := by
  split
  · next h =>
    subst h
    exact get?_put_self t other value
  · next h => exact get?_put_of_ne t value (Ne.symm h)

/-- Only the value that is set last counts. -/
theorem put_put (t : Table α) (name : String) (value last : α) :
    (t.put name value).put name last = t.put name last := by
  induction t with
  | nil => simp [put]
  | cons e t ih =>
    obtain ⟨k, v⟩ := e
    by_cases hk : k = name <;> simp [put, hk, ih]

/-- Setting a value appends its name, unless the table has it. -/
theorem keys_put (t : Table α) (name : String) (value : α) :
    (t.put name value).keys = if name ∈ t.keys then t.keys else t.keys ++ [name] := by
  induction t with
  | nil => simp [put]
  | cons e t ih =>
    obtain ⟨k, v⟩ := e
    by_cases hk : k = name
    · simp [put, hk]
    · rw [put, if_neg hk, keys_cons, keys_cons, ih]
      by_cases hmem : name ∈ keys t
      · simp [hmem]
      · simp [hmem, Ne.symm hk]

theorem nodup_keys_put {t : Table α} (h : t.keys.Nodup) (name : String) (value : α) :
    (t.put name value).keys.Nodup := by
  rw [keys_put]
  split
  · exact h
  · next hmem =>
    refine List.nodup_append.mpr ⟨h, List.nodup_singleton name, ?_⟩
    rintro a ha b hb rfl
    exact hmem (List.mem_singleton.mp hb ▸ ha)

/-! ## Dropping a name -/

theorem get?_erase (t : Table α) (name other : String) :
    (t.erase name).get? other = if other = name then none else t.get? other := by
  split
  · next h =>
    subst h
    exact get?_erase_self t other
  · next h => exact get?_erase_of_ne t (Ne.symm h)

theorem nodup_keys_erase {t : Table α} (h : t.keys.Nodup) (name : String) :
    (t.erase name).keys.Nodup :=
  h.sublist (List.Sublist.map _ List.filter_sublist)

/-! ## Rows of changes -/

/-- Distinct names stay distinct along a row of changes when each change keeps them so. -/
theorem nodup_keys_foldl {β : Type} {change : Table α → β → Table α}
    (hchange : ∀ t a, t.keys.Nodup → (change t a).keys.Nodup) (items : List β) {t : Table α}
    (h : t.keys.Nodup) : (items.foldl change t).keys.Nodup := by
  induction items generalizing t with
  | nil => exact h
  | cons a items ih => exact ih (hchange t a h)

theorem get?_foldl_erase (names : List String) (t : Table α) (name : String) :
    (names.foldl erase t).get? name = if name ∈ names then none else t.get? name := by
  induction names generalizing t with
  | nil => simp
  | cons first names ih =>
    rw [List.foldl_cons, ih, get?_erase]
    by_cases hrest : name ∈ names
    · simp [hrest]
    · by_cases hfirst : name = first <;> simp [hrest, hfirst]

/-! ## Merged tables -/

theorem put_ne_nil (t : Table α) (name : String) (value : α) : t.put name value ≠ [] := by
  cases t with
  | nil => exact List.cons_ne_nil _ _
  | cons e t =>
    rw [put]
    split
    · exact List.cons_ne_nil _ _
    · exact List.cons_ne_nil _ _

theorem merge_eq_nil_iff {t more : Table α} : t.merge more = [] ↔ t = [] ∧ more = [] := by
  induction more generalizing t with
  | nil => exact (and_iff_left rfl).symm
  | cons e more ih =>
    have hput := put_ne_nil t e.1 e.2
    rw [show t.merge (e :: more) = (t.put e.1 e.2).merge more from rfl, ih]
    simp [hput]

theorem forall_mem_put {P : α → Prop} {t : Table α} (ht : ∀ e ∈ t, P e.2) (name : String)
    {value : α} (hvalue : P value) : ∀ e ∈ t.put name value, P e.2 := by
  induction t with
  | nil => simpa [put] using hvalue
  | cons first t ih =>
    obtain ⟨hfirst, ht⟩ := List.forall_mem_cons.mp ht
    rw [put]
    split
    · exact List.forall_mem_cons.mpr ⟨hvalue, ht⟩
    · exact List.forall_mem_cons.mpr ⟨hfirst, ih ht⟩

/-- Every value of a merged table comes from one of the two. -/
theorem forall_mem_merge {P : α → Prop} {t more : Table α} (ht : ∀ e ∈ t, P e.2)
    (hmore : ∀ e ∈ more, P e.2) : ∀ e ∈ t.merge more, P e.2 := by
  induction more generalizing t with
  | nil => exact ht
  | cons first more ih =>
    obtain ⟨hfirst, hmore⟩ := List.forall_mem_cons.mp hmore
    exact ih (forall_mem_put ht first.1 hfirst) hmore

theorem forall_mem_ofList {P : α → Prop} {entries : List (String × α)}
    (h : ∀ e ∈ entries, P e.2) : ∀ e ∈ ofList entries, P e.2 :=
  forall_mem_merge (fun _ he => absurd he List.not_mem_nil) h

/-! ## Tables in parts -/

theorem get?_append (s t : Table α) (name : String) :
    get? (s ++ t) name = (s.get? name).or (t.get? name) := by
  induction s with
  | nil => rfl
  | cons e s ih =>
    rw [List.cons_append, get?_cons, get?_cons]
    split
    · rfl
    · exact ih

/-- A table of one entry, or of none. -/
def given (name : String) (v : Option α) : Table α :=
  match v with
  | some v => [(name, v)]
  | none => []

theorem get?_given (name other : String) (v : Option α) :
    (given name v).get? other = if name = other then v else none := by
  cases v with
  | none => simp [given]
  | some v => rw [given, get?_cons, get?_nil]

theorem keys_given_sublist (name : String) (v : Option α) : (given name v).keys.Sublist [name] := by
  cases v with
  | none => exact List.nil_sublist _
  | some v => exact List.Sublist.refl _

theorem mem_given_iff {name : String} {v : Option α} {e : String × α} :
    e ∈ given name v ↔ ∃ w ∈ v, e = (name, w) := by
  cases v <;> simp [given]

/-! ## Look-ups in merged tables -/

/-- The value that comes last under a name. -/
def last? (t : Table α) (name : String) : Option α :=
  get? t.reverse name

/-- **A merged table** gives the value that comes last in the second table, or else that of the
first. -/
theorem get?_merge (t more : Table α) (name : String) :
    (t.merge more).get? name = (more.last? name).or (t.get? name) := by
  induction more generalizing t with
  | nil => rfl
  | cons e more ih =>
    rw [show t.merge (e :: more) = (t.put e.1 e.2).merge more from rfl, ih, last?, last?,
      List.reverse_cons, get?_append, get?_put, Option.or_assoc]
    by_cases h : name = e.1
    · rw [h, if_pos rfl, get?_cons, if_pos rfl, Option.some_or]
    · rw [if_neg h, get?_cons, if_neg (Ne.symm h), get?_nil, Option.none_or]

theorem get?_ofList (entries : List (String × α)) (name : String) :
    (ofList entries).get? name = last? entries name := by
  rw [ofList, get?_merge, get?_nil, Option.or_none]

theorem nodup_keys_ofList (entries : List (String × α)) : (ofList entries).keys.Nodup :=
  nodup_keys_foldl (fun _ e h => nodup_keys_put h e.1 e.2) entries List.nodup_nil

/-! ## Last values -/

theorem last?_append (s t : Table α) (name : String) :
    last? (s ++ t) name = (t.last? name).or (s.last? name) := by
  rw [last?, List.reverse_append, get?_append]
  rfl

theorem last?_cons (e : String × α) (t : Table α) (name : String) :
    last? (e :: t) name = (t.last? name).or (if e.1 = name then some e.2 else none) :=
  last?_append [e] t name

theorem last?_eq_none_iff {t : Table α} {name : String} : t.last? name = none ↔ name ∉ t.keys := by
  rw [last?, get?_eq_none_iff, keys, keys, List.map_reverse, List.mem_reverse]

/-- Among distinct names the last one is the first one. -/
theorem last?_of_nodup {t : Table α} (h : t.keys.Nodup) (name : String) :
    t.last? name = t.get? name := by
  cases hget : t.get? name with
  | none => exact last?_eq_none_iff.mpr (get?_eq_none_iff.mp hget)
  | some v =>
    have hreverse : (keys t.reverse).Nodup := by
      rw [keys, List.map_reverse]
      exact List.nodup_reverse.mpr h
    exact get?_of_mem hreverse (List.mem_reverse.mpr (mem_of_get? hget))

/-! ## Mapped tables -/

theorem get?_map {β : Type} (f : α → β) (t : Table α) (name : String) :
    get? (t.map fun e => (e.1, f e.2)) name = (t.get? name).map f := by
  induction t with
  | nil => rfl
  | cons e t ih =>
    rw [List.map_cons, get?_cons, get?_cons, ih]
    split <;> rfl

theorem last?_map {β : Type} (f : α → β) (t : Table α) (name : String) :
    last? (t.map fun e => (e.1, f e.2)) name = (t.last? name).map f := by
  rw [last?, ← List.map_reverse, get?_map]
  rfl

/-! ## Tables of named things -/

/-- What is found among things under their names is one of them. -/
theorem get?_map_eq_some {β : Type} {key : α → String} {value : α → β} {items : List α}
    {name : String} {b : β} (h : get? (items.map fun a => (key a, value a)) name = some b) :
    ∃ a ∈ items, key a = name ∧ value a = b := by
  induction items with
  | nil => cases h
  | cons first items ih =>
    rw [List.map_cons, get?_cons] at h
    split at h
    · next hkey => exact ⟨first, List.mem_cons_self, hkey, Option.some.inj h⟩
    · obtain ⟨a, ha, hfound⟩ := ih h
      exact ⟨a, List.mem_cons_of_mem first ha, hfound⟩

theorem last?_map_eq_some {β : Type} {key : α → String} {value : α → β} {items : List α}
    {name : String} {b : β} (h : last? (items.map fun a => (key a, value a)) name = some b) :
    ∃ a ∈ items, key a = name ∧ value a = b := by
  rw [last?, ← List.map_reverse] at h
  obtain ⟨a, ha, hfound⟩ := get?_map_eq_some h
  exact ⟨a, List.mem_reverse.mp ha, hfound⟩

/-- Something goes by every name there is. -/
theorem exists_last?_map {β : Type} {key : α → String} {value : α → β} {items : List α}
    {name : String} (h : name ∈ items.map key) :
    ∃ b, last? (items.map fun a => (key a, value a)) name = some b := by
  refine Option.ne_none_iff_exists'.mp fun hnone => last?_eq_none_iff.mp hnone ?_
  rw [keys, List.map_map]
  exact h

end DialPlan.Table
