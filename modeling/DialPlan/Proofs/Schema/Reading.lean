import DialPlan.Proofs.Value.Plain
import DialPlan.Schema.Reading

/-!
# Readings in parts

A reading that is made of parts is good exactly when each of its parts is.  These lemmas take
readings apart, and say what a field of an object comes to.
-/

namespace DialPlan

namespace Checked

variable {α β γ : Type}

@[simp] theorem map_apply_good (f : α → β) (a : α) : f <$> good a = good (f a) := rfl

@[simp] theorem seq_good (f : α → β) (a : α) : (good f <*> good a : Checked β) = good (f a) := rfl

@[simp] theorem fail_ne_good {kind : IssueKind} {a : α} : (fail kind : Checked α) ≠ good a := by
  intro h
  cases h

theorem map_eq_good_iff {f : α → β} {c : Checked α} {b : β} :
    c.map f = good b ↔ ∃ a, c = good a ∧ f a = b := by
  cases c <;> simp [map]

theorem map_apply_eq_good_iff {f : α → β} {c : Checked α} {b : β} :
    f <$> c = good b ↔ ∃ a, c = good a ∧ f a = b :=
  map_eq_good_iff

theorem seq_eq_good_iff {f : Checked (α → β)} {c : Checked α} {b : β} :
    f <*> c = good b ↔ ∃ g a, f = good g ∧ c = good a ∧ g a = b :=
  join_eq_good_iff

theorem andThen_eq_good_iff {c : Checked α} {f : α → Checked β} {b : β} :
    c.andThen f = good b ↔ ∃ a, c = good a ∧ f a = good b := by
  cases c <;> simp [andThen, join_eq_good_iff]

/-- A reading with a check behind it is good exactly when it is good and passes the check. -/
theorem check_eq_good_iff {p : α → Prop} [DecidablePred p] {kind : IssueKind} {c : Checked α}
    {a : α} : (c.andThen fun b => if p b then good b else fail kind) = good a ↔
      c = good a ∧ p a := by
  rw [andThen_eq_good_iff]
  constructor
  · rintro ⟨b, hb, h⟩
    split at h
    · next hcheck =>
      cases h
      exact ⟨hb, hcheck⟩
    · exact absurd h fail_ne_good
  · rintro ⟨ha, hcheck⟩
    exact ⟨a, ha, if_pos hcheck⟩

@[simp] theorem under_eq_good_iff {step : Value} {c : Checked α} {a : α} :
    c.under step = good a ↔ c = good a := by
  cases c <;> simp [under]

theorem all_eq_good_iff {cs : List (Checked α)} {as : List α} :
    all cs = good as ↔ cs = as.map good := by
  induction cs generalizing as with
  | nil => cases as <;> simp [all]
  | cons c cs ih =>
    rw [all, join_eq_good_iff]
    constructor
    · rintro ⟨a, as, rfl, has, rfl⟩
      rw [ih.mp has, List.map_cons]
    · intro h
      cases as with
      | nil => cases h
      | cons a as =>
        obtain ⟨rfl, rfl⟩ := List.cons.inj h
        exact ⟨a, as, rfl, ih.mpr rfl, rfl⟩

/-- **A list is read exactly when each of its items is.** -/
theorem indexed_eq_good_iff {cs : List (Checked α)} {as : List α} :
    indexed cs = good as ↔ cs = as.map good := by
  rw [indexed, all_eq_good_iff]
  generalize 0 = first
  induction cs generalizing as first with
  | nil => cases as <;> simp
  | cons c cs ih =>
    cases as with
    | nil => simp
    | cons a as => simp [List.zipIdx_cons, ih]

/-! ## Settled readings -/

/-- **A settled reading** is good or has issues: nothing in it is without words. -/
def Settled (c : Checked α) : Prop := ∀ f a, c ≠ stuck f a

theorem settled_good (a : α) : (good a).Settled := by
  intro f b h
  cases h

theorem settled_bad (issues : List Issue) : (bad issues : Checked α).Settled := by
  intro f b h
  cases h

theorem Settled.map {c : Checked α} (h : c.Settled) (f : α → β) : (c.map f).Settled := by
  cases c with
  | good a => exact settled_good (f a)
  | stuck e a => exact absurd rfl (h e a)
  | bad issues => exact settled_bad issues

theorem Settled.join {f : α → β → γ} {c : Checked α} {d : Checked β} (hc : c.Settled)
    (hd : d.Settled) : (join f c d).Settled := by
  cases c with
  | stuck e a => exact absurd rfl (hc e a)
  | good a =>
    cases d with
    | good b => exact settled_good (f a b)
    | stuck e b => exact absurd rfl (hd e b)
    | bad issues => exact settled_bad issues
  | bad issues => cases d <;> exact settled_bad _

theorem Settled.map_apply {c : Checked α} (h : c.Settled) (f : α → β) : (f <$> c).Settled :=
  h.map f

theorem Settled.seq {f : Checked (α → β)} {c : Checked α} (hf : f.Settled) (hc : c.Settled) :
    (f <*> c).Settled :=
  Settled.join hf hc

theorem Settled.andThen {c : Checked α} {f : α → Checked β} (hc : c.Settled)
    (hf : ∀ a, (f a).Settled) : (c.andThen f).Settled := by
  cases c with
  | good a => exact hf a
  | stuck e a => exact absurd rfl (hc e a)
  | bad issues => exact settled_bad issues

/-- What gets stuck behind a settled reading is what is done with what was read. -/
theorem Settled.andThen_eq_stuck_iff {c : Checked α} {f : α → Checked β} (hc : c.Settled)
    {e : Fault} {b : β} : c.andThen f = stuck e b ↔ ∃ a, c = good a ∧ f a = stuck e b := by
  cases c with
  | good a => simp
  | stuck e a => exact absurd rfl (hc e a)
  | bad issues => simp [Checked.andThen]

theorem map_eq_stuck_iff {f : α → β} {c : Checked α} {e : Fault} {b : β} :
    c.map f = stuck e b ↔ ∃ a, c = stuck e a ∧ f a = b := by
  cases c <;> simp [map]

theorem Settled.under {c : Checked α} (h : c.Settled) (step : Value) : (c.under step).Settled := by
  cases c with
  | good a => exact settled_good a
  | stuck e a => exact absurd rfl (h e a)
  | bad issues => exact settled_bad _

theorem settled_all {cs : List (Checked α)} (h : ∀ c ∈ cs, c.Settled) : (all cs).Settled := by
  induction cs with
  | nil => exact settled_good []
  | cons c cs ih =>
    obtain ⟨hc, hcs⟩ := List.forall_mem_cons.mp h
    exact hc.join (ih hcs)

theorem settled_indexed {cs : List (Checked α)} (h : ∀ c ∈ cs, c.Settled) :
    (indexed cs).Settled := by
  refine settled_all fun d hd => ?_
  obtain ⟨⟨c, i⟩, hmem, rfl⟩ := List.mem_map.mp hd
  exact (h c (List.fst_mem_of_mem_zipIdx hmem)).under (.int i)

end Checked

namespace Schema

variable {α : Type}

/-! ## Single values -/

theorem integerAbove_eq_good_iff {bound n : Int} {v : Value} :
    integerAbove bound v = .good n ↔ integer v = .good n ∧ bound < n :=
  Checked.check_eq_good_iff

theorem integerFrom_eq_good_iff {bound n : Int} {v : Value} :
    integerFrom bound v = .good n ↔ integer v = .good n ∧ bound ≤ n :=
  Checked.check_eq_good_iff

theorem optional_eq_good {read : Value → Checked α} {v : Value} {a : α} (hnull : v ≠ .null)
    (h : read v = .good a) : optional read v = .good (some a) := by
  cases v with
  | null => exact absurd rfl hnull
  | _ =>
    show (read _).map some = _
    rw [h, Checked.map_good]

/-! ## Fields -/

/-- **What a field comes to**: its reading when it is there, else what stands for its absence. -/
theorem field_eq_good_iff {entries : Entries} {wire plain : String} {read : Value → Checked α}
    {absent a : α} : field entries wire plain read absent = .good a ↔
      (lookup entries wire plain = none ∧ a = absent) ∨
        ∃ v, lookup entries wire plain = some v ∧ read v = .good a := by
  unfold field
  cases lookup entries wire plain with
  | none => simp [eq_comm]
  | some v => simp

/-- **What holds of a field** holds of what stands for its absence and of every reading. -/
theorem of_field {P : α → Prop} {entries : Entries} {wire plain : String}
    {read : Value → Checked α} {absent a : α} (h : field entries wire plain read absent = .good a)
    (habsent : P absent)
    (hread : ∀ v, lookup entries wire plain = some v → read v = .good a → P a) : P a := by
  rcases field_eq_good_iff.mp h with ⟨-, rfl⟩ | ⟨v, hlookup, hgood⟩
  · exact habsent
  · exact hread v hlookup hgood

/-- An optional field that comes to something is there. -/
theorem exists_of_optionalField {entries : Entries} {wire plain : String}
    {read : Value → Checked α} {a : α}
    (h : optionalField entries wire plain read = .good (some a)) :
    ∃ v, lookup entries wire plain = some v ∧ read v = .good a := by
  rcases field_eq_good_iff.mp h with ⟨-, hnone⟩ | ⟨v, hlookup, hread⟩
  · cases hnone
  · refine ⟨v, hlookup, ?_⟩
    cases v with
    | null => cases hread
    | _ =>
      obtain ⟨a', ha, heq⟩ := Checked.map_eq_good_iff.mp hread
      rw [ha, Option.some.inj heq]

theorem optionalField_of_none {entries : Entries} {wire plain : String} {read : Value → Checked α}
    (h : lookup entries wire plain = none) :
    optionalField entries wire plain read = .good none :=
  field_eq_good_iff.mpr (Or.inl ⟨h, rfl⟩)

/-- An optional field comes to what it holds, and to nothing when it is not there. -/
theorem optionalField_map {β : Type} {entries : Entries} {wire plain : String}
    {read : Value → Checked α} (o : Option β) (held : β → Value) (meant : β → α)
    (hlookup : lookup entries wire plain = o.map held)
    (hread : ∀ b ∈ o, held b ≠ .null ∧ read (held b) = .good (meant b)) :
    optionalField entries wire plain read = .good (o.map meant) := by
  cases o with
  | none => exact optionalField_of_none hlookup
  | some b =>
    obtain ⟨hnull, hb⟩ := hread b rfl
    exact field_eq_good_iff.mpr (Or.inr ⟨held b, hlookup, optional_eq_good hnull hb⟩)

/-- The fields of a table go by their names. -/
theorem lookup_toEntries (t : Table Value) (wire plain : String) :
    lookup t.toEntries wire plain = (t.get? wire).or (t.get? plain) := by
  rw [lookup, Table.get?_toEntries, Table.get?_toEntries]

/-- What holds of all values of an object holds of what a field of it holds. -/
theorem of_lookup {P : Value → Prop} {entries : Entries} (h : ∀ e ∈ entries, P e.2)
    {wire plain : String} {v : Value} (hv : lookup entries wire plain = some v) : P v := by
  rcases Option.or_eq_some_iff.mp hv with hwire | ⟨-, hplain⟩
  · exact h _ (Entries.mem_of_get? hwire)
  · exact h _ (Entries.mem_of_get? hplain)

theorem settled_text (v : Value) : (text v).Settled := by
  unfold text
  split
  · exact Checked.settled_good _
  · split
    · exact Checked.settled_good _
    · exact Checked.settled_bad _
  · exact Checked.settled_bad _

theorem settled_integerOfText (s : String) : (integerOfText s).Settled := by
  unfold integerOfText
  split
  · split
    · exact Checked.settled_good _
    · exact Checked.settled_bad _
  · exact Checked.settled_bad _

theorem settled_integer (v : Value) : (integer v).Settled := by
  cases v with
  | int n => exact Checked.settled_good n
  | bool b => exact Checked.settled_good _
  | float x =>
    simp only [integer]
    repeat' split
    case isFalse.isFalse.isTrue => exact Checked.settled_good _
    all_goals exact Checked.settled_bad _
  | str s => exact settled_integerOfText s
  | bytes bs =>
    simp only [integer]
    split
    · exact settled_integerOfText _
    · exact Checked.settled_bad _
  | _ => exact Checked.settled_bad _

theorem settled_identifier (v : Value) : (identifier v).Settled := by
  have htext := (settled_text v).under (.str "str")
  have hinteger := (settled_integer v).under (.str "int")
  unfold identifier
  split
  · exact Checked.settled_bad _
  · exact hinteger.map _
  · exact htext.map _

theorem settled_oneOf (read? : String → Option α) (v : Value) : (oneOf read? v).Settled := by
  unfold oneOf
  split
  · split
    · exact Checked.settled_good _
    · exact Checked.settled_bad _
  · exact Checked.settled_bad _

theorem settled_field {entries : Entries} {wire plain : String} {read : Value → Checked α}
    {absent : α} (h : ∀ v, (read v).Settled) : (field entries wire plain read absent).Settled := by
  unfold field
  split
  · exact (h _).under _
  · exact Checked.settled_good absent

theorem settled_optionalField {entries : Entries} {wire plain : String} {read : Value → Checked α}
    (h : ∀ v, (read v).Settled) : (optionalField entries wire plain read).Settled := by
  refine settled_field fun v => ?_
  cases v with
  | null => exact Checked.settled_good none
  | _ => exact (h _).map some

/-! ## Lists and dictionaries -/

theorem list_eq_good_iff {read : Value → Checked α} {items : List Value} {as : List α} :
    list read (.list items) = .good as ↔ items.map read = as.map .good :=
  Checked.indexed_eq_good_iff

theorem exists_of_mem_list {read : Value → Checked α} {v : Value} {as : List α}
    (h : list read v = .good as) : ∀ a ∈ as, ∃ item, read item = .good a := by
  intro a ha
  cases v with
  | list items | tuple items | set items =>
    have hmem : Checked.good a ∈ items.map read :=
      Checked.indexed_eq_good_iff.mp h ▸ List.mem_map_of_mem ha
    obtain ⟨item, -, hitem⟩ := List.mem_map.mp hmem
    exact ⟨item, hitem⟩
  | _ => cases h

/-- The values of a table were read one by one; a name given twice has its last value. -/
theorem exists_of_mem_table {read : Value → Checked α} {v : Value} {t : Table α}
    (h : table read v = .good t) : ∀ e ∈ t, ∃ item, read item = .good e.2 := by
  cases v with
  | dict entries =>
    obtain ⟨given, hgiven, rfl⟩ := Checked.map_eq_good_iff.mp h
    refine Table.forall_mem_ofList (P := fun a => ∃ item, read item = .good a) ?_
    intro e he
    have hmem := Checked.all_eq_good_iff.mp hgiven ▸ List.mem_map_of_mem he
    obtain ⟨⟨k, item⟩, -, hitem⟩ := List.mem_map.mp hmem
    obtain ⟨name, a, -, ha, rfl⟩ := Checked.join_eq_good_iff.mp (Checked.under_eq_good_iff.mp hitem)
    exact ⟨item, ha⟩
  | _ => cases h

end Schema

end DialPlan
