import DialPlan.Proofs.Record
import DialPlan.Proofs.RuleBook.Replacement

/-!
# Backup and restore

A book is backed up by its records and restored by an empty book that takes them in.  It comes back
as it was exactly when all of its rules come from data that can be written (`restores_iff`).

The check of a rule asks for less than that.  It lets through what JSON cannot hold, such as a
decimal number or an integer of too many digits, and then there is no backup of any rule of the book
(`no_backup_of_decimal`); it lets through what the reader refuses, such as a name that is no text;
and it lets through what the writer or the reader puts into its canonical form, such as a dynamic
hop without a mode.
-/

namespace DialPlan

/-! ## One rule -/

/-- The id of a record is the id of the rule that is read from it. -/
theorem id_of_readRecord_toValue {now : DateTime} {record : Record} {r : Rule} {id : String}
    (h : readRecord now record.toValue = .ok r) (hid : record.id = .str id) : r.id = .str id := by
  obtain ⟨entries, p, hentries, hparts, rfl⟩ := readRecord_eq_ok_iff.mp h
  cases hentries
  have hread : Schema.required record.entries "id" "id" readIdentifierText = .good id := by
    show (readIdentifierText record.id).under (.str "id") = _
    rw [hid, readIdentifierText_str, Checked.under_good]
  have hpart := (readRecordParts_eq_good_iff.mp hparts).1
  exact congrArg Value.str (Checked.good.inj (hpart.symm.trans hread))

/-- Chain and target of a record are text, and what is read from text can be written. -/
theorem decoded_of_readRecord_toValue {now : DateTime} {record : Record} {r : Rule}
    (h : readRecord now record.toValue = .ok r) : r.Decoded Value.Writable := by
  have hentries : Node.entriesOf record.toValue = .ok record.entries := rfl
  refine decoded_of_readRecord Value.Writable.kept (·) hentries (fun w hw => ?_) (fun w hw => ?_) h
  · cases hw
    exact .str _
  · cases hw
    exact .str _

theorem id_of_toRecord {r : Rule} {record : Record} (h : r.toRecord = .ok record) :
    record.id = r.id := by
  simp only [Rule.toRecord, bind_eq_ok_iff] at h
  obtain ⟨_, -, _, -, _, -, _, -, h⟩ := h
  cases h
  rfl

theorem recordsOf_eq_ok_iff {rules : List Rule} {records : List Record} :
    recordsOf rules = .ok records ↔
      List.Forall₂ (fun r record => r.toRecord = .ok record) rules records := by
  induction rules generalizing records with
  | nil =>
    rw [List.forall₂_nil_left_iff, recordsOf, Except.ok.injEq]
    exact eq_comm
  | cons r rules ih =>
    simp only [recordsOf, bind_eq_ok_iff, List.forall₂_cons_left_iff, ih]
    constructor
    · rintro ⟨record, hrecord, more, hmore, h⟩
      exact ⟨record, more, hrecord, hmore, (Except.ok.inj h).symm⟩
    · rintro ⟨record, more, hrecord, hmore, rfl⟩
      exact ⟨record, hrecord, more, hmore, rfl⟩

namespace RuleBook

/-! ## All rules of a book -/

theorem rulesFor_append (s : String) (rules more : List Rule) :
    rulesFor s (rules ++ more) = rulesFor s rules ++ rulesFor s more :=
  List.filter_append rules more

/-- Lists that are put together are found again by their subscriptions. -/
theorem rulesFor_flatMap {f : String → List Rule} (hf : ∀ t, ∀ r ∈ f t, r.subscription = t)
    {subs : List String} (hsubs : subs.Nodup) (s : String) :
    rulesFor s (subs.flatMap f) = if s ∈ subs then f s else [] := by
  induction subs with
  | nil => rfl
  | cons t subs ih =>
    rw [List.nodup_cons] at hsubs
    rw [List.flatMap_cons, rulesFor_append, ih hsubs.2]
    by_cases hs : s = t
    · have hall : rulesFor s (f s) = f s :=
        List.filter_eq_self.mpr fun r hr => decide_eq_true (hf s r hr)
      subst hs
      rw [hall, if_neg hsubs.1, if_pos List.mem_cons_self, List.append_nil]
    · have hnone : rulesFor s (f t) = [] := by
        refine List.filter_eq_nil_iff.mpr fun r hr => ?_
        rw [decide_eq_true_eq, hf t r hr]
        exact Ne.symm hs
      simp only [hnone, List.nil_append, List.mem_cons, hs, false_or]

/-- Rules in order are in their recorded order already. -/
theorem ordered_of_tidy {v : Vocabulary} {s : String} {rules : List Rule} (h : Tidy v s rules) :
    ordered rules = rules := by
  have hascending : rules.Pairwise fun r r' => r.position ≤ r'.position := by
    rw [List.pairwise_iff_getElem]
    intro i j hi hj hlt
    rw [h.placed i _ (List.getElem?_eq_getElem hi), h.placed j _ (List.getElem?_eq_getElem hj)]
    exact Int.ofNat_le.mpr (Nat.le_of_lt hlt)
  have hsorted : byPosition rules = rules :=
    List.mergeSort_of_pairwise (hascending.imp fun hle => decide_eq_true hle)
  rw [ordered_eq, hsorted]
  refine List.ext_getElem? fun i => ?_
  rw [getElem?_renumber]
  cases hi : rules[i]? with
  | none => rfl
  | some r => rw [Option.map_some, ← h.placed i r hi]

section Selected

variable {b : RuleBook} (h : Coherent b)
include h

theorem rulesFor_selected (s : String) : rulesFor s (b.selected none) = b.list s := by
  have hbelongs : ∀ t, ∀ r ∈ b.list t, r.subscription = t := fun t => (h.tidy t).belongs
  show rulesFor s (b.subscriptions.flatMap b.list) = _
  rw [rulesFor_flatMap hbelongs (nodup_subscriptions h), ite_eq_left_iff, mem_subscriptions_iff h]
  exact fun hnil => (not_not.mp hnil).symm

theorem mem_selected_iff (r : Rule) : r ∈ b.selected none ↔ r ∈ b.list r.subscription := by
  rw [← rulesFor_selected h, rulesFor, List.mem_filter, decide_eq_true_eq, and_iff_left rfl]

theorem nodup_ids_selected : ((b.selected none).map (·.id)).Nodup := by
  have htexts :
      ((b.selected none).map (·.id)).map Value.text = b.subscriptions.flatMap b.idsOf := by
    rw [List.map_map]
    exact List.map_flatMap
  refine List.Nodup.of_map Value.text ?_
  rw [htexts]
  exact (keys_owners_perm h).nodup_iff.mp h.ownedOnce

end Selected

/-! ## Backup and restore -/

/-- **Restoring**: an empty book with the same vocabulary takes in the records of a book. -/
def Restores (now : DateTime) (ids : IdSource) (b after : RuleBook) : Prop :=
  ∃ records rules, b.exportRecords none = .ok records ∧
    ({ vocabulary := b.vocabulary, ids } : RuleBook).importRecords now
      (.list (records.map Record.toValue)) = (.ok rules, after)

section Restore

variable {b after : RuleBook} {now : DateTime} {ids : IdSource}

/-- Rules that come from data that can be written have records that are read as the rules again. -/
theorem exists_records {rules : List Rule} (h : ∀ r ∈ rules, r.Decoded Value.Writable)
    (now : DateTime) : ∃ records, recordsOf rules = .ok records ∧
      List.Forall₂ (fun w r => readRecord now w = .ok r) (records.map Record.toValue) rules := by
  induction rules with
  | nil => exact ⟨[], rfl, .nil⟩
  | cons r rules ih =>
    obtain ⟨hr, hrules⟩ := List.forall_mem_cons.mp h
    obtain ⟨record, hrecord, hread⟩ := readRecord_toRecord hr
    obtain ⟨records, hrecords, hreads⟩ := ih hrules
    refine ⟨record :: records, ?_, .cons (hread now) hreads⟩
    rw [recordsOf, hrecord, hrecords]
    rfl

/-- Then an empty book takes them all in, and has every list as it was. -/
theorem restores_of_decoded (h : Coherent b)
    (hall : ∀ s, ∀ r ∈ b.list s, r.Decoded Value.Writable) :
    ∃ after, Restores now ids b after ∧ ∀ s, after.list s = b.list s := by
  have hselected : ∀ r ∈ b.selected none, r.Decoded Value.Writable := fun r hr =>
    hall r.subscription r ((mem_selected_iff h r).mp hr)
  obtain ⟨records, hrecords, hreads⟩ := exists_records hselected now
  let empty : RuleBook := { vocabulary := b.vocabulary, ids }
  have himportable : Importable now empty (records.map Record.toValue) (b.selected none) := {
    read := hreads
    accepted := fun r hr => (h.tidy r.subscription).accepted r ((mem_selected_iff h r).mp hr)
    distinct := nodup_ids_selected h
    available := fun r hr id s hid hown => by cases hown }
  refine ⟨_, ⟨records, _, hrecords, importRecords_of_importable himportable⟩, fun s => ?_⟩
  have hlist := list_of_importable himportable s
  rw [importRecords_of_importable himportable, rulesFor_selected h, ordered_of_tidy (h.tidy s)]
    at hlist
  rw [hlist, ite_eq_left_iff]
  intro hmentioned
  -- a subscription that no record mentions has no rules
  cases hs : b.list s with
  | nil => rfl
  | cons r rules =>
    have hr : r ∈ b.list s := hs ▸ List.mem_cons_self
    have hbelongs := (h.tidy s).belongs r hr
    have hmem := (mem_selected_iff h r).mpr (hbelongs.symm ▸ hr)
    exact absurd (List.mem_map.mpr ⟨r, hmem, hbelongs⟩) hmentioned

/-- A rule that comes back as it was comes from data that can be written. -/
theorem decoded_of_restores (h : Coherent b) (hrestores : Restores now ids b after)
    (hlist : ∀ s, after.list s = b.list s) : ∀ s, ∀ r ∈ b.list s, r.Decoded Value.Writable := by
  obtain ⟨records, answer, hexport, himport⟩ := hrestores
  obtain ⟨rules, himportable⟩ := importRecords_eq_ok_iff.mp ⟨answer, congrArg Prod.fst himport⟩
  have hafter : (RuleBook.importRecords now (.list (records.map Record.toValue))
      { vocabulary := b.vocabulary, ids }).2 = after := congrArg Prod.snd himport
  intro s r hr
  obtain ⟨id, hid⟩ := (h.tidy s).named r hr
  have hselected : r ∈ b.selected none := by
    rw [mem_selected_iff h, (h.tidy s).belongs r hr]
    exact hr
  -- its record, the rule that is read of the record, and the place that this rule gets
  obtain ⟨record, hmem, hrecord⟩ := exists_of_forall₂ (recordsOf_eq_ok_iff.mp hexport) r hselected
  obtain ⟨r', hr', hread⟩ :=
    exists_of_forall₂ himportable.read record.toValue (List.mem_map_of_mem hmem)
  obtain ⟨i, hplace⟩ := mem_list_of_importable himportable hr'
  rw [hafter, hlist] at hplace
  have hid' : r'.id = .str id :=
    id_of_readRecord_toValue hread ((id_of_toRecord hrecord).trans hid)
  -- ids are distinct, so this is the rule again
  have hget : b.get id none = .ok r := (get_eq_ok_iff h id r).mpr ⟨s, hr, hid⟩
  have hget' : b.get id none = .ok { r' with position := i } :=
    (get_eq_ok_iff h id _).mpr ⟨_, hplace, hid'⟩
  have hsame : r = { r' with position := i } := Except.ok.inj (hget.symm.trans hget')
  rw [hsame]
  exact { decoded_of_readRecord_toValue hread with position := Int.natCast_nonneg i }

end Restore

/-- **Backup and restore is the identity exactly for rules that come from data that can be
written.**  In a book that a run led to, all records are written, an empty book takes them in and
has every list as it was, every kind and every digit included, if and only if each rule is one that
a reader can give and has no number of too many digits in its leaf values and speed tests. -/
theorem restores_iff {v : Vocabulary} {b : RuleBook} (h : Reachable v b) (now : DateTime)
    (ids : IdSource) :
    (∃ after, Restores now ids b after ∧ ∀ s, after.list s = b.list s) ↔
      ∀ s, ∀ r ∈ b.list s, r.Decoded Value.Writable := by
  have hb := h.keeps.1
  constructor
  · rintro ⟨after, hrestores, hlist⟩
    exact decoded_of_restores hb hrestores hlist
  · exact restores_of_decoded hb

theorem restores_iff_single :
    let q : Request := .create default { subscription := "a", target := .holds .all }
    let b := ((({ vocabulary := .standard, ids := { given := ["x"] } } : RuleBook).perform q)).2
    b.list "a" = [shortRule "x" "a" 0] ∧ Reachable .standard b ∧
      ∃ after, Restores default {} b after ∧ ∀ s, after.list s = b.list s := by
  intro q b
  have hrules : b.rules = [("a", [shortRule "x" "a" 0])] := rfl
  have hreachable : Reachable .standard b := (Reachable.empty { given := ["x"] }).performed q
  have hdecoded : ∀ s, ∀ r ∈ b.list s, r.Decoded Value.Writable := by
    intro s r hr
    rw [list, hrules, Table.get?_cons] at hr
    split at hr
    · rw [List.mem_singleton.mp hr]
      exact ⟨⟨_, rfl⟩, ⟨_, rfl⟩, ⟨_, rfl⟩, Int.le_refl 0,
        ⟨[], rfl, fun hop hhop => absurd hhop List.not_mem_nil⟩, ⟨.all, rfl, trivial⟩⟩
    · exact absurd hr List.not_mem_nil
  exact ⟨rfl, hreachable, (restores_iff hreachable default {}).mpr hdecoded⟩

/-- A decimal number is a number to the check of a rule and has no JSON text, so there is no backup
of a book with such a rule. -/
theorem no_backup_of_decimal :
    let limit : Condition := .leaf ⟨"speed", "greater_than", .decimal (.finite false 15 (-1))⟩
    let q : Request := .create default
      { subscription := "a", target := .holds (.conditions (some (.holds limit))) }
    let empty : RuleBook := { vocabulary := .standard, ids := { given := ["x"] } }
    let b := (empty.perform q).2
    (empty.perform q).1 = .ok () ∧ Reachable .standard b ∧ b.idsOf "a" = ["x"] ∧
      b.exportRecords none = .error (.notWritable "Decimal") := by
  intro limit q empty b
  have hreachable : Reachable .standard b := (Reachable.empty { given := ["x"] }).performed q
  have hsubscriptions : b.subscriptions = ["a"] := List.mergeSort_singleton "a"
  refine ⟨rfl, hreachable, rfl, ?_⟩
  rw [exportRecords, selected, hsubscriptions]
  rfl

end RuleBook

end DialPlan
