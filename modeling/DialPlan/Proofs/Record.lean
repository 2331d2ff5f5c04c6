import DialPlan.Proofs.Json.RoundTrip
import DialPlan.Proofs.Schema.Rule
import DialPlan.Proofs.Timestamp
import DialPlan.Record

/-!
# Records read back

Reading forgets spellings, and writing has only one.  So a rule that was read is more than what its
record said: it is a rule in which everything is filled in (`Rule.Decoded`).  Such a rule has a
record, through the JSON text of its chain and of its target, if its numbers have not too many
digits for one (`Rule.Printable`); and the record is read as the rule itself, at whatever time
(`readRecord_toRecord`).
-/

namespace DialPlan

/-- **Rules that come from data**, with values of a kind. -/
structure Rule.Decoded (P : Value → Prop) (r : Rule) : Prop where
  id : ∃ s, r.id = .str s
  name : ∃ s, r.name = .str s
  enabled : ∃ b, r.enabled = .bool b
  position : 0 ≤ r.position
  chain : ∃ hops : List Hop, r.chain = hops.map .holds ∧ ∀ h ∈ hops, h.Decoded P
  target : ∃ t, r.target = .holds t ∧ t.Decoded P

/-- **Rules with leaf values and numbers that can be put into words.** -/
structure Rule.Printable (r : Rule) : Prop where
  chain : ∀ h : Hop, .holds h ∈ r.chain → h.Printable
  target : ∀ t, r.target = .holds t → t.Printable

theorem Rule.Decoded.writable {r : Rule} (h : r.Decoded Value.Plain) (hprint : r.Printable) :
    r.Decoded Value.Writable where
  id := h.id
  name := h.name
  enabled := h.enabled
  position := h.position
  chain := by
    obtain ⟨hops, hchain, hhops⟩ := h.chain
    refine ⟨hops, hchain, fun hop hhop => (hhops hop hhop).writable (hprint.chain hop ?_)⟩
    exact hchain ▸ List.mem_map_of_mem hhop
  target := by
    obtain ⟨t, htarget, ht⟩ := h.target
    exact ⟨t, htarget, ht.writable (hprint.target t htarget)⟩

variable {P : Value → Prop}

/-! ## What is read -/

/-- A field that may be JSON text is read from a value of a kind in any case. -/
theorem readEmbedded_eq_good {α : Type} {empty v : Value} {read : Value → Checked α} {a : α}
    (hP : ∀ {w : Value}, w.Writable → P w) (hempty : empty.Writable) (hv : P v)
    (h : readEmbedded empty read v = .good a) : ∃ w, P w ∧ read w = .good a := by
  unfold readEmbedded at h
  split at h
  · exact ⟨empty, hP hempty, h⟩
  · split at h
    · exact ⟨empty, hP hempty, h⟩
    split at h
    · next w hw => exact ⟨w, hP (Json.writable_of_read hw), h⟩
    · exact absurd h Checked.fail_ne_good
    · exact absurd h Checked.fail_ne_good
  · exact ⟨v, hv, h⟩

theorem decoded_of_readHops (hP : Schema.Kept P) {v : Value} (hv : P v) {hops : List Hop}
    (h : Schema.list readHop v = .good hops) : ∀ hop ∈ hops, hop.Decoded P := by
  have hplain := hP.plain hv
  cases hplain with
  | @list items _ =>
    have hreads := Schema.list_eq_good_iff.mp h
    intro hop hhop
    have hmem : Checked.good hop ∈ items.map readHop := hreads ▸ List.mem_map_of_mem hhop
    obtain ⟨item, hitem, hread⟩ := List.mem_map.mp hmem
    exact decoded_of_readHop hP (hP.items hv item hitem) hread
  | _ => cases h

theorem nonneg_of_optionalField {entries : Entries} {wire plain : String} {position : Option Int}
    (h : Schema.optionalField entries wire plain (Schema.integerFrom 0) = .good position) :
    ∀ n ∈ position, 0 ≤ n := by
  intro n hn
  rw [hn] at h
  obtain ⟨v, -, hread⟩ := Schema.exists_of_optionalField h
  exact (Schema.integerFrom_eq_good_iff.mp hread).2

/-- **What a record object comes to**: its parts, each read off a field of its own. -/
theorem readRecordParts_eq_good_iff {entries : Entries} {p : RecordParts} :
    readRecordParts entries = .good p ↔
      Schema.required entries "id" "id" readIdentifierText = .good p.id ∧
      Schema.required entries "subscriptionId" "subscription_id" readIdentifierText =
        .good p.subscription ∧
      Schema.field entries "name" "name" readName "" = .good p.name ∧
      Schema.field entries "enabled" "enabled" Schema.boolean true = .good p.enabled ∧
      Schema.optionalField entries "sortOrder" "sort_order" (Schema.integerFrom 0) =
        .good p.sortOrder ∧
      Schema.optionalField entries "sort" "sort" (Schema.integerFrom 0) = .good p.sort ∧
      Schema.field entries "chainConfig" "chain_config"
        (readEmbedded (.list []) (Schema.list readHop)) [] = .good p.chain ∧
      Schema.field entries "targetConfig" "target_config"
        (readEmbedded allTargetValue readTarget) .all = .good p.target ∧
      Schema.optionalField entries "createdAt" "created_at" Schema.time = .good p.created ∧
      Schema.optionalField entries "updatedAt" "updated_at" Schema.time = .good p.updated := by
  simp only [readRecordParts, Checked.seq_eq_good_iff, Checked.map_apply_eq_good_iff]
  constructor
  · rintro ⟨_, updated, ⟨_, created, ⟨_, target, ⟨_, chain, ⟨_, sort, ⟨_, sortOrder, ⟨_, enabled,
      ⟨_, name, ⟨_, subscription, ⟨id, hid, rfl⟩, hsubscription, rfl⟩, hname, rfl⟩, henabled, rfl⟩,
      hsortOrder, rfl⟩, hsort, rfl⟩, hchain, rfl⟩, htarget, rfl⟩, hcreated, rfl⟩, hupdated, rfl⟩
    exact ⟨hid, hsubscription, hname, henabled, hsortOrder, hsort, hchain, htarget, hcreated,
      hupdated⟩
  · rintro ⟨hid, hsubscription, hname, henabled, hsortOrder, hsort, hchain, htarget, hcreated,
      hupdated⟩
    exact ⟨_, _, ⟨_, _, ⟨_, _, ⟨_, _, ⟨_, _, ⟨_, _, ⟨_, _, ⟨_, _, ⟨_, _, ⟨_, hid, rfl⟩,
      hsubscription, rfl⟩, hname, rfl⟩, henabled, rfl⟩, hsortOrder, rfl⟩, hsort, rfl⟩, hchain,
      rfl⟩, htarget, rfl⟩, hcreated, rfl⟩, hupdated, rfl⟩

/-- What the parts of an object are. -/
theorem decoded_of_readRecordParts (hP : Schema.Kept P) (hjson : ∀ {w : Value}, w.Writable → P w)
    {entries : Entries}
    (hchainValue : ∀ v, Schema.lookup entries "chainConfig" "chain_config" = some v → P v)
    (htargetValue : ∀ v, Schema.lookup entries "targetConfig" "target_config" = some v → P v)
    {p : RecordParts} (h : readRecordParts entries = .good p) (now : DateTime) :
    (p.toRule now).Decoded P := by
  obtain ⟨-, -, -, -, hsortOrder, hsort, hchain, htarget, -, -⟩ := readRecordParts_eq_good_iff.mp h
  refine ⟨⟨_, rfl⟩, ⟨p.name, rfl⟩, ⟨p.enabled, rfl⟩, ?_, ⟨p.chain, rfl, ?_⟩, ⟨p.target, rfl, ?_⟩⟩
  · show 0 ≤ (p.sortOrder.or p.sort).getD 0
    cases hposition : p.sortOrder.or p.sort with
    | none => exact Int.le_refl 0
    | some n =>
      rcases Option.or_eq_some_iff.mp hposition with hn | ⟨-, hn⟩
      · exact nonneg_of_optionalField hsortOrder n hn
      · exact nonneg_of_optionalField hsort n hn
  · rcases Schema.field_eq_good_iff.mp hchain with ⟨-, hnone⟩ | ⟨v, hlookup, hread⟩
    · rw [hnone]
      exact fun hop hhop => absurd hhop List.not_mem_nil
    · have hempty : (Value.list []).Writable := .list fun w hw => absurd hw List.not_mem_nil
      obtain ⟨w, hw, hhops⟩ := readEmbedded_eq_good hjson hempty (hchainValue v hlookup) hread
      exact decoded_of_readHops hP hw hhops
  · rcases Schema.field_eq_good_iff.mp htarget with ⟨-, hall⟩ | ⟨v, hlookup, hread⟩
    · rw [hall]
      exact trivial
    · have hempty : (Value.dict (Table.toEntries [("type", .str "all")])).Writable :=
        .cons List.not_mem_nil (.str "all") .empty
      obtain ⟨w, hw, ht⟩ := readEmbedded_eq_good hjson hempty (htargetValue v hlookup) hread
      exact decoded_of_readTarget hP.toHereditary hw ht

/-- **A record is read** when its object has all parts of a rule. -/
theorem readRecord_eq_ok_iff {now : DateTime} {v : Value} {r : Rule} :
    readRecord now v = .ok r ↔
      ∃ entries p, Node.entriesOf v = .ok entries ∧ readRecordParts entries = .good p ∧
        r = p.toRule now := by
  rw [readRecord, bind_eq_ok_iff]
  constructor
  · rintro ⟨entries, hentries, h⟩
    refine ⟨entries, ?_⟩
    cases hparts : readRecordParts entries with
    | good p =>
      rw [hparts] at h
      exact ⟨p, Outcome.ofFault_eq_ok_iff.mp hentries, rfl, (Except.ok.inj h).symm⟩
    | stuck f p =>
      rw [hparts] at h
      cases h
    | bad issues =>
      -- issues are a refusal or a fault, whatever the value is
      rw [hparts] at h
      cases v <;> cases h
  · rintro ⟨entries, p, hentries, hparts, rfl⟩
    refine ⟨entries, Outcome.ofFault_eq_ok_iff.mpr hentries, ?_⟩
    rw [hparts]

/-- **A rule that is read from data comes from such data**: its chain and its target do. -/
theorem decoded_of_readRecord (hP : Schema.Kept P) (hjson : ∀ {w : Value}, w.Writable → P w)
    {now : DateTime} {v : Value} {entries : Entries} {r : Rule}
    (hentries : Node.entriesOf v = .ok entries)
    (hchain : ∀ w, Schema.lookup entries "chainConfig" "chain_config" = some w → P w)
    (htarget : ∀ w, Schema.lookup entries "targetConfig" "target_config" = some w → P w)
    (h : readRecord now v = .ok r) : r.Decoded P := by
  obtain ⟨es, p, hes, hparts, rfl⟩ := readRecord_eq_ok_iff.mp h
  rw [hentries] at hes
  cases hes
  exact decoded_of_readRecordParts hP hjson hchain htarget hparts now

/-! ## What is written -/

theorem chainValue_readsBack {hops : List Hop} (h : ∀ hop ∈ hops, hop.Decoded Value.Writable) :
    ∃ ws, chainValue (hops.map .holds) = .ok ws ∧ (∀ w ∈ ws, w.Writable) ∧
      ws.map readHop = hops.map .good := by
  induction hops with
  | nil => exact ⟨[], rfl, fun w hw => absurd hw List.not_mem_nil, rfl⟩
  | cons hop hops ih =>
    obtain ⟨w, hw, htext, hread⟩ := Hop.exists_readsBack (h hop List.mem_cons_self)
    obtain ⟨ws, hws, htexts, hreads⟩ := ih fun d hd => h d (List.mem_cons_of_mem hop hd)
    refine ⟨w :: ws, ?_, List.forall_mem_cons.mpr ⟨htext, htexts⟩, ?_⟩
    · rw [List.map_cons, chainValue, hws, Slot.part_holds, ok_bind, hw]
      rfl
    · rw [List.map_cons, List.map_cons, hread, hreads]

/-- Text that is read is what an embedded field stands for. -/
theorem readEmbedded_text {α : Type} {empty w : Value} {read : Value → Checked α} {text : String}
    (hblank : Text.isBlankText text = false) (hread : Json.read text = .ok w) :
    readEmbedded empty read (.str text) = read w := by
  simp only [readEmbedded, hblank, Bool.false_eq_true, if_false, hread]

/-- A chain has a text that is read as the chain. -/
theorem exists_chainText {hops : List Hop} (h : ∀ hop ∈ hops, hop.Decoded Value.Writable) :
    ∃ ws text, chainValue (hops.map .holds) = .ok ws ∧ Json.write {} (.list ws) = .ok text ∧
      readEmbedded (.list []) (Schema.list readHop) (.str text) = .good hops := by
  obtain ⟨ws, hws, htexts, hreads⟩ := chainValue_readsBack h
  obtain ⟨text, hwrite, hread⟩ := Json.read_write (.list htexts)
  refine ⟨ws, text, hws, hwrite, ?_⟩
  rw [readEmbedded_text (Json.isBlankText_of_write_list hwrite) hread]
  exact Schema.list_eq_good_iff.mpr hreads

/-- A target has a text that is read as the target. -/
theorem exists_targetText {t : Target} (h : t.Decoded Value.Writable) :
    ∃ w text, targetValue (.holds t) = .ok w ∧ Json.write {} w = .ok text ∧
      readEmbedded allTargetValue readTarget (.str text) = .good t := by
  obtain ⟨fields, hw, htext, hread⟩ := Target.exists_readsBack h
  obtain ⟨text, hwrite, hjson⟩ := Json.read_write htext
  refine ⟨_, text, hw, hwrite, ?_⟩
  rw [readEmbedded_text (Json.isBlankText_of_write_dict hwrite) hjson]
  exact hread

theorem time_iso (t : DateTime) : Schema.time (.str t.iso) = .good t := by
  simp only [Schema.time, Schema.timeOfText, DateTime.ofText?_iso]

theorem readIdentifierText_eq_good_iff {v : Value} {s : String} :
    readIdentifierText v = .good s ↔ ∃ w, Schema.identifier v = .good w ∧ w.asText = .ok s := by
  simp only [readIdentifierText, Checked.andThen_eq_good_iff, ofWording_eq_good_iff]

theorem readIdentifierText_str (s : String) : readIdentifierText (.str s) = .good s :=
  readIdentifierText_eq_good_iff.mpr ⟨.str s, rfl, Value.asText_str s⟩

/-- What is read of a record in its canonical form. -/
theorem readRecordParts_entries {record : Record} {id name : String} {enabled : Bool}
    {hops : List Hop} {t : Target} (hid : record.id = .str id) (hname : record.name = .str name)
    (henabled : record.enabled = .bool enabled) (hposition : 0 ≤ record.position)
    (hchain : readEmbedded (.list []) (Schema.list readHop) (.str record.chain) = .good hops)
    (htarget : readEmbedded allTargetValue readTarget (.str record.target) = .good t) :
    readRecordParts record.entries = .good
      { id
        subscription := record.subscription
        name
        enabled
        sortOrder := some record.position
        sort := none
        chain := hops
        target := t
        created := some record.created
        updated := some record.updated } := by
  have hread : Schema.integerFrom 0 (.int record.position) = .good record.position :=
    Schema.integerFrom_eq_good_iff.mpr ⟨rfl, hposition⟩
  simp [readRecordParts, Record.entries, Schema.required, Schema.optionalField, Schema.field,
    Schema.lookup, Entries.get?_cons, hid, hname, henabled, readIdentifierText_str, readName,
    Schema.text, Schema.boolean, Schema.optional, hread, hchain, htarget, time_iso]

/-- **A rule that comes from data with a text has a record, which is read as the rule itself.** -/
theorem readRecord_toRecord {r : Rule} (h : r.Decoded Value.Writable) :
    ∃ record, r.toRecord = .ok record ∧ ∀ now, readRecord now record.toValue = .ok r := by
  obtain ⟨⟨id, hid⟩, ⟨name, hname⟩, ⟨enabled, henabled⟩, hposition, ⟨hops, hchain, hhops⟩,
    ⟨t, htarget, ht⟩⟩ := h
  obtain ⟨ws, chain, hws, hwriteChain, hreadChain⟩ := exists_chainText hhops
  obtain ⟨w, target, hw, hwriteTarget, hreadTarget⟩ := exists_targetText ht
  -- the record is made of the parts as they are read back
  obtain ⟨_, subscription, _, _, position, _, _, created, updated⟩ := r
  dsimp only at hid hname henabled hposition hchain htarget
  subst hid hname henabled hchain htarget
  let record : Record := ⟨.str id, subscription, .str name, .bool enabled, position, chain, target,
    created, updated⟩
  refine ⟨record, ?_, ?_⟩
  · simp only [Rule.toRecord, hws, hwriteChain, hw, hwriteTarget, ok_bind]
    rfl
  · intro now
    have hparts : readRecordParts record.entries = _ :=
      readRecordParts_entries rfl rfl rfl hposition hreadChain hreadTarget
    exact readRecord_eq_ok_iff.mpr ⟨record.entries, _, rfl, hparts, rfl⟩

/-- **The record form is lossless**: whatever rule is read from a record with plain values, in
whichever spelling, has a canonical record, if its leaf values and numbers can be put into words.
Read at any later time, that record gives the same rule again, in every part, and the rule read from
it the same record. -/
theorem record_lossless {now : DateTime} {v : Value} {entries : Entries} {r : Rule}
    (hentries : Node.entriesOf v = .ok entries) (hplain : ∀ e ∈ entries, e.2.Plain)
    (hread : readRecord now v = .ok r) (hprint : r.Printable) :
    ∃ record, r.toRecord = .ok record ∧ ∀ later, ∃ again,
      readRecord later record.toValue = .ok again ∧ again = r ∧ again.toRecord = .ok record := by
  have hdecoded : r.Decoded Value.Plain :=
    decoded_of_readRecord Value.Plain.kept (·.plain) hentries
      (fun _ => Schema.of_lookup hplain) (fun _ => Schema.of_lookup hplain) hread
  obtain ⟨record, hrecord, hagain⟩ := readRecord_toRecord (hdecoded.writable hprint)
  exact ⟨record, hrecord, fun later => ⟨r, hagain later, rfl, hrecord⟩⟩

/-- A group in the older spelling. -/
def olderGroup : Table Value := [
  ("logic", .str " OR "),
  ("conditions", .list [.dict (leafFields "tags" "in" (.list [.str "hk", .int 1])).toEntries])]

/-- A record in the older spelling, with much to be filled in. -/
def olderRecord : Table Value := [
  ("id", .int 7),
  ("subscriptionId", .str "home"),
  ("enabled", .int 1),
  ("sort", .int 3),
  ("chainConfig", .list [.dict (Table.toEntries [("type", .str "dynamic_node"),
    ("nodeConditions", .dict olderGroup.toEntries)])])]

/-- The parts of the record. -/
def olderParts : RecordParts where
  id := "7"
  subscription := "home"
  name := ""
  enabled := true
  sortOrder := none
  sort := some 3
  chain := [
    { selector := .dynamic
      conditions := some (.holds (.group .any [.leaf ⟨"tags", "in", .tuple [.str "hk", .int 1]⟩]))
      selectMode := some .first }]
  target := .all
  created := none
  updated := none

theorem plain_olderRecord : ∀ e ∈ olderRecord.toEntries, e.2.Plain := by
  have hitems : ∀ v ∈ [Value.str "hk", .int 1], v.Plain :=
    List.forall_mem_cons.mpr ⟨.str "hk", List.forall_mem_singleton.mpr (.int 1)⟩
  have hleaf : (Value.dict (leafFields "tags" "in" (.list [.str "hk", .int 1])).toEntries).Plain :=
    .cons (by decide) (.str "tags") (.cons (by decide) (.str "in")
      (.cons List.not_mem_nil (.list hitems) .empty))
  have hgroup : (Value.dict olderGroup.toEntries).Plain :=
    .cons (by decide) (.str " OR ")
      (.cons List.not_mem_nil (.list (List.forall_mem_singleton.mpr hleaf)) .empty)
  have hhop : (Value.dict (Table.toEntries [("type", .str "dynamic_node"),
      ("nodeConditions", .dict olderGroup.toEntries)])).Plain :=
    .cons (by decide) (.str "dynamic_node") (.cons List.not_mem_nil hgroup .empty)
  simp only [olderRecord, Table.toEntries_cons, Table.toEntries_nil, List.forall_mem_cons]
  exact ⟨.int 7, .str "home", .int 1, .int 3, .list (List.forall_mem_singleton.mpr hhop),
    fun e he => absurd he List.not_mem_nil⟩

theorem record_lossless_older :
    let r := olderParts.toRule default
    readRecord default (.dict olderRecord.toEntries) = .ok r ∧ r.Printable ∧
      ∃ record, r.toRecord = .ok record ∧ ∀ later, ∃ again,
        readRecord later record.toValue = .ok again ∧ again = r ∧
          again.toRecord = .ok record := by
  intro r
  have hid : Schema.required olderRecord.toEntries "id" "id" readIdentifierText =
      .good olderParts.id := by
    have hseven : readIdentifierText (.int 7) = .good "7" :=
      readIdentifierText_eq_good_iff.mpr ⟨.int 7, rfl, by decide +kernel⟩
    show (readIdentifierText (.int 7)).under (.str "id") = _
    rw [hseven]
    rfl
  have hread : readRecord default (.dict olderRecord.toEntries) = .ok r :=
    readRecord_eq_ok_iff.mpr ⟨_, olderParts, rfl, readRecordParts_eq_good_iff.mpr
      ⟨hid, rfl, rfl, rfl, rfl, rfl, rfl, rfl, rfl, rfl⟩, rfl⟩
  have hprint : r.Printable := by
    refine ⟨fun h hh => ⟨fun c hc p hp => ?_, fun u hu => ?_⟩, fun t ht c hc => ?_⟩
    · cases List.mem_singleton.mp hh
      cases hc
      rw [Condition.leaves_group, Condition.leavesOf_cons, Condition.leaves_leaf,
        Condition.leavesOf_nil, List.append_nil] at hp
      cases List.mem_singleton.mp hp
      decide +kernel
    · cases List.mem_singleton.mp hh
      cases hu
    · cases ht
      cases hc
  exact ⟨hread, hprint, record_lossless rfl plain_olderRecord hread hprint⟩

/-- A record with a number of too many digits is read, and has no canonical record. -/
theorem record_lossy_on_digits :
    ¬ ∀ (now : DateTime) (v : Value) (entries : Entries) (r : Rule),
      Node.entriesOf v = .ok entries → (∀ e ∈ entries, e.2.Plain) → readRecord now v = .ok r →
        ∃ record, r.toRecord = .ok record := by
  intro h
  let leaf : Table Value := leafFields "name" "exists" (.int (tenTo 5000))
  let target : Table Value := [("type", .str "conditions"), ("conditions", .dict leaf.toEntries)]
  let fields : Table Value := [("id", .str "r"), ("subscriptionId", .str "home"),
    ("targetConfig", .dict target.toEntries)]
  have hleaf : (Value.dict leaf.toEntries).Plain :=
    .cons (by decide) (.str "name") (.cons (by decide) (.str "exists")
      (.cons List.not_mem_nil (.int _) .empty))
  have htarget : (Value.dict target.toEntries).Plain :=
    .cons (by decide) (.str "conditions") (.cons List.not_mem_nil hleaf .empty)
  have hplain : ∀ e ∈ fields.toEntries, e.2.Plain := by
    simp only [fields, Table.toEntries_cons, Table.toEntries_nil, List.forall_mem_cons]
    exact ⟨.str "r", .str "home", htarget, fun e he => absurd he List.not_mem_nil⟩
  have hwrite : (readRecord default (.dict fields.toEntries) >>= fun r =>
      Outcome.ofFault r.toRecord) = .error (.fault (.tooManyDigits none)) := by decide +kernel
  have hisOk : (readRecord default (.dict fields.toEntries)).isOk = true := by decide +kernel
  cases hread : readRecord default (.dict fields.toEntries) with
  | error e =>
    rw [hread] at hisOk
    cases hisOk
  | ok r =>
    obtain ⟨record, hrecord⟩ := h default _ _ r rfl hplain hread
    rw [hread, ok_bind, hrecord] at hwrite
    cases hwrite

end DialPlan
