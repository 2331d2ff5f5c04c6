import DialPlan.Proofs.Record
import DialPlan.Proofs.Schema.Respelling

/-!
# Records in the older spelling

A record in the older spelling has `sort` for `sortOrder`, may leave its target blank, and has a
chain and a target whose hops and conditions are in the older spelling.  `respellRecord` gives the
canonical record for it, and reading cannot tell the two apart (`readRecord_respellRecord`).

A chain or a target that is JSON text is respelled as text: what is read from text can be written,
what is respelled still can, and what can be written is read again.
-/

namespace DialPlan

/-- What a field that may be JSON text holds has a property; blank text holds nothing. -/
def Embeds (P : Value → Prop) : Value → Prop
  | .str text => Text.isBlankText text = false → ∀ w, Json.read text = .ok w → P w
  | v => P v

/-- **Records in a spelling.** -/
structure Spelling.InRecord (s : Spelling) (entries : Entries) : Prop where
  others : entries.GivesNone s.recordOthers
  chain : ∀ v, Schema.lookup entries "chainConfig" "chain_config" = some v → Embeds s.InChain v
  target : ∀ v, Schema.lookup entries "targetConfig" "target_config" = some v →
    Embeds s.InTarget v

/-! ## Respelling -/

/-- Respelling what a field holds; text stays text, and blank text stays as it is. -/
def respellEmbedded (respell : Value → Value) : Value → Value
  | .str text =>
    if Text.isBlankText text then .str text
    else
      match (Json.read text).map fun w => Json.write {} (respell w) with
      | .ok (.ok respelled) => .str respelled
      | _ => .str text
  | v => respell v

/-- Respelling the target of a record.  A blank one stands for all nodes. -/
def respellTargetField : Value → Value
  | .null => allTargetValue
  | .str text =>
    if Text.isBlankText text then allTargetValue else respellEmbedded respellTarget (.str text)
  | v => respellTarget v

/-- The fields that a record has in one spelling only. -/
def recordKeys : List String :=
  ["sortOrder", "sort_order", "sort", "chainConfig", "chain_config", "targetConfig",
    "target_config"]

/-- The canonical fields of a record in the older spelling. -/
def respelledRecord (entries : Entries) : Table Value :=
  Table.given "sortOrder" (Schema.lookup entries "sort" "sort") ++
    Table.given "chainConfig"
      ((Schema.lookup entries "chainConfig" "chain_config").map (respellEmbedded respellChain)) ++
    Table.given "targetConfig"
      ((Schema.lookup entries "targetConfig" "target_config").map respellTargetField)

/-- **Respelling a record.** -/
def respellRecord (entries : Entries) : Entries :=
  entries.replace recordKeys (respelledRecord entries)

theorem keys_respelledRecord (entries : Entries) : (respelledRecord entries).keys ⊆ recordKeys := by
  have hsub : (respelledRecord entries).keys.Sublist
      ["sortOrder", "chainConfig", "targetConfig"] := by
    rw [respelledRecord, Table.keys_append, Table.keys_append]
    exact ((Table.keys_given_sublist "sortOrder" _).append
      (Table.keys_given_sublist "chainConfig" _)).append
      (Table.keys_given_sublist "targetConfig" _)
  have hkeys : ["sortOrder", "chainConfig", "targetConfig"] ⊆ recordKeys := by decide
  exact fun name hname => hkeys (hsub.subset hname)

theorem get?_respelledRecord (entries : Entries) (name : String) :
    (respelledRecord entries).get? name =
      if name = "sortOrder" then Schema.lookup entries "sort" "sort"
      else if name = "chainConfig" then
        (Schema.lookup entries "chainConfig" "chain_config").map (respellEmbedded respellChain)
      else if name = "targetConfig" then
        (Schema.lookup entries "targetConfig" "target_config").map respellTargetField
      else none := by
  simp only [respelledRecord, Table.get?_append, Table.get?_given, @eq_comm String _ name]
  by_cases hsort : name = "sortOrder"
  · simp [hsort]
  by_cases hchain : name = "chainConfig"
  · simp [hchain]
  simp [hsort, hchain]

/-- A field of a respelled record that has two names and one value. -/
theorem lookup_respellRecord {wire plain : String} {value : Option Value} (entries : Entries)
    (hwire : wire ∈ recordKeys) (hplain : plain ∈ recordKeys)
    (hvalue : (respelledRecord entries).get? wire = value)
    (hnone : (respelledRecord entries).get? plain = none) :
    Schema.lookup (respellRecord entries) wire plain = value := by
  rw [respellRecord, Entries.lookup_replace hwire hplain, hvalue, hnone, Option.or_none]

theorem lookup_sortOrder_respellRecord (entries : Entries) :
    Schema.lookup (respellRecord entries) "sortOrder" "sort_order" =
      Schema.lookup entries "sort" "sort" :=
  lookup_respellRecord entries (by decide) (by decide) (by simp [get?_respelledRecord])
    (by simp [get?_respelledRecord])

theorem lookup_chain_respellRecord (entries : Entries) :
    Schema.lookup (respellRecord entries) "chainConfig" "chain_config" =
      (Schema.lookup entries "chainConfig" "chain_config").map (respellEmbedded respellChain) :=
  lookup_respellRecord entries (by decide) (by decide) (by simp [get?_respelledRecord])
    (by simp [get?_respelledRecord])

theorem lookup_target_respellRecord (entries : Entries) :
    Schema.lookup (respellRecord entries) "targetConfig" "target_config" =
      (Schema.lookup entries "targetConfig" "target_config").map respellTargetField :=
  lookup_respellRecord entries (by decide) (by decide) (by simp [get?_respelledRecord])
    (by simp [get?_respelledRecord])

/-! ## Embedded text -/

/-- **Text is respelled as text** of what it holds. -/
theorem exists_respellEmbedded {respell : Value → Value}
    (htext : ∀ v : Value, v.Writable → (respell v).Writable) {text : String} {w : Value}
    (hblank : Text.isBlankText text = false) (hread : Json.read text = .ok w) :
    ∃ respelled, respellEmbedded respell (.str text) = .str respelled ∧
      Json.write {} (respell w) = .ok respelled ∧ Json.read respelled = .ok (respell w) := by
  obtain ⟨respelled, hwrite, hagain⟩ := Json.read_write (htext w (Json.writable_of_read hread))
  refine ⟨respelled, ?_, hwrite, hagain⟩
  simp only [respellEmbedded, hblank, Bool.false_eq_true, if_false, hread, Except.map, hwrite]

/-- Text is read as it was when what it holds is. -/
theorem readEmbedded_respellEmbedded {α : Type} {empty : Value} {read : Value → Checked α}
    {respell : Value → Value} (htext : ∀ v : Value, v.Writable → (respell v).Writable)
    {text : String} {a : α}
    (hkept : ∀ w, w.Plain → Text.isBlankText text = false → Json.read text = .ok w →
      read w = .good a → read (respell w) = .good a ∧
        ∀ respelled, Json.write {} (respell w) = .ok respelled →
          Text.isBlankText respelled = false)
    (h : readEmbedded empty read (.str text) = .good a) :
    readEmbedded empty read (respellEmbedded respell (.str text)) = .good a := by
  cases hblank : Text.isBlankText text with
  | true =>
    rw [respellEmbedded, if_pos hblank]
    exact h
  | false =>
    rw [readEmbedded, if_neg (by rw [hblank]; exact Bool.false_ne_true)] at h
    split at h
    · next w hw =>
      obtain ⟨respelled, heq, hwrite, hread⟩ := exists_respellEmbedded htext hblank hw
      obtain ⟨hgood, hnotBlank⟩ := hkept w (Json.writable_of_read hw).plain hblank hw h
      rw [heq, readEmbedded_text (hnotBlank respelled hwrite) hread]
      exact hgood
    · exact absurd h Checked.fail_ne_good
    · exact absurd h Checked.fail_ne_good

/-- What text holds is canonical when it is respelled. -/
theorem embeds_respellEmbedded {P Q : Value → Prop} {respell : Value → Value}
    (htext : ∀ v : Value, v.Writable → (respell v).Writable) (hrespell : ∀ v, P v → Q (respell v))
    {text : String} (h : Embeds P (.str text)) :
    Embeds Q (respellEmbedded respell (.str text)) := by
  cases hblank : Text.isBlankText text with
  | true =>
    rw [respellEmbedded, if_pos hblank]
    intro hnotBlank
    rw [hblank] at hnotBlank
    cases hnotBlank
  | false =>
    cases hread : Json.read text with
    | error e =>
      have hkept : respellEmbedded respell (.str text) = .str text := by
        simp only [respellEmbedded, hread, Except.map, ite_self]
      rw [hkept]
      intro _ w hw
      rw [hread] at hw
      cases hw
    | ok w =>
      obtain ⟨respelled, heq, -, hagain⟩ := exists_respellEmbedded htext hblank hread
      rw [heq]
      intro _ w' hw'
      cases hagain.symm.trans hw'
      exact hrespell w (h hblank w hread)

/-- **The chain of a record is read as it was.** -/
theorem readChain_respellEmbedded {v : Value} (holder : Embeds Spelling.older.InChain v)
    {hops : List Hop} (h : readEmbedded (.list []) (Schema.list readHop) v = .good hops) :
    readEmbedded (.list []) (Schema.list readHop) (respellEmbedded respellChain v) =
      .good hops := by
  cases v with
  | null => exact h
  | str text =>
    refine readEmbedded_respellEmbedded (fun _ => writable_respellChain) ?_ h
    intro w hplain hblank hw hread
    refine ⟨readChain_respellChain (holder hblank w hw) hread, ?_⟩
    cases hplain with
    | list _ => exact fun _ hwrite => Json.isBlankText_of_write_list hwrite
    | _ => cases hread
  | list items => exact readChain_respellChain holder h
  | tuple items => exact readChain_respellChain holder h
  | set items => exact readChain_respellChain holder h
  | _ => cases h

/-- **The target of a record is read as it was.** -/
theorem readTarget_respellTargetField {v : Value} (holder : Embeds Spelling.older.InTarget v)
    {t : Target} (h : readEmbedded allTargetValue readTarget v = .good t) :
    readEmbedded allTargetValue readTarget (respellTargetField v) = .good t := by
  cases v with
  | null => exact h
  | str text =>
    rw [respellTargetField]
    split
    · next hblank =>
      rw [readEmbedded, if_pos hblank] at h
      exact h
    · refine readEmbedded_respellEmbedded (fun _ => writable_respellTarget) ?_ h
      intro w hplain hblank hw hread
      refine ⟨readTarget_respellTarget (holder hblank w hw) hread, ?_⟩
      cases hplain with
      | dict _ _ => exact fun _ hwrite => Json.isBlankText_of_write_dict hwrite
      | _ => cases hread
  | dict entries => exact readTarget_respellTarget holder h
  | _ => cases h

/-! ## Records -/

theorem canonical_respellRecord {entries : Entries} (h : Spelling.older.InRecord entries) :
    Spelling.canonical.InRecord (respellRecord entries) := by
  constructor
  · simp only [Entries.GivesNone, Spelling.canonical, List.forall_mem_cons]
    refine ⟨?_, fun f hf => absurd hf List.not_mem_nil⟩
    rw [lookup_respellRecord entries (by decide) (by decide) rfl (by simp [get?_respelledRecord]),
      get?_respelledRecord]
    rfl
  · intro v hv
    obtain ⟨w, hw, rfl⟩ := Option.map_eq_some_iff.mp
      ((lookup_chain_respellRecord entries).symm.trans hv)
    have holder := h.chain w hw
    cases w with
    | str text =>
      exact embeds_respellEmbedded (fun _ => writable_respellChain)
        (fun _ => canonical_respellChain) holder
    | _ => exact canonical_respellChain holder
  · intro v hv
    obtain ⟨w, hw, rfl⟩ := Option.map_eq_some_iff.mp
      ((lookup_target_respellRecord entries).symm.trans hv)
    have holder := h.target w hw
    have hall : Embeds Spelling.canonical.InTarget allTargetValue := by
      intro entries c hentries hc
      cases hentries
      cases hc
    cases w with
    | null => exact hall
    | str text =>
      rw [respellTargetField]
      split
      · exact hall
      · exact embeds_respellEmbedded (fun _ => writable_respellTarget)
          (fun _ => canonical_respellTarget) holder
    | _ => exact canonical_respellTarget holder

/-- The parts are the same, with the position under its canonical name. -/
theorem readRecordParts_respellRecord {entries : Entries} (h : Spelling.older.InRecord entries)
    {p : RecordParts} (hread : readRecordParts entries = .good p) :
    p.sortOrder = none ∧ readRecordParts (respellRecord entries) =
      .good { p with sortOrder := p.sort, sort := none } := by
  obtain ⟨hid, hsubscription, hname, henabled, hsortOrder, hsort, hchain, htarget, hcreated,
    hupdated⟩ := readRecordParts_eq_good_iff.mp hread
  have hnoSortOrder : p.sortOrder = none :=
    (Schema.eq_none_iff_of_optionalField hsortOrder).mpr
      (h.others ("sortOrder", "sort_order") (by decide))
  have hkept : ∀ {wire plain : String}, wire ∉ recordKeys → plain ∉ recordKeys →
      Schema.lookup (respellRecord entries) wire plain = Schema.lookup entries wire plain :=
    fun hwire hplain =>
      Entries.lookup_replace_other hwire hplain entries (keys_respelledRecord entries)
  refine ⟨hnoSortOrder, readRecordParts_eq_good_iff.mpr ⟨?_, ?_, ?_, ?_, ?_, ?_, ?_, ?_, ?_, ?_⟩⟩
  · exact Schema.required_of_lookup_eq (hkept (by decide) (by decide)) hid
  · exact Schema.required_of_lookup_eq (hkept (by decide) (by decide)) hsubscription
  · exact Schema.field_of_lookup_eq (hkept (by decide) (by decide)) hname
  · exact Schema.field_of_lookup_eq (hkept (by decide) (by decide)) henabled
  · exact Schema.field_of_lookup_eq (lookup_sortOrder_respellRecord entries) hsort
  · exact Schema.optionalField_eq_none_iff.mpr
      ((canonical_respellRecord h).others ("sort", "sort") (by decide))
  · rw [Schema.field_eq_good_iff] at hchain ⊢
    rw [lookup_chain_respellRecord]
    rcases hchain with ⟨hnone, habsent⟩ | ⟨v, hv, hgood⟩
    · rw [hnone]
      exact Or.inl ⟨rfl, habsent⟩
    · rw [hv]
      exact Or.inr ⟨_, rfl, readChain_respellEmbedded (h.chain v hv) hgood⟩
  · rw [Schema.field_eq_good_iff] at htarget ⊢
    rw [lookup_target_respellRecord]
    rcases htarget with ⟨hnone, habsent⟩ | ⟨v, hv, hgood⟩
    · rw [hnone]
      exact Or.inl ⟨rfl, habsent⟩
    · rw [hv]
      exact Or.inr ⟨_, rfl, readTarget_respellTargetField (h.target v hv) hgood⟩
  · exact Schema.field_of_lookup_eq (hkept (by decide) (by decide)) hcreated
  · exact Schema.field_of_lookup_eq (hkept (by decide) (by decide)) hupdated

theorem exists_of_isGiven {α : Type} {entries : Entries} {wire plain : String}
    {read : Value → Checked α} {o : Option α}
    (hgiven : isGiven (Schema.lookup entries wire plain) = true)
    (h : Schema.optionalField entries wire plain read = .good o) : ∃ a, o = some a := by
  refine Option.ne_none_iff_exists'.mp fun hnone => ?_
  rw [(Schema.eq_none_iff_of_optionalField h).mp hnone] at hgiven
  cases hgiven

/-- **Both spellings are read alike**: a record that is written wholly in the older spelling, gives
its times and is read as a rule has a canonical record that is read as the same rule, at whatever
time. -/
theorem readRecord_respellRecord {now : DateTime} {v : Value} {entries : Entries} {r : Rule}
    (hentries : Node.entriesOf v = .ok entries) (holder : Spelling.older.InRecord entries)
    (hcreated : isGiven (Schema.lookup entries "createdAt" "created_at") = true)
    (hupdated : isGiven (Schema.lookup entries "updatedAt" "updated_at") = true)
    (hread : readRecord now v = .ok r) :
    Spelling.canonical.InRecord (respellRecord entries) ∧
      ∀ later, readRecord later (.dict (respellRecord entries)) = .ok r := by
  refine ⟨canonical_respellRecord holder, ?_⟩
  intro later
  obtain ⟨own, p, hown, hparts, rfl⟩ := readRecord_eq_ok_iff.mp hread
  cases hentries.symm.trans hown
  obtain ⟨hnoSortOrder, hrespelled⟩ := readRecordParts_respellRecord holder hparts
  obtain ⟨-, -, -, -, -, -, -, -, hcreatedPart, hupdatedPart⟩ :=
    readRecordParts_eq_good_iff.mp hparts
  -- the times are given, so that of the reading does not show
  obtain ⟨created, hcreatedAt⟩ := exists_of_isGiven hcreated hcreatedPart
  obtain ⟨updated, hupdatedAt⟩ := exists_of_isGiven hupdated hupdatedPart
  refine readRecord_eq_ok_iff.mpr ⟨respellRecord entries, _, rfl, hrespelled, ?_⟩
  rw [RecordParts.toRule, RecordParts.toRule, hnoSortOrder, hcreatedAt, hupdatedAt, Option.none_or,
    Option.or_none]
  rfl

/-- A record in the older spelling: its chain goes by a node and by a pool, whose set of conditions
has an empty set in it. -/
def poolRecord : Entries := [
  (.str "id", .int 5),
  (.str "subscriptionId", .int 1),
  (.str "sort", .int 2),
  (.str "chainConfig", .list [
    .dict [(.str "type", .str "specified_node"), (.str "nodeId", .int 42)],
    .dict [(.str "type", .str "custom_group"), (.str "groupName", .str "pool"),
      (.str "nodeConditions", .dict [(.str "logic", .str " OR "), (.str "conditions", .list [
        .dict [(.str "conditions", .list [])],
        .dict (leafFields "group" "equals" (.str "relay")).toEntries])])]]),
  (.str "targetConfig", .str " "),
  (.str "createdAt", .int 0),
  (.str "updatedAt", .int 0)]

/-- The same record in the canonical spelling. -/
def canonicalPoolRecord : Entries := [
  (.str "sortOrder", .int 2),
  (.str "chainConfig", .list [
    .dict [(.str "selectorType", .str "node"), (.str "reference", .int 42)],
    .dict [(.str "selectorType", .str "custom_group"), (.str "reference", .str "pool"),
      (.str "conditions", .dict (groupFields .any [
        .dict (groupFields .any []).toEntries,
        .dict (leafFields "group" "equals" (.str "relay")).toEntries]).toEntries)]]),
  (.str "targetConfig", allTargetValue),
  (.str "id", .int 5),
  (.str "subscriptionId", .int 1),
  (.str "createdAt", .int 0),
  (.str "updatedAt", .int 0)]

/-- The first hop that both give. -/
def relayHop : Hop := { selector := .node, reference := "42" }

/-- The second one. -/
def poolHop : Hop :=
  { selector := .custom
    reference := "pool"
    conditions := some (.holds
      (.group .any [.group .any [], .leaf ⟨"group", "equals", .str "relay"⟩]))
    groupType := .str "select" }

/-- The rule that both stand for. -/
def poolRule : Rule where
  id := .str "5"
  subscription := "1"
  position := 2
  chain := [.holds relayHop, .holds poolHop]
  target := .holds .all
  created := default
  updated := default

theorem older_poolRecord : Spelling.older.InRecord poolRecord := by
  have hempty : Spelling.older.InCondition (.dict [(.str "conditions", .list [])]) :=
    .object (by decide) fun v hv => absurd hv List.not_mem_nil
  have hleaf : Spelling.older.InCondition
      (.dict (leafFields "group" "equals" (.str "relay")).toEntries) :=
    .object (by decide) fun v hv => absurd hv List.not_mem_nil
  refine ⟨by decide, ?_, ?_⟩
  · intro v hv
    cases hv
    intro items entries hitems hmem
    cases hitems
    rcases List.mem_cons.mp hmem with heq | hmem
    · cases heq
      refine ⟨by decide, ?_⟩
      intro c hc
      cases hc
    · cases List.mem_singleton.mp hmem
      refine ⟨by decide, ?_⟩
      intro c hc _
      cases hc
      refine .object (by decide) ?_
      exact List.forall_mem_cons.mpr ⟨hempty, List.forall_mem_singleton.mpr hleaf⟩
  · intro v hv
    cases hv
    intro hblank
    exact absurd hblank (by decide)

/-- The record is read as the rule: its identifiers and the node of its first hop are put into
words. -/
theorem readRecord_poolRecord : readRecord default (.dict poolRecord) = .ok poolRule := by
  have hid : ∀ n s, Value.asText (.int n) = .ok s → readIdentifierText (.int n) = .good s :=
    fun n s hs => readIdentifierText_eq_good_iff.mpr ⟨.int n, rfl, hs⟩
  have hrelay : readHopEntries [(.str "type", .str "specified_node"), (.str "nodeId", .int 42)] =
      .good relayHop := by
    refine readHopEntries_eq_good_iff.mpr
      ⟨⟨none, none, none, none, none, none, some "specified_node", none, some (.int 42), none⟩,
        rfl, rfl, rfl, rfl, rfl, rfl, rfl, rfl, rfl, rfl, ?_⟩
    have hreference : identifierText (some (.int 42)) = .good (some "42") := by
      have htext : Value.asText (.int 42) = .ok "42" := by decide +kernel
      rw [identifierText, if_neg (by decide), htext]
      rfl
    simp [HopParts.assemble, HopParts.readSelector, olderSelector?, HopParts.readMode,
      HopParts.referenceFor, hreference, relayHop]
  refine readRecord_eq_ok_iff.mpr ⟨poolRecord,
    ⟨"5", "1", "", true, none, some 2, [relayHop, poolHop], .all, some default, some default⟩,
    rfl, readRecordParts_eq_good_iff.mpr ⟨?_, ?_, rfl, rfl, rfl, rfl, ?_, rfl, rfl, rfl⟩, rfl⟩
  · show (readIdentifierText (.int 5)).under (.str "id") = _
    rw [hid 5 "5" (by decide +kernel)]
    rfl
  · show (readIdentifierText (.int 1)).under (.str "subscriptionId") = _
    rw [hid 1 "1" (by decide +kernel)]
    rfl
  · refine Schema.field_eq_good_iff.mpr (Or.inr ⟨_, rfl, Schema.list_eq_good_iff.mpr ?_⟩)
    simp only [List.map_cons, readHop, Schema.model, hrelay]
    rfl

theorem readRecord_respellRecord_pool :
    readRecord default (.dict poolRecord) = .ok poolRule ∧
      respellRecord poolRecord = canonicalPoolRecord ∧
      ∀ later, readRecord later (.dict canonicalPoolRecord) = .ok poolRule := by
  have hrespelled : respellRecord poolRecord = canonicalPoolRecord := rfl
  refine ⟨readRecord_poolRecord, hrespelled, ?_⟩
  exact hrespelled ▸
    (readRecord_respellRecord rfl older_poolRecord rfl rfl readRecord_poolRecord).2

end DialPlan
