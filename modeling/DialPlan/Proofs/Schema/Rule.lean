import DialPlan.Proofs.Number.Digits
import DialPlan.Proofs.Schema.Condition
import DialPlan.Schema.Rule

/-!
# Hops and targets read back

What a reader of hops or of targets makes of data that has a text (`Hop.Decoded`, `Target.Decoded`)
has a wire form, which has a text too and is read as the same hop or target again.  Everything that
a reader fills in is written down by the writer: the mode of a dynamic hop and the type of a custom
group stand in the wire form, so filling them in once more changes nothing.
-/

namespace DialPlan

/-! ## Speed test settings -/

/-- **Settings that come from data.** -/
def UrlTest.Decoded (u : UrlTest) : Prop :=
  ∃ (url : String) (interval tolerance : Int), 0 < interval ∧ 0 ≤ tolerance ∧
    u = ⟨.str url, .int interval, .int tolerance⟩

theorem decoded_of_readUrlTest {entries : Entries} {u : UrlTest}
    (h : readUrlTest entries = .good u) : u.Decoded := by
  simp only [readUrlTest, Checked.seq_eq_good_iff, Checked.map_apply_eq_good_iff] at h
  obtain ⟨_, tolerance, ⟨_, interval, ⟨url, hurl, rfl⟩, hinterval, rfl⟩, htolerance, rfl⟩ := h
  have hurl' : ∃ s, url = .str s := by
    rcases Schema.field_eq_good_iff.mp hurl with ⟨-, rfl⟩ | ⟨v, -, hread⟩
    · exact ⟨_, rfl⟩
    · obtain ⟨s, -, rfl⟩ := Checked.map_eq_good_iff.mp hread
      exact ⟨s, rfl⟩
  have hinterval' : ∃ n, 0 < n ∧ interval = .int n := by
    rcases Schema.field_eq_good_iff.mp hinterval with ⟨-, rfl⟩ | ⟨v, -, hread⟩
    · exact ⟨300, by decide, rfl⟩
    · obtain ⟨n, hn, rfl⟩ := Checked.map_eq_good_iff.mp hread
      exact ⟨n, (Schema.integerAbove_eq_good_iff.mp hn).2, rfl⟩
  have htolerance' : ∃ n, 0 ≤ n ∧ tolerance = .int n := by
    rcases Schema.field_eq_good_iff.mp htolerance with ⟨-, rfl⟩ | ⟨v, -, hread⟩
    · exact ⟨50, by decide, rfl⟩
    · obtain ⟨n, hn, rfl⟩ := Checked.map_eq_good_iff.mp hread
      exact ⟨n, (Schema.integerFrom_eq_good_iff.mp hn).2, rfl⟩
  obtain ⟨s, rfl⟩ := hurl'
  obtain ⟨n, hn, rfl⟩ := hinterval'
  obtain ⟨m, hm, rfl⟩ := htolerance'
  exact ⟨s, n, m, hn, hm, rfl⟩

theorem allDigits_of_readNumeral {s : String} {negative : Bool} {digits : List Char}
    (h : Schema.readNumeral s = some (negative, digits)) : AllDigits digits := by
  unfold Schema.readNumeral at h
  obtain ⟨⟨negative, cs⟩, -, h⟩ := Option.bind_eq_some_iff.mp h
  dsimp only at h
  split at h
  · cases h
  · obtain ⟨ds, -, h⟩ := Option.bind_eq_some_iff.mp h
    split at h
    · cases h
    · next hdigits =>
      cases h
      rw [Bool.or_eq_true, not_or, Bool.not_eq_true', Bool.not_eq_false] at hdigits
      exact fun c hc => List.all_eq_true.mp hdigits.2 c hc

theorem hasNumeral_of_integerOfText {s : String} {n : Int}
    (h : Schema.integerOfText s = .good n) : hasNumeral n = true := by
  unfold Schema.integerOfText at h
  split at h
  · next hread =>
    split at h
    · next hlength =>
      cases h
      exact hasNumeral_signedValue _ (allDigits_of_readNumeral hread) hlength
    · cases h
  · cases h

theorem hasNumeral_of_small {n : Int} (h : n.natAbs ≤ Schema.integerLimit.natAbs) :
    hasNumeral n = true := by
  have hlimit : Schema.integerLimit.natAbs < tenTo 19 := by decide
  rw [hasNumeral_iff]
  calc n.natAbs ≤ Schema.integerLimit.natAbs := h
    _ < tenTo 19 := hlimit
    _ ≤ tenTo digitLimit := tenTo_le_tenTo (by decide)

/-- **An integer that is read from a value with a text** has a numeral. -/
theorem hasNumeral_of_integer {v : Value} (hv : v.printable = true) {n : Int}
    (h : Schema.integer v = .good n) : hasNumeral n = true := by
  cases v with
  | int m =>
    cases h
    rwa [Value.printable_int] at hv
  | bool b =>
    cases h
    refine hasNumeral_of_small ?_
    cases b <;> decide
  | float x =>
    rw [Schema.integer] at h
    split at h
    · cases h
    split at h
    · cases h
    dsimp only at h
    split at h
    · next hbounds =>
      cases h
      rw [Bool.and_eq_true, decide_eq_true_eq, decide_eq_true_eq] at hbounds
      refine hasNumeral_of_small ?_
      have hpos : 0 < Schema.integerLimit := by decide
      omega
    · cases h
  | str s => exact hasNumeral_of_integerOfText h
  | bytes bs =>
    rw [Schema.integer] at h
    split at h
    · exact hasNumeral_of_integerOfText h
    · cases h
  | _ => cases h

/-- **A property that reading keeps**: it goes over to the parts of a value, to integers that are
read from one, and holds of the numbers that are filled in. -/
structure Schema.Kept (P : Value → Prop) : Prop extends Value.Hereditary P where
  integer : ∀ {v : Value} {n : Int}, P v → Schema.integer v = .good n → P (.int n)
  interval : P (.int 300)
  tolerance : P (.int 50)

theorem Value.Plain.kept : Schema.Kept Value.Plain where
  toHereditary := Value.Plain.hereditary
  integer _ _ := .int _
  interval := .int 300
  tolerance := .int 50

theorem Value.Writable.kept : Schema.Kept Value.Writable where
  toHereditary := Value.Writable.hereditary
  integer hv hn := ⟨.int _, by rw [Value.printable_int, hasNumeral_of_integer hv.printable hn]⟩
  interval := ⟨.int 300, by decide +kernel⟩
  tolerance := ⟨.int 50, by decide +kernel⟩

variable {P : Value → Prop}

/-- Settings with numbers of a kind. -/
structure UrlTest.Has (P : Value → Prop) (u : UrlTest) : Prop where
  interval : P u.interval
  tolerance : P u.tolerance

theorem has_of_readUrlTest (hP : Schema.Kept P) {entries : Entries}
    (hentries : ∀ e ∈ entries, P e.2) {u : UrlTest} (h : readUrlTest entries = .good u) :
    u.Has P := by
  simp only [readUrlTest, Checked.seq_eq_good_iff, Checked.map_apply_eq_good_iff] at h
  obtain ⟨_, tolerance, ⟨_, interval, ⟨url, -, rfl⟩, hinterval, rfl⟩, htolerance, rfl⟩ := h
  constructor
  · refine Schema.of_field hinterval hP.interval fun v hlookup hread => ?_
    obtain ⟨n, hn, rfl⟩ := Checked.map_eq_good_iff.mp hread
    exact hP.integer (Schema.of_lookup hentries hlookup) (Schema.integerAbove_eq_good_iff.mp hn).1
  · refine Schema.of_field htolerance hP.tolerance fun v hlookup hread => ?_
    obtain ⟨n, hn, rfl⟩ := Checked.map_eq_good_iff.mp hread
    exact hP.integer (Schema.of_lookup hentries hlookup) (Schema.integerFrom_eq_good_iff.mp hn).1

/-- **Settings are read back.** -/
theorem readUrlTest_entries {u : UrlTest} (h : u.Decoded) : readUrlTest u.entries = .good u := by
  obtain ⟨url, interval, tolerance, hinterval, htolerance, rfl⟩ := h
  have habove : Schema.integerAbove 0 (.int interval) = .good interval :=
    Schema.integerAbove_eq_good_iff.mpr ⟨rfl, hinterval⟩
  have hfrom : Schema.integerFrom 0 (.int tolerance) = .good tolerance :=
    Schema.integerFrom_eq_good_iff.mpr ⟨rfl, htolerance⟩
  simp [readUrlTest, Schema.field, Schema.lookup, UrlTest.entries, Entries.get?_cons,
    Schema.text, habove, hfrom]

theorem writable_entries {u : UrlTest} (h : u.Decoded) (hnumbers : u.Has Value.Writable) :
    (Value.dict u.entries).Writable := by
  obtain ⟨url, interval, tolerance, -, -, rfl⟩ := h
  have hboth : (Value.dict (Table.toEntries
      [("interval", .int interval), ("tolerance", .int tolerance)])).Writable :=
    .cons (by simp) hnumbers.interval (.cons List.not_mem_nil hnumbers.tolerance .empty)
  exact .cons (by simp) (.str url) hboth

/-! ## Hops -/

/-- A place that holds a tree that comes from data. -/
def Slot.HoldsDecoded (P : Value → Prop) (s : Slot Condition) : Prop :=
  ∃ c, s = .holds c ∧ c.Decoded P

/-- **Hops that come from data**, with values of a kind.  Whatever a reader fills in is there. -/
structure Hop.Decoded (P : Value → Prop) (h : Hop) : Prop where
  conditions : ∀ s ∈ h.conditions, s.HoldsDecoded P
  selectMode : h.selector = .dynamic → h.selectMode.isSome = true
  groupType : (h.groupType = .null ∧ h.selector ≠ .custom) ∨
    ∃ t : String, t.isEmpty = false ∧ h.groupType = .str t
  urlTest : ∀ u ∈ h.urlTest, u.Decoded ∧ u.Has P

/-- **Hops with conditions and numbers that can be put into words.** -/
structure Hop.Printable (h : Hop) : Prop where
  conditions : ∀ c, h.conditions = some (.holds c) → c.Printable
  urlTest : ∀ u ∈ h.urlTest, u.interval.printable = true ∧ u.tolerance.printable = true

theorem Hop.Decoded.writable {h : Hop} (hh : h.Decoded Value.Plain) (hprint : h.Printable) :
    h.Decoded Value.Writable where
  conditions s hs := by
    obtain ⟨c, rfl, hc⟩ := hh.conditions s hs
    exact ⟨c, rfl, hc.writable (hprint.conditions c hs)⟩
  selectMode := hh.selectMode
  groupType := hh.groupType
  urlTest u hu := by
    obtain ⟨hdecoded, hplain⟩ := hh.urlTest u hu
    obtain ⟨hinterval, htolerance⟩ := hprint.urlTest u hu
    exact ⟨hdecoded, ⟨hplain.interval, hinterval⟩, ⟨hplain.tolerance, htolerance⟩⟩

theorem nonEmpty_of_optionalNonBlank {entries : Entries} {wire plain : String}
    {text : Option String} (h : optionalNonBlank entries wire plain = .good text) :
    ∀ s ∈ text, s.isEmpty = false := by
  intro s hs
  obtain ⟨o, ho, hjoin⟩ := Checked.map_eq_good_iff.mp h
  rw [hs] at hjoin
  obtain ⟨v, -, hread⟩ := Schema.exists_of_optionalField (Option.join_eq_some_iff.mp hjoin ▸ ho)
  obtain ⟨t, -, ht⟩ := Checked.map_eq_good_iff.mp hread
  split at ht
  · cases ht
  · next hempty =>
    cases ht
    exact Bool.not_eq_true _ ▸ hempty

theorem optionalNonBlank_eq_good {entries : Entries} {wire plain : String} {text : Option String}
    (hlookup : Schema.lookup entries wire plain = text.map .str)
    (htext : ∀ s ∈ text, s.isEmpty = false) :
    optionalNonBlank entries wire plain = .good text := by
  have hread : Schema.optionalField entries wire plain readNonBlank = .good (text.map some) := by
    refine Schema.optionalField_map text .str some hlookup ?_
    intro s hs
    refine ⟨nofun, ?_⟩
    show Checked.good (if s.isEmpty then none else some s) = _
    rw [htext s hs, if_neg Bool.false_ne_true]
  rw [optionalNonBlank, hread, Checked.map_good]
  cases text <;> rfl

theorem HopParts.decoded_of_assemble {p : HopParts}
    (hconditions : ∀ c ∈ p.conditions, c.Decoded P)
    (hnodeConditions : ∀ c ∈ p.nodeConditions, c.Decoded P)
    (hgroupType : ∀ t ∈ p.groupType, t.isEmpty = false)
    (hurlTest : ∀ u ∈ p.urlTest, u.Decoded ∧ u.Has P) {h : Hop} (hassemble : p.assemble = .good h) :
    h.Decoded P := by
  simp only [assemble, Checked.andThen_eq_good_iff] at hassemble
  obtain ⟨selector, -, mode, -, hassemble⟩ := hassemble
  split at hassemble
  · exact absurd hassemble Checked.fail_ne_good
  obtain ⟨reference, -, rfl⟩ := Checked.map_eq_good_iff.mp hassemble
  refine ⟨?_, ?_, ?_, hurlTest⟩
  · intro s hs
    obtain ⟨c, hc, rfl⟩ := Option.map_eq_some_iff.mp hs
    rcases Option.or_eq_some_iff.mp hc with hc | ⟨-, hc⟩
    · exact ⟨c, rfl, hconditions c hc⟩
    · exact ⟨c, rfl, hnodeConditions c hc⟩
  · intro hdynamic
    dsimp only at hdynamic ⊢
    rw [if_pos hdynamic, Option.isSome_some]
  · dsimp only
    split
    · next t ht => exact Or.inr ⟨t, hgroupType t ht, rfl⟩
    · by_cases hcustom : selector = .custom
      · rw [if_pos hcustom]
        exact Or.inr ⟨"select", rfl, rfl⟩
      · rw [if_neg hcustom]
        exact Or.inl ⟨rfl, hcustom⟩

theorem decoded_of_optionalField (hP : Value.Hereditary P) {entries : Entries}
    (hentries : ∀ e ∈ entries, P e.2) {wire plain : String} {conditions : Option Condition}
    (h : Schema.optionalField entries wire plain readCondition = .good conditions) :
    ∀ c ∈ conditions, c.Decoded P := by
  intro c hc
  rw [hc] at h
  obtain ⟨v, hlookup, hread⟩ := Schema.exists_of_optionalField h
  exact decoded_of_readCondition hP (Schema.of_lookup hentries hlookup) hread

/-- **What a hop object comes to**: its parts, each read off a field of its own, put together. -/
theorem readHopEntries_eq_good_iff {entries : Entries} {h : Hop} :
    readHopEntries entries = .good h ↔ ∃ p : HopParts,
      Schema.optionalField entries "selectorType" "selector_type" Schema.text = .good p.selector ∧
      Schema.optionalField entries "reference" "reference" Schema.identifier = .good p.reference ∧
      Schema.optionalField entries "conditions" "conditions" readCondition = .good p.conditions ∧
      optionalNonBlank entries "selectMode" "select_mode" = .good p.selectMode ∧
      optionalNonBlank entries "groupType" "group_type" = .good p.groupType ∧
      Schema.optionalField entries "urlTestConfig" "url_test" (Schema.model readUrlTest) =
        .good p.urlTest ∧
      Schema.optionalField entries "type" "type" Schema.text = .good p.type ∧
      Schema.optionalField entries "groupName" "group_name" Schema.text = .good p.groupName ∧
      Schema.optionalField entries "nodeId" "node_id" Schema.identifier = .good p.nodeId ∧
      Schema.optionalField entries "nodeConditions" "node_conditions" readCondition =
        .good p.nodeConditions ∧
      p.assemble = .good h := by
  simp only [readHopEntries, Checked.andThen_eq_good_iff, Checked.seq_eq_good_iff,
    Checked.map_apply_eq_good_iff]
  constructor
  · rintro ⟨_, ⟨_, nodeConditions, ⟨_, nodeId, ⟨_, groupName, ⟨_, type, ⟨_, urlTest, ⟨_, groupType,
      ⟨_, selectMode, ⟨_, conditions, ⟨_, reference, ⟨selector, hselector, rfl⟩, hreference, rfl⟩,
      hconditions, rfl⟩, hselectMode, rfl⟩, hgroupType, rfl⟩, hurlTest, rfl⟩, htype, rfl⟩,
      hgroupName, rfl⟩, hnodeId, rfl⟩, hnodeConditions, rfl⟩, hassemble⟩
    exact ⟨_, hselector, hreference, hconditions, hselectMode, hgroupType, hurlTest, htype,
      hgroupName, hnodeId, hnodeConditions, hassemble⟩
  · rintro ⟨p, hselector, hreference, hconditions, hselectMode, hgroupType, hurlTest, htype,
      hgroupName, hnodeId, hnodeConditions, hassemble⟩
    exact ⟨p, ⟨_, _, ⟨_, _, ⟨_, _, ⟨_, _, ⟨_, _, ⟨_, _, ⟨_, _, ⟨_, _, ⟨_, _, ⟨_, hselector, rfl⟩,
      hreference, rfl⟩, hconditions, rfl⟩, hselectMode, rfl⟩, hgroupType, rfl⟩, hurlTest, rfl⟩,
      htype, rfl⟩, hgroupName, rfl⟩, hnodeId, rfl⟩, hnodeConditions, rfl⟩, hassemble⟩

theorem decoded_of_readHopEntries (hP : Schema.Kept P) {entries : Entries}
    (hentries : ∀ e ∈ entries, P e.2) {h : Hop} (hread : readHopEntries entries = .good h) :
    h.Decoded P := by
  obtain ⟨p, -, -, hconditions, -, hgroupType, hurlTest, -, -, -, hnodeConditions, hassemble⟩ :=
    readHopEntries_eq_good_iff.mp hread
  have hsettings : ∀ u ∈ p.urlTest, u.Decoded ∧ u.Has P := by
    intro u hu
    rw [hu] at hurlTest
    obtain ⟨v, hlookup, hv⟩ := Schema.exists_of_optionalField hurlTest
    have hkept : P v := Schema.of_lookup hentries hlookup
    cases v with
    | dict fields => exact ⟨decoded_of_readUrlTest hv, has_of_readUrlTest hP (hP.values hkept) hv⟩
    | _ => cases hv
  exact HopParts.decoded_of_assemble (decoded_of_optionalField hP.toHereditary hentries hconditions)
    (decoded_of_optionalField hP.toHereditary hentries hnodeConditions)
    (nonEmpty_of_optionalNonBlank hgroupType) hsettings hassemble

/-- **A hop that is read from data comes from such data.** -/
theorem decoded_of_readHop (hP : Schema.Kept P) {v : Value} (hv : P v) {h : Hop}
    (hread : readHop v = .good h) : h.Decoded P := by
  cases v with
  | dict entries => exact decoded_of_readHopEntries hP (hP.values hv) hread
  | _ => cases hread

/-- The canonical spelling of a hop: the parts that are not given are left out. -/
def hopFields (selector : Selector) (reference : String)
    (conditions mode groupType urlTest : Option Value) : Table Value :=
  [("selectorType", .str selector.name), ("reference", .str reference)] ++
    Table.given "conditions" conditions ++ Table.given "selectMode" mode ++
    Table.given "groupType" groupType ++ Table.given "urlTestConfig" urlTest

theorem writable_hopFields (selector : Selector) (reference : String)
    {conditions mode groupType urlTest : Option Value}
    (hconditions : ∀ v ∈ conditions, v.Writable) (hmode : ∀ v ∈ mode, v.Writable)
    (hgroupType : ∀ v ∈ groupType, v.Writable) (hurlTest : ∀ v ∈ urlTest, v.Writable) :
    (Value.dict
      (hopFields selector reference conditions mode groupType urlTest).toEntries).Writable := by
  have hall : ["selectorType", "reference", "conditions", "selectMode", "groupType",
      "urlTestConfig"].Nodup := by decide
  have hsub : (hopFields selector reference conditions mode groupType urlTest).keys.Sublist
      ["selectorType", "reference", "conditions", "selectMode", "groupType", "urlTestConfig"] := by
    simp only [hopFields, Table.keys_append]
    exact ((((List.Sublist.refl ["selectorType", "reference"]).append
      (Table.keys_given_sublist "conditions" conditions)).append
      (Table.keys_given_sublist "selectMode" mode)).append
      (Table.keys_given_sublist "groupType" groupType)).append
      (Table.keys_given_sublist "urlTestConfig" urlTest)
  refine .table (hall.sublist hsub) ?_
  intro e he
  simp only [hopFields, List.mem_append, List.mem_cons, List.not_mem_nil, or_false,
    Table.mem_given_iff] at he
  rcases he with ((((rfl | rfl) | ⟨v, hv, rfl⟩) | ⟨v, hv, rfl⟩) | ⟨v, hv, rfl⟩) | ⟨v, hv, rfl⟩
  · exact .str selector.name
  · exact .str reference
  · exact hconditions v hv
  · exact hmode v hv
  · exact hgroupType v hv
  · exact hurlTest v hv

theorem get?_hopFields (selector : Selector) (reference : String)
    (conditions mode groupType urlTest : Option Value) (name : String) :
    (hopFields selector reference conditions mode groupType urlTest).get? name =
      if name = "selectorType" then some (.str selector.name)
      else if name = "reference" then some (.str reference)
      else if name = "conditions" then conditions
      else if name = "selectMode" then mode
      else if name = "groupType" then groupType
      else if name = "urlTestConfig" then urlTest
      else none := by
  simp only [hopFields, Table.get?_append, Table.get?_given, Table.get?_cons, Table.get?_nil,
    @eq_comm String _ name]
  by_cases hselector : name = "selectorType"
  · simp [hselector]
  by_cases hreference : name = "reference"
  · simp [hreference]
  by_cases hconditions : name = "conditions"
  · simp [hconditions]
  by_cases hmode : name = "selectMode"
  · simp [hmode]
  by_cases hgroupType : name = "groupType"
  · simp [hgroupType]
  simp [hselector, hreference, hconditions, hmode, hgroupType]

/-- What is read of the canonical spelling of a hop. -/
theorem readHopEntries_hopFields (selector : Selector) (reference : String)
    {root : Option (Condition × Value)} {mode : Option SelectMode} {groupType : Option String}
    {urlTest : Option UrlTest} (hroot : ∀ p ∈ root, p.1.ReadsBack p.2)
    (hgroupType : ∀ t ∈ groupType, t.isEmpty = false) (hurlTest : ∀ u ∈ urlTest, u.Decoded) :
    readHopEntries (hopFields selector reference (root.map (·.2)) (mode.map (.str ·.name))
      (groupType.map .str) (urlTest.map (.dict ·.entries))).toEntries =
    HopParts.assemble
      { selector := some selector.name
        reference := some (.str reference)
        conditions := root.map (·.1)
        selectMode := mode.map (·.name)
        groupType
        urlTest
        type := none
        groupName := none
        nodeId := none
        nodeConditions := none } := by
  have hget := get?_hopFields selector reference (root.map (·.2)) (mode.map (.str ·.name))
    (groupType.map .str) (urlTest.map (.dict ·.entries))
  generalize hopFields selector reference (root.map (·.2)) (mode.map (.str ·.name))
    (groupType.map .str) (urlTest.map (.dict ·.entries)) = fields at hget ⊢
  have hlookup := Schema.lookup_toEntries fields
  have hselector : Schema.optionalField fields.toEntries "selectorType" "selector_type"
      Schema.text = .good (some selector.name) :=
    Schema.field_eq_good_iff.mpr (Or.inr ⟨.str selector.name, by simp [hlookup, hget], rfl⟩)
  have hreference : Schema.optionalField fields.toEntries "reference" "reference"
      Schema.identifier = .good (some (.str reference)) :=
    Schema.field_eq_good_iff.mpr (Or.inr ⟨.str reference, by simp [hlookup, hget], rfl⟩)
  have hconditions : Schema.optionalField fields.toEntries "conditions" "conditions"
      readCondition = .good (root.map (·.1)) := by
    refine Schema.optionalField_map root (·.2) (·.1) (by simp [hlookup, hget]) ?_
    exact fun p hp => ⟨(hroot p hp).ne_null, (hroot p hp).2.2⟩
  have hmode : optionalNonBlank fields.toEntries "selectMode" "select_mode" =
      .good (mode.map (·.name)) := by
    refine optionalNonBlank_eq_good (by simp [hlookup, hget, Function.comp_def]) ?_
    intro s hs
    obtain ⟨m, -, rfl⟩ := Option.map_eq_some_iff.mp hs
    cases m <;> rfl
  have hgroup : optionalNonBlank fields.toEntries "groupType" "group_type" = .good groupType :=
    optionalNonBlank_eq_good (by simp [hlookup, hget]) hgroupType
  have hsettings : Schema.optionalField fields.toEntries "urlTestConfig" "url_test"
      (Schema.model readUrlTest) = .good (urlTest.map id) :=
    Schema.optionalField_map urlTest (.dict ·.entries) id (by simp [hlookup, hget]) fun u hu =>
      ⟨nofun, readUrlTest_entries (hurlTest u hu)⟩
  -- the older spelling has none of its fields there
  have hother : ∀ {α : Type} {wire plain : String} (read : Value → Checked α),
      Schema.lookup fields.toEntries wire plain = none →
      Schema.optionalField fields.toEntries wire plain read = .good none := fun _ h =>
    Schema.optionalField_of_none h
  rw [readHopEntries, hselector, hreference, hconditions, hmode, hgroup, hsettings,
    hother Schema.text (by simp [hlookup, hget]), hother Schema.text (by simp [hlookup, hget]),
    hother Schema.identifier (by simp [hlookup, hget]),
    hother readCondition (by simp [hlookup, hget]), Option.map_id]
  rfl

theorem conditionValue_holds {c : Condition} {w : Value} (h : c.ReadsBack w) :
    (Slot.holds c).conditionValue = .ok w :=
  h.1

theorem Hop.toValue_eq_ok {h : Hop} {root : Option (Condition × Value)} {groupType : Option String}
    (hconditions : h.conditions = root.map (.holds ·.1)) (hroot : ∀ p ∈ root, p.1.ReadsBack p.2)
    (hgroupType : h.groupType = (groupType.map .str).getD .null) :
    h.toValue = .ok (.dict (hopFields h.selector h.reference (root.map (·.2))
      (h.selectMode.map (.str ·.name)) (groupType.map .str)
      (h.urlTest.map (.dict ·.entries))).toEntries) := by
  obtain ⟨selector, reference, conditions, mode, type, urlTest⟩ := h
  dsimp only at hconditions hgroupType
  subst hconditions hgroupType
  unfold toValue
  cases root with
  | none => cases mode <;> cases groupType <;> cases urlTest <;> rfl
  | some p =>
    have hp := conditionValue_holds (hroot p rfl)
    simp only [Option.map_some, hp]
    cases mode <;> cases groupType <;> cases urlTest <;> rfl

theorem identifierText_of_nonEmpty {s : String} (h : s.isEmpty = false) :
    identifierText (some (.str s)) = .good (some s) := by
  rw [identifierText, if_neg, Value.asText_str]
  · rfl
  rintro (hs | hs)
  · cases hs
    cases h
  · cases hs

theorem identifierText_str (s : String) :
    (identifierText (some (.str s))).map (·.getD "") = .good s := by
  cases hs : s.isEmpty with
  | true =>
    rw [String.isEmpty_iff.mp hs]
    rfl
  | false =>
    rw [identifierText_of_nonEmpty hs]
    rfl

/-- The hop of the parts of its own canonical spelling. -/
theorem HopParts.assemble_canonical {h : Hop} {conditions : Option Condition}
    {groupType : Option String} (hconditions : h.conditions = conditions.map .holds)
    (hgroupType : h.groupType = (groupType.map .str).getD .null)
    (hmode : h.selector = .dynamic → h.selectMode.isSome = true)
    (hcustom : groupType = none → h.selector ≠ .custom) :
    HopParts.assemble
      { selector := some h.selector.name
        reference := some (.str h.reference)
        conditions
        selectMode := h.selectMode.map (·.name)
        groupType
        urlTest := h.urlTest
        type := none
        groupName := none
        nodeId := none
        nodeConditions := none } = .good h := by
  obtain ⟨selector, reference, _, mode, _, urlTest⟩ := h
  dsimp only at hconditions hgroupType hmode hcustom ⊢
  subst hconditions hgroupType
  -- a mode is there for a dynamic hop, so none is filled in
  have hread : (if selector = .dynamic then some (mode.getD .first) else mode) = mode := by
    cases mode with
    | none => exact if_neg fun hdynamic => Bool.false_ne_true (hmode hdynamic)
    | some m => exact ite_id _
  have hmodes : readMode
      { selector := some selector.name, reference := some (.str reference), conditions,
        selectMode := mode.map (·.name), groupType, urlTest, type := none, groupName := none,
        nodeId := none, nodeConditions := none } = .good mode := by
    cases mode <;> simp [readMode]
  simp only [assemble, readSelector, Selector.ofName?_name, Checked.andThen_good, hmodes,
    Option.isSome_none, Bool.and_false, Bool.false_eq_true, if_false, referenceFor,
    Option.isSome_some, if_true, identifierText_str, Checked.map_good, hread, Option.or_none]
  cases groupType with
  | none =>
    dsimp only
    rw [if_neg (hcustom rfl)]
    rfl
  | some t => rfl

/-- **A hop that comes from data that has a text is read back from its wire form.** -/
theorem Hop.exists_readsBack {h : Hop} (hh : h.Decoded Value.Writable) :
    ∃ w, h.toValue = .ok w ∧ w.Writable ∧ readHop w = .good h := by
  have hexistsRoot : ∃ root : Option (Condition × Value),
      h.conditions = root.map (.holds ·.1) ∧ ∀ p ∈ root, p.1.ReadsBack p.2 := by
    cases hconditions : h.conditions with
    | none => exact ⟨none, rfl, nofun⟩
    | some slot =>
      obtain ⟨c, rfl, hc⟩ := hh.conditions slot hconditions
      obtain ⟨w, hw⟩ := Condition.exists_readsBack hc
      exact ⟨some (c, w), rfl, fun p hp => Option.some.inj hp ▸ hw⟩
  have hexistsType : ∃ groupType : Option String,
      h.groupType = (groupType.map .str).getD .null ∧ (∀ t ∈ groupType, t.isEmpty = false) ∧
        (groupType = none → h.selector ≠ .custom) := by
    rcases hh.groupType with ⟨hnull, hcustom⟩ | ⟨t, ht, hstr⟩
    · exact ⟨none, hnull, nofun, fun _ => hcustom⟩
    · exact ⟨some t, hstr, fun s hs => Option.some.inj hs ▸ ht, nofun⟩
  obtain ⟨root, hconditions, hroot⟩ := hexistsRoot
  obtain ⟨groupType, hgroupType, hnonEmpty, hcustom⟩ := hexistsType
  refine ⟨_, toValue_eq_ok hconditions hroot hgroupType, ?_, ?_⟩
  · refine writable_hopFields _ _ ?_ ?_ ?_ ?_
    · intro v hv
      obtain ⟨p, hp, rfl⟩ := Option.map_eq_some_iff.mp hv
      exact (hroot p hp).2.1
    · intro v hv
      obtain ⟨m, -, rfl⟩ := Option.map_eq_some_iff.mp hv
      exact .str m.name
    · intro v hv
      obtain ⟨t, -, rfl⟩ := Option.map_eq_some_iff.mp hv
      exact .str t
    · intro v hv
      obtain ⟨u, hu, rfl⟩ := Option.map_eq_some_iff.mp hv
      exact writable_entries (hh.urlTest u hu).1 (hh.urlTest u hu).2
  · show readHopEntries _ = _
    rw [readHopEntries_hopFields _ _ hroot hnonEmpty fun u hu => (hh.urlTest u hu).1]
    refine HopParts.assemble_canonical ?_ hgroupType hh.selectMode hcustom
    rw [hconditions, Option.map_map]
    rfl

/-! ## Targets -/

/-- **Targets that come from data**, with values of a kind.  A node id is never empty. -/
def Target.Decoded (P : Value → Prop) : Target → Prop
  | all => True
  | node id => ∀ s ∈ id, s.isEmpty = false
  | conditions root => ∀ s ∈ root, s.HoldsDecoded P

/-- **Targets with conditions that can be put into words.** -/
def Target.Printable (t : Target) : Prop :=
  ∀ c, t = .conditions (some (.holds c)) → c.Printable

theorem Target.Decoded.writable {t : Target} (h : t.Decoded Value.Plain) (hprint : t.Printable) :
    t.Decoded Value.Writable := by
  cases t with
  | all | node => exact h
  | conditions root =>
    intro s hs
    obtain ⟨c, rfl, hc⟩ := h s hs
    cases hs
    exact ⟨c, rfl, hc.writable (hprint c rfl)⟩

theorem identifier_eq_good {v w : Value} (h : Schema.identifier v = .good w) :
    (∃ s, w = .str s) ∨ ∃ n, w = .int n := by
  unfold Schema.identifier at h
  split at h
  · cases h
  · obtain ⟨n, -, rfl⟩ := Checked.map_eq_good_iff.mp h
    exact Or.inr ⟨n, rfl⟩
  · obtain ⟨s, -, rfl⟩ := Checked.map_eq_good_iff.mp h
    exact Or.inl ⟨s, rfl⟩

theorem ofWording_eq_good_iff {α : Type} {e : Except Fault α} {otherwise a : α} :
    Checked.ofWording e otherwise = .good a ↔ e = .ok a := by
  cases e <;> simp [Checked.ofWording]

/-- What an identifier names is not empty. -/
theorem nonEmpty_of_identifier {v w : Value} (h : Schema.identifier v = .good w)
    {text : Option String} (htext : identifierText (some w) = .good text) :
    ∀ s ∈ text, s.isEmpty = false := by
  intro s hs
  rw [identifierText] at htext
  split at htext
  · cases htext
    cases hs
  next hset =>
  obtain ⟨t, ht, rfl⟩ := Checked.map_eq_good_iff.mp htext
  cases hs
  obtain ⟨-, rfl⟩ := Value.asText_eq_ok_iff.mp (ofWording_eq_good_iff.mp ht)
  rcases identifier_eq_good h with ⟨t, rfl⟩ | ⟨n, rfl⟩
  · rw [Value.text_str, ← Bool.not_eq_true, String.isEmpty_iff]
    rintro rfl
    exact hset (Or.inl rfl)
  · exact isEmpty_toString_int n

/-- **What a target object comes to**: its parts, each read off a field of its own, put together. -/
theorem readTargetEntries_eq_good_iff {entries : Entries} {t : Target} :
    readTargetEntries entries = .good t ↔ ∃ p : TargetParts,
      Schema.field entries "type" "type" readTargetType .all = .good p.type ∧
      Schema.optionalField entries "nodeId" "node_id" Schema.identifier = .good p.nodeId ∧
      Schema.optionalField entries "conditions" "conditions" readCondition = .good p.conditions ∧
      p.assemble = .good t := by
  simp only [readTargetEntries, Checked.andThen_eq_good_iff, Checked.seq_eq_good_iff,
    Checked.map_apply_eq_good_iff]
  constructor
  · rintro ⟨_, ⟨_, conditions, ⟨_, nodeId, ⟨type, htype, rfl⟩, hnode, rfl⟩, hconditions, rfl⟩,
      hassemble⟩
    exact ⟨_, htype, hnode, hconditions, hassemble⟩
  · rintro ⟨p, htype, hnode, hconditions, hassemble⟩
    exact ⟨p, ⟨_, _, ⟨_, _, ⟨_, htype, rfl⟩, hnode, rfl⟩, hconditions, rfl⟩, hassemble⟩

theorem decoded_of_readTarget (hP : Value.Hereditary P) {v : Value} (hv : P v) {t : Target}
    (h : readTarget v = .good t) : t.Decoded P := by
  cases v with
  | dict entries =>
    obtain ⟨⟨type, id, root⟩, -, hid, hroot, hassemble⟩ := readTargetEntries_eq_good_iff.mp h
    cases type with
    | all =>
      cases hassemble
      exact trivial
    | node =>
      obtain ⟨text, htext, rfl⟩ := Checked.map_eq_good_iff.mp hassemble
      cases id with
      | none =>
        cases htext
        exact nofun
      | some w =>
        obtain ⟨v, -, hread⟩ := Schema.exists_of_optionalField hid
        exact nonEmpty_of_identifier hread htext
    | conditions =>
      cases hassemble
      intro slot hslot
      obtain ⟨c, hc, rfl⟩ := Option.map_eq_some_iff.mp hslot
      exact ⟨c, rfl, decoded_of_optionalField hP (hP.values hv) hroot c hc⟩
  | _ => cases h

/-- The canonical spelling of a target that has a detail. -/
def targetFields (type detail : String) (v : Value) : Table Value :=
  [("type", .str type), (detail, v)]

theorem writable_targetFields {type detail : String} (hdetail : "type" ≠ detail) {v : Value}
    (h : v.Writable) : (Value.dict (targetFields type detail v).toEntries).Writable := by
  have hname : "type" ∉ Table.keys [(detail, v)] := by
    rw [Table.keys_cons, List.mem_cons, not_or]
    exact ⟨hdetail, List.not_mem_nil⟩
  exact .cons hname (.str type) (.cons List.not_mem_nil h .empty)

/-- **A target that comes from data that has a text is read back from its wire form**, a
dictionary. -/
theorem Target.exists_readsBack {t : Target} (h : t.Decoded Value.Writable) :
    ∃ fields : Table Value, t.toValue = .ok (.dict fields.toEntries) ∧
      (Value.dict fields.toEntries).Writable ∧ readTarget (.dict fields.toEntries) = .good t := by
  cases t with
  | all => exact ⟨[("type", .str "all")], rfl, .cons List.not_mem_nil (.str "all") .empty, rfl⟩
  | node id =>
    cases id with
    | none =>
      exact ⟨targetFields "specified_node" "nodeId" .null, rfl,
        writable_targetFields (by decide) .null, rfl⟩
    | some s =>
      refine ⟨targetFields "specified_node" "nodeId" (.str s), rfl,
        writable_targetFields (by decide) (.str s), ?_⟩
      show (identifierText (some (.str s))).map Target.node = _
      rw [identifierText_of_nonEmpty (h s rfl)]
      rfl
  | conditions root =>
    cases root with
    | none =>
      exact ⟨targetFields "conditions" "conditions" .null, rfl,
        writable_targetFields (by decide) .null, rfl⟩
    | some slot =>
      obtain ⟨c, rfl, hc⟩ := h slot rfl
      obtain ⟨w, hw⟩ := Condition.exists_readsBack hc
      refine ⟨targetFields "conditions" "conditions" w, ?_,
        writable_targetFields (by decide) hw.2.1, ?_⟩
      · rw [Target.toValue]
        simp only [conditionValue_holds hw]
        rfl
      · have hread := Schema.optional_eq_good hw.ne_null hw.2.2
        refine readTargetEntries_eq_good_iff.mpr ⟨⟨.conditions, none, some c⟩, rfl, rfl, ?_, rfl⟩
        show (Schema.optional readCondition w).under (.str "conditions") = _
        rw [hread]
        rfl

end DialPlan
