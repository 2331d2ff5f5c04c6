import DialPlan.Proofs.Record
import DialPlan.Proofs.Schema.Respelling
import DialPlan.Proofs.Value.Entries

/-!
# A target by itself and the target of a record

A target is read in two places: as a field of a record (`readRecord`) and by itself
(`decodeTarget`).  Either takes data or JSON text and leaves the rest to `readTarget`, and in either
place null and blank text mean all nodes.

What the two do with everything else is nearly the same.  But a target by itself is looked at again
once its text is read, and then whatever counts as false means all nodes.  For the empty object that
is what it means in a record, too.  All other values that count as false are *hollow*: none of them
is an object, so a record refuses them.

A number of too many digits comes between the two in text, where a record has an issue and a target
by itself breaks off, and breaks off both of them where a target is to put it into words, as the
name of its node.  `target_readings_agree_iff` says that these are the only differences, and which
way each of them goes.
-/

namespace DialPlan

/-! ## Setting an entry -/

namespace Entries

/-- Fields that go by other names are what they were. -/
theorem lookup_put_of_ne {name wire plain : String} (hwire : wire ≠ name) (hplain : plain ≠ name)
    (entries : Entries) (v : Value) :
    Schema.lookup (entries.put (.str name) v) wire plain = Schema.lookup entries wire plain := by
  rw [Schema.lookup, get?_put, get?_put, if_neg hwire, if_neg hplain, Schema.lookup]

end Entries

/-! ## Hollow values -/

/-- **What data holds**: JSON text that is not blank the value it is read as, all other data
itself. -/
inductive Value.Holds : Value → Value → Prop
  | itself {v : Value} (hdata : v.str? = none) : Holds v v
  | text {text : String} {w : Value} (hblank : Text.isBlankText text = false)
      (hread : Json.read text = .ok w) : Holds (.str text) w

/-- **Hollow values** count as false and are not the empty object. -/
def Value.IsHollow (v : Value) : Prop := v.truthy = false ∧ v ≠ .dict []

/-- **Data that holds a hollow value.**  Null does not count; the text of null does. -/
def HoldsHollow (x : Value) : Prop := x ≠ .null ∧ ∃ w, x.Holds w ∧ w.IsHollow

/-- A hollow value is no object, and so it is no target. -/
theorem Value.IsHollow.readTarget_eq {w : Value} (h : w.IsHollow) :
    readTarget w = .fail .notAModel := by
  obtain ⟨hfalse, hne⟩ := h
  cases w with
  | dict entries =>
    cases entries with
    | nil => exact absurd rfl hne
    | cons e entries => cases hfalse
  | _ => rfl

/-- **Text with a number of too many digits.** -/
def Value.IsOverlong (x : Value) (digits : Nat) : Prop :=
  ∃ text, x = .str text ∧ Text.isBlankText text = false ∧
    Json.read text = .error (.tooManyDigits digits)

/-- Data is null or blank, or it is text that is no JSON or has a number of too many digits, or it
holds a value. -/
theorem Value.holds_cases (x : Value) :
    (x = .null ∨ ∃ text, x = .str text ∧ Text.isBlankText text = true) ∨
      (∃ text, x = .str text ∧ Text.isBlankText text = false ∧
        Json.read text = .error .malformed) ∨
      (∃ digits, x.IsOverlong digits) ∨ x ≠ .null ∧ ∃ w, x.Holds w := by
  cases x with
  | null => exact Or.inl (Or.inl rfl)
  | str text =>
    cases hblank : Text.isBlankText text with
    | true => exact Or.inl (Or.inr ⟨text, rfl, hblank⟩)
    | false =>
      cases hread : Json.read text with
      | error flaw =>
        cases flaw with
        | malformed => exact Or.inr (Or.inl ⟨text, rfl, hblank, hread⟩)
        | tooManyDigits n =>
          exact Or.inr (Or.inr (Or.inl ⟨n, text, rfl, hblank, hread⟩))
      | ok w => exact Or.inr (Or.inr (Or.inr ⟨nofun, w, .text hblank hread⟩))
  | _ => exact Or.inr (Or.inr (Or.inr ⟨nofun, _, .itself rfl⟩))

/-- Text with a number of too many digits holds no value. -/
theorem Value.IsOverlong.not_holds {x w : Value} {digits : Nat} (h : x.IsOverlong digits) :
    ¬ x.Holds w := by
  obtain ⟨text, rfl, -, hread⟩ := h
  intro hw
  cases hw with
  | itself hdata => cases hdata
  | text _ hok => cases hread.symm.trans hok

/-! ## Targets without words -/

/-- **A target whose node is a number of too many digits**, and that is sound in all else. -/
inductive Value.AimsOverlong : Value → Prop
  | intro {entries : Entries} {n : Int} {conditions : Option Condition}
      (type : Schema.field entries "type" "type" readTargetType .all = .good .node)
      (node : Schema.optionalField entries "nodeId" "node_id" Schema.identifier =
        .good (some (.int n)))
      (hlong : hasNumeral n = false)
      (hconditions : Schema.optionalField entries "conditions" "conditions" readCondition =
        .good conditions) : AimsOverlong (.dict entries)

/-- **Data that holds a target whose node is a number of too many digits.** -/
def HoldsOverlongAim (x : Value) : Prop := x ≠ .null ∧ ∃ w, x.Holds w ∧ w.AimsOverlong

theorem Value.Holds.unique {x v w : Value} (hv : x.Holds v) (hw : x.Holds w) : v = w := by
  cases hv with
  | itself hdata =>
    cases hw with
    | itself _ => rfl
    | text _ _ => cases hdata
  | text _ hread =>
    cases hw with
    | itself hdata => cases hdata
    | text _ hagain => exact Except.ok.inj (hread.symm.trans hagain)

/-- An object that names a type counts as true. -/
theorem HoldsOverlongAim.not_hollow {x : Value} (h : HoldsOverlongAim x) : ¬ HoldsHollow x := by
  obtain ⟨-, w, hw, haim⟩ := h
  rintro ⟨-, v, hv, hfalse, hne⟩
  obtain rfl := hw.unique hv
  cases haim with
  | @intro entries =>
    cases entries with
    | nil => exact hne rfl
    | cons e entries => cases hfalse

theorem HoldsOverlongAim.not_overlong {x : Value} (h : HoldsOverlongAim x) :
    ¬ ∃ digits, x.IsOverlong digits := by
  rintro ⟨digits, hdigits⟩
  obtain ⟨-, w, hw, -⟩ := h
  exact hdigits.not_holds hw

/-- The words for what an identifier is are missing only for a number of too many digits. -/
theorem identifierText_eq_stuck_iff {v w : Value} (hv : Schema.identifier v = .good w)
    {f : Fault} {text : Option String} : identifierText (some w) = .stuck f text ↔
      ∃ n, w = .int n ∧ hasNumeral n = false ∧ f = .tooManyDigits none ∧ text = some "" := by
  rcases identifier_eq_good hv with ⟨s, rfl⟩ | ⟨n, rfl⟩
  · refine iff_of_false ?_ ?_
    · rw [identifierText, Value.asText_str]
      split <;> (intro h; cases h)
    · rintro ⟨n, hn, -⟩
      cases hn
  · rw [identifierText]
    split
    · next hzero =>
      obtain rfl : n = 0 := by simpa using hzero
      refine iff_of_false (fun h => by cases h) ?_
      rintro ⟨m, ⟨⟩, hlong, -⟩
      exact absurd hlong (by decide +kernel)
    · cases hwords : Value.asText (.int n) with
      | ok s =>
        refine iff_of_false (fun h => by cases h) ?_
        rintro ⟨m, ⟨⟩, hlong, -⟩
        obtain ⟨hprint, -⟩ := Value.asText_eq_ok_iff.mp hwords
        rw [Value.printable_int, hlong] at hprint
        cases hprint
      | error g =>
        obtain ⟨hlong, rfl⟩ := Value.asText_eq_error_iff.mp hwords
        rw [Value.printable_int] at hlong
        constructor
        · rintro ⟨⟩
          exact ⟨n, rfl, hlong, rfl, rfl⟩
        · rintro ⟨_, -, -, rfl, rfl⟩
          rfl

theorem settled_readTargetType (v : Value) : (readTargetType v).Settled := by
  unfold readTargetType
  split
  · exact Schema.settled_oneOf _ v
  · exact Checked.settled_good _

theorem readTargetEntries_eq_stuck_iff {entries : Entries} {f : Fault} {t : Target} :
    readTargetEntries entries = .stuck f t ↔ ∃ p : TargetParts,
      Schema.field entries "type" "type" readTargetType .all = .good p.type ∧
      Schema.optionalField entries "nodeId" "node_id" Schema.identifier = .good p.nodeId ∧
      Schema.optionalField entries "conditions" "conditions" readCondition = .good p.conditions ∧
      p.assemble = .stuck f t := by
  have htype : (Schema.field entries "type" "type" readTargetType .all).Settled :=
    Schema.settled_field settled_readTargetType
  have hnode : (Schema.optionalField entries "nodeId" "node_id" Schema.identifier).Settled :=
    Schema.settled_optionalField Schema.settled_identifier
  have hroot : (Schema.optionalField entries "conditions" "conditions" readCondition).Settled :=
    Schema.settled_optionalField settled_readCondition
  rw [readTargetEntries,
    (((htype.map_apply TargetParts.mk).seq hnode).seq hroot).andThen_eq_stuck_iff]
  simp only [Checked.seq_eq_good_iff, Checked.map_apply_eq_good_iff]
  constructor
  · rintro ⟨_, ⟨_, conditions, ⟨_, nodeId, ⟨type, htype, rfl⟩, hnode, rfl⟩, hconditions, rfl⟩,
      hassemble⟩
    exact ⟨_, htype, hnode, hconditions, hassemble⟩
  · rintro ⟨p, htype, hnode, hconditions, hassemble⟩
    exact ⟨p, ⟨_, _, ⟨_, _, ⟨_, htype, rfl⟩, hnode, rfl⟩, hconditions, rfl⟩, hassemble⟩

/-- **Reading a target gets stuck** only on a node that cannot be put into words. -/
theorem exists_readTarget_eq_stuck_iff {w : Value} {f : Fault} :
    (∃ t, readTarget w = .stuck f t) ↔ w.AimsOverlong ∧ f = .tooManyDigits none := by
  constructor
  · rintro ⟨t, ht⟩
    cases w with
    | dict entries =>
      obtain ⟨⟨type, nodeId, conditions⟩, htype, hnode, hconditions, hassemble⟩ :=
        readTargetEntries_eq_stuck_iff.mp ht
      cases type with
      | node =>
        obtain ⟨text, htext, -⟩ := Checked.map_eq_stuck_iff.mp hassemble
        cases nodeId with
        | none => cases htext
        | some u =>
          obtain ⟨v, -, hv⟩ := Schema.exists_of_optionalField hnode
          obtain ⟨n, rfl, hlong, rfl, -⟩ := (identifierText_eq_stuck_iff hv).mp htext
          exact ⟨.intro htype hnode hlong hconditions, rfl⟩
      | _ => cases hassemble
    | _ => cases ht
  · rintro ⟨⟨htype, hnode, hlong, hconditions⟩, rfl⟩
    obtain ⟨v, -, hv⟩ := Schema.exists_of_optionalField hnode
    refine ⟨.node (some ""), readTargetEntries_eq_stuck_iff.mpr
      ⟨⟨_, _, _⟩, htype, hnode, hconditions, Checked.map_eq_stuck_iff.mpr ⟨some "", ?_, rfl⟩⟩⟩
    exact (identifierText_eq_stuck_iff hv).mpr ⟨_, rfl, hlong, rfl, rfl⟩

/-! ## Readings and what is reported of them -/

/-- **Data is refused** as invalid. -/
def RefusesData {α : Type} (o : Outcome α) : Prop :=
  ∃ r, o = Outcome.refuse r ∧ r.report.cls = .packValidation

/-- **An outcome reports a reading**: it hands on what was read, breaks off where the reading is
stuck, and refuses what has issues. -/
inductive Checked.ReportedBy {α : Type} : Checked α → Outcome α → Prop
  | good (a : α) : ReportedBy (.good a) (.ok a)
  | stuck {f : Fault} {a : α} : ReportedBy (.stuck f a) (.error (.fault f))
  | bad {issues : List Issue} {o : Outcome α} (h : RefusesData o) : ReportedBy (.bad issues) o

theorem Checked.reportedBy_toOutcome {α : Type} (c : Checked α) (what : String)
    (context : Entries) : c.ReportedBy (c.toOutcome what context) := by
  cases c with
  | good a => exact .good a
  | stuck f a => exact .stuck
  | bad issues => exact .bad ⟨_, rfl, rfl⟩

namespace Checked.ReportedBy

variable {α : Type} {o : Outcome α}

theorem eq_ok {a : α} (h : (Checked.good a).ReportedBy o) : o = .ok a := by
  cases h
  rfl

theorem eq_fault {f : Fault} {a : α} (h : (Checked.stuck f a).ReportedBy o) :
    o = .error (.fault f) := by
  cases h
  rfl

theorem refuses {issues : List Issue} (h : (Checked.bad issues : Checked α).ReportedBy o) :
    RefusesData o := by
  cases h with
  | bad h => exact h

end Checked.ReportedBy

/-- What a record makes of the target it gives. -/
def readTargetField : Value → Checked Target := readEmbedded allTargetValue readTarget

theorem Value.Holds.readTargetField_eq {x w : Value} (h : x.Holds w) (hnull : x ≠ .null) :
    readTargetField x = readTarget w := by
  cases h with
  | text hblank hread => exact readEmbedded_text hblank hread
  | itself hdata =>
    cases x with
    | null => exact absurd rfl hnull
    | str text => cases hdata
    | _ => rfl

theorem Value.Holds.decodeTarget_eq {x w : Value} (h : x.Holds w) :
    decodeTarget x =
      (readTarget (if w.truthy then w else .dict [])).toOutcome "target" [] := by
  cases h with
  | text hblank hread =>
    simp only [decodeTarget, hblank, Bool.false_eq_true, if_false, readJson, hread, ok_bind]
  | itself hdata =>
    cases x with
    | str text => cases hdata
    | _ => rfl

/-- A hollow value is an issue of a record and means all nodes by itself. -/
theorem HoldsHollow.readings {x : Value} (h : HoldsHollow x) :
    (∃ issues, readTargetField x = .bad issues) ∧ decodeTarget x = .ok .all := by
  obtain ⟨hnull, w, hw, hhollow⟩ := h
  rw [hw.readTargetField_eq hnull, hhollow.readTarget_eq, hw.decodeTarget_eq, hhollow.1]
  exact ⟨⟨_, rfl⟩, rfl⟩

/-- Overlong text is an issue of a record and breaks off a target by itself. -/
theorem Value.IsOverlong.readings {x : Value} {digits : Nat} (h : x.IsOverlong digits) :
    (∃ issues, readTargetField x = .bad issues) ∧
      decodeTarget x = .error (.fault (.tooManyDigits (some digits))) := by
  obtain ⟨text, rfl, hblank, hread⟩ := h
  refine ⟨?_, ?_⟩
  · simp only [readTargetField, readEmbedded, hblank, Bool.false_eq_true, if_false, hread]
    exact ⟨_, rfl⟩
  · simp only [decodeTarget, hblank, Bool.false_eq_true, if_false, readJson, hread]
    rfl

/-- **A target by itself is read as in a record**, unless a hollow value is in its place or its text
is overlong. -/
theorem reportedBy_decodeTarget {x : Value} (hhollow : ¬ HoldsHollow x)
    (hlong : ¬ ∃ digits, x.IsOverlong digits) :
    (readTargetField x).ReportedBy (decodeTarget x) := by
  rcases x.holds_cases with (rfl | ⟨text, rfl, hblank⟩) | ⟨text, rfl, hblank, hread⟩ | hx |
    ⟨hnull, w, hw⟩
  · exact .good Target.all
  · simp only [readTargetField, readEmbedded, decodeTarget, hblank, if_true]
    exact .good Target.all
  · simp only [readTargetField, readEmbedded, decodeTarget, hblank, Bool.false_eq_true, if_false,
      readJson, hread]
    exact .bad ⟨_, rfl, rfl⟩
  · exact absurd hx hlong
  · -- the second look changes nothing
    have hsame : (if w.truthy then w else .dict []) = w := by
      split
      · rfl
      · next hfalse =>
        by_contra hne
        exact hhollow ⟨hnull, w, hw, Bool.not_eq_true _ ▸ hfalse, Ne.symm hne⟩
    rw [hw.readTargetField_eq hnull, hw.decodeTarget_eq, hsame]
    exact Checked.reportedBy_toOutcome _ _ _

/-- The field of a record gets stuck on the same data. -/
theorem exists_readTargetField_eq_stuck_iff {x : Value} {f : Fault} :
    (∃ t, readTargetField x = .stuck f t) ↔ HoldsOverlongAim x ∧ f = .tooManyDigits none := by
  rcases x.holds_cases with (rfl | ⟨text, rfl, hblank⟩) | ⟨text, rfl, hblank, hread⟩ | ⟨_, hx⟩ |
    ⟨hnull, w, hw⟩
  · refine iff_of_false ?_ fun h => h.1.1 rfl
    rintro ⟨t, ht⟩
    cases ht
  · refine iff_of_false ?_ ?_
    · simp only [readTargetField, readEmbedded, hblank, if_true]
      rintro ⟨t, ht⟩
      cases ht
    · rintro ⟨⟨-, w, hw, -⟩, -⟩
      cases hw with
      | itself hdata => cases hdata
      | text hnot _ => cases hnot.symm.trans hblank
  · refine iff_of_false ?_ ?_
    · simp only [readTargetField, readEmbedded, hblank, Bool.false_eq_true, if_false, hread]
      rintro ⟨t, ht⟩
      cases ht
    · rintro ⟨⟨-, w, hw, -⟩, -⟩
      cases hw with
      | itself hdata => cases hdata
      | text _ hok => cases hread.symm.trans hok
  · obtain ⟨⟨issues, hissues⟩, -⟩ := hx.readings
    refine iff_of_false ?_ fun h => ?_
    · rw [hissues]
      rintro ⟨t, ht⟩
      cases ht
    · obtain ⟨⟨-, w, hw, -⟩, -⟩ := h
      exact hx.not_holds hw
  · rw [hw.readTargetField_eq hnull, exists_readTarget_eq_stuck_iff]
    refine and_congr_left' ⟨fun h => ⟨hnull, w, hw, h⟩, ?_⟩
    rintro ⟨-, u, hu, h⟩
    rwa [hw.unique hu]

/-- Where the field of a record gets stuck, a target by itself breaks off. -/
theorem HoldsOverlongAim.readings {x : Value} (h : HoldsOverlongAim x) :
    (∃ t, readTargetField x = .stuck (.tooManyDigits none) t) ∧
      decodeTarget x = .error (.fault (.tooManyDigits none)) := by
  obtain ⟨t, ht⟩ := exists_readTargetField_eq_stuck_iff.mpr ⟨h, rfl⟩
  have hdecoded := reportedBy_decodeTarget h.not_hollow h.not_overlong
  rw [ht] at hdecoded
  exact ⟨⟨t, ht⟩, hdecoded.eq_fault⟩

/-! ## The target of a record -/

section Records

variable {now : DateTime} {entries : Entries} {x : Value}

/-- **The parts of a record whose other fields are sound** are those with another target, with the
target that is read off its field. -/
theorem readRecordParts_eq_map {p : RecordParts} {v : Value}
    (hx : Schema.lookup entries "targetConfig" "target_config" = some x)
    (hothers : readRecordParts (entries.put (.str "targetConfig") v) = .good p) :
    readRecordParts entries = ((readTargetField x).under (.str "targetConfig")).map
      fun t => { p with target := t } := by
  obtain ⟨hid, hsubscription, hname, henabled, hsortOrder, hsort, hchain, -, hcreated, hupdated⟩ :=
    readRecordParts_eq_good_iff.mp hothers
  have hkept : ∀ {wire plain : String}, wire ≠ "targetConfig" → plain ≠ "targetConfig" →
      Schema.lookup entries wire plain =
        Schema.lookup (entries.put (.str "targetConfig") v) wire plain :=
    fun hwire hplain => (Entries.lookup_put_of_ne hwire hplain entries v).symm
  have htarget : Schema.field entries "targetConfig" "target_config"
      (readEmbedded allTargetValue readTarget) .all =
        (readTargetField x).under (.str "targetConfig") := by
    rw [Schema.field, hx]
    rfl
  simp only [readRecordParts, Schema.optionalField]
  rw [Schema.required_of_lookup_eq (hkept (by decide) (by decide)) hid,
    Schema.required_of_lookup_eq (hkept (by decide) (by decide)) hsubscription,
    Schema.field_of_lookup_eq (hkept (by decide) (by decide)) hname,
    Schema.field_of_lookup_eq (hkept (by decide) (by decide)) henabled,
    Schema.field_of_lookup_eq (hkept (by decide) (by decide)) hsortOrder,
    Schema.field_of_lookup_eq (hkept (by decide) (by decide)) hsort,
    Schema.field_of_lookup_eq (hkept (by decide) (by decide)) hchain,
    Schema.field_of_lookup_eq (hkept (by decide) (by decide)) hcreated,
    Schema.field_of_lookup_eq (hkept (by decide) (by decide)) hupdated, htarget]
  cases (readTargetField x).under (.str "targetConfig") <;> rfl

/-- **A record has the target that is read off its field**, in what is otherwise the rule it would
be with another one. -/
theorem reportedBy_readRecord {r : Rule} {v : Value}
    (hx : Schema.lookup entries "targetConfig" "target_config" = some x)
    (hothers : readRecord now (.dict (entries.put (.str "targetConfig") v)) = .ok r) :
    ((readTargetField x).map fun t => { r with target := .holds t }).ReportedBy
      (readRecord now (.dict entries)) := by
  obtain ⟨others, p, hdict, hparts, rfl⟩ := readRecord_eq_ok_iff.mp hothers
  cases hdict
  have hown := readRecordParts_eq_map hx hparts
  simp only [readRecord, Node.entriesOf, Outcome.ofFault_ok, ok_bind, hown]
  cases readTargetField x with
  | good t => exact .good _
  | stuck f t => exact .stuck
  | bad issues => exact .bad ⟨_, rfl, rfl⟩

end Records

/-! ## Agreement -/

/-- **Both readings of a target agree**: they have the same target, or both refuse it. -/
def AgreeOnTarget (decoded : Outcome Target) (record : Outcome Rule) : Prop :=
  (∃ t r, decoded = .ok t ∧ record = .ok r ∧ r.target = .holds t) ∨
    RefusesData decoded ∧ RefusesData record

theorem not_agreeOnTarget_of_fault {f : Fault} {record : Outcome Rule} :
    ¬ AgreeOnTarget (.error (.fault f)) record := by
  rintro (⟨t, r, hok, -⟩ | ⟨⟨r, hrefused, -⟩, -⟩)
  · cases hok
  · cases hrefused

theorem not_agreeOnTarget_of_refused {t : Target} {record : Outcome Rule}
    (h : RefusesData record) : ¬ AgreeOnTarget (.ok t) record := by
  obtain ⟨refusal, rfl, -⟩ := h
  rintro (⟨_, r, -, hread, -⟩ | ⟨⟨_, hdecoded, -⟩, -⟩)
  · cases hread
  · cases hdecoded

/-- Two reports of one reading agree, unless it is stuck. -/
theorem agreeOnTarget_of_reportedBy {c : Checked Target} {decoded : Outcome Target}
    {record : Outcome Rule} {r : Rule} (hdecoded : c.ReportedBy decoded)
    (hrecord : (c.map fun t => { r with target := .holds t }).ReportedBy record)
    (hwords : ∀ f t, c ≠ .stuck f t) : AgreeOnTarget decoded record := by
  cases c with
  | good t => exact Or.inl ⟨t, _, hdecoded.eq_ok, hrecord.eq_ok, rfl⟩
  | stuck f t => exact absurd rfl (hwords f t)
  | bad issues => exact Or.inr ⟨hdecoded.refuses, hrecord.refuses⟩

/-- **The two readings of a target agree except on hollow values and overlong numbers.**  Take a
record that would be read as a rule if its target were null.  Its target is the one that the same
data is decoded to by itself, or both are refused, with three exceptions.  Data that holds a hollow
value means all nodes by itself, while the record that has it is refused.  Text with a number of too
many digits breaks off by itself, while the record that has it is refused.  And a target whose node
is a number of too many digits breaks off both. -/
theorem target_readings_agree_iff {now : DateTime} {entries : Entries} {r : Rule} {x : Value}
    (hx : Schema.lookup entries "targetConfig" "target_config" = some x)
    (hothers : readRecord now (.dict (entries.put (.str "targetConfig") .null)) = .ok r) :
    (AgreeOnTarget (decodeTarget x) (readRecord now (.dict entries)) ↔
      ¬ HoldsHollow x ∧ (¬ ∃ digits, x.IsOverlong digits) ∧ ¬ HoldsOverlongAim x) ∧
    (HoldsHollow x →
      decodeTarget x = .ok .all ∧ RefusesData (readRecord now (.dict entries))) ∧
    (∀ digits, x.IsOverlong digits →
      decodeTarget x = .error (.fault (.tooManyDigits (some digits))) ∧
        RefusesData (readRecord now (.dict entries))) ∧
    (HoldsOverlongAim x →
      decodeTarget x = .error (.fault (.tooManyDigits none)) ∧
        readRecord now (.dict entries) = .error (.fault (.tooManyDigits none))) := by
  have hrecord := reportedBy_readRecord hx hothers
  have hdiffer : HoldsHollow x →
      decodeTarget x = .ok .all ∧ RefusesData (readRecord now (.dict entries)) := by
    intro h
    obtain ⟨⟨issues, hissues⟩, hdecoded⟩ := h.readings
    rw [hissues] at hrecord
    exact ⟨hdecoded, hrecord.refuses⟩
  have hlong : ∀ digits, x.IsOverlong digits →
      decodeTarget x = .error (.fault (.tooManyDigits (some digits))) ∧
        RefusesData (readRecord now (.dict entries)) := by
    intro digits h
    obtain ⟨⟨issues, hissues⟩, hdecoded⟩ := h.readings
    rw [hissues] at hrecord
    exact ⟨hdecoded, hrecord.refuses⟩
  have haim : HoldsOverlongAim x →
      decodeTarget x = .error (.fault (.tooManyDigits none)) ∧
        readRecord now (.dict entries) = .error (.fault (.tooManyDigits none)) := by
    intro h
    obtain ⟨⟨t, ht⟩, hdecoded⟩ := h.readings
    rw [ht] at hrecord
    exact ⟨hdecoded, hrecord.eq_fault⟩
  refine ⟨⟨fun hagree => ⟨fun h => ?_, ?_, fun h => ?_⟩, ?_⟩, hdiffer, hlong, haim⟩
  · obtain ⟨hall, hrefused⟩ := hdiffer h
    rw [hall] at hagree
    exact not_agreeOnTarget_of_refused hrefused hagree
  · rintro ⟨digits, h⟩
    rw [(hlong digits h).1] at hagree
    exact not_agreeOnTarget_of_fault hagree
  · rw [(haim h).1] at hagree
    exact not_agreeOnTarget_of_fault hagree
  · rintro ⟨hhollow, hshort, hnamed⟩
    refine agreeOnTarget_of_reportedBy (reportedBy_decodeTarget hhollow hshort) hrecord ?_
    intro f t ht
    exact hnamed (exists_readTargetField_eq_stuck_iff.mp ⟨t, ht⟩).1

/-- A record with little else than this target. -/
def recordAimedAt (target : Value) : Entries := [
  (.str "id", .str "r"),
  (.str "subscriptionId", .str "S"),
  (.str "targetConfig", target)]

theorem put_recordAimedAt (target v : Value) :
    (recordAimedAt target).put (.str "targetConfig") v = recordAimedAt v := by
  simp [recordAimedAt, Entries.put, Value.same_str_iff]

/-- But for the target there is nothing wrong with the record. -/
theorem exists_readRecord_recordAimedAt (target : Value) : ∃ r, readRecord default
    (.dict ((recordAimedAt target).put (.str "targetConfig") .null)) = .ok r := by
  rw [put_recordAimedAt]
  exact ⟨_, rfl⟩

/-- The text of null is no blank text. -/
theorem target_readings_agree_iff_null_text :
    ¬ AgreeOnTarget (decodeTarget (.str "null"))
        (readRecord default (.dict (recordAimedAt (.str "null")))) ∧
      decodeTarget (.str "null") = .ok .all ∧
        RefusesData (readRecord default (.dict (recordAimedAt (.str "null")))) := by
  have hhollow : HoldsHollow (.str "null") := ⟨nofun, .null, .text rfl rfl, rfl, nofun⟩
  obtain ⟨r, hothers⟩ := exists_readRecord_recordAimedAt (.str "null")
  have hx : Schema.lookup (recordAimedAt (.str "null")) "targetConfig" "target_config" =
      some (.str "null") := rfl
  obtain ⟨hagree, hdiffer, -⟩ := target_readings_agree_iff hx hothers
  exact ⟨fun h => (hagree.mp h).1 hhollow, hdiffer hhollow⟩

/-- **False is no target in a record and means all nodes by itself.**  The record is otherwise
sound. -/
theorem target_readings_differ_false :
    Schema.lookup (recordAimedAt (.bool false)) "targetConfig" "target_config" =
        some (.bool false) ∧
      (∃ r, readRecord default
        (.dict ((recordAimedAt (.bool false)).put (.str "targetConfig") .null)) = .ok r) ∧
      ¬ AgreeOnTarget (decodeTarget (.bool false))
        (readRecord default (.dict (recordAimedAt (.bool false)))) := by
  refine ⟨rfl, exists_readRecord_recordAimedAt _, ?_⟩
  rintro (⟨t, r, -, hread, -⟩ | ⟨⟨_, hdecoded, -⟩, -⟩)
  · cases hread
  · cases hdecoded

end DialPlan
