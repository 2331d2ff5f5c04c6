import DialPlan.Proofs.Clash
import DialPlan.Proofs.Pack.RuleIds
import DialPlan.Proofs.Rule.Breakdown

/-!
# How loading a pack fails

Loading refuses what it does not accept with an error of the package: the text, the version, the
shape of the data, the template file, its groups, the templates and the rules (`Packaged`).  Some
things it does not guard against, and there a fault gets out (`PackBreaks`): a number of too many
digits where words are to be made of it, a template path that no file can have, a template file that
is no text, template data of another shape than it is used in, and a condition whose check breaks
off.
-/

namespace DialPlan

/-- **An error of the package.** -/
def Refusal.OfPackage (r : Refusal) : Prop :=
  r.report.cls ∈ [.packLoad, .packValidation, .packVersion]

/-- **An operation that is refused with errors of the package only.** -/
inductive Packaged {α : Type} : Outcome α → Prop
  | answer (a : α) : Packaged (.ok a)
  | fault (f : Fault) : Packaged (.error (.fault f))
  | refusal {r : Refusal} : r.OfPackage → Packaged (Outcome.refuse r)

namespace Packaged

variable {α β : Type}

theorem ofFault (x : Except Fault α) : Packaged (Outcome.ofFault x) := by
  cases x with
  | ok a => exact .answer a
  | error f => exact .fault f

/-- **One step after the other.** -/
theorem bind {x : Outcome α} {f : α → Outcome β} (hx : Packaged x) (hf : ∀ a, Packaged (f a)) :
    Packaged (x >>= f) := by
  cases hx with
  | answer a => exact hf a
  | fault f => exact .fault f
  | refusal hr => exact .refusal hr

theorem map {x : Outcome α} {f : α → β} (hx : Packaged x) : Packaged (f <$> x) := by
  cases hx with
  | answer a => exact .answer (f a)
  | fault f => exact .fault f
  | refusal hr => exact .refusal hr

end Packaged

/-! ## Templates of packs -/

namespace ProxyGroup

theorem packaged_refuseBadPattern {α : Type} (name w : Value) (read : Except Fault α) :
    Packaged (refuseBadPattern name w read) := by
  unfold refuseBadPattern
  split
  · exact .answer _
  · split
    · refine (Packaged.ofFault _).bind fun _ => .refusal ?_
      simp [Refusal.OfPackage, Refusal.report]
    · exact .fault _
  · exact .fault _

theorem packaged_readFilter (name w : Value) : Packaged (readFilter name w) := by
  unfold readFilter
  split
  · exact (packaged_refuseBadPattern _ _ _).map
  · exact (packaged_refuseBadPattern _ _ _).map
  · split <;> exact .fault _

theorem packaged_ofEntries (index : Nat) (entries : Entries) :
    Packaged (ofEntries index entries) := by
  cases hname : present? entries "name" with
  | none =>
    rw [ofEntries, hname]
    exact .refusal (by simp [Refusal.OfPackage, Refusal.report])
  | some name =>
    rw [ofEntries_eq index hname]
    have hfilter : Packaged (filterOf name (present? entries "filter")) := by
      cases present? entries "filter" with
      | none => exact .answer none
      | some w => exact (packaged_readFilter name w).map
    exact hfilter.bind fun _ => (Packaged.ofFault _).bind fun _ => .answer _

theorem packaged_readItems (index : Nat) (items : List Value) :
    Packaged (readItems index items) := by
  induction items generalizing index with
  | nil => exact .answer []
  | cons item items ih =>
    cases item with
    | dict entries =>
      exact (packaged_ofEntries index entries).bind fun _ => (ih (index + 1)).bind
        fun _ => .answer _
    | _ => exact .refusal (by simp [Refusal.OfPackage, Refusal.report])

theorem packaged_ofText (s : String) : Packaged (ofText s) := by
  unfold ofText readAll
  split
  · split
    · exact .answer []
    · split
      · exact .answer []
      · exact (Packaged.ofFault _).bind fun items => packaged_readItems 0 items
    · exact .refusal (by simp [Refusal.OfPackage, Refusal.report])
  · exact .refusal (by simp [Refusal.OfPackage, Refusal.report])
  · exact .fault _

end ProxyGroup

/-! ## Parts of packs -/

namespace PackParts

variable {entries : Entries} {p : PackParts}

theorem typed_templates (h : readPackEntries entries = .good p) : ∀ e ∈ p.templates, e.2.Typed := by
  refine Schema.of_field (P := fun t => ∀ e ∈ t, e.2.Typed) (fields_of_readPackEntries h).1
    nofun fun w _ hw e he => ?_
  obtain ⟨item, hitem⟩ := Schema.exists_of_mem_table hw e he
  exact typed_of_readHop hitem

theorem typed_of_readPackRule {r : PackRule} (h : readPackRule entries = .good r) :
    (∀ hop ∈ r.chain, hop.Typed) ∧ r.target.Typed := by
  obtain ⟨hchain, htarget⟩ := fields_of_readPackRule h
  constructor
  · refine Schema.of_field (P := fun hops => ∀ hop ∈ hops, hop.Typed) hchain nofun
      fun w _ hw hop hhop => ?_
    obtain ⟨item, hitem⟩ := Schema.exists_of_mem_list hw hop hhop
    exact typed_of_readHop hitem
  · exact Schema.of_field htarget trivial fun w _ hw => typed_of_readTarget hw

theorem typed_rules (h : readPackEntries entries = .good p) :
    ∀ r ∈ p.rules, (∀ hop ∈ r.chain, hop.Typed) ∧ r.target.Typed := by
  refine Schema.of_field
    (P := fun rules => ∀ r ∈ rules, (∀ hop ∈ r.chain, hop.Typed) ∧ r.target.Typed)
    (fields_of_readPackEntries h).2 nofun fun w _ hw r hr => ?_
  obtain ⟨item, hitem⟩ := Schema.exists_of_mem_list hw r hr
  cases item with
  | dict entries => exact typed_of_readPackRule hitem
  | _ => cases hitem

end PackParts

namespace Pack

open Outcome

variable {now : DateTime} {strict : Bool} {files : Files} {source : Option String} {base : Path}
  {groups : List TemplateGroup} {p : PackParts}

theorem typed_knownTemplates (h : ∀ e ∈ p.templates, e.2.Typed) :
    ∀ e ∈ knownTemplates groups p, e.2.Typed := by
  refine Table.forall_mem_merge (Table.forall_mem_merge nofun ?_) h
  intro e he
  obtain ⟨g, -, rfl⟩ := List.mem_map.mp he
  exact ⟨nofun, Value.printable_null, nofun⟩

/-- **The conditions that the check of a pack looks into**: those of the templates and of the
rules. -/
def examined (groups : List TemplateGroup) (p : PackParts) : List Condition :=
  (knownTemplates groups p).values.flatMap Hop.examined ++
    p.rules.flatMap fun r => r.chain.flatMap Hop.examined ++ r.target.examined

theorem breaksOff_templateErrors_iff {v : Vocabulary} {templates : Table Hop}
    (htyped : ∀ e ∈ templates, e.2.Typed) :
    BreaksOff (templateErrors v templates) ↔
      ∃ c ∈ templates.values.flatMap Hop.examined, v.ConditionBreaks c := by
  induction templates with
  | nil => simp [templateErrors, Table.values]
  | cons e templates ih =>
    obtain ⟨name, hop⟩ := e
    obtain ⟨hhop, htyped⟩ := List.forall_mem_cons.mp htyped
    have hsingle : BreaksOff (v.checkChain [.holds hop]) ↔
        ∃ c ∈ hop.examined, v.ConditionBreaks c := by
      simpa using v.breaksOff_checkChain_iff (List.forall_mem_singleton.mpr hhop)
    rw [templateErrors, breaksOff_both_iff, ih htyped, hsingle]
    simp [Table.values, or_and_right, exists_or]

theorem breaksOff_rulesErrors_iff {v : Vocabulary} {rules : List Rule} :
    BreaksOff (rulesErrors v rules) ↔ ∃ r ∈ rules, BreaksOff (v.checkRule r) := by
  induction rules with
  | nil => simp [rulesErrors]
  | cons r rules ih =>
    rw [rulesErrors, breaksOff_both_iff, ih, Vocabulary.ruleErrors, breaksOff_map_iff]
    simp

theorem breaksOff_rulesOf_iff {v : Vocabulary} {subscription : String} {rules : List PackRule}
    (htyped : ∀ r ∈ rules, (∀ hop ∈ r.chain, hop.Typed) ∧ r.target.Typed) :
    BreaksOff (rulesErrors v (rulesOf now subscription rules)) ↔
      ∃ c ∈ rules.flatMap fun r => r.chain.flatMap Hop.examined ++ r.target.examined,
        v.ConditionBreaks c := by
  have hcheck : ∀ i, ∀ r ∈ rules, BreaksOff (v.checkRule (ruleAt now subscription i r)) ↔
      ∃ c ∈ r.chain.flatMap Hop.examined ++ r.target.examined, v.ConditionBreaks c := fun i r hr =>
    v.breaksOff_checkRule_iff rfl rfl (htyped r hr).1 (htyped r hr).2
  rw [breaksOff_rulesErrors_iff]
  constructor
  · rintro ⟨_, hmem, hbreaks⟩
    obtain ⟨i, hi, rfl⟩ := List.mem_mapIdx.mp hmem
    obtain ⟨c, hc, hbreaks⟩ := (hcheck i _ (List.getElem_mem hi)).mp hbreaks
    exact ⟨c, List.mem_flatMap.mpr ⟨_, List.getElem_mem hi, hc⟩, hbreaks⟩
  · rintro ⟨c, hc, hbreaks⟩
    obtain ⟨r, hr, hc⟩ := List.mem_flatMap.mp hc
    obtain ⟨i, hi, rfl⟩ := List.getElem_of_mem hr
    exact ⟨_, List.mem_mapIdx.mpr ⟨i, hi, rfl⟩, (hcheck i _ hr).mpr ⟨c, hc, hbreaks⟩⟩

/-- **The check of a pack breaks off in a condition** of its templates or of its rules. -/
theorem faults_requireValid_iff {v : Vocabulary} {subscription : String}
    (htemplates : ∀ e ∈ p.templates, e.2.Typed)
    (hrules : ∀ r ∈ p.rules, (∀ hop ∈ r.chain, hop.Typed) ∧ r.target.Typed) :
    Faults (requireValid v (knownTemplates groups p) (rulesOf now subscription p.rules)) ↔
      ∃ c ∈ examined groups p, v.ConditionBreaks c := by
  unfold requireValid
  rw [faults_both_iff, breaksOff_templateErrors_iff (typed_knownTemplates htemplates),
    breaksOff_rulesOf_iff hrules]
  · simp only [examined, List.mem_append, or_and_right, exists_or]
  · -- past both checks, the errors they found make a refusal
    intro ofTemplates ofRules
    dsimp only
    split <;> simp

/-! ## Loading -/

/-- **What a file holds breaks a template off.** -/
inductive ContentBreaks : FileContent → Prop
  /-- It is no text. -/
  | bytes (complaint : String) : ContentBreaks (.undecodable complaint)
  /-- A scalar of the text stands for no value. -/
  | scalar {s : String} {f : Fault} : Yaml.read s = .error (.unusable f) → ContentBreaks (.text s)
  /-- The data has another shape than it is used in. -/
  | data {s : String} {w : Value} : Yaml.read s = .ok w → ProxyGroup.TemplateBreaks w →
    ContentBreaks (.text s)

/-- **Reading the template file of a pack breaks off**: no file can have its path, or what the file
holds breaks off. -/
inductive TemplateFileBreaks (files : Files) (base : Path) : Option String → Prop
  | path {t : String} {f : Fault} : t ≠ "" → pathFault? (base.join (.ofText t)) = some f →
    TemplateFileBreaks files base (some t)
  | content {t : String} {content : FileContent} : t ≠ "" →
    pathFault? (base.join (.ofText t)) = none →
      files.read? (base.join (.ofText t)) = some content → ContentBreaks content →
        TemplateFileBreaks files base (some t)

/-- **Loading a pack of these parts breaks off**, with the fault of putting its hops and targets
together, if there is one. -/
inductive LoadBreaks (files : Files) (base : Path) (p : PackParts) (late : Option Fault) : Prop
  /-- The subscription cannot be put into words. -/
  | subscription : p.subscription.printable = false → LoadBreaks files base p late
  | template : TemplateFileBreaks files base p.clashTemplate → LoadBreaks files base p late
  /-- A hop or a target names a node that cannot be put into words. -/
  | late {groups : List TemplateGroup} {f : Fault} :
    readClashGroups files base p.clashTemplate = .ok groups → late = some f →
      LoadBreaks files base p late
  /-- The check breaks off in a condition, under the vocabulary of the pack. -/
  | condition {groups : List TemplateGroup} {c : Condition} :
    readClashGroups files base p.clashTemplate = .ok groups → c ∈ examined groups p →
      (vocabularyOf p.vocabulary (knownTemplates groups p)).ConditionBreaks c →
        LoadBreaks files base p late

/-- **Loading the entries of a pack breaks off.** -/
inductive PackBreaks (strict : Bool) (files : Files) (base : Path) (entries : Entries) : Prop
  /-- A version that is asked for cannot be put into words. -/
  | version : strict = true →
    ((entries.get? "schema_version").getD (.str schemaVersion)).printable = false →
      PackBreaks strict files base entries
  | parts {parts : PackParts} {late : Option Fault} : requireVersion strict entries = .ok () →
    readParts entries = .ok (parts, late) → LoadBreaks files base parts late →
      PackBreaks strict files base entries

theorem contentBreaks_text_iff {s : String} :
    ContentBreaks (.text s) ↔ Faults (ProxyGroup.ofText s) := by
  rw [ProxyGroup.faults_ofText_iff]
  constructor
  · intro h
    cases h with
    | scalar hread => exact Or.inl ⟨_, hread⟩
    | data hread hbreaks => exact Or.inr ⟨_, hread, hbreaks⟩
  · rintro (⟨f, hread⟩ | ⟨w, hread, hbreaks⟩)
    · exact .scalar hread
    · exact .data hread hbreaks

theorem faults_readClashGroups_iff {template : Option String} :
    Faults (readClashGroups files base template) ↔ TemplateFileBreaks files base template := by
  unfold readClashGroups
  split
  · exact iff_of_false not_faults_ok nofun
  · refine iff_of_false not_faults_ok fun h => ?_
    cases h with
    | path hempty => exact hempty rfl
    | content hempty => exact hempty rfl
  · next t hempty =>
    dsimp only
    cases hpath : pathFault? (base.join (.ofText t)) with
    | some f => exact iff_of_true faults_error (.path hempty hpath)
    | none =>
      have hcontent : TemplateFileBreaks files base (some t) ↔
          ∃ content, files.read? (base.join (.ofText t)) = some content ∧
            ContentBreaks content := by
        constructor
        · intro h
          cases h with
          | path _ h => cases hpath.symm.trans h
          | content _ _ hread hbreaks => exact ⟨_, hread, hbreaks⟩
        · rintro ⟨content, hread, hbreaks⟩
          exact .content hempty hpath hread hbreaks
      rw [hcontent]
      dsimp only
      split
      · next s hread => simp [hread, contentBreaks_text_iff]
      · next complaint hread => simp [hread, ContentBreaks.bytes]
      · next hread => simp [hread]

theorem packaged_readClashGroups (template : Option String) :
    Packaged (readClashGroups files base template) := by
  unfold readClashGroups
  split
  · exact .answer []
  · exact .answer []
  · dsimp only
    split
    · exact .fault _
    · split
      · exact ProxyGroup.packaged_ofText _
      · exact .fault _
      · exact .refusal (by simp [Refusal.OfPackage, Refusal.report])

theorem packaged_requireValid (v : Vocabulary) (templates : Table Hop) (rules : List Rule) :
    Packaged (requireValid v templates rules) := by
  unfold requireValid
  refine (Packaged.ofFault _).bind fun _ => (Packaged.ofFault _).bind fun _ => ?_
  dsimp only
  split
  · exact .answer ()
  · exact .refusal (by simp [Refusal.OfPackage, Refusal.report])

theorem packaged_requireVersion (strict : Bool) (entries : Entries) :
    Packaged (requireVersion strict entries) := by
  unfold requireVersion
  cases strict with
  | false => exact .answer _
  | true =>
    refine (Packaged.ofFault _).bind fun compatible => ?_
    cases compatible with
    | false => exact .refusal (by simp [Refusal.OfPackage, Refusal.report])
    | true => exact .answer _

theorem faults_requireVersion_iff {entries : Entries} : Faults (requireVersion strict entries) ↔
    strict = true ∧
      ((entries.get? "schema_version").getD (.str schemaVersion)).printable = false := by
  unfold requireVersion isCompatible
  cases strict with
  | false => exact iff_of_false not_faults_ok nofun
  | true =>
    cases hversion : ((entries.get? "schema_version").getD (.str schemaVersion)).asText with
    | error f =>
      exact iff_of_true faults_error ⟨rfl, (Value.asText_eq_error_iff.mp hversion).1⟩
    | ok s =>
      have hprint := (Value.asText_eq_ok_iff.mp hversion).1
      refine iff_of_false ?_ (by simp [hprint])
      rw [if_pos rfl, ok_bind, Outcome.ofFault_ok, ok_bind]
      split
      · exact not_faults_refuse
      · exact not_faults_ok

theorem packaged_readParts (entries : Entries) : Packaged (readParts entries) := by
  unfold readParts
  split
  · exact .answer _
  · exact .answer _
  · exact .refusal (by simp [Refusal.OfPackage, Refusal.report])

/-- **Loading a value is refused with errors of the package only.** -/
theorem packaged_ofValue (v : Value) : Packaged (ofValue now strict files source base v) := by
  cases v with
  | dict entries =>
    refine (packaged_requireVersion strict entries).bind fun _ => ?_
    refine (packaged_readParts entries).bind fun ⟨parts, late⟩ => ?_
    refine (Packaged.ofFault _).bind fun _ => (packaged_readClashGroups _).bind fun _ => ?_
    cases late with
    | some f => exact .fault f
    | none => exact (packaged_requireValid _ _ _).bind fun _ => .answer _
  | _ => exact .refusal (by simp [Refusal.OfPackage, Refusal.report])

/-- Loading what has the version and the shape of a pack breaks off when loading its parts does. -/
theorem faults_ofValue_of_parts {entries : Entries} {late : Option Fault}
    (hversion : requireVersion strict entries = .ok ())
    (hparts : readParts entries = .ok (p, late)) :
    Faults (ofValue now strict files source base (.dict entries)) ↔
      LoadBreaks files base p late := by
  cases hprint : p.subscription.printable with
  | false =>
    refine iff_of_true ?_ (.subscription hprint)
    have hsubscription := Value.asText_eq_error_iff.mpr ⟨hprint, rfl⟩
    simp only [ofValue, hversion, hparts, hsubscription, ok_bind]
    exact faults_error
  | true =>
    rw [ofValue_of_parts hversion hparts hprint, faults_bind_iff, faults_readClashGroups_iff]
    rcases readParts_eq_ok_iff.mp hparts with ⟨hgood, rfl⟩ | ⟨f, -, rfl⟩
    · have hcheck : ∀ groups,
          Faults (requireValid (vocabularyOf p.vocabulary (knownTemplates groups p))
            (knownTemplates groups p) (rulesOf now p.subscription.text p.rules)) ↔
          ∃ c ∈ examined groups p,
            (vocabularyOf p.vocabulary (knownTemplates groups p)).ConditionBreaks c := fun groups =>
        faults_requireValid_iff (PackParts.typed_templates hgood) (PackParts.typed_rules hgood)
      constructor
      · rintro (htemplate | ⟨groups, hgroups, h⟩)
        · exact .template htemplate
        · rcases faults_bind_iff.mp h with h | ⟨_, -, h⟩
          · obtain ⟨c, hc, hbreaks⟩ := (hcheck groups).mp h
            exact .condition hgroups hc hbreaks
          · exact absurd h not_faults_ok
      · intro h
        cases h with
        | subscription h => cases hprint.symm.trans h
        | template htemplate => exact Or.inl htemplate
        | late _ h => cases h
        | condition hgroups hc hbreaks =>
          exact Or.inr ⟨_, hgroups,
            faults_bind_iff.mpr (Or.inl ((hcheck _).mpr ⟨_, hc, hbreaks⟩))⟩
    · -- once the template is read, the late fault is met
      constructor
      · rintro (htemplate | ⟨groups, hgroups, -⟩)
        · exact .template htemplate
        · exact .late hgroups rfl
      · intro h
        cases h with
        | subscription h => cases hprint.symm.trans h
        | template htemplate => exact Or.inl htemplate
        | late hgroups _ => exact Or.inr ⟨_, hgroups, faults_error⟩
        | condition hgroups _ _ => exact Or.inr ⟨_, hgroups, faults_error⟩

/-- **Loading a value breaks off** exactly when it is an object that does. -/
theorem faults_ofValue_iff {v : Value} : Faults (ofValue now strict files source base v) ↔
    ∃ entries, v = .dict entries ∧ PackBreaks strict files base entries := by
  cases v with
  | dict entries =>
    simp only [Value.dict.injEq, exists_eq_left']
    constructor
    · intro h
      rcases faults_bind_iff.mp h with hversion | ⟨⟨⟩, hversion, hsteps⟩
      · obtain ⟨hstrict, hprint⟩ := faults_requireVersion_iff.mp hversion
        exact .version hstrict hprint
      rcases faults_bind_iff.mp hsteps with hparts | ⟨⟨parts, late⟩, hparts, -⟩
      · -- the shape is refused, which is no fault
        unfold readParts at hparts
        split at hparts <;> simp at hparts
      · exact .parts hversion hparts ((faults_ofValue_of_parts hversion hparts).mp h)
    · intro h
      cases h with
      | version hstrict hprint =>
        exact faults_bind_iff.mpr (Or.inl (faults_requireVersion_iff.mpr ⟨hstrict, hprint⟩))
      | parts hversion hparts hbreaks =>
        exact (faults_ofValue_of_parts hversion hparts).mpr hbreaks
  | _ =>
    refine iff_of_false not_faults_refuse ?_
    rintro ⟨_, ⟨⟩, -⟩

/-- Text breaks off in a scalar that is YAML, and for a reason other than its value. -/
theorem broken_iff {format text : String} {f : Fault} :
    (if Text.lower format = "json" then Files.json text else Files.yaml text) =
        .error (.broken f) ↔
      Text.lower format ≠ "json" ∧ Yaml.read text = .error (.unusable f) ∧ f.kind ≠ .value := by
  split
  · next hjson =>
    refine iff_of_false ?_ fun h => h.1 hjson
    unfold Files.json
    split <;> simp
  · next hyaml =>
    unfold Files.yaml
    cases Yaml.read text with
    | ok v => simp
    | error flaw =>
      cases flaw with
      | malformed => simp
      | unusable g =>
        by_cases hkind : g.kind = .value
        · simp only [hkind, if_true, Except.error.injEq, reduceCtorEq, false_iff, not_and]
          rintro - ⟨⟩
          simp [hkind]
        · simp only [hkind, if_false, Except.error.injEq, Unread.broken.injEq]
          constructor
          · rintro rfl
            exact ⟨hyaml, rfl, hkind⟩
          · rintro ⟨-, ⟨⟩, -⟩
            rfl

/-- **Loading a pack fails with errors of the package, up to the faults that get out.**  One of them
gets out of the text itself, where a scalar of YAML stands for no value, and all others out of the
object that the text holds. -/
theorem load_packaged_or_breaks (now : DateTime) (strict : Bool) (files : Files)
    (format text : String) :
    Packaged (ofText now strict files format text) ∧
      (Faults (ofText now strict files format text) ↔
        (Text.lower format ≠ "json" ∧
          ∃ f, Yaml.read text = .error (.unusable f) ∧ f.kind ≠ .value) ∨
        ∃ entries, (if Text.lower format = "json" then Files.json text else Files.yaml text) =
          .ok (.dict entries) ∧ PackBreaks strict files {} entries) := by
  have hbroken : (Text.lower format ≠ "json" ∧
      ∃ f, Yaml.read text = .error (.unusable f) ∧ f.kind ≠ .value) ↔
        ∃ f, (if Text.lower format = "json" then Files.json text else Files.yaml text) =
          .error (.broken f) := by
    simp only [broken_iff, exists_and_left]
  rw [hbroken]
  unfold ofText
  cases (if Text.lower format = "json" then Files.json text else Files.yaml text) with
  | ok v => exact ⟨packaged_ofValue v, by simp [faults_ofValue_iff]⟩
  | error why =>
    cases why with
    | unreadable =>
      exact ⟨.refusal (by simp [Refusal.OfPackage, Refusal.report]), by simp⟩
    | broken f => exact ⟨.fault f, by simp⟩

/-- A filter that is a number ends the loading. -/
theorem not_only_package_errors :
    ¬ ∀ (now : DateTime) (strict : Bool) (files : Files) (format text : String),
      (∀ file ∈ files, ∀ s, file.2 = .text s → ∀ f, Yaml.read s ≠ .error (.unusable f)) →
        (∃ pack, ofText now strict files format text = .ok pack) ∨
          ∃ r, ofText now strict files format text = .error (.refused r) ∧ r.OfPackage := by
  intro h
  let group : Entries := [(.str "name", .str "a"), (.str "filter", .int 5)]
  let listing : Entries := [(.str "proxy-groups", .list [.dict group])]
  let template := "proxy-groups: [\x7bname: a, filter: 5\x7d]"
  let entries : Entries :=
    [(.str "subscription_id", .str "S"), (.str "clash_template", .str "c.yaml")]
  let text := "\x7b\"subscription_id\":\"S\",\"clash_template\":\"c.yaml\"\x7d"
  let parts : PackParts :=
    { subscription := .str "S", name := none, description := none, vocabulary := none
      templates := [], groups := [], clashTemplate := some "c.yaml", rules := [] }
  have hyaml : Files.yaml template = .ok (.dict listing) := by
    subst template listing group
    decide +kernel
  have htemplate : Yaml.read template = .ok (.dict listing) := Files.yaml_eq_ok_iff.mp hyaml
  have hread : Files.json text = .ok (.dict entries) := by
    subst text entries
    decide +kernel
  have hparts : readPackEntries entries = .good parts := by
    subst entries parts
    with_unfolding_all rfl
  have hversion : requireVersion true entries = .ok () := by
    subst entries
    decide +kernel
  have hgroup : ProxyGroup.EntryBreaks group := .filter rfl rfl (.noPattern rfl)
  have hlisted : Node.itemsOf (.list [.dict group]) = .ok ([] ++ .dict group :: []) := rfl
  have hbreaks : LoadBreaks [("c.yaml", template)] {} parts none :=
    .template (.content (by decide) (by decide +kernel) (by decide +kernel)
      (.data htemplate (.entry rfl hlisted (List.forall_mem_nil _) hgroup)))
  have hload : Faults (ofText default true [("c.yaml", template)] "json" text) := by
    have hformat : Text.lower "json" = "json" := by decide +kernel
    rw [ofText, if_pos hformat, hread]
    exact (faults_ofValue_of_parts hversion
      (readParts_eq_ok_iff.mpr (Or.inl ⟨hparts, rfl⟩))).mpr hbreaks
  obtain ⟨f, hf⟩ := hload
  have hassumed : ∀ file ∈ ([("c.yaml", template)] : Files), ∀ s, file.2 = .text s →
      ∀ f, Yaml.read s ≠ .error (.unusable f) := by
    intro file hfile s hs f hscalar
    cases List.mem_singleton.mp hfile
    cases hs
    cases htemplate.symm.trans hscalar
  rcases h default true _ "json" text hassumed with ⟨pack, hpack⟩ | ⟨r, hr, -⟩
  · cases hf.symm.trans hpack
  · cases hf.symm.trans hr

end Pack

end DialPlan
