import DialPlan.Clash
import DialPlan.Proofs.Outcome

/-!
# Where reading a Clash template breaks off

A template is data of any shape.  An entry without a name and a filter that is no pattern are
refused.  What is used without being looked at ends the reading instead: a filter that is neither a
text nor bytes or that has a mistake of another kind, anything without items that is gone through
item by item, and numbers of too many digits in the place of words (`faults_readAll_iff`).

Entries are read in order, so one of them can break off only when all before it make groups
(`Readable`).
-/

namespace DialPlan

theorem NameFilter.ofText_of_read {s : String} {pattern : Pattern}
    (h : readPattern s = .ok pattern) : ofText s = .ok ⟨s, pattern, h⟩ := by
  unfold ofText
  split
  · next pattern' h' =>
    cases h.symm.trans h'
    rfl
  · next f h' => cases h.symm.trans h'

theorem NameFilter.ofText_of_error {s : String} {f : Fault} (h : readPattern s = .error f) :
    ofText s = .error f := by
  unfold ofText
  split
  · next pattern h' => cases h.symm.trans h'
  · next g h' =>
    cases h.symm.trans h'
    rfl

theorem BytesFilter.ofBytes_of_read {bs : List UInt8} {pattern : Pattern}
    (h : readBytesPattern bs = .ok pattern) : ofBytes bs = .ok ⟨bs, pattern, h⟩ := by
  unfold ofBytes
  split
  · next pattern' h' =>
    cases h.symm.trans h'
    rfl
  · next f h' => cases h.symm.trans h'

theorem BytesFilter.ofBytes_of_error {bs : List UInt8} {f : Fault}
    (h : readBytesPattern bs = .error f) : ofBytes bs = .error f := by
  unfold ofBytes
  split
  · next pattern h' => cases h.symm.trans h'
  · next g h' =>
    cases h.symm.trans h'
    rfl

namespace ProxyGroup

open Outcome

variable {entries : Entries} {index : Nat} {name w : Value}

/-! ## Filters -/

/-- **The pattern that a filter stands for**, if it is a text or bytes. -/
def patternOf? : Value → Option (Except PatternError Pattern)
  | .str s => some (Pattern.read s)
  | .bytes bs => some (Pattern.readBytes bs)
  | _ => none

/-- A filter that can be made. -/
def Filters (w : Value) : Prop := ∃ pattern, patternOf? w = some (.ok pattern)

/-- **A filter breaks off**: it is neither a text nor bytes, or it has a mistake that is not
refused, as it is none of the pattern's, or as the refusal would have to tell a name that cannot be
put into words. -/
inductive FilterBreaks (name : Value) : Value → Prop
  | noPattern {w : Value} : patternOf? w = none → FilterBreaks name w
  | mistake {w : Value} {err : PatternError} : patternOf? w = some (.error err) →
    (Fault.badPattern err).kind ≠ .pattern ∨ name.printable = false → FilterBreaks name w

/-- A mistake is told in the same way for either kind of filter. -/
theorem map_refuseBadPattern {α β : Type} (make : α → β) (f : Fault) :
    make <$> refuseBadPattern name w (.error f) = refuseBadPattern name w (.error f) := by
  cases f with
  | badPattern err =>
    simp only [refuseBadPattern]
    split
    · cases name.requirePrintable <;> rfl
    · rfl
  | _ => rfl

theorem refuseBadPattern_ne_ok {α : Type} {f : Fault} {a : α} :
    refuseBadPattern name w (.error f) ≠ .ok a := by
  unfold refuseBadPattern
  split
  · next h => cases h
  · split
    · rw [Ne, bind_eq_ok_iff]
      rintro ⟨-, -, h⟩
      exact refuse_ne_ok h
    · nofun
  · nofun

theorem faults_refuseBadPattern_iff {α : Type} {err : PatternError} :
    Faults (refuseBadPattern name w (.error (.badPattern err)) : Outcome α) ↔
      (Fault.badPattern err).kind ≠ .pattern ∨ name.printable = false := by
  unfold refuseBadPattern
  dsimp only
  split
  · next hkind =>
    simp [faults_bind_iff, faults_ofFault_iff, hkind, breaksOff_iff_not_exists_ok,
      Value.requirePrintable_eq_ok_iff]
  · next hkind => exact iff_of_true faults_error (Or.inl hkind)

theorem exists_readFilter_of_pattern {pattern : Pattern} (h : patternOf? w = some (.ok pattern)) :
    ∃ f, readFilter name w = .ok f := by
  cases w with
  | str s =>
    have hread : readPattern s = .ok pattern := by rw [readPattern, Option.some.inj h]
    exact ⟨_, by rw [readFilter, NameFilter.ofText_of_read hread]; rfl⟩
  | bytes bs =>
    have hread : readBytesPattern bs = .ok pattern := by rw [readBytesPattern, Option.some.inj h]
    exact ⟨_, by rw [readFilter, BytesFilter.ofBytes_of_read hread]; rfl⟩
  | _ => cases h

theorem readFilter_of_mistake {err : PatternError} (h : patternOf? w = some (.error err)) :
    readFilter name w = refuseBadPattern name w (.error (.badPattern err)) := by
  cases w with
  | str s =>
    have hread : readPattern s = .error (.badPattern err) := by
      rw [readPattern, Option.some.inj h]
    rw [readFilter, NameFilter.ofText_of_error hread, map_refuseBadPattern]
  | bytes bs =>
    have hread : readBytesPattern bs = .error (.badPattern err) := by
      rw [readBytesPattern, Option.some.inj h]
    rw [readFilter, BytesFilter.ofBytes_of_error hread, map_refuseBadPattern]
  | _ => cases h

theorem faults_readFilter_of_none (h : patternOf? w = none) : Faults (readFilter name w) := by
  cases w with
  | str | bytes => cases h
  | _ =>
    unfold readFilter
    dsimp only
    split <;> exact faults_error

theorem exists_readFilter_iff : (∃ f, readFilter name w = .ok f) ↔ Filters w := by
  constructor
  · rintro ⟨f, hf⟩
    cases hpattern : patternOf? w with
    | none =>
      obtain ⟨g, hg⟩ := @faults_readFilter_of_none name w hpattern
      cases hf.symm.trans hg
    | some read =>
      cases read with
      | ok pattern => exact ⟨pattern, hpattern⟩
      | error err =>
        rw [readFilter_of_mistake hpattern] at hf
        exact absurd hf refuseBadPattern_ne_ok
  · rintro ⟨pattern, h⟩
    exact exists_readFilter_of_pattern h

theorem faults_readFilter_iff : Faults (readFilter name w) ↔ FilterBreaks name w := by
  cases hpattern : patternOf? w with
  | none => exact iff_of_true (faults_readFilter_of_none hpattern) (.noPattern hpattern)
  | some read =>
    cases read with
    | ok pattern =>
      obtain ⟨f, hf⟩ := @exists_readFilter_of_pattern name w pattern hpattern
      rw [hf]
      refine iff_of_false not_faults_ok fun h => ?_
      cases h with
      | noPattern h => cases hpattern.symm.trans h
      | mistake h _ => cases hpattern.symm.trans h
    | error err =>
      rw [readFilter_of_mistake hpattern, faults_refuseBadPattern_iff]
      refine ⟨.mistake hpattern, fun h => ?_⟩
      cases h with
      | noPattern h => cases hpattern.symm.trans h
      | mistake h hmistake =>
        cases hpattern.symm.trans h
        exact hmistake

/-! ## Entries -/

/-- **A value with items that can be put into words.** -/
def HasTexts (w : Value) : Prop :=
  ∃ items, Node.itemsOf w = .ok items ∧ ∀ v ∈ items, v.printable = true

/-- **An entry that makes a group.** -/
structure Readable (entries : Entries) : Prop where
  name : (present? entries "name").isSome = true
  filter : ∀ w ∈ present? entries "filter", Filters w
  words : ∀ key, key = "name" ∨ key = "type" → ∀ w ∈ present? entries key, w.printable = true
  members : ∀ key, key = "proxies" ∨ key = "use" → ∀ w ∈ present? entries key, HasTexts w

/-- **An entry breaks off**: it has a name, and then its filter does, or what is to be put into
words cannot be. -/
inductive EntryBreaks (entries : Entries) : Prop
  | filter {name w : Value} : present? entries "name" = some name →
    w ∈ present? entries "filter" → FilterBreaks name w → EntryBreaks entries
  | words {key : String} {w : Value} : (present? entries "name").isSome = true →
    (∀ w ∈ present? entries "filter", Filters w) → key = "name" ∨ key = "type" →
      w ∈ present? entries key → w.printable = false → EntryBreaks entries
  | members {key : String} {w : Value} : (present? entries "name").isSome = true →
    (∀ w ∈ present? entries "filter", Filters w) → key = "proxies" ∨ key = "use" →
      w ∈ present? entries key → ¬ HasTexts w → EntryBreaks entries

theorem breaksOff_asText_iff {v : Value} : BreaksOff v.asText ↔ v.printable = false := by
  simp [breaksOff_iff_not_exists_ok, Value.asText_eq_ok_iff]

theorem breaksOff_textsOf_iff {o : Option Value} :
    BreaksOff (textsOf o) ↔ ∃ w ∈ o, ¬ HasTexts w := by
  cases o with
  | none => simp [textsOf]
  | some w =>
    have htexts : (∃ texts, textsOf (some w) = .ok texts) ↔ HasTexts w := by
      simp only [textsOf, HasTexts, bind_eq_ok_iff, Value.asTexts_eq_ok_iff]
      constructor
      · rintro ⟨_, items, hitems, hprint, -⟩
        exact ⟨items, hitems, hprint⟩
      · rintro ⟨items, hitems, hprint⟩
        exact ⟨_, items, hitems, hprint, rfl⟩
    rw [breaksOff_iff_not_exists_ok, htexts]
    simp

/-- The filter of an entry, if it has one. -/
def filterOf (name : Value) : Option Value → Outcome (Option (NameFilter ⊕ BytesFilter))
  | none => .ok none
  | some w => some <$> readFilter name w

theorem exists_filterOf_iff {o : Option Value} :
    (∃ f, filterOf name o = .ok f) ↔ ∀ w ∈ o, Filters w := by
  cases o with
  | none => simp [filterOf]
  | some w =>
    have hread : (∃ f, filterOf name (some w) = .ok f) ↔ ∃ f, readFilter name w = .ok f := by
      simp only [filterOf, map_eq_ok_iff]
      exact ⟨fun ⟨_, f, hf, _⟩ => ⟨f, hf⟩, fun ⟨f, hf⟩ => ⟨some f, f, hf, rfl⟩⟩
    rw [hread, exists_readFilter_iff]
    simp only [Option.mem_some_iff, forall_eq']

theorem faults_filterOf_iff {o : Option Value} :
    Faults (filterOf name o) ↔ ∃ w ∈ o, FilterBreaks name w := by
  cases o with
  | none => simp [filterOf]
  | some w =>
    simp only [filterOf, Faults, map_eq_error_iff, Option.mem_some_iff, exists_eq_left']
    exact faults_readFilter_iff

/-- **What is put into words of an entry**: its name, its type and its members. -/
def wordsOf (entries : Entries) (name : Value) :
    Except Fault (String × String × List String × List String) := do
  let name ← name.asText
  let type ← ((present? entries "type").getD (.str "select")).asText
  let proxies ← textsOf (present? entries "proxies")
  let use ← textsOf (present? entries "use")
  .ok (name, type, proxies, use)

theorem breaksOff_wordsOf_iff : BreaksOff (wordsOf entries name) ↔
    name.printable = false ∨ (∃ w ∈ present? entries "type", w.printable = false) ∨
      (∃ w ∈ present? entries "proxies", ¬ HasTexts w) ∨
        ∃ w ∈ present? entries "use", ¬ HasTexts w := by
  have htype : BreaksOff ((present? entries "type").getD (.str "select")).asText ↔
      ∃ w ∈ present? entries "type", w.printable = false := by
    cases present? entries "type" with
    | none => simp
    | some w => simp [breaksOff_asText_iff]
  rw [← breaksOff_asText_iff, ← htype, ← breaksOff_textsOf_iff, ← breaksOff_textsOf_iff, wordsOf]
  cases name.asText with
  | error f => simp [BreaksOff, bind, Except.bind]
  | ok s =>
    cases ((present? entries "type").getD (.str "select")).asText with
    | error f => simp [BreaksOff, bind, Except.bind]
    | ok t =>
      rw [ok_bind, ok_bind, breaksOff_both_iff]
      simp

/-- The group of an entry, with its filter and what is put into words. -/
def groupOf (entries : Entries) (filter : Option (NameFilter ⊕ BytesFilter))
    (words : String × String × List String × List String) : TemplateGroup where
  name := words.1
  type := words.2.1
  proxies := words.2.2.1
  use := words.2.2.2
  includeAll :=
    ((present? entries "include-all").or (present? entries "include-all-proxies")).isSome
  filter := filter.bind Sum.getLeft?
  bytesFilter := filter.bind Sum.getRight?

/-- The steps that a named entry is read in. -/
theorem ofEntries_eq (index : Nat) (hname : present? entries "name" = some name) :
    ofEntries index entries = filterOf name (present? entries "filter") >>= fun filter =>
      ofFault (wordsOf entries name) >>= fun words => .ok (groupOf entries filter words) := by
  unfold ofEntries wordsOf
  rw [hname]
  simp only [ofFault_bind, bind_assoc, ofFault_ok, ok_bind]
  cases present? entries "filter" <;> rfl

theorem exists_ofEntries_iff : (∃ g, ofEntries index entries = .ok g) ↔ Readable entries := by
  cases hname : present? entries "name" with
  | none =>
    refine iff_of_false ?_ fun h => by simpa [hname] using h.name
    simp [ofEntries, hname]
  | some name =>
    have hsteps : (∃ g, ofEntries index entries = .ok g) ↔
        (∃ f, filterOf name (present? entries "filter") = .ok f) ∧
          ¬ BreaksOff (wordsOf entries name) := by
      rw [ofEntries_eq index hname, ← exists_ok_iff_not_breaksOff]
      simp only [bind_eq_ok_iff, ofFault_eq_ok_iff]
      constructor
      · rintro ⟨g, filter, hfilter, words, hwords, -⟩
        exact ⟨⟨filter, hfilter⟩, words, hwords⟩
      · rintro ⟨⟨filter, hfilter⟩, words, hwords⟩
        exact ⟨_, filter, hfilter, words, hwords, rfl⟩
    rw [hsteps, exists_filterOf_iff, breaksOff_wordsOf_iff]
    simp only [not_or, not_exists, not_and, Classical.not_not, Bool.not_eq_false]
    constructor
    · rintro ⟨hfilter, hprint, htype, hproxies, huse⟩
      refine ⟨by rw [hname]; rfl, hfilter, ?_, ?_⟩
      · rintro key (rfl | rfl) w hw
        · cases hname.symm.trans hw
          exact hprint
        · exact htype w hw
      · rintro key (rfl | rfl) w hw
        · exact hproxies w hw
        · exact huse w hw
    · intro h
      exact ⟨h.filter, h.words "name" (Or.inl rfl) name hname, h.words "type" (Or.inr rfl),
        h.members "proxies" (Or.inl rfl), h.members "use" (Or.inr rfl)⟩

/-- **An entry is read to a fault** exactly when it breaks off. -/
theorem faults_ofEntries_iff : Faults (ofEntries index entries) ↔ EntryBreaks entries := by
  cases hname : present? entries "name" with
  | none =>
    refine iff_of_false (by simp [ofEntries, hname]) fun h => ?_
    cases h with
    | filter hnamed => simp [hname] at hnamed
    | words hnamed => simp [hname] at hnamed
    | members hnamed => simp [hname] at hnamed
  | some name =>
    have hnamed : (present? entries "name").isSome = true := by rw [hname]; rfl
    rw [ofEntries_eq index hname, faults_bind_iff, faults_filterOf_iff]
    simp only [faults_bind_iff, faults_ofFault_iff, not_faults_ok, and_false, exists_false,
      or_false, breaksOff_wordsOf_iff]
    constructor
    · rintro (⟨w, hw, hbreaks⟩ | ⟨filter, hfilter, h⟩)
      · exact .filter hname hw hbreaks
      have hfilters := exists_filterOf_iff.mp ⟨filter, hfilter⟩
      rcases h with hprint | ⟨w, hw, hprint⟩ | ⟨w, hw, htexts⟩ | ⟨w, hw, htexts⟩
      · exact .words hnamed hfilters (Or.inl rfl) hname hprint
      · exact .words hnamed hfilters (Or.inr rfl) hw hprint
      · exact .members hnamed hfilters (Or.inl rfl) hw htexts
      · exact .members hnamed hfilters (Or.inr rfl) hw htexts
    · intro h
      cases h with
      | filter hown hw hbreaks =>
        cases hname.symm.trans hown
        exact Or.inl ⟨_, hw, hbreaks⟩
      | words _ hfilters hkey hw hprint =>
        obtain ⟨filter, hfilter⟩ := exists_filterOf_iff.mpr hfilters
        refine Or.inr ⟨filter, hfilter, ?_⟩
        rcases hkey with rfl | rfl
        · cases hname.symm.trans hw
          exact Or.inl hprint
        · exact Or.inr (Or.inl ⟨_, hw, hprint⟩)
      | members _ hfilters hkey hw htexts =>
        obtain ⟨filter, hfilter⟩ := exists_filterOf_iff.mpr hfilters
        refine Or.inr ⟨filter, hfilter, ?_⟩
        rcases hkey with rfl | rfl
        · exact Or.inr (Or.inr (Or.inl ⟨_, hw, htexts⟩))
        · exact Or.inr (Or.inr (Or.inr ⟨_, hw, htexts⟩))

/-! ## Templates -/

/-- **Template data breaks off**: what it lists as groups has no items, or one of them breaks off
after entries that make groups. -/
inductive TemplateBreaks : Value → Prop
  | notListed {entries : Entries} {listed : Value} :
    present? entries "proxy-groups" = some listed → BreaksOff (Node.itemsOf listed) →
      TemplateBreaks (.dict entries)
  | entry {entries : Entries} {listed : Value} {before after : List Value} {broken : Entries} :
    present? entries "proxy-groups" = some listed →
      Node.itemsOf listed = .ok (before ++ .dict broken :: after) →
        (∀ w ∈ before, ∃ earlier, w = .dict earlier ∧ Readable earlier) → EntryBreaks broken →
          TemplateBreaks (.dict entries)

/-- **Entries are read up to the first that breaks off**, if all before it make groups. -/
theorem faults_readItems_iff {items : List Value} :
    Faults (readItems index items) ↔
      StopsAt (fun w => ∃ entries, w = .dict entries ∧ Readable entries)
        (fun w => ∃ entries, w = .dict entries ∧ EntryBreaks entries) items := by
  induction items generalizing index with
  | nil => exact iff_of_false not_faults_ok not_stopsAt_nil
  | cons item items ih =>
    rw [stopsAt_cons_iff]
    cases item with
    | dict entries =>
      have hrest : ∀ g : TemplateGroup,
          Faults (readItems (index + 1) items >>= fun gs => .ok (g :: gs)) ↔
            Faults (readItems (index + 1) items) := by
        intro g
        simp [faults_bind_iff]
      rw [readItems, faults_bind_iff, faults_ofEntries_iff]
      simp only [hrest, exists_and_right, exists_ofEntries_iff, ih, Value.dict.injEq,
        exists_eq_left']
    | _ => simp [readItems]

theorem faults_readAll_iff {v : Value} : Faults (readAll v) ↔ TemplateBreaks v := by
  cases v with
  | dict entries =>
    rw [readAll]
    constructor
    · intro h
      split at h
      · exact absurd h not_faults_ok
      · next listed hlisted =>
        rcases faults_bind_iff.mp h with hitems | ⟨items, hitems, h⟩
        · exact .notListed hlisted (faults_ofFault_iff.mp hitems)
        · obtain ⟨before, _, after, rfl, hbefore, broken, rfl, hbroken⟩ :=
            faults_readItems_iff.mp h
          exact .entry hlisted (ofFault_eq_ok_iff.mp hitems) hbefore hbroken
    · intro h
      cases h with
      | notListed hlisted hitems =>
        rw [hlisted]
        exact faults_bind_iff.mpr (Or.inl (faults_ofFault_iff.mpr hitems))
      | entry hlisted hitems hbefore hbroken =>
        rw [hlisted]
        refine faults_bind_iff.mpr (Or.inr ⟨_, ofFault_eq_ok_iff.mpr hitems, ?_⟩)
        exact faults_readItems_iff.mpr ⟨_, _, _, rfl, hbefore, _, rfl, hbroken⟩
  | null => exact iff_of_false not_faults_ok nofun
  | _ => exact iff_of_false not_faults_refuse nofun

/-- **Reading template text breaks off** in a scalar of the text, or in the data that it stands
for. -/
theorem faults_ofText_iff {s : String} : Faults (ofText s) ↔
    (∃ f, Yaml.read s = .error (.unusable f)) ∨ ∃ v, Yaml.read s = .ok v ∧ TemplateBreaks v := by
  unfold ofText
  cases Yaml.read s with
  | ok v => simp [faults_readAll_iff]
  | error flaw => cases flaw <;> simp

end ProxyGroup

end DialPlan
