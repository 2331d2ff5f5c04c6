import DialPlan.NodeList
import DialPlan.Proofs.Value.Order

/-!
# Which node lists are refused

A node list is data of any shape.  What does not make a node is refused, and so is whatever a
mapping turns out to be unfit for while its node is made, as long as that is a matter of kinds.  Two
things are not, and end the reading (`NodeList.judged_ofValue`): a mapping may list its extra
attributes as pairs, and an entry has more or less than two items; or its id has an integer of so
many digits that the id cannot be put into words.

Mappings are read in order, and so are the entries of one, so the first thing that is not as it
should be decides (`StopsAt`).
-/

namespace DialPlan

open Outcome

/-- **The failures that a node list explains**: refusals, and faults of type. -/
def Failure.Explained : Failure → Prop
  | .refused _ => True
  | .fault f => f.kind = .type
  | .issues _ => False

/-! ## Extra attributes -/

namespace Value

/-- A listed entry: two items, the first of which can be a key. -/
def IsPair (v : Value) : Prop :=
  ∃ k w, Node.itemsOf v = .ok [k, w] ∧ k.unhashablePart? = none

/-- A listed entry of more or less than two items. -/
def IsMisshapen (v : Value) : Prop :=
  ∃ parts, Node.itemsOf v = .ok parts ∧ parts.length ≠ 2

end Value

namespace Node

variable {w : Value} {entries : Entries} {index : Nat}

/-- **What can be added to the attributes of a mapping**: nothing, a dictionary, or listed pairs. -/
def ExtraReads (w : Value) : Prop :=
  w.truthy = false ∨ (∃ more, w = .dict more) ∨
    ∃ items, itemsOf w = .ok items ∧ ∀ item ∈ items, item.IsPair

/-- **Extra attributes break off**: they are listed, and after some pairs comes an entry of another
length. -/
def ExtraBreaks (w : Value) : Prop :=
  (¬ ∃ more, w = .dict more) ∧
    ∃ items, itemsOf w = .ok items ∧ StopsAt Value.IsPair Value.IsMisshapen items

theorem kind_of_itemsOf {f : Fault} (h : itemsOf w = .error f) : f.kind = .type := by
  cases w <;> cases h <;> rfl

/-- What counts as false has no items. -/
theorem eq_nil_of_itemsOf {items : List Value} (h : itemsOf w = .ok items)
    (hfalse : w.truthy = false) : items = [] := by
  cases w <;> simp_all [itemsOf, Value.truthy]

theorem judged_itemsOf (w : Value) :
    Judged .value Failure.Explained (¬ BreaksOff (itemsOf w)) False (ofFault (itemsOf w)) := by
  cases h : itemsOf w with
  | ok items => exact .answer items not_breaksOff_ok not_false
  | error f => exact .rejection (not_not_intro ⟨f, rfl⟩) not_false (kind_of_itemsOf h)

theorem judged_pairOf (index : Nat) (w : Value) :
    Judged .value Failure.Explained w.IsPair w.IsMisshapen (ofFault (pairOf index w)) := by
  unfold pairOf Value.IsPair Value.IsMisshapen
  split
  case h_1 f hitems => exact .rejection (by simp [hitems]) (by simp [hitems]) rfl
  case h_2 k x hitems =>
    cases hkey : k.unhashablePart? with
    | some part => exact .rejection (by simp [hitems, hkey]) (by simp [hitems]) rfl
    | none => exact .answer (k, x) ⟨k, x, hitems, hkey⟩ (by simp [hitems])
  case h_3 parts hother hitems =>
    refine .escape ?_ ⟨parts, hitems, fun hlength => ?_⟩ rfl
    · rintro ⟨k, x, hpair, -⟩
      exact hother k x (Except.ok.inj (hitems.symm.trans hpair))
    · match parts, hlength with
      | [k, x], _ => exact hother k x rfl

/-- The pairs of listed entries, counted from an index on. -/
def pairsFrom (index : Nat) (items : List Value) : Except Fault Entries :=
  (items.zipIdx index).mapM fun (item, i) => pairOf i item

theorem pairsFrom_cons (index : Nat) (item : Value) (items : List Value) :
    pairsFrom index (item :: items) = pairOf index item >>= fun e =>
      pairsFrom (index + 1) items >>= fun es => .ok (e :: es) := by
  rw [pairsFrom, List.zipIdx_cons, List.mapM_cons]
  rfl

/-- **The first entry that is no pair decides.** -/
theorem judged_pairsFrom (index : Nat) (items : List Value) :
    Judged .value Failure.Explained (∀ item ∈ items, item.IsPair)
      (StopsAt Value.IsPair Value.IsMisshapen items) (ofFault (pairsFrom index items)) := by
  induction items generalizing index with
  | nil => exact .answer [] nofun not_stopsAt_nil
  | cons item items ih =>
    rw [pairsFrom_cons, ofFault_bind, stopsAt_cons_iff, List.forall_mem_cons]
    refine (judged_pairOf index item).bind fun e _ => ?_
    rw [ofFault_bind]
    exact (ih (index + 1)).bind_answer

theorem judged_entriesOf (h : w.truthy = true) :
    Judged .value Failure.Explained (ExtraReads w) (ExtraBreaks w) (ofFault (entriesOf w)) := by
  unfold entriesOf
  split
  case h_1 more =>
    exact .answer more (Or.inr (Or.inl ⟨more, rfl⟩)) fun hbreaks => hbreaks.1 ⟨more, rfl⟩
  case h_2 hdict =>
    have hlisted : ¬ ∃ more, w = .dict more := not_exists.mpr hdict
    cases hitems : itemsOf w with
    | error f =>
      exact .rejection (by simp [ExtraReads, h, hlisted, hitems]) (by simp [ExtraBreaks, hitems])
        (kind_of_itemsOf hitems)
    | ok items =>
      rw [ok_bind, ofFault_bind]
      refine (judged_pairsFrom 0 items).bind_answer.congr ?_ ?_
      · simp [ExtraReads, h, hlisted, hitems]
      · simp [ExtraBreaks, hlisted, hitems]

/-! ## Mappings -/

/-- What the extra attributes of a mapping add to its own. -/
def extraOf (entries : Entries) : Except Fault Entries :=
  let nested := (entries.get? "extra").getD .null
  if nested.truthy then entriesOf nested else .ok []

theorem judged_extraOf (entries : Entries) :
    Judged .value Failure.Explained (∀ w ∈ entries.get? "extra", ExtraReads w)
      (∃ w ∈ entries.get? "extra", ExtraBreaks w) (ofFault (extraOf entries)) := by
  unfold extraOf
  cases entries.get? "extra" with
  | none => exact .answer [] nofun nofun
  | some w =>
    simp only [Option.getD_some, Option.mem_some_iff, forall_eq', exists_eq_left']
    by_cases htrue : w.truthy = true
    · rw [if_pos htrue]
      exact judged_entriesOf htrue
    · have hfalse : w.truthy = false := Bool.eq_false_iff.mpr htrue
      rw [if_neg htrue]
      refine .answer [] (Or.inl hfalse) ?_
      rintro ⟨-, items, hitems, hstops⟩
      rw [eq_nil_of_itemsOf hitems hfalse] at hstops
      exact not_stopsAt_nil hstops

/-- **A mapping that makes a node.** -/
structure Readable (entries : Entries) : Prop where
  id : ∃ w ∈ entries.get? "id", w.printable = true
  extra : ∀ w ∈ entries.get? "extra", ExtraReads w
  tags : ∀ w ∈ entries.get? "tags", ¬ BreaksOff (itemsOf w)

/-- **A mapping breaks off** at its extra attributes, which are read first, or at its id. -/
inductive Breaks (entries : Entries) : Prop
  | extra {w : Value} : w ∈ entries.get? "extra" → ExtraBreaks w → Breaks entries
  | id {w : Value} : (∀ w ∈ entries.get? "extra", ExtraReads w) → w ∈ entries.get? "id" →
    w.printable = false → Breaks entries

theorem breaks_iff {entries : Entries} : Breaks entries ↔
    (∃ w ∈ entries.get? "extra", ExtraBreaks w) ∨
      (∀ w ∈ entries.get? "extra", ExtraReads w) ∧
        ∃ w ∈ entries.get? "id", w.printable = false := by
  constructor
  · rintro (⟨hw, hbreaks⟩ | ⟨hextra, hw, hprint⟩)
    · exact Or.inl ⟨_, hw, hbreaks⟩
    · exact Or.inr ⟨hextra, _, hw, hprint⟩
  · rintro (⟨w, hw, hbreaks⟩ | ⟨hextra, w, hw, hprint⟩)
    · exact .extra hw hbreaks
    · exact .id hextra hw hprint

theorem judged_asText (w : Value) :
    Judged .value Failure.Explained (w.printable = true) (w.printable = false)
      (ofFault w.asText) := by
  cases h : w.asText with
  | ok s =>
    have hprint := (Value.asText_eq_ok_iff.mp h).1
    exact .answer s hprint (ne_false_of_eq_true hprint)
  | error f =>
    obtain ⟨hprint, rfl⟩ := Value.asText_eq_error_iff.mp h
    exact .escape (Bool.eq_false_iff.mp hprint) hprint rfl

theorem judged_tagsOf (entries : Entries) :
    Judged .value Failure.Explained (∀ w ∈ entries.get? "tags", ¬ BreaksOff (itemsOf w)) False
      (ofFault (tagsOf ((entries.get? "tags").getD (.tuple [])))) := by
  cases entries.get? "tags" with
  | none => exact .answer [] nofun not_false
  | some w =>
    simp only [Option.getD_some, Option.mem_some_iff, forall_eq']
    unfold tagsOf
    split
    case h_1 s => exact .answer _ not_breaksOff_ok not_false
    case h_2 => exact judged_itemsOf w

theorem judged_ofEntries (entries : Entries) :
    Judged .value Failure.Explained (Readable entries) (Breaks entries) (ofEntries entries) := by
  have hsteps : Judged .value Failure.Explained
      ((∀ w ∈ entries.get? "extra", ExtraReads w) ∧
        (∃ w ∈ entries.get? "id", w.printable = true) ∧
          ∀ w ∈ entries.get? "tags", ¬ BreaksOff (itemsOf w))
      ((∃ w ∈ entries.get? "extra", ExtraBreaks w) ∨
        (∀ w ∈ entries.get? "extra", ExtraReads w) ∧
          ∃ w ∈ entries.get? "id", w.printable = false) (ofEntries entries) := by
    unfold ofEntries
    refine (judged_extraOf entries).bind fun more _ => ?_
    cases hid : entries.get? "id" with
    | none =>
      cases hkeys : Value.sorted (entries.map (·.1)) with
      | error f =>
        exact .rejection (fun h => nomatch h.1) nofun (Value.kind_of_sorted hkeys)
      | ok keys => exact .rejection (fun h => nomatch h.1) nofun trivial
    | some id =>
      refine ((judged_asText id).bind fun _ _ =>
        (judged_tagsOf entries).bind_answer).congr (by simp) (by simp)
  exact hsteps.congr ⟨fun h => ⟨h.2.1, h.1, h.2.2⟩, fun h => ⟨h.extra, h.id, h.tags⟩⟩
    breaks_iff.symm

end Node

/-! ## Lists -/

namespace Value

/-- A mapping that makes a node. -/
def MakesNode (v : Value) : Prop := ∃ entries, v = .dict entries ∧ Node.Readable entries

/-- A mapping that breaks off. -/
def BreaksNode (v : Value) : Prop := ∃ entries, v = .dict entries ∧ Node.Breaks entries

end Value

/-- A refusal of one class. -/
def Failure.OfClass (c : RefusalClass) (e : Failure) : Prop :=
  ∃ r, e = .refused r ∧ r.report.cls = c

namespace NodeList

variable {v : Value}

theorem judged_readItem (index : Nat) (v : Value) :
    Judged .value (Failure.OfClass .packValidation) v.MakesNode v.BreaksNode
      (readItem index v) := by
  cases v with
  | dict entries =>
    have hentries : Judged .value Failure.Explained (Value.dict entries).MakesNode
        (Value.dict entries).BreaksNode (Node.ofEntries entries) :=
      (Node.judged_ofEntries entries).congr (by simp [Value.MakesNode])
        (by simp [Value.BreaksNode])
    refine hentries.mapError (fun f hf => ?_) fun e he => ?_
    · simp [explain, hf]
    · cases e with
      | fault f => exact ⟨_, if_pos he, rfl⟩
      | refused r => exact ⟨_, rfl, rfl⟩
      | issues issues => exact absurd he not_false
  | _ => exact .rejection (by simp [Value.MakesNode]) (by simp [Value.BreaksNode]) ⟨_, rfl, rfl⟩

theorem judged_readItems (index : Nat) (items : List Value) :
    Judged .value (Failure.OfClass .packValidation) (∀ item ∈ items, item.MakesNode)
      (StopsAt Value.MakesNode Value.BreaksNode items) (readItems index items) := by
  induction items generalizing index with
  | nil => exact .answer [] nofun not_stopsAt_nil
  | cons item items ih =>
    rw [readItems, stopsAt_cons_iff, List.forall_mem_cons]
    exact (judged_readItem index item).bind fun n _ => (ih (index + 1)).bind_answer

/-- What data lists as nodes: a list itself, or the one that a mapping has under its key. -/
def listed? : Value → Option (List Value)
  | .list items => some items
  | .dict entries =>
    match Entries.get? entries "nodes" with
    | some (.list items) => some items
    | _ => none
  | _ => none

theorem ofValue_eq (v : Value) :
    ofValue v = match listed? v with
      | some items => readItems 0 items
      | none => Outcome.refuse .nodesNotAList := by
  cases v with
  | dict entries =>
    simp only [ofValue, listed?]
    cases Entries.get? entries "nodes" with
    | none => rfl
    | some w => cases w <;> rfl
  | _ => rfl

/-- **Data that makes nodes.** -/
def Reads (v : Value) : Prop := ∃ items ∈ listed? v, ∀ item ∈ items, item.MakesNode

/-- **Data that breaks off**: after mappings that make nodes comes one that breaks off. -/
def Breaks (v : Value) : Prop :=
  ∃ items ∈ listed? v, StopsAt Value.MakesNode Value.BreaksNode items

/-- **What becomes of data that is read as a node list.** -/
theorem judged_ofValue (v : Value) :
    Judged .value (Failure.OfClass .packValidation) (Reads v) (Breaks v) (ofValue v) := by
  rw [ofValue_eq]
  unfold Reads Breaks
  cases listed? v with
  | none => exact .rejection (by simp) (by simp) ⟨_, rfl, rfl⟩
  | some items => exact (judged_readItems 0 items).congr (by simp) (by simp)

end NodeList

end DialPlan
