import DialPlan.Yaml.Node

/-!
# Reading YAML

`Yaml.read` turns a text into a value: the nodes of its document are made into what their tags say.
A key written twice keeps its first place and its last value; a key has to be hashable.  A merge key
adds the entries of other mappings before the entries of its own mapping.

Design decisions:

* The items of a collection are made one round after the collection itself, level by level, and the
  first flaw met ends the reading.  So a reading keeps apart what goes wrong in which round
  (`Built`), and joins readings round by round.
* Merging looks at nodes before any of them is made into a value, so it can be done first
  (`withMerged`).
-/

namespace DialPlan.Yaml

/-! ## Scalars -/

mutual

/-- **The text that stands for a node**: its own, or in a mapping the one under its value key. -/
def Node.text? : Node → Option String
  | .scalar _ text => some text
  | .sequence .. => none
  | .mapping _ entries => textUnder entries

/-- The text under the value key. -/
def textUnder : List (Node × Node) → Option String
  | [] => none
  | (k, v) :: es => if k.tag = .value then v.text? else textUnder es

end

/-- What a node with the tag of a scalar stands for. -/
def Node.scalarValue (n : Node) : Result Value := do
  let text ← orMalformed n.text?
  match n with
  | .mapping .timestamp _ => .error (.unusable (.notSearchable "list"))
  | _ => Yaml.scalarValue n.tag text

/-! ## Merging -/

mutual

/-- What the merge keys of entries add, and the other entries; a value key is a text among them. -/
def splitMerged : List (Node × Node) → Option (List (Node × Node) × List (Node × Node))
  | [] => some ([], [])
  | (k, v) :: es => do
    let (added, own) ← splitMerged es
    match k.tag with
    | .merge => some ((← v.addedEntries) ++ added, own)
    | .value => some (added, (k.withTag .str, v) :: own)
    | _ => some (added, (k, v) :: own)

/-- What a node under a merge key adds: the entries of a mapping, or those of several, the last one
first. -/
def Node.addedEntries : Node → Option (List (Node × Node))
  | .scalar .. => none
  | .mapping _ entries => do
    let (added, own) ← splitMerged entries
    some (added ++ own)
  | .sequence _ items => (addedByAll items).map fun parts => parts.reverse.flatten

/-- What mappings add, one by one. -/
def addedByAll : List Node → Option (List (List (Node × Node)))
  | [] => some []
  | .mapping _ entries :: ns => do
    let (added, own) ← splitMerged entries
    some ((added ++ own) :: (← addedByAll ns))
  | _ :: _ => none

end

/-- **Entries with what their merge keys add**, which comes first. -/
def withMerged (entries : List (Node × Node)) : Option (List (Node × Node)) :=
  (splitMerged entries).map fun (added, own) => added ++ own

/-! ## Values -/

/-- **Something in the making**: what it comes to, and for every round the first flaw met in it. -/
structure Built (α : Type) where
  result : α
  flaws : List (Option Flaw) := []

namespace Built

variable {α β γ : Type}

/-- The flaws of two readings, round by round. -/
def joinFlaws : List (Option Flaw) → List (Option Flaw) → List (Option Flaw)
  | [], gs => gs
  | fs, [] => fs
  | f :: fs, g :: gs => f.or g :: joinFlaws fs gs

/-- Two readings, one after the other. -/
def join (f : α → β → γ) (a : Built α) (b : Built β) : Built γ :=
  ⟨f a.result b.result, joinFlaws a.flaws b.flaws⟩

/-- A reading that ends at once. -/
def ofResult [Inhabited α] : Result α → Built α
  | .ok a => ⟨a, []⟩
  | .error f => ⟨default, [some f]⟩

/-- What is made one round later. -/
def later (b : Built α) : Built α := ⟨b.result, none :: b.flaws⟩

/-- The reading of something else. -/
def map (f : α → β) (b : Built α) : Built β := ⟨f b.result, b.flaws⟩

/-- All of several readings. -/
def all : List (Built α) → Built (List α)
  | [] => ⟨[], []⟩
  | b :: bs => join List.cons b (all bs)

/-- What comes of it: the first flaw of the first round that has one, if any has. -/
def toResult (b : Built α) : Result α :=
  match b.flaws.findSome? id with
  | some f => .error f
  | none => .ok b.result

end Built

/-- The key and the value of an entry; in a mapping or a set the key has to be hashable. -/
def buildEntry (build : Node → Built Value) (hashable : Bool) (entry : Node × Node) :
    Built (Value × Value) :=
  let key :=
    if hashable && entry.1.tag.isCollection then Built.ofResult (.error .malformed)
    else build entry.1
  Built.join Prod.mk key (build entry.2)

/-- The entries of a mapping or of a set. -/
def buildMapping (build : Node → Built Value) : Node → Built Entries
  | .mapping _ entries =>
    match withMerged entries with
    | some entries => (Built.all (entries.map (buildEntry build true))).map (Entries.merge [])
    | none => .ofResult (.error .malformed)
  | _ => .ofResult (.error .malformed)

/-- The items of a sequence. -/
def buildItems (build : Node → Built Value) : Node → Built (List Value)
  | .sequence _ items => .all (items.map build)
  | _ => .ofResult (.error .malformed)

/-- The pair that an item with a single entry is. -/
def buildPair (build : Node → Built Value) : Node → Built Value
  | .mapping _ [entry] => (buildEntry build false entry).map fun (k, v) => .tuple [k, v]
  | _ => .ofResult (.error .malformed)

/-- **What a node stands for.** -/
def build : Nat → Node → Built Value
  | 0, _ => .ofResult (.error .malformed)
  | fuel + 1, n =>
    match n.tag with
    | .seq => ((buildItems (build fuel) n).map .list).later
    | .map => ((buildMapping (build fuel) n).map .dict).later
    | .set => ((buildMapping (build fuel) n).map fun es => .set (es.map Prod.fst)).later
    | .omap | .pairs => ((buildItems (buildPair (build fuel)) n).map .list).later
    | _ => .ofResult n.scalarValue

/-- **Reading a text**: its one document, or null when there is none.  Every level of collections
costs at least one character. -/
def read (s : String) : Result Value := do
  match ← orMalformed (document? s) with
  | some n => (build (s.length + 1) n).toResult
  | none => .ok .null

end DialPlan.Yaml
