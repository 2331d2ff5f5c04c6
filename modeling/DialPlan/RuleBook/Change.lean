import DialPlan.Node.Basic
import DialPlan.RuleBook.Basic

/-!
# Changes of a rule book

Adding, updating, switching, removing and reordering rules.  Every change is checked before anything
is written.  Chains and targets come as they are given: a value that is no list of hops is taken
item by item, and the check finds out what the items are.
-/

namespace DialPlan

/-- What is given as a chain: a list of hops, or a value to be taken item by item. -/
abbrev GivenChain := Slot (List (Slot Hop))

/-- The items of what is given as a chain. -/
def GivenChain.items : GivenChain → Except Fault (List (Slot Hop))
  | .holds chain => .ok chain
  | .foreign v => do .ok ((← Node.itemsOf v).map .foreign)

/-- **What a new rule is made from.** -/
structure Draft where
  subscription : String
  name : Value := .str ""
  enabled : Value := .bool true
  chain : GivenChain := .holds []
  target : Slot Target := .holds (.node none)

/-- The rule of a draft. -/
def Draft.toRule (d : Draft) (id : String) (position : Nat) (chain : List (Slot Hop))
    (now : DateTime) : Rule where
  id := .str id
  subscription := d.subscription
  name := d.name
  enabled := d.enabled
  position := position
  chain := chain
  target := d.target
  created := now
  updated := now

/-- **A partial update.** -/
structure Patch where
  name : Option Value := none
  enabled : Option Value := none
  chain : Option GivenChain := none
  target : Option (Slot Target) := none
  /-- The names of all other fields that the update mentions. -/
  others : List String := []

/-- The fields of a rule that no update may mention. -/
def protectedFields : List String :=
  ["id", "subscription_id", "sort_order", "created_at", "updated_at"]

namespace Patch

/-- The mentioned fields that are protected, sorted. -/
def protectedOnes (p : Patch) : List String :=
  (p.others.filter protectedFields.contains).mergeSort (· ≤ ·)

/-- The mentioned fields that no rule has, sorted. -/
def unknownOnes (p : Patch) : List String :=
  (p.others.filter fun f => !protectedFields.contains f).mergeSort (· ≤ ·)

/-- The chain of an update; a value that counts as false is the empty chain. -/
def chainItems (p : Patch) : Except Fault (Option (List (Slot Hop))) :=
  match p.chain with
  | none => .ok none
  | some (.foreign v) =>
    if v.truthy then some <$> GivenChain.items (.foreign v) else .ok (some [])
  | some chain => some <$> chain.items

/-- Whether an update takes the target away. -/
def dropsTarget (p : Patch) : Bool :=
  match p.target with
  | some (.foreign .null) => true
  | _ => false

/-- A rule with the update applied. -/
def applyTo (p : Patch) (chain : Option (List (Slot Hop))) (now : DateTime) (r : Rule) : Rule :=
  { r with
    name := p.name.getD r.name
    enabled := p.enabled.getD r.enabled
    chain := chain.getD r.chain
    target := p.target.getD r.target
    updated := now }

end Patch

namespace RuleBook

/-- Write the rules of a subscription. -/
def setRules (b : RuleBook) (subscription : String) (rules : List Rule) : RuleBook :=
  { b with rules := b.rules.put subscription rules }

/-- The book with a rule replaced by another of the same id. -/
def replace (b : RuleBook) (subscription : String) (r : Rule) : RuleBook :=
  b.setRules subscription ((b.list subscription).map fun old => if old.id = r.id then r else old)

/-! ## Adding -/

/-- Append a rule of a given id to its subscription. -/
def append (now : DateTime) (d : Draft) (id : String) (b : RuleBook) :
    Outcome (Rule × RuleBook) := do
  let chain ← Outcome.ofFault d.chain.items
  let current := b.list d.subscription
  let r := d.toRule id current.length chain now
  b.vocabulary.require r
  .ok (r, { b.setRules d.subscription (current ++ [r]) with
    owners := b.owners.put id d.subscription })

/-- **Add a rule** at the end of its subscription.  The id is used up even when the rule is
refused. -/
def create (now : DateTime) (d : Draft) (b : RuleBook) : Outcome Rule × RuleBook :=
  if d.subscription.isEmpty then (Outcome.refuse .subscriptionRequired, b)
  else
    let (id, ids) := b.ids.fresh b.owners.keys
    { b with ids }.attempt (append now d id)

/-! ## Changing -/

/-- Refuse an update that mentions fields it must not mention. -/
def checkPatch (id : String) (p : Patch) (subscription : Option String) : Outcome Unit :=
  if !p.protectedOnes.isEmpty then
    Outcome.refuse (.protectedFields id p.protectedOnes subscription)
  else if !p.unknownOnes.isEmpty then
    Outcome.refuse (.unknownFields id p.unknownOnes subscription)
  else .ok ()

/-- What an update does. -/
def updated (now : DateTime) (id : String) (p : Patch) (subscription : Option String)
    (b : RuleBook) : Outcome (Rule × RuleBook) := do
  checkPatch id p subscription
  let chain ← Outcome.ofFault p.chainItems
  if p.dropsTarget then Outcome.refuse (.targetRequired id subscription)
  let owner ← b.owner id subscription
  let current ← b.find owner id
  let r := p.applyTo chain now current
  b.vocabulary.require r
  .ok (r, b.replace owner r)

/-- **Update a rule**, which keeps its position. -/
def update (now : DateTime) (id : String) (p : Patch) (subscription : Option String)
    (b : RuleBook) : Outcome Rule × RuleBook :=
  b.attempt (updated now id p subscription)

/-- What switching does. -/
def switched (now : DateTime) (id : String) (subscription : Option String) (b : RuleBook) :
    Outcome (Rule × RuleBook) := do
  let owner ← b.owner id subscription
  let current ← b.find owner id
  let r := { current with enabled := .bool (!current.isEnabled), updated := now }
  .ok (r, b.replace owner r)

/-- **Switch a rule on or off**; it keeps its position. -/
def toggle (now : DateTime) (id : String) (subscription : Option String) (b : RuleBook) :
    Outcome Rule × RuleBook :=
  b.attempt (switched now id subscription)

/-! ## Removing -/

/-- What removing does. -/
def removed (id : String) (subscription : Option String) (b : RuleBook) :
    Outcome (Rule × RuleBook) := do
  let owner ← b.owner id subscription
  let r ← b.find owner id
  let rest := (b.list owner).filter (·.id ≠ .str id)
  .ok (r, { b.setRules owner (renumber rest) with owners := b.owners.erase id })

/-- **Remove a rule**; the others keep their order. -/
def delete (id : String) (subscription : Option String) (b : RuleBook) :
    Outcome Rule × RuleBook :=
  b.attempt (removed id subscription)

/-- **Remove all rules of a subscription**; their number is returned. -/
def deleteSubscription (subscription : String) (b : RuleBook) : Nat × RuleBook :=
  let gone := b.list subscription
  (gone.length,
    { b with
      rules := b.rules.erase subscription
      owners := gone.foldl (fun owners r => owners.erase r.id.text) b.owners })

/-! ## Reordering -/

/-- Sorted, each once. -/
def sortedSet (ids : List String) : List String :=
  ids.eraseDups.mergeSort (· ≤ ·)

/-- The ids that occur more than once. -/
def repeated (ids : List String) : List String :=
  sortedSet (ids.filter fun i => 1 < ids.count i)

/-- The ids on the left that do not occur on the right. -/
def without (ids others : List String) : List String :=
  sortedSet (ids.filter fun i => !others.contains i)

/-- The ids of the rules of a subscription. -/
def idsOf (b : RuleBook) (subscription : String) : List String :=
  (b.list subscription).map (·.id.text)

/-- The rules of ids, in the order of the ids. -/
def inOrderOf (rules : List Rule) (ids : List String) : List Rule :=
  ids.filterMap fun id => rules.find? (·.id = .str id)

/-- What reordering does. -/
def reordered (subscription : String) (ids : Value) (b : RuleBook) :
    Outcome (List Rule × RuleBook) := do
  let ids ← Outcome.ofFault (do Value.asTexts (← Node.itemsOf ids))
  let current := b.idsOf subscription
  let missing := without current ids
  let extra := without ids current
  let duplicates := repeated ids
  if missing.isEmpty && extra.isEmpty && duplicates.isEmpty then
    let rules := renumber (inOrderOf (b.list subscription) ids)
    .ok (rules, b.setRules subscription rules)
  else Outcome.refuse (.orderMismatch missing extra duplicates subscription)

/-- **Put the rules of a subscription in the order of their ids**; every id has to be given, and
once. -/
def reorder (subscription : String) (ids : Value) (b : RuleBook) :
    Outcome (List Rule) × RuleBook :=
  b.attempt (reordered subscription ids)

end RuleBook

end DialPlan
