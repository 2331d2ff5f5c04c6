import DialPlan.Record
import DialPlan.RuleBook.Change

/-!
# Export and import

A rule book gives its rules as records and takes records in.  An import replaces the rules of every
subscription that its records mention, and nothing else; all records are read and checked before
anything is written.
-/

namespace DialPlan.RuleBook

/-- The rules of one subscription, or of all of them in turn. -/
def selected (b : RuleBook) (subscription : Option String) : List Rule :=
  match subscription with
  | some s => b.list s
  | none => b.subscriptions.flatMap b.list

/-- **The records** of one subscription, or of all. -/
def exportRecords (b : RuleBook) (subscription : Option String) : Except Fault (List Record) :=
  recordsOf (b.selected subscription)

/-- The rules of records, each checked; `seen` are the ids of the records before. -/
def readAll (now : DateTime) (v : Vocabulary) : List String → List Value → Outcome (List Rule)
  | _, [] => .ok []
  | seen, w :: ws => do
    let r ← readRecord now w
    let id := r.id.text
    if seen.contains id then Outcome.refuse (.repeatedImport id r.subscription)
    v.require r
    .ok (r :: (← readAll now v (id :: seen) ws))

/-- Rules by subscription, subscriptions and rules in the order of their coming. -/
def bySubscription (rules : List Rule) : Table (List Rule) :=
  rules.foldl (fun t r => t.put r.subscription ((t.get? r.subscription).getD [] ++ [r])) []

/-- Refuse an id that is owned by a subscription that the import does not replace. -/
def checkOwners (b : RuleBook) (groups : Table (List Rule)) : List Rule → Outcome Unit
  | [] => .ok ()
  | r :: rs =>
    let id := r.id.text
    match b.owners.get? id with
    | none => checkOwners b groups rs
    | some owner =>
      if (groups.get? owner).isSome then checkOwners b groups rs
      else Outcome.refuse (.ownedElsewhere id owner)

/-- Rules by their recorded positions, equal ones in the order of their coming, numbered anew. -/
def ordered (rules : List Rule) : List Rule :=
  renumber (rules.mergeSort fun a b => a.position ≤ b.position)

/-- Drop an id, if the subscription owns it. -/
def disown (subscription : String) (owners : Table String) (id : String) : Table String :=
  if owners.get? id = some subscription then owners.erase id else owners

/-- Replace the rules of a subscription, and their owner entries. -/
def install (b : RuleBook) (subscription : String) (rules : List Rule) : RuleBook :=
  let left := (b.idsOf subscription).foldl (disown subscription) b.owners
  { b.setRules subscription rules with
    owners := rules.foldl (fun owners r => owners.put r.id.text subscription) left }

/-- Replace the rules of several subscriptions. -/
def installAll (b : RuleBook) : Table (List Rule) → List Rule × RuleBook
  | [] => ([], b)
  | (subscription, rules) :: more =>
    let rules := ordered rules
    let (rest, after) := installAll (b.install subscription rules) more
    (rules ++ rest, after)

/-- What an import does. -/
def imported (now : DateTime) (records : Value) (b : RuleBook) :
    Outcome (List Rule × RuleBook) := do
  let items ← Outcome.ofFault (Node.itemsOf records)
  let rules ← readAll now b.vocabulary [] items
  let groups := bySubscription rules
  b.checkOwners groups rules
  .ok (b.installAll groups)

/-- **Take records in.**  The rules of every subscription that they mention are replaced. -/
def importRecords (now : DateTime) (records : Value) (b : RuleBook) :
    Outcome (List Rule) × RuleBook :=
  b.attempt (imported now records)

end DialPlan.RuleBook
