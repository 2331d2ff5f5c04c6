import DialPlan.Rule.Validation

/-!
# Rule books

A rule book keeps the rules of every subscription in their order, and knows for every rule id which
subscription owns it.

Design decisions:

* The rules of a subscription are a list; the position of a rule is its index, and every change
  writes the positions anew (`renumber`).
* Owners are kept in a table of their own, so that a rule is found without a search through all
  subscriptions.
* Ids come from a source that is part of the book: given ids first, then numbered ones.  An id that
  is owned is passed over.
* A change that fails leaves rules and owners as they were (`RuleBook.attempt`).
-/

namespace DialPlan

/-! ## Fresh ids -/

/-- **Where ids come from**: the given ones in turn, then `rule-1`, `rule-2` and so on. -/
structure IdSource where
  given : List String := []
  /-- The last number that was used. -/
  last : Nat := 0
  deriving DecidableEq, Repr, Inhabited

namespace IdSource

/-- The id of a number. -/
def numbered (n : Nat) : String := "rule-" ++ toString n

/-- The first number from `n` on whose id is not taken, among the first `fuel` of them; else the
number after those. -/
def firstFree (taken : List String) : Nat → Nat → Nat
  | 0, n => n
  | fuel + 1, n => if taken.contains (numbered n) then firstFree taken fuel (n + 1) else n

/-- **The next id that is not taken**, and the source behind it. -/
def fresh (s : IdSource) (taken : List String) : String × IdSource :=
  match s.given.dropWhile taken.contains with
  | id :: rest => (id, { s with given := rest })
  | [] =>
    let n := firstFree taken taken.length (s.last + 1)
    (numbered n, { given := [], last := n })

end IdSource

/-! ## The book -/

/-- **The rules of all subscriptions.** -/
structure RuleBook where
  vocabulary : Vocabulary
  ids : IdSource := {}
  /-- The rules of a subscription, in order. -/
  rules : Table (List Rule) := []
  /-- The subscription that owns the rule of an id. -/
  owners : Table String := []

/-- **Rules with their positions written anew.** -/
def renumber (rules : List Rule) : List Rule :=
  rules.mapIdx fun i r => { r with position := i }

@[simp] theorem renumber_nil : renumber [] = [] := rfl

theorem getElem?_renumber (rules : List Rule) (i : Nat) :
    (renumber rules)[i]? = rules[i]?.map fun r => { r with position := i } := by
  simp [renumber]

namespace RuleBook

/-- The rules of a subscription, in order. -/
def list (b : RuleBook) (subscription : String) : List Rule :=
  (b.rules.get? subscription).getD []

/-- The enabled rules of a subscription, in order. -/
def enabled (b : RuleBook) (subscription : String) : List Rule :=
  (b.list subscription).filter Rule.isEnabled

/-- The number of all rules. -/
def size (b : RuleBook) : Nat := b.owners.length

/-- **The subscriptions that have rules**, sorted. -/
def subscriptions (b : RuleBook) : List String :=
  ((b.rules.filter fun e => !e.2.isEmpty).map (·.1)).mergeSort (· ≤ ·)

/-- The owner of a rule; when a subscription is given, it has to be the owner. -/
def owner (b : RuleBook) (id : String) (subscription : Option String) : Outcome String :=
  match b.owners.get? id with
  | none => Outcome.refuse (.ruleMissing id subscription)
  | some found =>
    match subscription with
    | none => .ok found
    | some asked =>
      if found = asked then .ok found else Outcome.refuse (.ruleElsewhere id subscription)

/-- The rule of an id among those of a subscription. -/
def find (b : RuleBook) (subscription id : String) : Outcome Rule :=
  match (b.list subscription).find? (·.id = .str id) with
  | some r => .ok r
  | none => Outcome.refuse (.ruleMissing id (some subscription))

/-- **The rule of an id.** -/
def get (b : RuleBook) (id : String) (subscription : Option String) : Outcome Rule := do
  b.find (← b.owner id subscription) id

/-- **A change that may fail**: when it does, the book stays as it was. -/
def attempt {α : Type} (b : RuleBook) (change : RuleBook → Outcome (α × RuleBook)) :
    Outcome α × RuleBook :=
  match change b with
  | .ok (a, after) => (.ok a, after)
  | .error f => (.error f, b)

theorem attempt_of_ok {α : Type} {b after : RuleBook} {a : α}
    {change : RuleBook → Outcome (α × RuleBook)} (h : change b = .ok (a, after)) :
    b.attempt change = (.ok a, after) := by simp [attempt, h]

theorem attempt_of_error {α : Type} {b : RuleBook} {f : Failure}
    {change : RuleBook → Outcome (α × RuleBook)} (h : change b = .error f) :
    b.attempt change = (.error f, b) := by simp [attempt, h]

end RuleBook

end DialPlan
