import DialPlan.Proofs.RuleBook.Run

/-!
# Refused changes

`RuleBook.attempt` gives back the old book when a change fails.  Whoever keeps a book in place has
no old book to give back: what was written stays written.  Nothing is lost by that, because every
change makes all of its checks before its first write.

* `InPlace` is a change that reads and writes one book as it goes and takes nothing back.
* `inPlace` carries a request out that way, write by write: an import writes the rules of one
  subscription after the other, and drops and claims its ids one by one.
* `inPlace_eq_perform` says that this comes to the same as `perform`, whether the request is refused
  or not, and `refused_writes_nothing` that a refused request has written neither rules nor owners.
-/

namespace DialPlan.RuleBook

/-! ## Changes in place -/

/-- **A change in place.**  When it breaks off, the book stays as it is at that moment. -/
abbrev InPlace (α : Type) := ExceptT Failure (StateM RuleBook) α

namespace InPlace

variable {α β : Type}

/-- A step that looks at the book and may refuse. -/
def check (c : RuleBook → Outcome α) : InPlace α := fun b => (c b, b)

/-- A step that looks something up. -/
def read (φ : RuleBook → α) : InPlace α := check fun b => .ok (φ b)

/-- A step that writes. -/
def write (w : RuleBook → RuleBook) : InPlace Unit := fun b => (.ok (), w b)

/-- A write for each of several items. -/
def writeAll (w : β → RuleBook → RuleBook) : List β → InPlace Unit
  | [] => pure ()
  | a :: items => do
    write (w a)
    writeAll w items

theorem bind_of_ok {x : InPlace α} {f : α → InPlace β} {b mid : RuleBook} {a : α}
    (h : x b = (.ok a, mid)) : (x >>= f) b = f a mid := by
  show (match x b with | (r, mid) => ExceptT.bindCont f r mid) = _
  rw [h]
  rfl

theorem bind_of_error {x : InPlace α} {f : α → InPlace β} {b mid : RuleBook} {e : Failure}
    (h : x b = (.error e, mid)) : (x >>= f) b = (.error e, mid) := by
  show (match x b with | (r, mid) => ExceptT.bindCont f r mid) = _
  rw [h]
  rfl

theorem write_bind (w : RuleBook → RuleBook) (f : Unit → InPlace β) (b : RuleBook) :
    (write w >>= f) b = f () (w b) :=
  bind_of_ok rfl

theorem writeAll_eq (w : β → RuleBook → RuleBook) (items : List β) (b : RuleBook) :
    writeAll w items b = (.ok (), items.foldl (fun b a => w a b) b) := by
  induction items generalizing b with
  | nil => rfl
  | cons a items ih =>
    rw [writeAll, write_bind, ih]
    rfl

theorem writeAll_bind (w : β → RuleBook → RuleBook) (items : List β) (f : Unit → InPlace α)
    (b : RuleBook) : (writeAll w items >>= f) b = f () (items.foldl (fun b a => w a b) b) :=
  bind_of_ok (writeAll_eq w items b)

/-- Writes to the owners alone come to one write of what they add up to. -/
theorem writeOwners_bind (w : β → RuleBook → RuleBook) (g : Table String → β → Table String)
    (hw : ∀ a b, w a b = { b with owners := g b.owners a }) (items : List β)
    (f : Unit → InPlace α) (b : RuleBook) :
    (writeAll w items >>= f) b = f () { b with owners := items.foldl g b.owners } := by
  have hfold : items.foldl (fun b a => w a b) b = { b with owners := items.foldl g b.owners } := by
    induction items generalizing b with
    | nil => rfl
    | cons a items ih =>
      rw [List.foldl_cons, ih, hw]
      rfl
  rw [writeAll_bind, hfold]

/-- **What a change in place comes to**: the answer and the book of an outcome, or its failure and
the book as it was before. -/
def ComesTo (x : InPlace α) (b : RuleBook) (o : Outcome (α × RuleBook)) : Prop :=
  x b = b.attempt fun _ => o

namespace ComesTo

variable {b : RuleBook} {f : α → InPlace β}

/-- A check in front: if it refuses, nothing has been written yet. -/
theorem check {c : RuleBook → Outcome α} {rest : α → Outcome (β × RuleBook)}
    (h : ∀ a, ComesTo (f a) b (rest a)) : ComesTo (InPlace.check c >>= f) b (c b >>= rest) := by
  unfold ComesTo
  cases hc : c b with
  | error e =>
    have hcheck : InPlace.check c b = (.error e, b) := by rw [InPlace.check, hc]
    rw [bind_of_error hcheck]
    rfl
  | ok a =>
    have hcheck : InPlace.check c b = (.ok a, b) := by rw [InPlace.check, hc]
    rw [bind_of_ok hcheck]
    exact h a

/-- A refusal under a condition. -/
theorem refuse {p : Prop} [Decidable p] {r : Refusal} {f : Unit → InPlace β}
    {rest : Unit → Outcome (β × RuleBook)} (h : ComesTo (f ()) b (rest ())) :
    ComesTo (if p then (InPlace.check fun _ => Outcome.refuse r) >>= f else f ()) b
      (if p then Outcome.refuse r >>= rest else rest ()) := by
  split
  · rfl
  · exact h

theorem read {φ : RuleBook → α} {o : Outcome (β × RuleBook)} (h : ComesTo (f (φ b)) b o) :
    ComesTo (InPlace.read φ >>= f) b o := by
  have hread : InPlace.read φ b = (.ok (φ b), b) := rfl
  unfold ComesTo
  rw [bind_of_ok hread]
  exact h

/-- Steps that only write go through. -/
theorem written {x : InPlace α} {a : α} {after : RuleBook} (h : x b = (.ok a, after)) :
    ComesTo x b (.ok (a, after)) := h

end ComesTo

end InPlace

/-! ## Every change in place -/

section Changes

open InPlace

/-- Draw the next id.  It is used up, whatever becomes of it. -/
def drawId : InPlace String := fun b =>
  let (id, ids) := b.ids.fresh b.owners.keys
  (.ok id, { b with ids })

/-- Make a subscription the owner of a rule. -/
def claim (s : String) (r : Rule) (b : RuleBook) : RuleBook :=
  { b with owners := b.owners.put r.id.text s }

/-- Drop an id, if the subscription owns it. -/
def release (s id : String) (b : RuleBook) : RuleBook :=
  { b with owners := disown s b.owners id }

/-- Drop an id. -/
def forget (id : String) (b : RuleBook) : RuleBook :=
  { b with owners := b.owners.erase id }

/-- Appending a rule of a given id, in place. -/
def appendInPlace (now : DateTime) (d : Draft) (id : String) : InPlace Rule := do
  let chain ← check fun _ => Outcome.ofFault d.chain.items
  let current ← read (·.list d.subscription)
  let r := d.toRule id current.length chain now
  check (·.vocabulary.require r)
  write (·.setRules d.subscription (current ++ [r]))
  write (claim d.subscription r)
  pure r

theorem appendInPlace_comesTo (now : DateTime) (d : Draft) (id : String) (b : RuleBook) :
    ComesTo (appendInPlace now d id) b (append now d id b) := by
  apply ComesTo.check
  intro chain
  apply ComesTo.read
  apply ComesTo.check
  intro _
  exact ComesTo.written rfl

/-- Adding a rule, in place. -/
def createInPlace (now : DateTime) (d : Draft) : InPlace Rule :=
  if d.subscription.isEmpty then check fun _ => Outcome.refuse .subscriptionRequired
  else do
    let id ← drawId
    appendInPlace now d id

theorem createInPlace_eq (now : DateTime) (d : Draft) (b : RuleBook) :
    createInPlace now d b = b.create now d := by
  unfold createInPlace create
  split
  · rfl
  · exact appendInPlace_comesTo now d (b.ids.fresh b.owners.keys).1 _

/-- Updating a rule, in place. -/
def updateInPlace (now : DateTime) (id : String) (p : Patch) (asked : Option String) :
    InPlace Rule := do
  check fun _ => checkPatch id p asked
  let chain ← check fun _ => Outcome.ofFault p.chainItems
  if p.dropsTarget then check fun _ => Outcome.refuse (.targetRequired id asked)
  let owner ← check (·.owner id asked)
  let current ← check (·.find owner id)
  let r := p.applyTo chain now current
  check (·.vocabulary.require r)
  write (·.replace owner r)
  pure r

theorem updateInPlace_eq (now : DateTime) (id : String) (p : Patch) (asked : Option String)
    (b : RuleBook) : updateInPlace now id p asked b = b.update now id p asked := by
  apply ComesTo.check
  intro _
  apply ComesTo.check
  intro chain
  apply ComesTo.refuse
  apply ComesTo.check
  intro owner
  apply ComesTo.check
  intro current
  apply ComesTo.check
  intro _
  exact ComesTo.written rfl

/-- Switching a rule, in place. -/
def toggleInPlace (now : DateTime) (id : String) (asked : Option String) : InPlace Rule := do
  let owner ← check (·.owner id asked)
  let current ← check (·.find owner id)
  let r := { current with enabled := .bool (!current.isEnabled), updated := now }
  write (·.replace owner r)
  pure r

theorem toggleInPlace_eq (now : DateTime) (id : String) (asked : Option String) (b : RuleBook) :
    toggleInPlace now id asked b = b.toggle now id asked := by
  apply ComesTo.check
  intro owner
  apply ComesTo.check
  intro current
  exact ComesTo.written rfl

/-- Removing a rule, in place: first from the list, then from the owners. -/
def deleteInPlace (id : String) (asked : Option String) : InPlace Rule := do
  let owner ← check (·.owner id asked)
  let r ← check (·.find owner id)
  let rest ← read fun b => (b.list owner).filter (·.id ≠ .str id)
  write (·.setRules owner (renumber rest))
  write (forget id)
  pure r

theorem deleteInPlace_eq (id : String) (asked : Option String) (b : RuleBook) :
    deleteInPlace id asked b = b.delete id asked := by
  apply ComesTo.check
  intro owner
  apply ComesTo.check
  intro r
  apply ComesTo.read
  exact ComesTo.written rfl

/-- Removing a subscription, in place: its list first, then the ids one by one. -/
def deleteSubscriptionInPlace (s : String) : InPlace Nat := do
  let gone ← read (·.list s)
  write fun b => { b with rules := b.rules.erase s }
  writeAll (fun r => forget r.id.text) gone
  pure gone.length

theorem deleteSubscriptionInPlace_eq (s : String) (b : RuleBook) :
    deleteSubscriptionInPlace s b =
      (.ok (b.deleteSubscription s).1, (b.deleteSubscription s).2) := by
  show (writeAll (fun r => forget r.id.text) (b.list s) >>= fun _ => pure (b.list s).length)
    { b with rules := b.rules.erase s } = _
  rw [writeOwners_bind (fun r : Rule => forget r.id.text)
    (fun owners r => owners.erase r.id.text) fun _ _ => rfl]
  rfl

/-- Reordering, in place. -/
def reorderInPlace (s : String) (given : Value) : InPlace (List Rule) := do
  let ids ← check fun _ => Outcome.ofFault (do Value.asTexts (← Node.itemsOf given))
  let current ← read (·.idsOf s)
  if (without current ids).isEmpty && (without ids current).isEmpty && (repeated ids).isEmpty then
    let rules ← read fun b => renumber (inOrderOf (b.list s) ids)
    write (·.setRules s rules)
    pure rules
  else
    check fun _ => Outcome.refuse
      (.orderMismatch (without current ids) (without ids current) (repeated ids) s)

theorem reorderInPlace_eq (s : String) (given : Value) (b : RuleBook) :
    reorderInPlace s given b = b.reorder s given := by
  apply ComesTo.check
  intro ids
  apply ComesTo.read
  dsimp only
  split
  · apply ComesTo.read
    exact ComesTo.written rfl
  · rfl

/-- Installing groups, in place: for one group after the other its list, the ids that its
subscription had, and the ids that it has now. -/
def installInPlace : Table (List Rule) → InPlace (List Rule)
  | [] => pure []
  | (s, group) :: more => do
    let rules := ordered group
    let previous ← read (·.idsOf s)
    write (·.setRules s rules)
    writeAll (release s) previous
    writeAll (claim s) rules
    let rest ← installInPlace more
    pure (rules ++ rest)

theorem installInPlace_eq (groups : Table (List Rule)) (b : RuleBook) :
    installInPlace groups b = (.ok (b.installAll groups).1, (b.installAll groups).2) := by
  induction groups generalizing b with
  | nil => rfl
  | cons e groups ih =>
    obtain ⟨s, group⟩ := e
    show (writeAll (release s) (b.idsOf s) >>= fun _ => writeAll (claim s) (ordered group) >>=
      fun _ => installInPlace groups >>= fun rest => pure (ordered group ++ rest))
        (b.setRules s (ordered group)) = _
    rw [writeOwners_bind (release s) (disown s) fun _ _ => rfl,
      writeOwners_bind (claim s) (fun owners r => owners.put r.id.text s) fun _ _ => rfl,
      bind_of_ok (ih _)]
    rfl

/-- Taking records in, in place: everything is read and checked before the first group is
installed. -/
def importInPlace (now : DateTime) (records : Value) : InPlace (List Rule) := do
  let items ← check fun _ => Outcome.ofFault (Node.itemsOf records)
  let rules ← check fun b => readAll now b.vocabulary [] items
  check fun b => b.checkOwners (bySubscription rules) rules
  installInPlace (bySubscription rules)

theorem importInPlace_eq (now : DateTime) (records : Value) (b : RuleBook) :
    importInPlace now records b = b.importRecords now records := by
  apply ComesTo.check
  intro items
  apply ComesTo.check
  intro rules
  apply ComesTo.check
  intro _
  exact ComesTo.written (installInPlace_eq _ b)

/-- **Carrying a request out in place.** -/
def Request.inPlace : Request → InPlace Unit
  | .create now draft => do let _ ← createInPlace now draft
  | .update now id patch subscription => do let _ ← updateInPlace now id patch subscription
  | .toggle now id subscription => do let _ ← toggleInPlace now id subscription
  | .delete id subscription => do let _ ← deleteInPlace id subscription
  | .reorder subscription ids => do let _ ← reorderInPlace subscription ids
  | .deleteSubscription subscription => do let _ ← deleteSubscriptionInPlace subscription
  | .importRecords now records => do let _ ← importInPlace now records

theorem bind_pure_unit {α : Type} (x : InPlace α) (b : RuleBook) :
    (x >>= fun _ => pure ()) b = withoutAnswer (x b) := by
  cases hx : x b with
  | mk answer after =>
    cases answer with
    | error e => exact bind_of_error hx
    | ok a => exact bind_of_ok hx

/-- **A request comes to the same in place**, refused or not. -/
theorem inPlace_eq_perform (q : Request) (b : RuleBook) : q.inPlace b = b.perform q := by
  cases q with
  | create now draft =>
    exact (bind_pure_unit _ b).trans (congrArg withoutAnswer (createInPlace_eq now draft b))
  | update now id patch subscription =>
    exact (bind_pure_unit _ b).trans
      (congrArg withoutAnswer (updateInPlace_eq now id patch subscription b))
  | toggle now id subscription =>
    have htoggle := toggleInPlace_eq now id subscription b
    exact (bind_pure_unit _ b).trans (congrArg withoutAnswer htoggle)
  | delete id subscription =>
    exact (bind_pure_unit _ b).trans (congrArg withoutAnswer (deleteInPlace_eq id subscription b))
  | reorder subscription ids =>
    exact (bind_pure_unit _ b).trans (congrArg withoutAnswer (reorderInPlace_eq subscription ids b))
  | deleteSubscription subscription =>
    exact (bind_pure_unit _ b).trans
      (congrArg withoutAnswer (deleteSubscriptionInPlace_eq subscription b))
  | importRecords now records =>
    exact (bind_pure_unit _ b).trans (congrArg withoutAnswer (importInPlace_eq now records b))

end Changes

/-! ## Refusals -/

/-- **The same contents**: the same rules in every subscription, and the same owners. -/
structure SameContents (b after : RuleBook) : Prop where
  rules : after.rules = b.rules
  owners : after.owners = b.owners

variable {b after : RuleBook} {f : Failure}

theorem SameContents.refl (b : RuleBook) : SameContents b b := ⟨rfl, rfl⟩

theorem withoutAnswer_eq_error {α : Type} {r : Outcome α × RuleBook}
    (h : withoutAnswer r = (.error f, after)) : r = (.error f, after) := by
  obtain ⟨answer, book⟩ := r
  cases answer with
  | error e =>
    cases h
    rfl
  | ok a => cases h

theorem sameContents_of_attempt {α : Type} {change : RuleBook → Outcome (α × RuleBook)}
    (h : b.attempt change = (.error f, after)) : SameContents b after := by
  rcases attempt_cases b change with ⟨a, mid, -, hok⟩ | ⟨e, -, herror⟩
  · rw [hok] at h
    cases h
  · rw [herror] at h
    cases h
    exact SameContents.refl b

/-- A refused creation has used up an id, and that is all. -/
theorem sameContents_of_create {now : DateTime} {d : Draft}
    (h : b.create now d = (.error f, after)) : SameContents b after := by
  unfold create at h
  split at h
  · cases h
    exact SameContents.refl b
  · have hsame := sameContents_of_attempt h
    exact ⟨hsame.rules, hsame.owners⟩

theorem sameContents_of_refused {q : Request} (h : b.perform q = (.error f, after)) :
    SameContents b after := by
  cases q with
  | create now draft => exact sameContents_of_create (withoutAnswer_eq_error h)
  | deleteSubscription subscription => cases h
  | update now id patch subscription => exact sameContents_of_attempt (withoutAnswer_eq_error h)
  | toggle now id subscription => exact sameContents_of_attempt (withoutAnswer_eq_error h)
  | delete id subscription => exact sameContents_of_attempt (withoutAnswer_eq_error h)
  | reorder subscription ids => exact sameContents_of_attempt (withoutAnswer_eq_error h)
  | importRecords now records => exact sameContents_of_attempt (withoutAnswer_eq_error h)

/-- **A refused request writes nothing.**  Carried out in place, where every write stays, a request
that fails for whatever reason leaves the rules of every subscription and the owners of all ids as
they were.  That it is carried out in place makes no difference to any request. -/
theorem refused_writes_nothing (b : RuleBook) (q : Request) :
    q.inPlace b = b.perform q ∧ ∀ f after, q.inPlace b = (.error f, after) →
      after.rules = b.rules ∧ (∀ s, after.list s = b.list s) ∧ after.owners = b.owners := by
  refine ⟨inPlace_eq_perform q b, fun f after hrefused => ?_⟩
  rw [inPlace_eq_perform] at hrefused
  have hsame := sameContents_of_refused hrefused
  refine ⟨hsame.rules, fun s => ?_, hsame.owners⟩
  rw [list, list, hsame.rules]

/-- Of two records the second takes an id from a subscription that no record mentions, so the first
is not installed either. -/
theorem refused_writes_nothing_taken_id :
    let draft : Draft :=
      { subscription := "a", chain := .holds [.holds (.ofNode "hop")], target := .holds .all }
    let record : String → String → Value := fun id s =>
      .dict [(.str "id", .str id), (.str "subscriptionId", .str s)]
    let b :=
      ({ vocabulary := .standard, ids := { given := ["x"] } } : RuleBook).create default draft
    let q := Request.importRecords default (.list [record "y" "b", record "x" "c"])
    (q.inPlace b.2).1 = .error (.refused (.ownedElsewhere "x" "a")) ∧
      (q.inPlace b.2).2.list "b" = b.2.list "b" ∧ (q.inPlace b.2).2.owners = [("x", "a")] := by
  intro draft record b q
  have hrefused : (q.inPlace b.2).1 = .error (.refused (.ownedElsewhere "x" "a")) := by
    subst q b record draft
    decide +kernel
  have howners : b.2.owners = [("x", "a")] := by
    subst b draft
    decide +kernel
  have hsame := (refused_writes_nothing b.2 q).2 _ _ (Prod.ext hrefused rfl)
  exact ⟨hrefused, hsame.2.1 "b", hsame.2.2.trans howners⟩

end DialPlan.RuleBook
