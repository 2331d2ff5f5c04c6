import DialPlan.Chain.Basic
import DialPlan.Condition.Evaluation
import DialPlan.Digest
import DialPlan.Provider.Basic
import DialPlan.Rule.Validation

/-!
# Resolution

Turning the declared hops of a rule into proxies, against a provider.  The first hop that cannot be
resolved fails the whole chain.

* A template is followed through further templates; every name may come up once, and only so many
  look-ups are made.  It has to end in a node or a group.
* A dynamic hop picks one node that satisfies its conditions, never the ruled one: the first, the
  one of least positive delay, or one that a digest of the seed and the candidates points at.
* A custom hop makes a group of all nodes that satisfy its conditions.
-/

namespace DialPlan

/-- **What resolution works with.** -/
structure Resolver where
  provider : Provider
  vocabulary : Vocabulary
  /-- How many templates are followed at most. -/
  templateLimit : Int := 8

/-- A result of resolution: an answer, or why there is none. -/
abbrev Resolution (α : Type) := Outcome (Except Unresolved α)

namespace Resolution

/-- An answer. -/
def found {α : Type} (a : α) : Resolution α := .ok (.ok a)

/-- No answer. -/
def failed {α : Type} (cause : Cause) (reference : String) (position : Nat) : Resolution α :=
  .ok (.error { cause, reference, position })

/-- Go on from an answer. -/
def andThen {α β : Type} (r : Resolution α) (f : α → Resolution β) : Resolution β :=
  match r with
  | .ok (.ok a) => f a
  | .ok (.error e) => .ok (.error e)
  | .error e => .error e

@[simp] theorem andThen_found {α β : Type} (a : α) (f : α → Resolution β) :
    (found a).andThen f = f a := rfl

end Resolution

/-! ## Delays -/

/-- **The delay of a node as a number**: zero when it has none or none that can be read. -/
def delayOf (n : NodeView) : Except Fault Binary64 :=
  match n.present? "delay_time" with
  | some (.int d) => coerceNumber.numberOfInt d
  | some (.float x) => .ok x
  | some (.decimal d) => .ok (d.toBinary64?.getD .zero)
  | some (.str s) => .ok ((Binary64.ofText? s).getD .zero)
  | some (.bytes bs) =>
    .ok (if bs.all (· < 128) then (Binary64.ofText? (Text.ofLatin bs)).getD .zero else .zero)
  | _ => .ok .zero

/-- Whether a delay beats the one chosen so far: it is positive, and the chosen one is not or is
larger. -/
def beats (delay chosen : Binary64) : Bool :=
  Binary64.zero.lt delay && (chosen.le .zero || delay.lt chosen)

/-- **The node of least positive delay**, starting from the one chosen so far; the earliest of
equals. -/
def fastestFrom (chosen : NodeView) : List NodeView → Except Fault NodeView
  | [] => .ok chosen
  | n :: ns => do
    let delay ← delayOf n
    let current ← delayOf chosen
    fastestFrom (if beats delay current then n else chosen) ns

/-! ## Picking -/

/-- **Where a seed and a list of ids point**, as an index below `count`.  A text with a lone
surrogate has no digest. -/
def seededIndex (seed : Option String) (ids : List String) (count : Nat) : Except Fault Nat :=
  let text := "|".intercalate (seed.getD "" :: ids)
  match Text.encodingComplaint? text with
  | some complaint => .error (.unencodable complaint)
  | none => .ok (Digest.sha256 text.toUTF8.toList % count)

/-- The ids of several nodes. -/
def idsOf : List NodeView → Outcome (List String)
  | [] => .ok []
  | n :: ns => do .ok ((← n.id) :: (← idsOf ns))

/-- **The pick among candidates**, of which there is a first. -/
def pick (mode : SelectMode) (seed : Option String) (first : NodeView) (rest : List NodeView) :
    Outcome NodeView :=
  match mode with
  | .first => .ok first
  | .fastest => Outcome.ofFault (fastestFrom first rest)
  | .random => do
    let ids ← idsOf (first :: rest)
    let i ← Outcome.ofFault (seededIndex seed ids (rest.length + 1))
    .ok ((first :: rest).getD i first)

/-- The nodes that satisfy what stands in a place for a condition. -/
def matching (v : Vocabulary) (root : Option (Slot Condition)) :
    List NodeView → Except Fault (List NodeView)
  | [] => .ok []
  | n :: ns => do
    let good ← satisfies v n root
    let rest ← matching v root ns
    .ok (if good then n :: rest else rest)

/-- The nodes with an id other than the seed. -/
def others (seed : Option String) : List NodeView → Outcome (List NodeView)
  | [] => .ok []
  | n :: ns => do
    let id ← n.id
    let rest ← others seed ns
    .ok (if some id = seed then rest else n :: rest)

/-- The published names of several nodes. -/
def namesOf : List NodeView → Outcome (List String)
  | [] => .ok []
  | n :: ns => do .ok ((← n.proxyName) :: (← namesOf ns))

namespace Resolver

/-! ## Templates -/

/-- A template's expansion; null is none. -/
def expansion? (e : Option (Slot Hop)) : Option (Slot Hop) :=
  match e with
  | some (.foreign .null) => none
  | e => e

/-- **What a template name stands for**: the provider's template, else the vocabulary's. -/
def lookup (r : Resolver) (name : String) : Option (Slot Hop) :=
  (expansion? (r.provider.template? name)).or (expansion? (r.vocabulary.templates.get? name))

/-- **Following templates** from a hop, with the names followed so far and the number of look-ups
left.  `start` is the declared hop. -/
def expandFrom (r : Resolver) (start : Hop) (position : Nat) :
    Nat → List String → Hop → Resolution Hop
  | fuel, visited, current =>
    match current.selector with
    | .node | .group => .found current
    | .dynamic | .custom =>
      .failed (.invalidTemplate start.reference current.selector) start.reference position
    | .template =>
      let name := current.reference
      if visited.contains name then
        .failed (.templateCycle (visited ++ [name])) start.reference position
      else
        match fuel with
        | 0 => .failed (.templateDepth r.templateLimit) start.reference position
        | fuel + 1 =>
          match r.lookup name with
          | none => .failed (.missingTemplate name) name position
          | some (.foreign v) => Outcome.refuse (.templateNotAHop name v.kindName)
          | some (.holds next) => expandFrom r start position fuel (visited ++ [name]) next

/-- The hop that a declared template comes to. -/
def expand (r : Resolver) (hop : Hop) (position : Nat) : Resolution Hop :=
  r.expandFrom hop position r.templateLimit.toNat [] hop

/-! ## Hops -/

/-- A resolved hop with the group that has to be generated for it. -/
abbrev Step := ResolvedHop × Option CustomGroup

/-- A hop that names a node. -/
def resolveNode (r : Resolver) (hop : Hop) (position : Nat) (declared : Selector) :
    Outcome (Except Unresolved Step) :=
  match r.provider.node? hop.reference with
  | none => Resolution.failed (.missingNode hop.reference) hop.reference position
  | some n => do
    let name ← n.proxyName
    Resolution.found (⟨.node, name, hop.reference, position, declared⟩, none)

/-- Whether a group has no members; a value that cannot be counted is a fault. -/
def isEmptyGroup (members : Value) : Except Fault Bool :=
  match members with
  | .list items | .tuple items | .set items => .ok items.isEmpty
  | .dict entries => .ok entries.isEmpty
  | v => .error (.noLength v.fullKindName)

/-- A hop that names a group. -/
def resolveGroup (r : Resolver) (hop : Hop) (position : Nat) (declared : Selector) :
    Outcome (Except Unresolved Step) :=
  match r.provider.group hop.reference with
  | .null => Resolution.failed (.missingGroup hop.reference) hop.reference position
  | .str _ | .bytes _ => Outcome.refuse (.groupNotAList hop.reference)
  | members => do
    if ← Outcome.ofFault (isEmptyGroup members) then
      Resolution.failed (.emptyGroup hop.reference) hop.reference position
    else Resolution.found (⟨.group, hop.reference, hop.reference, position, declared⟩, none)

/-- The candidates of a dynamic hop. -/
def candidates (r : Resolver) (hop : Hop) (seed : Option String) : Outcome (List NodeView) := do
  others seed (← Outcome.ofFault (matching r.vocabulary hop.conditions r.provider.nodes))

/-- A hop that picks a node. -/
def resolveDynamic (r : Resolver) (hop : Hop) (position : Nat) (declared : Selector)
    (seed : Option String) : Outcome (Except Unresolved Step) :=
  if hop.conditions.isNone then Resolution.failed .dynamicWithoutConditions hop.describe position
  else do
    match ← r.candidates hop seed with
    | [] => Resolution.failed .noCandidate hop.describe position
    | first :: rest => do
      let chosen ← pick (hop.selectMode.getD .first) seed first rest
      let name ← chosen.proxyName
      let id ← chosen.id
      Resolution.found (⟨.node, name, id, position, declared⟩, none)

/-- A hop that generates a group. -/
def resolveCustom (r : Resolver) (hop : Hop) (position : Nat) (declared : Selector) :
    Outcome (Except Unresolved Step) :=
  if hop.reference.isEmpty then Resolution.failed .unnamedGroup hop.reference position
  else if hop.conditions.isNone then
    Resolution.failed (.groupWithoutConditions hop.reference) hop.reference position
  else do
    let nodes ← Outcome.ofFault (matching r.vocabulary hop.conditions r.provider.nodes)
    let proxies ← namesOf nodes
    if proxies.isEmpty then Resolution.failed (.noMember hop.reference) hop.reference position
    else
      Resolution.found (⟨.group, hop.reference, hop.reference, position, declared⟩,
        some ⟨hop.reference, hop.generatedType, proxies, hop.urlTest⟩)

/-- **Resolving one hop.** -/
def resolveHop (r : Resolver) (hop : Hop) (position : Nat) (seed : Option String) :
    Resolution Step :=
  match hop.selector with
  | .node => r.resolveNode hop position .node
  | .group => r.resolveGroup hop position .group
  | .dynamic => r.resolveDynamic hop position .dynamic seed
  | .custom => r.resolveCustom hop position .custom
  | .template =>
    (r.expand hop position).andThen fun expanded =>
      match expanded.selector with
      | .node => r.resolveNode expanded position .template
      | _ => r.resolveGroup expanded position .template

/-- Resolving what stands in the place of a hop. -/
def resolveSlot (r : Resolver) (hop : Slot Hop) (position : Nat) (seed : Option String) :
    Resolution Step :=
  match hop with
  | .holds hop => r.resolveHop hop position seed
  | .foreign _ => .error (.fault .notARulePart)

/-- A chain with one more step in front. -/
def addStep (step : Step) (c : ResolvedChain) : ResolvedChain :=
  ⟨step.1 :: c.hops, step.2.toList ++ c.groups⟩

/-- Resolving the hops of a chain from a position on. -/
def resolveFrom (r : Resolver) (seed : Option String) :
    Nat → List (Slot Hop) → Resolution ResolvedChain
  | _, [] => .found {}
  | position, hop :: hops =>
    (r.resolveSlot hop position seed).andThen fun step =>
      (resolveFrom r seed (position + 1) hops).andThen fun rest => .found (addStep step rest)

/-- **Resolving a chain.**  The seed is the id of the ruled node: it steers random picks, and that
node is never picked. -/
def resolve (r : Resolver) (chain : List (Slot Hop)) (seed : Option String) :
    Resolution ResolvedChain :=
  r.resolveFrom seed 0 chain

end Resolver

end DialPlan
