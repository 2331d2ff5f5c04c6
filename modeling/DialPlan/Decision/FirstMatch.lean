import DialPlan.Chain.Resolution
import DialPlan.Decision.Basic
import DialPlan.Rule.Matching

/-!
# The first match

The first enabled rule whose target selects a node decides on it.  When the chain of that rule
cannot be resolved, the policy says whether the node stays without a chain or the next matching rule
is asked.  The recursion is on the list of rules.
-/

namespace DialPlan

/-- **What decisions are made with.** -/
structure Engine where
  provider : Provider
  vocabulary : Vocabulary
  policy : Policy := .failClosed
  templateLimit : Int := 8
  /-- Whether a node keeps the dialer it already has. -/
  keepsDialers : Bool := true

namespace Engine

/-- The resolver of an engine. -/
def resolver (e : Engine) : Resolver where
  provider := e.provider
  vocabulary := e.vocabulary
  templateLimit := e.templateLimit

/-- Whether a rule is enabled and selects a node. -/
def applies (e : Engine) (n : NodeView) (r : Rule) : Outcome Bool :=
  if r.isEnabled then r.target.selects e.vocabulary n else .ok false

/-- The resolved chain of a rule for the node of an id, a failure naming the rule. -/
def chainOf (e : Engine) (id : String) (r : Rule) : Resolution ResolvedChain :=
  (e.resolver.resolve r.chain (some id)).map (Except.mapError (·.ofRule r))

/-- **The ruling of a list of rules**, with the failures passed over on the way. -/
def rule (e : Engine) (n : NodeView) (id : String) :
    List Rule → Outcome (List Unresolved × Ruling)
  | [] => .ok ([], .unruled)
  | r :: rs => do
    if ← e.applies n r then
      match ← (e.chainOf id r : Outcome _) with
      | .ok c => .ok ([], .chained r c)
      | .error err =>
        match e.policy with
        | .failClosed => .ok ([], .failed r err)
        | .failOpen => do
          let (skipped, ruling) ← rule e n id rs
          .ok (err :: skipped, ruling)
    else rule e n id rs

/-- **The decision on a node.** -/
def decide (e : Engine) (n : NodeView) (rules : List Rule) : Outcome Decision := do
  let node ← n.id
  let (skipped, ruling) ← e.rule n node rules
  .ok { node, ruling, skipped }

end Engine

end DialPlan
