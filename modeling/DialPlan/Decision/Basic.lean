import DialPlan.Chain.Basic
import DialPlan.Failure

/-!
# Decisions

What the rules of a subscription say about one node: nothing, a chain, a failed chain, or that the
dialer which the node already has is kept.  Under the open policy the failures that were passed over
are kept as well.
-/

namespace DialPlan

/-- **What happens when a matching rule's chain cannot be resolved.** -/
inductive Policy
  /-- The node stays without a chain. -/
  | failClosed
  /-- The next matching rule is asked. -/
  | failOpen
  deriving DecidableEq, Repr, Inhabited

namespace Policy

/-- The wire name of a policy. -/
def name : Policy → String
  | failClosed => "fail_closed"
  | failOpen => "fail_open"

/-- All policies. -/
def all : List Policy := [failClosed, failOpen]

/-- The policy of a wire name. -/
def ofName? (s : String) : Option Policy :=
  all.find? (·.name = s)

/-- The policy that a value names. -/
def ofValue (v : Value) : Except Fault Policy :=
  memberOf "ResolutionPolicy" ofName? v

@[simp] theorem ofName?_name (p : Policy) : ofName? p.name = some p := by
  cases p <;> rfl

end Policy

/-- **What the rules come to for a node.** -/
inductive Ruling
  /-- No rule decides. -/
  | unruled
  /-- A rule decides, and its chain is resolved. -/
  | chained (rule : Rule) (chain : ResolvedChain)
  /-- A rule decides, and its chain cannot be resolved. -/
  | failed (rule : Rule) (error : Unresolved)
  /-- The node keeps the dialer it has; no rule was asked. -/
  | preserved (dialer : String)
  deriving Inhabited

/-- **The decision on a node.** -/
structure Decision where
  node : String
  ruling : Ruling
  /-- Failures that were passed over. -/
  skipped : List Unresolved := []
  deriving Inhabited

namespace Decision

/-- The rule that decided. -/
def rule? (d : Decision) : Option Rule :=
  match d.ruling with
  | .chained r _ | .failed r _ => some r
  | .unruled | .preserved _ => none

/-- The id of the rule that decided, null when none did. -/
def ruleId (d : Decision) : Value :=
  match d.rule? with
  | some r => r.id
  | none => .null

/-- The resolved chain. -/
def chain? (d : Decision) : Option ResolvedChain :=
  match d.ruling with
  | .chained _ c => some c
  | _ => none

/-- The failure that left the node without a chain. -/
def error? (d : Decision) : Option Unresolved :=
  match d.ruling with
  | .failed _ e => some e
  | _ => none

/-- Whether the node has a chain, be it empty. -/
def isMatched (d : Decision) : Bool := d.chain?.isSome

/-- **The proxy that the node dials.** -/
def dialer? (d : Decision) : Option String :=
  match d.ruling with
  | .chained _ c => c.dialer?
  | .preserved dialer => some dialer
  | .unruled | .failed .. => none

/-- **All failures met**, the passed-over ones first. -/
def errors (d : Decision) : List Unresolved := d.skipped ++ d.error?.toList

/-- The groups that the chain needs. -/
def groups (d : Decision) : List CustomGroup :=
  match d.chain? with
  | some c => c.groups
  | none => []

/-- A name, or null. -/
def textOrNull : Option String → Value
  | some s => .str s
  | none => .null

/-- **A decision as data.** -/
def toValue (d : Decision) : Value :=
  .dict ([(.str "nodeId", .str d.node), (.str "ruleId", d.ruleId),
      (.str "chain",
        match d.chain? with
        | some c => .list (c.proxyNames.map .str)
        | none => .null),
      (.str "dialerProxy", textOrNull d.dialer?)]
    ++ (match d.ruling with
      | .preserved _ => [(Value.str "preserved", Value.bool true)]
      | _ => [])
    ++ (match d.error? with
      | some e => [(Value.str "error", e.toValue)]
      | none => [])
    ++ (if d.skipped.isEmpty then []
      else [(Value.str "skipped", Value.list (d.skipped.map (·.toValue)))]))

end Decision

end DialPlan
