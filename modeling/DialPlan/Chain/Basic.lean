import DialPlan.Rule.Basic

/-!
# Resolved chains

What a chain comes to: the proxies that a node is dialled through, outermost first, and the groups
that have to be generated for them.  An empty chain claims a node without a proxy.

Why a chain could not be resolved is a cause (`Cause`), reported with the reference and the position
of the hop that failed (`Unresolved`).
-/

namespace DialPlan

/-- What a resolved hop dials. -/
inductive HopKind
  | node
  | group
  deriving DecidableEq, Repr, Inhabited

/-- The wire name of a kind. -/
def HopKind.name : HopKind → String
  | node => "node"
  | group => "group"

/-- **A resolved hop.** -/
structure ResolvedHop where
  kind : HopKind
  /-- The name that is written down. -/
  proxyName : String
  /-- The id or name that the hop came from. -/
  reference : String
  position : Nat
  /-- The selector of the declared hop, before templates were followed. -/
  selector : Selector
  deriving DecidableEq, Repr, Inhabited

/-- **A group to be generated.** -/
structure CustomGroup where
  name : String
  type : Value
  proxies : List String
  urlTest : Option UrlTest := none
  deriving DecidableEq, Inhabited

/-- A generated group as data. -/
def CustomGroup.toValue (g : CustomGroup) : Value :=
  .dict ([(.str "name", .str g.name), (.str "type", g.type),
    (.str "proxies", .list (g.proxies.map .str))]
    ++ (match g.urlTest with | some u => u.entries | none => []))

/-- **A resolved chain.** -/
structure ResolvedChain where
  hops : List ResolvedHop := []
  groups : List CustomGroup := []
  deriving DecidableEq, Inhabited

namespace ResolvedChain

/-- The names of the proxies, outermost first. -/
def proxyNames (c : ResolvedChain) : List String := c.hops.map (·.proxyName)

/-- The proxy that traffic enters by. -/
def entry? (c : ResolvedChain) : Option String := c.proxyNames.head?

/-- The proxy that the ruled node dials. -/
def dialer? (c : ResolvedChain) : Option String := c.proxyNames.getLast?

/-- A straight row of proxies, each dialling the next, from the last one on. -/
def linksFrom (current : String) : List String → List (String × String)
  | [] => []
  | name :: rest => (current, name) :: linksFrom name rest

/-- **Who dials whom** when a node stands at the end of the chain. -/
def links (c : ResolvedChain) (node : String) : List (String × String) :=
  linksFrom node c.proxyNames.reverse

/-- A resolved chain as data. -/
def toValue (c : ResolvedChain) : Value :=
  .dict [
    (.str "chain", .list (c.proxyNames.map .str)),
    (.str "references", .list (c.hops.map fun h => .str h.reference)),
    (.str "customGroups", .list (c.groups.map CustomGroup.toValue))]

end ResolvedChain

/-! ## Failure -/

/-- **Why a hop could not be resolved.** -/
inductive Cause
  | missingNode (id : String)
  | missingGroup (name : String)
  | emptyGroup (name : String)
  | missingTemplate (name : String)
  | templateCycle (path : List String)
  | templateDepth (limit : Int)
  | invalidTemplate (name : String) (selector : Selector)
  | dynamicWithoutConditions
  | noCandidate
  | unnamedGroup
  | groupWithoutConditions (name : String)
  | noMember (name : String)
  deriving DecidableEq, Repr

namespace Cause

/-- The short reason of a cause. -/
def reason : Cause → String
  | missingNode _ => "missing_node"
  | missingGroup _ => "missing_group"
  | emptyGroup _ => "empty_group"
  | missingTemplate _ => "missing_template"
  | templateCycle _ => "template_cycle"
  | templateDepth _ => "template_depth"
  | invalidTemplate .. => "invalid_template"
  | dynamicWithoutConditions | groupWithoutConditions _ => "missing_conditions"
  | noCandidate | noMember _ => "no_match"
  | unnamedGroup => "missing_group_name"

/-- The wording of a cause. -/
def message : Cause → String
  | missingNode id => "Node '" ++ id ++ "' does not exist"
  | missingGroup name => "Group '" ++ name ++ "' does not exist"
  | emptyGroup name => "Group '" ++ name ++ "' has no members"
  | missingTemplate name => "Template group '" ++ name ++ "' does not exist"
  | templateCycle path => "Template cycle: " ++ " -> ".intercalate path
  | templateDepth limit => "Template nesting deeper than " ++ toString limit
  | invalidTemplate name selector =>
    "Template '" ++ name ++ "' must expand to a node or group hop, got " ++ selector.name
  | dynamicWithoutConditions => "Dynamic node hop has no conditions"
  | noCandidate => "No node matches the dynamic node conditions"
  | unnamedGroup => "Custom group has no name"
  | groupWithoutConditions name => "Custom group '" ++ name ++ "' has no conditions"
  | noMember name => "Custom group '" ++ name ++ "' matches no node"

end Cause

/-- **A chain that could not be resolved**: the cause, and the hop that failed.  The rule is known
once an engine has asked for the chain of one. -/
structure Unresolved where
  cause : Cause
  reference : String
  position : Nat
  rule : Option (Value × String) := none
  deriving DecidableEq

namespace Unresolved

/-- The code of a failed resolution. -/
def code : String := "CR_RESOLUTION_ERROR"

/-- The failure of a rule's chain. -/
def ofRule (e : Unresolved) (r : Rule) : Unresolved :=
  { e with rule := some (r.id, r.subscription) }

/-- The subscription of the rule, unless its name is empty. -/
def concerned (e : Unresolved) : Option String :=
  (e.rule.map (·.2)).filter (!·.isEmpty)

/-- The text of a failed resolution. -/
def text (e : Unresolved) : String :=
  "[" ++ code ++ "] " ++ e.cause.message ++
    (match e.concerned with | some s => " (subscription: " ++ s ++ ")" | none => "")

/-- **A failed resolution as data.** -/
def toValue (e : Unresolved) : Value :=
  .dict ([(.str "code", .str code), (.str "message", .str e.cause.message)]
    ++ (match e.concerned with
      | some s => [(.str "subscription_id", .str s)]
      | none => [])
    ++ [(.str "reason", .str e.cause.reason), (.str "reference", .str e.reference),
      (.str "position", .int e.position)]
    ++ (match e.rule with
      | some (.null, _) | none => []
      | some (id, _) => [(.str "rule_id", id)]))

end Unresolved

end DialPlan
