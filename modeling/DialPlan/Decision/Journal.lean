import DialPlan.Decision.Pass
import DialPlan.Log

/-!
# The journal of a pass

The log entries that decisions leave: a warning for every chain that could not be resolved, a note
for every chain that was, and a summary of the pass.
-/

namespace DialPlan

/-- The logger of decisions. -/
def decisionLogger : String := "chainrules.engine.rule_engine"

/-- The warning about a rule whose chain could not be resolved. -/
def Unresolved.warning (node : String) (e : Unresolved) : LogEntry where
  level := .warning
  logger := decisionLogger
  message :=
    "Chain rule " ++ (match e.rule with | some (id, _) => id.text | none => "") ++
      " matched node " ++ node ++ " but its chain failed: " ++ e.cause.message
  context :=
    (match e.rule with
      | some (id, subscription) =>
        [("subscription_id", Value.str subscription), ("rule_id", id)]
      | none => [])
    ++ [("node_id", .str node), ("reason", .str e.cause.reason), ("reference", .str e.reference),
      ("position", .int e.position)]

/-- The note about a chain that was resolved. -/
def chainNote (node : String) (r : Rule) (c : ResolvedChain) : LogEntry where
  level := .debug
  logger := decisionLogger
  message :=
    "Node " ++ node ++ " matched rule " ++ r.id.text ++ " -> " ++
      (Value.list (c.proxyNames.map .str)).shown
  context :=
    [("subscription_id", .str r.subscription), ("rule_id", r.id), ("node_id", .str node)]

/-- **The entries of a decision.** -/
def Decision.journal (d : Decision) : List LogEntry :=
  d.errors.map (Unresolved.warning d.node) ++
    match d.ruling with
    | .chained r c => [chainNote d.node r c]
    | _ => []

/-- The summary of a pass. -/
def Pass.summary (p : Pass) : LogEntry where
  level := .info
  logger := decisionLogger
  message :=
    "Evaluated " ++ toString p.decisions.length ++ " nodes: " ++ toString p.dialCount ++
      " with chains, " ++ toString p.errors.length ++ " errors, " ++ toString p.groups.length ++
      " custom groups"

/-- **The entries of a pass.** -/
def Pass.journal (p : Pass) : List LogEntry :=
  p.decisions.flatMap (·.journal) ++ [p.summary]

end DialPlan
