import DialPlan.Main
import DialPlan.Proofs.Outcome
import DialPlan.Proofs.RuleBook.Effect
import DialPlan.Proofs.RuleBook.FreshId
import DialPlan.Proofs.Table
import DialPlan.Rule.Assembly
import DialPlan.Proofs.RuleBook.Coherence
import DialPlan.Proofs.RuleBook.Import
import DialPlan.Proofs.RuleBook.Run
import DialPlan.Proofs.Condition.Comparison
import DialPlan.Proofs.Decision.FirstMatch
import DialPlan.Proofs.Condition.Totality
import DialPlan.Proofs.Number.Rounding
import DialPlan.Proofs.Number.Shortest
import DialPlan.Proofs.Json.Number
import DialPlan.Proofs.Json.RoundTrip
import DialPlan.Proofs.Schema.Condition
import DialPlan.Proofs.Timestamp
import DialPlan.Proofs.Schema.Rule
import DialPlan.Proofs.Record
import DialPlan.Proofs.RuleBook.Atomicity
import DialPlan.Proofs.Chain.Soundness
import DialPlan.Proofs.RuleBook.Replacement
import DialPlan.Proofs.RuleBook.Backup
import DialPlan.Proofs.Chain.Expansion
import DialPlan.Proofs.Decision.RuledNode
import DialPlan.Proofs.Rule.Acceptance
import DialPlan.Proofs.Rule.SetAcceptance
import DialPlan.Proofs.Condition.Explanation
import DialPlan.Proofs.Decision.Pass
import DialPlan.Proofs.Pack.RuleIds
import DialPlan.Proofs.RecordSpelling
import DialPlan.Proofs.Chain.Acceptance
import DialPlan.Proofs.Pack.Restoring
import DialPlan.Proofs.RuleBook.Isolation
import DialPlan.Proofs.Rule.Breakdown
import DialPlan.Proofs.Clash
import DialPlan.Proofs.Pack.Failures
import DialPlan.Proofs.RuleBook.Ordering
import DialPlan.Proofs.Chain.Picking
import DialPlan.Proofs.Pack.LeafNames
import DialPlan.Proofs.Pack.ClashGroups
import DialPlan.Proofs.Chain.Fastest
import DialPlan.Proofs.Pack.Snapshots
import DialPlan.Proofs.Chain.Composition
import DialPlan.Proofs.Schema.ConditionGrammar
import DialPlan.Proofs.Condition.Monotonicity
import DialPlan.Proofs.Condition.Complement
import DialPlan.Proofs.Rule.ListExpansion
import DialPlan.Proofs.RecordTarget
import DialPlan.Proofs.Chain.Durations
import DialPlan.Proofs.Condition.Integers
import DialPlan.Proofs.Condition.TextOperators
import DialPlan.Proofs.NodeRecord
import DialPlan.Proofs.Pack.GroupMembers
import DialPlan.Proofs.NodeTags
