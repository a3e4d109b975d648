import Workflow.Action.Rehearsal
import Workflow.Main
import Workflow.Proofs.Accepted
import Workflow.Proofs.Alone
import Workflow.Proofs.Circuits
import Workflow.Proofs.Comparability
import Workflow.Proofs.Deliveries
import Workflow.Proofs.Dialects
import Workflow.Proofs.Duality
import Workflow.Proofs.ExecutionCalls
import Workflow.Proofs.Faultless
import Workflow.Proofs.FlowCalls
import Workflow.Proofs.Granted
import Workflow.Proofs.Integers
import Workflow.Proofs.Labels
import Workflow.Proofs.Listing
import Workflow.Proofs.Lookup
import Workflow.Proofs.Malformed
import Workflow.Proofs.Paths
import Workflow.Proofs.Rooted
import Workflow.Proofs.Remains
import Workflow.Proofs.Schedules
import Workflow.Proofs.Verdicts
import Workflow.Service
import Workflow.Timetable
import Workflow.Proofs.Lifecycle
import Workflow.Proofs.Replies
import Workflow.Proofs.Confinement
import Workflow.Proofs.Importing
import Workflow.Proofs.Configurations
import Workflow.Proofs.Outlines
import Workflow.Proofs.Requirements
import Workflow.Proofs.StepLife
import Workflow.Proofs.Captures
import Workflow.Proofs.Durations
