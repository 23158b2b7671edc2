import ForgeRL.Library.Table
import ForgeRL.Library.Dict
import ForgeRL.Library.Buckets
import ForgeRL.Library.Discounted
import ForgeRL.Library.Machine
import ForgeRL.Library.Paging
import ForgeRL.Library.Sliding
import ForgeRL.Library.Attempt
import ForgeRL.Library.Text
import ForgeRL.Library.Json
import ForgeRL.Library.Utf8
import ForgeRL.Library.Decoder
import ForgeRL.Library.AsciiJson
import ForgeRL.Library.RoundTrip
import ForgeRL.Library.Agreement
import ForgeRL.Library.Equality
import ForgeRL.Library.Coverage
import ForgeRL.Library.Rounding
import ForgeRL.Library.Calendar
import ForgeRL.Ledger.Store
import ForgeRL.Ledger.Broker
import ForgeRL.Ledger.Operations
import ForgeRL.Ledger.Safety
import ForgeRL.Ledger.StudyCap
import ForgeRL.Ledger.Windows
import ForgeRL.Ledger.Protocol
import ForgeRL.Ledger.Trial
import ForgeRL.Ledger.Availability
import ForgeRL.Ledger.Queue
import ForgeRL.Ledger.Feed
import ForgeRL.Bench.Router
import ForgeRL.Bench.Task
import ForgeRL.Bench.Provider
import ForgeRL.Bench.Generate
import ForgeRL.Bench.Accounting
import ForgeRL.Bench.Episode
import ForgeRL.Bench.Harness
import ForgeRL.Bench.Engine
import ForgeRL.Bench.Run
import ForgeRL.Bench.Workspace
import ForgeRL.Bench.Grading
import ForgeRL.Bench.Caps
import ForgeRL.Bench.Noninterference
import ForgeRL.Bench.Ablation
import ForgeRL.Bench.Progress
import ForgeRL.Bench.Advance
import ForgeRL.Bench.Protected
import ForgeRL.Bench.Trajectory
import ForgeRL.Bench.Verification
import ForgeRL.Bench.Legality
import ForgeRL.Bench.Pairing
import ForgeRL.Bench.Feedback
import ForgeRL.Bench.Extract
import ForgeRL.Bench.Standing
import ForgeRL.Bench.Counters
import ForgeRL.Bench.Intact
import ForgeRL.Bench.Checkpoint
import ForgeRL.Bench.Backoff
import ForgeRL.Sandbox.Grader
import ForgeRL.Sandbox.Evaluate
import ForgeRL.Sandbox.Validation
import ForgeRL.Sandbox.HostGrading
import ForgeRL.Sandbox.Runner
import ForgeRL.Sandbox.Isolation
import ForgeRL.Bench.FittedQ
import ForgeRL.Bench.Convergence
import ForgeRL.Bench.Reordered
import ForgeRL.Bench.Audit
import ForgeRL.Bench.Supervised
import ForgeRL.Research.Orchestrator
import ForgeRL.Research.Account
import ForgeRL.Research.Study
import ForgeRL.Research.Spending
import ForgeRL.Scripts.Aggregate
import ForgeRL.Scripts.Gathering
import ForgeRL.Scripts.Partition
import ForgeRL.Library.Trail
import ForgeRL.Library.Joined
import ForgeRL.Library.Rose
import ForgeRL.Sandbox.Ast
import ForgeRL.Sandbox.Screen
import ForgeRL.Sandbox.ImportCycles
import ForgeRL.Sandbox.Attributes
import ForgeRL.Sandbox.Loader
import ForgeRL.Sandbox.Requests
import ForgeRL.Sandbox.Containment
import ForgeRL.Research.Controller
import ForgeRL.Research.Reservation
import ForgeRL.Research.Calls
import ForgeRL.Research.Collecting
import ForgeRL.Sandbox.Transport
import ForgeRL.Bench.StudyCoverage
import ForgeRL.Bench.Expenses
import ForgeRL.Bench.StudyPhases
import ForgeRL.Bench.StudyLearning
import ForgeRL.Bench.StudyStops
import ForgeRL.Bench.StudyStatistics
import ForgeRL.Bench.StudyCrash
import ForgeRL.Bench.StudyManifest
import ForgeRL.Scripts.Accepting
import ForgeRL.Scripts.StudyDirectory
import ForgeRL.Scripts.StudySubmission
import ForgeRL.Scripts.StudyAggregate
