import Tablewright.Connection.Driver
import Tablewright.Database.Executor
import Tablewright.Migration.Session
import Tablewright.Proofs.Blueprint.Calls
import Tablewright.Proofs.Blueprint.Changes
import Tablewright.Proofs.Blueprint.Coherence
import Tablewright.Proofs.Blueprint.Compiled
import Tablewright.Proofs.Blueprint.Defaults
import Tablewright.Proofs.Blueprint.Documented
import Tablewright.Proofs.Blueprint.Drafts
import Tablewright.Proofs.Blueprint.Enumerations
import Tablewright.Proofs.Blueprint.Growth
import Tablewright.Proofs.Blueprint.IndexNames
import Tablewright.Proofs.Blueprint.Legible
import Tablewright.Proofs.Blueprint.Modifiers
import Tablewright.Proofs.Blueprint.Pending
import Tablewright.Proofs.Blueprint.Rejected
import Tablewright.Proofs.Blueprint.Repeated
import Tablewright.Proofs.Blueprint.Spared
import Tablewright.Proofs.Blueprint.Worded
import Tablewright.Proofs.Blueprint.Wording
import Tablewright.Proofs.Calendar.Iso
import Tablewright.Proofs.Config.Documents
import Tablewright.Proofs.Config.Reports
import Tablewright.Proofs.Connection.Outcomes
import Tablewright.Proofs.Database.Duplicates
import Tablewright.Proofs.Database.Executor
import Tablewright.Proofs.Migration.Batches
import Tablewright.Proofs.Migration.Course
import Tablewright.Proofs.Migration.Discipline
import Tablewright.Proofs.Migration.ExactlyOnce
import Tablewright.Proofs.Migration.FirstRuns
import Tablewright.Proofs.Migration.Identifiers
import Tablewright.Proofs.Migration.Moments
import Tablewright.Proofs.Migration.OneRun
import Tablewright.Proofs.Migration.Presence
import Tablewright.Proofs.Migration.ReadBack
import Tablewright.Proofs.Migration.Readings
import Tablewright.Proofs.Migration.Runners
import Tablewright.Proofs.Migration.Tracking
import Tablewright.Proofs.Migration.Views
import Tablewright.Proofs.Program.Observed
import Tablewright.Proofs.Schema.Sending
import Tablewright.Proofs.Schema.Steps
import Tablewright.Proofs.Schema.Tables
import Tablewright.Proofs.Script.Rephrased
import Tablewright.Proofs.Script.Tails
import Tablewright.Proofs.Statement.Words
import Tablewright.Yaml.Loader
