import GitSteward.Cli
import GitSteward.Metrics.Text
import GitSteward.Proofs.Call.Delivery
import GitSteward.Proofs.Call.Progress
import GitSteward.Proofs.Breaking
import GitSteward.Proofs.Call.Verdict
import GitSteward.Proofs.Call.Flushing
import GitSteward.Proofs.Call.Cancelling
import GitSteward.Proofs.Workload.Starting
import GitSteward.Proofs.Workload.Environments
import GitSteward.Proofs.Settings
import GitSteward.Proofs.Workload.Deadlines
import GitSteward.Proofs.Workload.Tally
import GitSteward.Proofs.Copier.Tail
import GitSteward.Proofs.Workload.Effects
import GitSteward.Proofs.Workload.Routes
import GitSteward.Proofs.Workload.Alone
import GitSteward.Proofs.Workload.Apart
import GitSteward.Proofs.Config.Entries
import GitSteward.Proofs.Config.Overlay
import GitSteward.Proofs.Config.Silence
import GitSteward.Proofs.Copier.Passing
import GitSteward.Proofs.Config.Acceptance
import GitSteward.Proofs.Call.ExitText
import GitSteward.Proofs.Call.Feeding
import GitSteward.Proofs.Cli.ExitCode
import GitSteward.Proofs.Cli.Variables
import GitSteward.Proofs.Workload.Paths
import GitSteward.Proofs.Request.Description
