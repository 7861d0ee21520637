import ScalingTrials.Main
import ScalingTrials.Manifest.Shipped
import ScalingTrials.Proofs.Adoption
import ScalingTrials.Proofs.Agreement
import ScalingTrials.Proofs.Attempts
import ScalingTrials.Proofs.Custody
import ScalingTrials.Proofs.Expectation.Tags
import ScalingTrials.Proofs.Newest
import ScalingTrials.Proofs.Runner.Absence
import ScalingTrials.Proofs.Runner.Budget
import ScalingTrials.Proofs.Runner.Duration
import ScalingTrials.Proofs.Runner.Verdict
import ScalingTrials.Proofs.Shown
import ScalingTrials.Proofs.Status
import ScalingTrials.Proofs.Waits
import ScalingTrials.Proofs.Wire.Store
import ScalingTrials.Proofs.Naming.Draws
import ScalingTrials.Proofs.Poll.Budget
import ScalingTrials.Proofs.Precedence
