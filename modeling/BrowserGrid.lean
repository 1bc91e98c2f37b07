import BrowserGrid.Main
import BrowserGrid.Proofs.Capability.Pins
import BrowserGrid.Proofs.Capability.Provisioned
import BrowserGrid.Proofs.Capability.Readings
import BrowserGrid.Proofs.Cluster.Cleanup
import BrowserGrid.Proofs.Cluster.Descriptors
import BrowserGrid.Proofs.Cluster.Exposure
import BrowserGrid.Proofs.Cluster.Naming
import BrowserGrid.Proofs.Cluster.Ownership
import BrowserGrid.Proofs.Cluster.Platform
import BrowserGrid.Proofs.Cluster.Registration
import BrowserGrid.Proofs.Cluster.Repetition
import BrowserGrid.Proofs.Endpoint.BareAddress
import BrowserGrid.Proofs.Exec.Kill
import BrowserGrid.Proofs.Exec.Opening
import BrowserGrid.Proofs.Exec.Output
import BrowserGrid.Proofs.Registry.Departure
import BrowserGrid.Proofs.Registry.Fates
import BrowserGrid.Proofs.Registry.Forcing
import BrowserGrid.Proofs.Registry.Greedy
import BrowserGrid.Proofs.Registry.Offers
import BrowserGrid.Proofs.Registry.Overshoot
import BrowserGrid.Proofs.Registry.Overtaking
import BrowserGrid.Proofs.Registry.Rejection
import BrowserGrid.Proofs.Registry.Replacement
import BrowserGrid.Proofs.Registry.Shutdown
import BrowserGrid.Proofs.Registry.SingleUse
import BrowserGrid.Proofs.Registry.Teardowns
import BrowserGrid.Proofs.Registry.Wakeup
import BrowserGrid.Simulation.Machine
import BrowserGrid.Simulation.Renaming
import BrowserGrid.Simulation.Run
import BrowserGrid.Simulation.Scenario
