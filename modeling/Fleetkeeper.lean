import Fleetkeeper.Json.Writer
import Fleetkeeper.Main
import Fleetkeeper.Node.Edit
import Fleetkeeper.Proofs.Upgrade.Completion
import Fleetkeeper.Proofs.Upgrade.Creation
import Fleetkeeper.Proofs.Upgrade.Outcome
import Fleetkeeper.Proofs.Upgrade.Configured
import Fleetkeeper.Proofs.Upgrade.Restoration
import Fleetkeeper.Proofs.Upgrade.Sequence
import Fleetkeeper.Proofs.Upgrade.HealthCheck
import Fleetkeeper.Proofs.Node.Contention
import Fleetkeeper.Proofs.Node.Freshness
import Fleetkeeper.Proofs.Node.Registry
import Fleetkeeper.Proofs.Node.Turns
import Fleetkeeper.Proofs.Node.Liveness
import Fleetkeeper.Proofs.Node.Follower
import Fleetkeeper.Proofs.Node.Lease
import Fleetkeeper.Proofs.Node.Recall
import Fleetkeeper.Proofs.Node.Membership
import Fleetkeeper.Proofs.Node.Schedule
import Fleetkeeper.Proofs.Node.Denial
import Fleetkeeper.Proofs.Node.Isolation
import Fleetkeeper.Proofs.Node.Updates
import Fleetkeeper.Proofs.Node.Arrival
import Fleetkeeper.Proofs.Access.Grants
import Fleetkeeper.Proofs.Engine.Delivery
import Fleetkeeper.Proofs.Engine.Configuration
import Fleetkeeper.Proofs.Config.RoundTrip
import Fleetkeeper.Proofs.Node.Reports
import Fleetkeeper.Proofs.Node.Records
import Fleetkeeper.Proofs.Access.Nodes
import Fleetkeeper.Proofs.Upgrade.Retagging
