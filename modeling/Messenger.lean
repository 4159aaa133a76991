import Messenger.Eventlog.Correctness.Recovery
import Messenger.Daemon.Correctness.Updates
import Messenger.Daemon.Correctness.Listing
import Messenger.Daemon.Correctness.Sealing
import Messenger.Daemon.Correctness.Sweeps
import Messenger.LocalApi.Correctness.Purchases
import Messenger.Eventlog.Correctness.Holds
import Messenger.LocalApi.Correctness.Totals
import Messenger.LocalApi.Correctness.Backing
import Messenger.Negotiation.Correctness.Agreement
import Messenger.Negotiation.Correctness.Budget
import Messenger.Negotiation.Correctness.Poison
import Messenger.Negotiation.Correctness.Commitment
import Messenger.Eventlog.Correctness.Settlement
import Messenger.LocalApi.Correctness.Decisions
import Messenger.E2ee.Correctness.Delivery
import Messenger.Attachments.Correctness
import Messenger.Admission.Correctness.Replay
import Messenger.EconomicAction.Fencing
import Messenger.Directory.Snapshots
import Messenger.Directory.Publication
import Messenger.OwnerControl.Correctness.Atomic
import Messenger.Mailbox.Correctness.Crash
import Messenger.Eventlog.Correctness.Deliveries
import Messenger.Eventlog.Correctness.Deadlines
import Messenger.Firewall.Correctness
import Messenger.PublicChannel.Node
