import Failover.Main
import Failover.MySql.Network
import Failover.Proofs.Addressing
import Failover.Proofs.Aftermath
import Failover.Proofs.Batches
import Failover.Proofs.Blacklisting
import Failover.Proofs.Closing
import Failover.Proofs.Consistency
import Failover.Proofs.Declaring
import Failover.Proofs.Exhaustion
import Failover.Proofs.FailedSwitch
import Failover.Proofs.Leftover
import Failover.Proofs.Lingering
import Failover.Proofs.Patience
import Failover.Proofs.Preference
import Failover.Proofs.Promotion
import Failover.Proofs.Pruning
import Failover.Proofs.Quoting
import Failover.Proofs.Reading
import Failover.Proofs.Reconnecting
import Failover.Proofs.Reporting
import Failover.Proofs.Retention
import Failover.Proofs.RetryLimit
import Failover.Proofs.Selection
import Failover.Proofs.Serving
import Failover.Proofs.Spacing
import Failover.Proofs.Takeover
