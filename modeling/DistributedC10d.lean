import DistributedC10d.Core.Python
import DistributedC10d.Core.Dict
import DistributedC10d.Core.Backend
import DistributedC10d.Core.State
import DistributedC10d.Core.Lifecycle
import DistributedC10d.Core.Process
import DistributedC10d.Core.Dispatch
import DistributedC10d.Core.Cluster
import DistributedC10d.Theory.Steps
import DistributedC10d.Theory.Calls
import DistributedC10d.Theory.RankMap
import DistributedC10d.Theory.Registry
import DistributedC10d.Theory.Failure
import DistributedC10d.Theory.BackendName
import DistributedC10d.Theory.Membership
import DistributedC10d.Theory.Dispatch
import DistributedC10d.Theory.Translation
import DistributedC10d.Theory.Barrier
import DistributedC10d.Theory.View
import DistributedC10d.Theory.Twin
import DistributedC10d.Theory.Teardown
import DistributedC10d.Theory.Complex
import DistributedC10d.Theory.Batch
import DistributedC10d.Theory.Arrivals
import DistributedC10d.Theory.Transport
import DistributedC10d.Theory.Numbering
import DistributedC10d.Theory.Completion
