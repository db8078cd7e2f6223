import Libp2pRaft.Library.Commitment
import Libp2pRaft.Storage.Memory
import Libp2pRaft.Storage.Atomicity
import Libp2pRaft.Storage.Representation
import Libp2pRaft.Raft.CommitRule
import Libp2pRaft.Raft.CommittedLog
import Libp2pRaft.Raft.Durability
import Libp2pRaft.Raft.HardState
import Libp2pRaft.Raft.IterationOrder
import Libp2pRaft.Raft.Repair
import Libp2pRaft.Raft.Simulation
import Libp2pRaft.Raft.StablePrefix
import Libp2pRaft.Cluster.LogSafety
import Libp2pRaft.Cluster.Progress
import Libp2pRaft.Cluster.StableLeadership
import Libp2pRaft.Network.Linearizability
import Libp2pRaft.Behaviour.ApplyStream
import Libp2pRaft.Behaviour.Bookkeeping
import Libp2pRaft.Behaviour.PollLoop
import Libp2pRaft.Behaviour.RoleEvents
import Libp2pRaft.Behaviour.Slotted
import Libp2pRaft.Behaviour.Wakeups
import Libp2pRaft.Network.StateMachineSafety
import Libp2pRaft.Protocol.Accepted
import Libp2pRaft.Protocol.FrameLanguage
import Libp2pRaft.Protocol.FrameSize
import Libp2pRaft.Identity.LegacyPeers
import Libp2pRaft.Swarm.Stranded
