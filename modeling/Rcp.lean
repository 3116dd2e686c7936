import Rcp.Theorems.NoEarly
import Rcp.Theorems.Chains
import Rcp.Theorems.Unadmission
import Rcp.Theorems.Access
import Rcp.Theorems.ClearSingle
import Rcp.Theorems.Predecessor
import Rcp.Theorems.Wrapping
import Rcp.Theorems.Fragmentation
import Rcp.Theorems.Sequencers
import Rcp.Theorems.Malformed
import Rcp.Theorems.Latch
import Rcp.Theorems.Detection
import Rcp.Theorems.Isolation
import Rcp.Theorems.Suppression
import Rcp.Theorems.ConfigurationLock
import Rcp.Theorems.RoundTrip
import Rcp.Theorems.SequencerOwnership
import Rcp.Theorems.LifecycleRefinement
import Rcp.Theorems.SafetyKept
import Rcp.Theorems.Broadcast
import Rcp.Theorems.Addressing
import Rcp.Theorems.Mirrored
import Rcp.Theorems.Claiming
import Rcp.Theorems.WakeLatch
import Rcp.Theorems.HotStart
import Rcp.Theorems.Sendable
import Rcp.Theorems.Presentation
import Rcp.Theorems.Splitting
import Rcp.Theorems.Routing
import Rcp.Theorems.Framing
import Rcp.Theorems.NoSignal
import Rcp.Theorems.Widths
import Rcp.Theorems.Reconfig
import Rcp.Theorems.GeneralRead
import Rcp.Theorems.FrameFormats
import Rcp.Theorems.ResponseFragments
import Rcp.Theorems.RelayRequests
import Rcp.Theorems.RelayResponses
import Rcp.Theorems.CallerReplies
import Rcp.Theorems.MdioAnswers
import Rcp.Theorems.Transports
import Rcp.Theorems.Preload
import Rcp.Theorems.Policy
import Rcp.Theorems.Debounced
import Rcp.Theorems.Batching
import Rcp.Theorems.Bitframes
import Rcp.Theorems.Manifests
import Rcp.Theorems.ManifestNumbers
import Rcp.Theorems.PwmTriggers
import Rcp.Theorems.AdcAverage
import Rcp.Theorems.Remainder
import Rcp.Theorems.ProtectedFrames
import Rcp.Theorems.OnTime
import Rcp.Theorems.Drain
import Rcp.Theorems.LossyLink
import Rcp.Theorems.Watchdogs
import Rcp.Theorems.Deadlines
import Rcp.Theorems.Configuring
import Rcp.Theorems.Waiting
import Rcp.Theorems.ConfigLoads
import Rcp.Theorems.NetworkPriority
import Rcp.Theorems.Heartbeats
import Rcp.Theorems.Datagrams
import Rcp.Theorems.Loans
import Rcp.Theorems.RemoteCalls
