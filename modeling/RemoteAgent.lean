import RemoteAgent.Lib.Transition
import RemoteAgent.WriteOnce
import RemoteAgent.SettledRows
import RemoteAgent.CollisionGuard
import RemoteAgent.Waiters
import RemoteAgent.Sources
import RemoteAgent.RequestOutcomes
import RemoteAgent.Replays
import RemoteAgent.InFlight
import RemoteAgent.LateResponses
import RemoteAgent.Revocation
import RemoteAgent.CapabilityCeiling
import RemoteAgent.Enrollment
import RemoteAgent.Authentication
import RemoteAgent.Binding
import RemoteAgent.Isolation
import RemoteAgent.Forwarding
import RemoteAgent.ReplayWindow
import RemoteAgent.Fencing
import RemoteAgent.Teardown
import RemoteAgent.Selection
import RemoteAgent.Lifecycle
import RemoteAgent.Cancelling
import RemoteAgent.Addressing
import RemoteAgent.Redemption
import RemoteAgent.Schedules
import RemoteAgent.HandshakePayloads
import RemoteAgent.CanonicalJson
import RemoteAgent.Timestamps
import RemoteAgent.RuntimePaths
import RemoteAgent.Splitters
import RemoteAgent.RelayCertificates
import RemoteAgent.Renewal
import RemoteAgent.Strictness
import RemoteAgent.Migration
import RemoteAgent.Upgrade
import RemoteAgent.Winding
import RemoteAgent.Integrity
import RemoteAgent.Escapes
import RemoteAgent.Authority
import RemoteAgent.AuditTrail
import RemoteAgent.Acceptance
import RemoteAgent.CancelFrames
import RemoteAgent.Persistence
import RemoteAgent.Redaction
