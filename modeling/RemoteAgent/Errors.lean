import RemoteAgent.Lib.Json

/-!
# Error codes and relay diagnostics (`errors.py`)

`AgentCode` lists the codes the connector raises as an `AgentError`, under the
text the source gives each of them.  What reaches a device is not such a code but
a `relayDiagnostic`: a payload of fixed strings over the closed set
`RelayErrorCode`.

`Exc` sorts what a relay handler can end with by the `except` clause that takes
it: an `AgentError`, a `ProtocolError` or other `ValueError`, or an exception no
clause names.
-/

open Wire

namespace RemoteAgent

/-- The codes of `AgentError`. -/
inductive AgentCode where
  | appAssertionConnectorMismatch
  | appAssertionExpiredAtDispatch
  | capabilitiesNotGranted
  | capabilityNotGranted
  | commandInFlight
  | connectorIdMismatch
  | deviceAlreadyEnrolled
  | deviceNotFound
  | deviceNotRevoked
  | deviceOffline
  | deviceRevoked
  | deviceTimeout
  | enrollmentSignatureInvalid
  | enrollmentTokenConsumed
  | enrollmentTokenExpired
  | enrollmentTokenInvalid
  | idempotencyConflict
  | invalidChallenge
  | invalidEnrollmentRequest
  | relayAuthenticationFailed
  | relayChallengeTimeout
  | relayReadyFailed
  | requestNotInFlight
  | requestPending
  | resultTooLarge
  | staleConnection
  | timeoutExceedsRelayWindow
deriving DecidableEq, Repr

/-- `AgentError.code`. -/
def AgentCode.code : AgentCode → String
  | .appAssertionConnectorMismatch => "app_assertion_connector_mismatch"
  | .appAssertionExpiredAtDispatch => "app_assertion_expired_at_dispatch"
  | .capabilitiesNotGranted => "capabilities_not_granted"
  | .capabilityNotGranted => "capability_not_granted"
  | .commandInFlight => "command_in_flight"
  | .connectorIdMismatch => "connector_id_mismatch"
  | .deviceAlreadyEnrolled => "device_already_enrolled"
  | .deviceNotFound => "device_not_found"
  | .deviceNotRevoked => "device_not_revoked"
  | .deviceOffline => "device_offline"
  | .deviceRevoked => "device_revoked"
  | .deviceTimeout => "device_timeout"
  | .enrollmentSignatureInvalid => "enrollment_signature_invalid"
  | .enrollmentTokenConsumed => "enrollment_token_consumed"
  | .enrollmentTokenExpired => "enrollment_token_expired"
  | .enrollmentTokenInvalid => "enrollment_token_invalid"
  | .idempotencyConflict => "idempotency_conflict"
  | .invalidChallenge => "invalid_challenge"
  | .invalidEnrollmentRequest => "invalid_enrollment_request"
  | .relayAuthenticationFailed => "relay_authentication_failed"
  | .relayChallengeTimeout => "relay_challenge_timeout"
  | .relayReadyFailed => "relay_ready_failed"
  | .requestNotInFlight => "request_not_in_flight"
  | .requestPending => "request_pending"
  | .resultTooLarge => "result_too_large"
  | .staleConnection => "stale_connection"
  | .timeoutExceedsRelayWindow => "timeout_exceeds_relay_window"

/-- The object `{"code": …}`, as it is stored for a failed request. -/
def AgentCode.result (e : AgentCode) : Json := .obj [("code", .str e.code)]

/-- What an operation can raise.  `escape` is every exception that no `except`
clause of a relay handler names (`TypeError`, `KeyError`, a database error). -/
inductive Exc where
  | agent (e : AgentCode)
  | protocol
  | escape
deriving DecidableEq, Repr

/-! ## Relay diagnostics -/

/-- Where a relay connection is when it fails. -/
inductive HandshakeStage where
  | challenge | enrollment | authentication | ready | session
deriving DecidableEq, Repr

def HandshakeStage.name : HandshakeStage → String
  | .challenge => "challenge"
  | .enrollment => "enrollment"
  | .authentication => "authentication"
  | .ready => "ready"
  | .session => "session"

/-- The public codes emitted at the relay boundary. -/
inductive RelayErrorCode where
  | relayTlsFailed
  | relayUpgradeFailed
  | relayChallengeTimeout
  | relayChallengeInvalid
  | enrollmentTokenInvalid
  | enrollmentTokenExpired
  | enrollmentTokenConsumed
  | connectorIdMismatch
  | enrollmentSignatureInvalid
  | enrollmentChallengeInvalid
  | deviceAlreadyEnrolled
  | deviceRevoked
  | relayAuthenticationFailed
  | relayReadyFailed
  | relayProtocolError
deriving DecidableEq, Repr

namespace RelayErrorCode

def value : RelayErrorCode → String
  | .relayTlsFailed => "relay_tls_failed"
  | .relayUpgradeFailed => "relay_upgrade_failed"
  | .relayChallengeTimeout => "relay_challenge_timeout"
  | .relayChallengeInvalid => "relay_challenge_invalid"
  | .enrollmentTokenInvalid => "enrollment_token_invalid"
  | .enrollmentTokenExpired => "enrollment_token_expired"
  | .enrollmentTokenConsumed => "enrollment_token_consumed"
  | .connectorIdMismatch => "connector_id_mismatch"
  | .enrollmentSignatureInvalid => "enrollment_signature_invalid"
  | .enrollmentChallengeInvalid => "enrollment_challenge_invalid"
  | .deviceAlreadyEnrolled => "device_already_enrolled"
  | .deviceRevoked => "device_revoked"
  | .relayAuthenticationFailed => "relay_authentication_failed"
  | .relayReadyFailed => "relay_ready_failed"
  | .relayProtocolError => "relay_protocol_error"

def all : List RelayErrorCode :=
  [.relayTlsFailed, .relayUpgradeFailed, .relayChallengeTimeout, .relayChallengeInvalid,
    .enrollmentTokenInvalid, .enrollmentTokenExpired, .enrollmentTokenConsumed,
    .connectorIdMismatch, .enrollmentSignatureInvalid, .enrollmentChallengeInvalid,
    .deviceAlreadyEnrolled, .deviceRevoked, .relayAuthenticationFailed, .relayReadyFailed,
    .relayProtocolError]

/-- `_RELAY_DIAGNOSTICS`: stage, whether to retry, and message. -/
def spec : RelayErrorCode → String × Bool × String
  | .relayTlsFailed => ("tls", true, "Relay TLS validation failed.")
  | .relayUpgradeFailed => ("upgrade", true, "Relay WebSocket upgrade failed.")
  | .relayChallengeTimeout => ("challenge", true, "Relay challenge timed out.")
  | .relayChallengeInvalid => ("challenge", false, "Relay challenge is invalid.")
  | .enrollmentTokenInvalid => ("enrollment", false, "Enrollment token is invalid.")
  | .enrollmentTokenExpired => ("enrollment", false, "Enrollment token has expired.")
  | .enrollmentTokenConsumed =>
      ("enrollment", false, "Enrollment token has already been consumed.")
  | .connectorIdMismatch => ("enrollment", false, "Connector ID does not match the enrollment.")
  | .enrollmentSignatureInvalid => ("enrollment", false, "Enrollment signature is invalid.")
  | .enrollmentChallengeInvalid => ("enrollment", false, "Enrollment challenge is invalid.")
  | .deviceAlreadyEnrolled => ("enrollment", false, "This connector is already enrolled.")
  | .deviceRevoked => ("authentication", false, "This device has been revoked.")
  | .relayAuthenticationFailed => ("authentication", false, "Relay authentication failed.")
  | .relayReadyFailed => ("ready", true, "Relay session could not become ready.")
  | .relayProtocolError => ("session", false, "Relay message is invalid.")

/-- `_canonical_relay_code` before its last remapping. -/
def ofRaw (raw : String) (stage : HandshakeStage) : RelayErrorCode :=
  if raw = "invalid_challenge" then .relayChallengeInvalid
  else if raw = "invalid_signature" then .relayAuthenticationFailed
  else if raw = "capabilities_not_granted" then .relayReadyFailed
  else
    match all.find? fun code => decide (code.value = raw) with
    | some code => code
    | none => if stage = .ready then .relayReadyFailed else .relayProtocolError

/-- `_canonical_relay_code`. -/
def canonical (raw : String) (stage : HandshakeStage) : RelayErrorCode :=
  match ofRaw raw stage with
  | .relayChallengeInvalid =>
      if stage = .enrollment then .enrollmentChallengeInvalid else .relayChallengeInvalid
  | .relayAuthenticationFailed =>
      if stage = .enrollment then .enrollmentSignatureInvalid else .relayAuthenticationFailed
  | code => code

end RelayErrorCode

/-- The stage a diagnostic reports: its own, or the handler's where the code may
be met in more than one. -/
def diagnosticStage (code : RelayErrorCode) (stage : HandshakeStage) : String :=
  match code with
  | .relayAuthenticationFailed | .relayProtocolError =>
      if stage = .authentication ∨ stage = .session ∨ stage = .enrollment then stage.name
      else code.spec.1
  | .deviceRevoked =>
      if stage = .enrollment ∨ stage = .authentication then stage.name else code.spec.1
  | _ => code.spec.1

/-- `relay_diagnostic`. -/
def relayDiagnostic (raw : String) (stage : HandshakeStage) : Json :=
  let code := RelayErrorCode.canonical raw stage
  .obj [("v", .int 1), ("type", .str "error"),
    ("error_contract", .str "business-mcp-remote-agent-relay-error-v1"),
    ("code", .str code.value), ("stage", .str (diagnosticStage code stage)),
    ("retryable", .bool code.spec.2.1), ("message", .str code.spec.2.2)]

/-- The code under which `handle` reports a `ProtocolError` or `ValueError`. -/
def protocolCode (stage : HandshakeStage) : String :=
  match stage with
  | .authentication => "relay_authentication_failed"
  | .ready => "relay_ready_failed"
  | _ => "relay_protocol_error"

end RemoteAgent
