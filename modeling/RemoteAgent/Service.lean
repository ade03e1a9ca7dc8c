import RemoteAgent.Store

/-!
# Enrollment, authentication and inventory (`service.py`)

What the service does between the relay endpoint or an operator route and the
store.  Where it raises after it has written, both the tables and the exception
are answered.

`device_command` and `cancel_request` are in `RemoteAgent.Dispatcher`; here is the
routing lookup that they begin with (`relaySession`).
-/

open Wire Storage

namespace RemoteAgent.Store

/-! ## Enrollment -/

/-- `RemoteAgentService.issue_enrollment_token`: every exception is reported alike. -/
def issueToken (env : Env) (s : Store) (rawToken : String)
    (connectorId capabilityProfile displayLabel : Json) (expiresInSeconds now : Int) :
    Except AgentCode Store :=
  match s.issueEnrollmentToken env rawToken connectorId capabilityProfile displayLabel
      expiresInSeconds now with
  | none => .error .invalidEnrollmentRequest
  | some s => .ok s

/-- Why a connector that is known cannot enroll. -/
def alreadyKnown (device : DeviceRow) : AgentCode :=
  if device.enrollmentState = .revoked then .deviceRevoked else .deviceAlreadyEnrolled

/-- The checks of `complete_enrollment` after the token and the challenge are
consumed, and the new row. -/
def enrollVerified (env : Env) (s : Store) (token : TokenRow)
    (challengeId challenge : Json) (connectorId : String)
    (enrollmentToken publicKey signature : Json) (platform : String) (now : Int) :
    Except Exc Store :=
  match enrollmentPayload env challengeId challenge (.str connectorId) enrollmentToken
      publicKey with
  | .error e => .error e
  | .ok payload =>
      if !verifyEd25519 env publicKey payload signature then
        .error (.agent .enrollmentSignatureInvalid)
      else
        match s.getDevice connectorId with
        | some device => .error (.agent (alreadyKnown device))
        | none =>
            match s.enrollDevice env connectorId publicKey token.displayLabel
                token.capabilityProfile platform now with
            | .error e => .error e
            | .ok none => .error (.agent .deviceAlreadyEnrolled)
            | .ok (some s) => .ok s

/-- `complete_enrollment`: the enrolled connector. -/
def completeEnrollment (env : Env) (s : Store)
    (challengeId challenge connectorId enrollmentToken publicKey signature platform : Json)
    (now : Int) : Store × Except Exc String :=
  match parseConnectorId env connectorId with
  | .error e => (s, .error e)
  | .ok connectorId =>
      match validatePlatform env platform with
      | .error e => (s, .error e)
      | .ok platform =>
          match s.consumeEnrollmentToken env enrollmentToken connectorId now with
          | (s, .invalid) => (s, .error (.agent .enrollmentTokenInvalid))
          | (s, .expired) => (s, .error (.agent .enrollmentTokenExpired))
          | (s, .consumed) => (s, .error (.agent .enrollmentTokenConsumed))
          | (s, .connectorMismatch) => (s, .error (.agent .connectorIdMismatch))
          | (s, .accepted token) =>
              match s.consumeChallenge env challengeId challenge now with
              | none => (s, .error (.agent .invalidChallenge))
              | some s =>
                  match s.enrollVerified env token challengeId challenge connectorId
                      enrollmentToken publicKey signature platform now with
                  | .error e => (s, .error e)
                  | .ok s => (s, .ok connectorId)

/-! ## Authentication and presence -/

/-- What `authenticate_relay` answers. -/
structure Identity where
  connectorId : String
  instanceId : String
  contextEpoch : Json

/-- The checks of `authenticate_relay` after the challenge is consumed, and the
presence row. -/
def authenticateVerified (env : Env) (s : Store) (challengeId challenge : Json)
    (connectorId instanceId : String) (contextEpoch signature : Json) (generation : Nat)
    (capabilities : List String) (now : Int) : Except Exc Store :=
  match s.getDevice connectorId with
  | none => .error (.agent .relayAuthenticationFailed)
  | some device =>
      if device.enrollmentState ≠ .enrolled then .error (.agent .deviceRevoked)
      else
        match relayAuthPayload env challengeId challenge (.str connectorId) (.str instanceId)
            contextEpoch with
        | .error e => .error e
        | .ok payload =>
            if !verifyEd25519 env (.str device.publicKey) payload signature then
              .error (.agent .relayAuthenticationFailed)
            else
              match s.upsertPresence env connectorId instanceId generation contextEpoch
                  capabilities now with
              | .error e => .error e
              | .ok none => .error (.agent .capabilitiesNotGranted)
              | .ok (some s) => .ok s

/-- `authenticate_relay`. -/
def authenticateRelay (env : Env) (s : Store)
    (challengeId challenge connectorId instanceId contextEpoch signature : Json)
    (generation : Nat) (capabilities : List String) (now : Int) :
    Store × Except Exc Identity :=
  match parseConnectorId env connectorId with
  | .error e => (s, .error e)
  | .ok connectorId =>
      match parseInstanceId env instanceId with
      | .error e => (s, .error e)
      | .ok instanceId =>
          match s.consumeChallenge env challengeId challenge now with
          | none => (s, .error (.agent .invalidChallenge))
          | some s =>
              match s.authenticateVerified env challengeId challenge connectorId instanceId
                  contextEpoch signature generation capabilities now with
              | .error e => (s, .error e)
              | .ok s => (s, .ok ⟨connectorId, instanceId, contextEpoch⟩)

/-- `RemoteAgentService.heartbeat`. -/
def acceptHeartbeat (env : Env) (s : Store) (instanceId : String) (generation : Nat)
    (contextEpoch : Json) (now : Int) : Except Exc Store :=
  match parseInstanceId env (.str instanceId) with
  | .error e => .error e
  | .ok instanceId =>
      match s.heartbeat env instanceId generation contextEpoch now with
      | .error e => .error e
      | .ok none => .error (.agent .staleConnection)
      | .ok (some s) => .ok s

/-- `disconnect_relay`; an instance id that no longer parses leaves the tables alone. -/
def disconnectRelay (env : Env) (s : Store) (instanceId : String) (generation : Nat)
    (now : Int) : Store :=
  match parseInstanceId env (.str instanceId) with
  | .error _ => s
  | .ok instanceId => s.disconnectInstance instanceId generation now

/-! ## Liveness and inventory -/

/-- `_fresh_after`. -/
def freshAfter (env : Env) (now : Int) : Int :=
  plusSeconds now (-instanceStaleSeconds env.config.heartbeatTimeoutSeconds)

/-- `_relay_session`: the instance that a command for a connector is routed to. -/
def relaySession (env : Env) (s : Store) (connectorId : String) (instanceId : Option String)
    (now : Int) : Except Exc (Store × Option InstanceRow) :=
  match instanceId with
  | none => .ok (s.latestOnlineInstance connectorId (freshAfter env now))
  | some "" => .ok (s.latestOnlineInstance connectorId (freshAfter env now))
  | some instanceId =>
      match parseInstanceId env (.str instanceId) with
      | .error e => .error e
      | .ok instanceId => .ok (s.exactOnlineInstance connectorId instanceId (freshAfter env now))

/-- What `device_status` reports. -/
structure DeviceStatus where
  connectorId : String
  displayLabel : String
  publicKeyFingerprint : String
  capabilityProfile : CapabilityProfile
  capabilities : List String
  enrollmentState : EnrollmentState
  enrolledAt : Int
  revokedAt : Option Int
  connectionState : InstanceState
  lastHeartbeatAt : Option Int
  contextEpoch : Option Json

/-- `device_status`. -/
def deviceStatus (env : Env) (s : Store) (connectorId : String) (now : Int) :
    Store × Except AgentCode DeviceStatus :=
  match s.getDevice connectorId with
  | none => (s, .error .deviceNotFound)
  | some device =>
      let (s, latest) := s.latestOnlineInstance connectorId (freshAfter env now)
      (s, .ok {
        connectorId := connectorId
        displayLabel := device.displayLabel
        publicKeyFingerprint := env.publicKeyFingerprint device.publicKey
        capabilityProfile := device.capabilityProfile
        capabilities := capabilitiesForProfile device.capabilityProfile
        enrollmentState := device.enrollmentState
        enrolledAt := device.enrolledAt
        revokedAt := device.revokedAt
        connectionState := if latest.isSome then .online else .offline
        lastHeartbeatAt := latest.map InstanceRow.lastHeartbeatAt
        contextEpoch := latest.map InstanceRow.contextEpoch })

/-- The order of `list_devices`. -/
def deviceOrder (a b : DeviceRow) : Prop :=
  a.displayLabel < b.displayLabel ∨
    (a.displayLabel = b.displayLabel ∧ a.connectorId ≤ b.connectorId)

instance (a b : DeviceRow) : Decidable (deviceOrder a b) := inferInstanceAs (Decidable (_ ∨ _))

/-- `operator_devices`: the status of one device after the other. -/
def operatorDevices (env : Env) (s : Store) (now : Int) :
    Store × List (Except AgentCode DeviceStatus) :=
  (s.devices.rows.insertionSort deviceOrder).foldl
    (fun (s, statuses) device =>
      let (s, status) := s.deviceStatus env device.connectorId now
      (s, statuses ++ [status])) (s, [])

/-- An entry of the agent inventory. -/
structure OnlineAgent where
  deviceId : String
  platform : String
  capabilities : List String
  connectedAt : Int

/-- `RemoteAgentService.online_agents`. -/
def agentInventory (env : Env) (s : Store) (now : Int) : Store × List OnlineAgent :=
  let (s, rows) := s.onlineAgents (freshAfter env now)
  (s, rows.map fun (device, r) => {
    deviceId := device.connectorId
    platform := if device.platform = "" then "unknown" else device.platform
    capabilities := capabilitiesForProfile device.capabilityProfile
    connectedAt := r.connectedAt })

/-- `RemoteAgentService.rename_device`. -/
def rename (env : Env) (s : Store) (connectorId : String) (displayLabel : Json) :
    Except Exc Store :=
  match validateDisplayLabel env displayLabel with
  | .error e => .error e
  | .ok label =>
      match s.getDevice connectorId with
      | none => .error (.agent .deviceNotFound)
      | some device =>
          if device.enrollmentState ≠ .enrolled then .error (.agent .deviceRevoked)
          else .ok (s.renameDevice connectorId label)

end RemoteAgent.Store
