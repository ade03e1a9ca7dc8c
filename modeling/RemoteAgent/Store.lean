import RemoteAgent.Lib.Table
import RemoteAgent.Protocol

/-!
# Devices, challenges and presence (`store.py`)

The tables behind the relay: enrolled devices, enrollment tokens, relay
challenges and live instances, with the statements that the store sends to them.
The idempotency table is in `RemoteAgent.Requests`.

A clock counts microseconds; a stored timestamp is the whole second it falls in.
An operation that raises keeps what it has committed before, so the operations
that can raise answer the new tables together with their result.
-/

open Wire Storage

namespace RemoteAgent

/-- `as_timestamp`, as the number of the second. -/
def asTimestamp (now : Int) : Int := now / 1000000

/-- `now + timedelta(seconds=…)`. -/
def plusSeconds (now seconds : Int) : Int := now + seconds * 1000000

/-- The sum, where it is a time of the years 1 to 9999; `none` is the `OverflowError`. -/
def plusSeconds? (now seconds : Int) : Option Int :=
  let sum := plusSeconds now seconds
  if -62135596800 * 1000000 ≤ sum ∧ sum < 253402300800 * 1000000 then some sum else none

theorem plusSeconds?_some {now seconds sum : Int} (is : plusSeconds? now seconds = some sum) :
    sum = plusSeconds now seconds := by
  obtain ⟨_, same⟩ := Option.ite_none_right_eq_some.mp is
  exact (Option.some.inj same).symm

/-! ## Rows -/

inductive EnrollmentState where
  | enrolled | revoked
deriving DecidableEq

/-- A row of `remote_agent_devices`. -/
structure DeviceRow where
  connectorId : String
  publicKey : String
  displayLabel : String
  capabilityProfile : CapabilityProfile
  platform : String
  enrollmentState : EnrollmentState
  enrolledAt : Int
  revokedAt : Option Int
deriving DecidableEq

/-- A row of `enrollment_tokens`. -/
structure TokenRow where
  tokenHash : String
  connectorId : String
  capabilityProfile : String
  displayLabel : String
  expiresAt : Int
  consumedAt : Option Int
deriving DecidableEq

/-- A row of `relay_challenges`. -/
structure ChallengeRow where
  challengeId : String
  challengeHash : String
  expiresAt : Int
  consumedAt : Option Int
deriving DecidableEq

inductive InstanceState where
  | online | offline
deriving DecidableEq

/-- A row of `live_instances`.  A `connection_generation` is written once, by the
connection it names. -/
structure InstanceRow where
  instanceId : String
  connectorId : String
  connectionGeneration : Nat
  contextEpoch : Json
  state : InstanceState
  connectedAt : Int
  lastHeartbeatAt : Int
  disconnectedAt : Option Int

structure Store where
  devices : Table DeviceRow.connectorId
  tokens : Table TokenRow.tokenHash
  challenges : Table ChallengeRow.challengeId
  instances : Table InstanceRow.instanceId

namespace Store

def empty : Store := ⟨Table.empty, Table.empty, Table.empty, Table.empty⟩

/-! ## Enrollment tokens and challenges -/

/-- `issue_enrollment_token` for a fresh raw token; `none` is an exception, of the datetime
arithmetic or of the database. -/
def issueEnrollmentToken (env : Env) (s : Store) (rawToken : String)
    (connectorId capabilityProfile displayLabel : Json) (expiresInSeconds now : Int) :
    Option Store := do
  let expiresAt ← plusSeconds? now expiresInSeconds
  let connectorId ← env.textColumn connectorId
  let capabilityProfile ← env.textColumn capabilityProfile
  let displayLabel ← env.textColumn displayLabel
  let tokens ← s.tokens.insert? {
    tokenHash := env.sha256 rawToken
    connectorId := connectorId
    capabilityProfile := capabilityProfile
    displayLabel := displayLabel
    expiresAt := asTimestamp expiresAt
    consumedAt := none }
  return { s with tokens := tokens }

inductive TokenStatus where
  | invalid | connectorMismatch | consumed | expired
  | accepted (row : TokenRow)

theorem TokenRow.consume_key (consumedAt : Option Int) (r : TokenRow) :
    { r with consumedAt := consumedAt }.tokenHash = r.tokenHash := rfl

/-- `consume_enrollment_token_detailed`. -/
def consumeEnrollmentToken (env : Env) (s : Store) (rawToken : Json) (connectorId : String)
    (now : Int) : Store × TokenStatus :=
  let tokenHash := env.sha256 (env.text rawToken)
  match s.tokens.find? tokenHash with
  | none => (s, .invalid)
  | some row =>
      if row.connectorId ≠ connectorId then (s, .connectorMismatch)
      else if row.consumedAt.isSome then (s, .consumed)
      else if row.expiresAt ≤ asTimestamp now then (s, .expired)
      else
        let tokens := s.tokens.updateWhere
          (fun r => decide (r.tokenHash = tokenHash) && r.consumedAt.isNone)
          (fun r => { r with consumedAt := some (asTimestamp now) }) (TokenRow.consume_key _)
        ({ s with tokens := tokens }, .accepted row)

/-- A challenge as it is sent to the device. -/
structure Challenge where
  challengeId : String
  challenge : String
deriving DecidableEq

/-- The lifetime of a relay challenge. -/
def challengeSeconds : Int := 120

/-- `create_challenge` for a fresh uuid and a fresh token; `none` is a database error. -/
def createChallenge (env : Env) (s : Store) (challenge : Challenge) (now : Int) : Option Store := do
  let challenges ← s.challenges.insert? {
    challengeId := challenge.challengeId
    challengeHash := env.sha256 challenge.challenge
    expiresAt := asTimestamp (plusSeconds now challengeSeconds)
    consumedAt := none }
  return { s with challenges := challenges }

theorem ChallengeRow.consume_key (consumedAt : Option Int) (r : ChallengeRow) :
    { r with consumedAt := consumedAt }.challengeId = r.challengeId := rfl

/-- `consume_challenge`; `none` when it answers false. -/
def consumeChallenge (env : Env) (s : Store) (challengeId challenge : Json) (now : Int) :
    Option Store :=
  match s.challenges.find? (env.text challengeId) with
  | none => none
  | some row =>
      if row.consumedAt.isSome || decide (row.expiresAt ≤ asTimestamp now) ||
          decide (row.challengeHash ≠ env.sha256 (env.text challenge)) then none
      else
        let challenges := s.challenges.updateWhere
          (fun r => decide (r.challengeId = env.text challengeId) && r.consumedAt.isNone)
          (fun r => { r with consumedAt := some (asTimestamp now) }) (ChallengeRow.consume_key _)
        some { s with challenges := challenges }

/-! ## Devices -/

/-- `get_device`. -/
def getDevice (s : Store) (connectorId : String) : Option DeviceRow := s.devices.find? connectorId

/-- `enroll_device`: whether a row was added, or an exception (an unknown
profile, a database error). -/
def enrollDevice (env : Env) (s : Store) (connectorId : String) (publicKey : Json)
    (displayLabel capabilityProfile platform : String) (now : Int) : Except Exc (Option Store) :=
  match CapabilityProfile.ofName? capabilityProfile with
  | none => .error .escape
  | some profile =>
      match s.getDevice connectorId with
      | some _ => .ok none
      | none =>
          match env.textColumn publicKey with
          | none => .error .escape
          | some publicKey =>
              .ok (some { s with devices := s.devices.insertOrIgnore {
                connectorId := connectorId
                publicKey := publicKey
                displayLabel := displayLabel
                capabilityProfile := profile
                platform := platform
                enrollmentState := .enrolled
                enrolledAt := asTimestamp now
                revokedAt := none } })

theorem DeviceRow.revoke_key (at_ : Int) (r : DeviceRow) :
    { r with enrollmentState := .revoked, revokedAt := some at_ }.connectorId = r.connectorId := rfl

theorem DeviceRow.rename_key (label : String) (r : DeviceRow) :
    { r with displayLabel := label }.connectorId = r.connectorId := rfl

/-- The instance row of a closed connection. -/
def close (disconnectedAt : InstanceRow → Option Int) (r : InstanceRow) : InstanceRow :=
  { r with state := .offline, disconnectedAt := disconnectedAt r }

theorem close_key (disconnectedAt : InstanceRow → Option Int) (r : InstanceRow) :
    (close disconnectedAt r).instanceId = r.instanceId := rfl

/-- `revoke_device`; `none` when it answers false. -/
def revokeDevice (s : Store) (connectorId : String) (now : Int) : Option Store :=
  match s.getDevice connectorId with
  | none => none
  | some _ =>
      let devices := s.devices.updateWhere (fun r => decide (r.connectorId = connectorId))
        (fun r => { r with enrollmentState := .revoked, revokedAt := some (asTimestamp now) })
        (DeviceRow.revoke_key _)
      let instances := s.instances.updateWhere
        (fun r => decide (r.connectorId = connectorId) && decide (r.state ≠ .offline))
        (close fun _ => some (asTimestamp now)) (close_key _)
      some { s with devices := devices, instances := instances }

/-- `delete_revoked_device`; the error is its answer when nothing is deleted. -/
def deleteRevokedDevice (s : Store) (connectorId : String) : Except AgentCode Store :=
  match s.getDevice connectorId with
  | none => .error .deviceNotFound
  | some device =>
      if device.enrollmentState ≠ .revoked then .error .deviceNotRevoked
      else
        .ok { s with
          instances := s.instances.deleteWhere fun r => decide (r.connectorId = connectorId)
          devices := s.devices.deleteWhere fun r => decide (r.connectorId = connectorId) }

/-- The update of `rename_device`. -/
def renameDevice (s : Store) (connectorId displayLabel : String) : Store :=
  let devices := s.devices.updateWhere (fun r => decide (r.connectorId = connectorId))
    (fun r => { r with displayLabel := displayLabel }) (DeviceRow.rename_key _)
  { s with devices := devices }

/-! ## Live instances -/

/-- The row that a connection which comes online writes over an older one. -/
def replaceInstance (new old : InstanceRow) : InstanceRow :=
  { new with instanceId := old.instanceId }

theorem replaceInstance_key (new old : InstanceRow) :
    (replaceInstance new old).instanceId = old.instanceId := rfl

/-- `upsert_presence`: `none` when it answers false, or a database error. -/
def upsertPresence (env : Env) (s : Store) (connectorId instanceId : String) (generation : Nat)
    (contextEpoch : Json) (capabilities : List String) (now : Int) :
    Except Exc (Option Store) :=
  match s.getDevice connectorId with
  | none => .ok none
  | some device =>
      if device.enrollmentState ≠ .enrolled then .ok none
      else if !capabilities.all (capabilitiesForProfile device.capabilityProfile).contains then
        .ok none
      else
        match env.naturalColumn contextEpoch with
        | none => .error .escape
        | some contextEpoch =>
            let row : InstanceRow := {
              instanceId := instanceId
              connectorId := connectorId
              connectionGeneration := generation
              contextEpoch := contextEpoch
              state := .online
              connectedAt := asTimestamp now
              lastHeartbeatAt := asTimestamp now
              disconnectedAt := none }
            let instances := s.instances.upsert row (replaceInstance row) (replaceInstance_key row)
            .ok (some { s with instances := instances })

/-- `int(row["context_epoch"])`. -/
def storedEpoch (env : Env) : Json → Except Exc Int
  | .int i => .ok i
  | .float f =>
      match env.floats.trunc f with
      | some i => .ok i
      | none => .error .escape
  | .str s =>
      match env.intOfText s with
      | some i => .ok i
      | none => .error .protocol
  | _ => .error .escape

/-- The instance row after a heartbeat. -/
def beat (contextEpoch : Json) (at_ : Int) (r : InstanceRow) : InstanceRow :=
  { r with contextEpoch := contextEpoch, lastHeartbeatAt := at_ }

theorem beat_key (contextEpoch : Json) (at_ : Int) (r : InstanceRow) :
    (beat contextEpoch at_ r).instanceId = r.instanceId := rfl

/-- `heartbeat`: `none` when it answers false, or what it raises. -/
def heartbeat (env : Env) (s : Store) (instanceId : String) (generation : Nat)
    (contextEpoch : Json) (now : Int) : Except Exc (Option Store) :=
  match s.instances.find? instanceId with
  | none => .ok none
  | some row =>
      if row.state ≠ .online ∨ row.connectionGeneration ≠ generation then .ok none
      else
        match storedEpoch env row.contextEpoch with
        | .error e => .error e
        | .ok stored =>
            match Py.lt env.floats contextEpoch (.int stored) with
            | none => .error .escape
            | some true => .ok none
            | some false =>
                match env.naturalColumn contextEpoch with
                | none => .error .escape
                | some contextEpoch =>
                    let instances := s.instances.updateWhere
                      (fun r => decide (r.instanceId = instanceId) &&
                        decide (r.connectionGeneration = generation) && decide (r.state = .online))
                      (beat contextEpoch (asTimestamp now)) (beat_key _ _)
                    .ok (some { s with instances := instances })

/-- `disconnect_instance`; a row of another generation is left alone. -/
def disconnectInstance (s : Store) (instanceId : String) (generation : Nat) (now : Int) : Store :=
  match s.instances.find? instanceId with
  | none => s
  | some row =>
      if row.connectionGeneration ≠ generation then s
      else
        let instances := s.instances.updateWhere
          (fun r => decide (r.instanceId = instanceId) &&
            decide (r.connectionGeneration = generation))
          (close fun _ => some (asTimestamp now)) (close_key _)
        { s with instances := instances }

/-- `mark_stale_instances`. -/
def markStaleInstances (s : Store) (staleBefore : Int) : Store :=
  let instances := s.instances.updateWhere
    (fun r => decide (r.state = .online) && decide (r.lastHeartbeatAt ≤ asTimestamp staleBefore))
    (close fun r => r.disconnectedAt.or (some r.lastHeartbeatAt)) (close_key _)
  { s with instances := instances }

/-- Online, and heard from after the cutoff. -/
def isFresh (freshAfter : Int) (r : InstanceRow) : Bool :=
  decide (r.state = .online) && decide (asTimestamp freshAfter < r.lastHeartbeatAt)

/-- `exact_online_instance`. -/
def exactOnlineInstance (s : Store) (connectorId instanceId : String) (freshAfter : Int) :
    Store × Option InstanceRow :=
  let s := s.markStaleInstances freshAfter
  (s, (s.instances.find? instanceId).filter fun r =>
    decide (r.connectorId = connectorId) && isFresh freshAfter r)

/-- The row of the two with the later heartbeat; of two equal ones the later row. -/
def laterBeat (best : Option InstanceRow) (r : InstanceRow) : Option InstanceRow :=
  match best with
  | none => some r
  | some b => if b.lastHeartbeatAt ≤ r.lastHeartbeatAt then some r else some b

/-- `latest_online_instance`.  The index is walked backwards, so of rows with one
heartbeat time the last one is met first. -/
def latestOnlineInstance (s : Store) (connectorId : String) (freshAfter : Int) :
    Store × Option InstanceRow :=
  let s := s.markStaleInstances freshAfter
  (s, (s.instances.rows.filter fun r =>
    decide (r.connectorId = connectorId) && isFresh freshAfter r).foldl laterBeat none)

/-- The order of `online_agents`: by device, the latest heartbeat first. -/
def agentOrder (a b : DeviceRow × InstanceRow) : Prop :=
  a.1.connectorId < b.1.connectorId ∨
    (a.1.connectorId = b.1.connectorId ∧ b.2.lastHeartbeatAt ≤ a.2.lastHeartbeatAt)

instance (a b : DeviceRow × InstanceRow) : Decidable (agentOrder a b) :=
  inferInstanceAs (Decidable (_ ∨ _))

/-- `online_agents`. -/
def onlineAgents (s : Store) (staleBefore : Int) : Store × List (DeviceRow × InstanceRow) :=
  let s := s.markStaleInstances staleBefore
  let joined := s.devices.rows.flatMap fun device =>
    (s.instances.rows.filter fun r =>
      decide (r.connectorId = device.connectorId) && isFresh staleBefore r).map (device, ·)
  (s, (joined.filter fun row => decide (row.1.enrollmentState = .enrolled)).insertionSort agentOrder)

end Store

end RemoteAgent
