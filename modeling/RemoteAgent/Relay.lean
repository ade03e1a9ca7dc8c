import RemoteAgent.Dispatcher
import RemoteAgent.Service

/-!
# The relay endpoint and the whole connector (`relay.py`, `service.py`)

`System` joins the tables, the relay connections and the dispatcher.  One event is
one stretch of code between two suspensions, of a connection's handler, of a
command or a cancel, or of an operator route.

* `Phase` is where the handler of a connection is suspended.
* `System.plan` says what an event does to the tables and the phases, and which
  act, if any, it takes in the dispatcher.
* `system_simulates`: the dispatcher of a system run is a run of the dispatcher.
-/

open Wire Storage Transition

namespace RemoteAgent

open Dispatcher (field)

/-! ## Frames from the device -/

/-- `_receive_message`, once a text has arrived.  A text that is nested too deep raises a
`RecursionError`. -/
def receiveMessage (env : Env) (text : ScalarText) : Except Exc Json :=
  if text.text.utf8ByteSize > relayMaxMessageBytes then .error .protocol
  else if env.tooDeep text.text then .error .escape
  else
    match Json.read text.text with
    | none => .error .protocol
    | some value =>
        -- `handle` takes the `ValueError` of an overlong integer as it takes a `ProtocolError`.
        if value.overlong then .error .protocol
        else
          match value.canon with
          | .obj fs => .ok (.obj fs)
          | _ => .error .protocol

/-- **Only a text that is nested too deep is not read or answered.** -/
theorem receiveMessage_escape_iff {env : Env} {text : ScalarText} :
    receiveMessage env text = .error .escape ↔
      text.text.utf8ByteSize ≤ relayMaxMessageBytes ∧ env.tooDeep text.text = true := by
  unfold receiveMessage
  split
  · rename_i large
    exact ⟨fun same => (by cases same), fun both => absurd large (Nat.not_lt.mpr both.1)⟩
  · rename_i fits
    split
    · rename_i deep
      exact ⟨fun _ => ⟨Nat.not_lt.mp fits, deep⟩, fun _ => rfl⟩
    · rename_i shallow
      refine iff_of_false (fun same => ?_) fun both => shallow both.2
      split at same
      · cases same
      · split at same
        · cases same
        · split at same <;> cases same

/-- `message.get("type") == name`. -/
def hasType (message : Json) (name : String) : Bool := Py.eqStr (field message "type") name

def enrollKeys : List String :=
  ["v", "type", "challenge_id", "challenge", "connector_id", "enrollment_token", "public_key",
    "signature"]

def authenticateKeys : List String :=
  ["v", "type", "challenge_id", "challenge", "connector_id", "instance_id", "context_epoch",
    "signature"]

def heartbeatKeys : List String := ["v", "type", "context_epoch"]

/-- `str(message.get("platform") or "unknown")`. -/
def platformOf (env : Env) (message : Json) : String :=
  let platform := field message "platform"
  if Py.truthy env.floats platform then Py.str env.floats env.container platform else "unknown"

namespace Store

/-- The `enroll` branch of `handle`, up to the answer. -/
def handleEnroll (env : Env) (s : Store) (message : Json) (now : Int) :
    Store × Except Exc String :=
  match requireKeys message enrollKeys ["platform"] with
  | .error e => (s, .error e)
  | .ok () =>
      if !Py.eqInt env.floats (field message "v") protocolVersion then (s, .error .protocol)
      else
        s.completeEnrollment env (field message "challenge_id") (field message "challenge")
          (field message "connector_id") (field message "enrollment_token")
          (field message "public_key") (field message "signature")
          (.str (platformOf env message)) now

/-- `_authenticate_session`. -/
def authenticateSession (env : Env) (s : Store) (generation : Nat) (challenge : Challenge)
    (message : Json) (now : Int) : Store × Except Exc AgentRelaySession :=
  match requireKeys message authenticateKeys [] with
  | .error e => (s, .error e)
  | .ok () =>
      if !Py.eqInt env.floats (field message "v") protocolVersion ||
          !hasType message "authenticate" ||
          !Py.eqStr (field message "challenge_id") challenge.challengeId ||
          !Py.eqStr (field message "challenge") challenge.challenge then (s, .error .protocol)
      else
        match s.authenticateRelay env (field message "challenge_id") (field message "challenge")
            (field message "connector_id") (field message "instance_id")
            (field message "context_epoch") (field message "signature") generation [] now with
        | (s, .error e) => (s, .error e)
        | (s, .ok identity) =>
            match s.getDevice identity.connectorId with
            | none => (s, .error .escape)
            | some device =>
                (s, .ok {
                  connectorId := identity.connectorId
                  instanceId := identity.instanceId
                  contextEpoch := identity.contextEpoch
                  capabilities := capabilitiesForProfile device.capabilityProfile
                  capabilityProfile := device.capabilityProfile })

/-- The `heartbeat` branch of `_serve_session`: the session's next `context_epoch`. -/
def handleHeartbeat (env : Env) (s : Store) (generation : Nat) (session : AgentRelaySession)
    (message : Json) (now : Int) : Store × Except Exc Json :=
  match requireKeys message heartbeatKeys [] with
  | .error e => (s, .error e)
  | .ok () =>
      if !Py.eqInt env.floats (field message "v") protocolVersion then (s, .error .protocol)
      else
        match s.acceptHeartbeat env session.instanceId generation
            (field message "context_epoch") now with
        | .error e => (s, .error e)
        | .ok s =>
            match Py.max env.floats session.contextEpoch (field message "context_epoch") with
            | none => (s, .error .escape)
            | some epoch => (s, .ok epoch)

end Store

/-! ## The upgrade -/

/-- What `_is_secure_connection` reads of a connection: the scheme of its scope and the
header `x-forwarded-proto`. -/
structure Upgrade where
  scheme : Option String
  forwardedProto : Option String

/-- `_is_secure_connection`. -/
def isSecureConnection (env : Env) (upgrade : Upgrade) : Bool :=
  if upgrade.scheme = some "wss" then true
  else
    env.config.trustProxyTls &&
      decide (Py.lower (Py.strip (upgrade.forwardedProto.getD "")) = "https")

/-! ## The state -/

/-- Where the handler of a connection is suspended. -/
inductive Phase where
  /-- The first challenge is out. -/
  | challenging (challenge : Store.Challenge)
  /-- The answer to an enrollment is being sent. -/
  | enrolled (connectorId : String)
  /-- The challenge after an enrollment is out. -/
  | authenticating (challenge : Store.Challenge)
  /-- Registered; `ready` is being sent. -/
  | readying
  | serving
  /-- A diagnostic is being sent and the connection closed. -/
  | closing (diagnostic : Json)
  | finished

structure System where
  store : Store
  phases : Dict ConnId Phase
  dispatcher : Dispatcher

/-- What an event does to the tables and the connections, and its act. -/
structure Plan where
  store : Store
  phases : Dict ConnId Phase
  act : Option Act

/-- The events.  Fresh identifiers and secrets, clock readings, the frames that
arrive and the completion of sends and timers are arguments; a frame is what
`receiveMessage` makes of its text, and `.error .escape` where it has none. -/
inductive Event where
  /-- A connection that `_is_secure_connection` does not take is closed. -/
  | rejectUpgrade (k : ConnId) (upgrade : Upgrade)
  /-- One that it takes is accepted. -/
  | connect (k : ConnId) (challenge : Store.Challenge) (now : Int)
  | receive (k : ConnId) (frame : Except Exc Json) (now : Int)
  | handshakeTimeout (k : ConnId) (now : Int)
  /-- The answer to an enrollment is sent, and the next challenge. -/
  | rechallenge (k : ConnId) (challenge : Store.Challenge) (now : Int)
  | ready (k : ConnId)
  | readyFailed (k : ConnId) (now : Int)
  /-- A connection that is being closed has been closed. -/
  | finish (k : ConnId) (now : Int)
  /-- The peer is gone, the handler is cancelled, or a send fails. -/
  | disconnect (k : ConnId) (now : Int)
  | issueToken (rawToken : String) (connectorId capabilityProfile displayLabel : Json)
      (expiresInSeconds now : Int)
  | revoke (connectorId : String) (now : Int)
  | delete (connectorId : String)
  | rename (connectorId : String) (displayLabel : Json)
  | deviceStatus (connectorId : String) (now : Int)
  | operatorDevices (now : Int)
  | onlineAgents (now : Int)
  | command (c : CallId) (input : CommandInput) (uuid : String) (now : Int)
  | delivered (c : CallId) (slow : Bool)
  | sendFailed (c : CallId) (timedOut : Bool)
  | expire (c : CallId)
  | cancelTask (c : CallId)
  | resume (c : CallId)
  | cancel (x : CancelId) (connectorId requestId : String) (now : Int)
  | cancelSent (x : CancelId)
  | cancelFailed (x : CancelId)

namespace System

def init : System := ⟨Store.empty, Dict.empty, Dispatcher.init⟩

/-! ## The handler of a connection -/

/-- The `finally` block of `handle`.  A session that exists has been registered:
nothing suspends between the two. -/
def teardown (env : Env) (sys : System) (store : Store) (k : ConnId) (now : Int) : Plan :=
  match sys.dispatcher.sessions.get? k with
  | none => ⟨store, sys.phases.insert k .finished, none⟩
  | some session =>
      ⟨if sys.dispatcher.removes k session then
          store.disconnectRelay env session.instanceId k now else store,
        sys.phases.insert k .finished, some (.remove k)⟩

/-- The `except` clauses of `handle`; what none of them takes ends the handler. -/
def raises (env : Env) (sys : System) (store : Store) (k : ConnId) (stage : HandshakeStage)
    (e : Exc) (now : Int) : Plan :=
  match e with
  | .agent e => ⟨store, sys.phases.insert k (.closing (relayDiagnostic e.code stage)), none⟩
  | .protocol =>
      ⟨store, sys.phases.insert k (.closing (relayDiagnostic (protocolCode stage) stage)), none⟩
  | .escape => sys.teardown env store k now

/-- The authentication frame, the session and its registration. -/
def authenticates (env : Env) (sys : System) (k : ConnId) (challenge : Store.Challenge)
    (message : Json) (now : Int) : Plan :=
  match sys.store.authenticateSession env k challenge message now with
  | (store, .error e) => sys.raises env store k .authentication e now
  | (store, .ok session) =>
      ⟨store, sys.phases.insert k .readying, some (.register k session)⟩

/-- The first frame of a connection. -/
def handshakes (env : Env) (sys : System) (k : ConnId) (challenge : Store.Challenge)
    (message : Json) (now : Int) : Plan :=
  if hasType message "enroll" then
    match sys.store.handleEnroll env message now with
    | (store, .error e) => sys.raises env store k .enrollment e now
    | (store, .ok connectorId) => ⟨store, sys.phases.insert k (.enrolled connectorId), none⟩
  else sys.authenticates env k challenge message now

/-- One round of `_serve_session`. -/
def serves (env : Env) (sys : System) (k : ConnId) (session : AgentRelaySession)
    (message : Json) (now : Int) : Plan :=
  if hasType message "heartbeat" then
    match sys.store.handleHeartbeat env k session message now with
    | (store, .error e) => sys.raises env store k .session e now
    | (store, .ok epoch) => ⟨store, sys.phases, some (.beat k epoch)⟩
  else if hasType message "response" then
    match sys.dispatcher.receiveResponse env k session.connectorId message with
    | .error e => sys.raises env sys.store k .session e now
    | .ok _ => ⟨sys.store, sys.phases, some (.respond k message)⟩
  else sys.raises env sys.store k .session .protocol now

/-- A frame arrives on a connection that waits for one. -/
def receives (env : Env) (sys : System) (k : ConnId) (frame : Except Exc Json) (now : Int) :
    Option Plan :=
  match sys.phases.get? k with
  | some (.challenging challenge) =>
      match frame with
      | .error e => some (sys.raises env sys.store k .challenge e now)
      | .ok message => some (sys.handshakes env k challenge message now)
  | some (.authenticating challenge) =>
      match frame with
      | .error e => some (sys.raises env sys.store k .authentication e now)
      | .ok message => some (sys.authenticates env k challenge message now)
  | some .serving =>
      match sys.dispatcher.sessions.get? k with
      | none => none
      | some session =>
          match frame with
          | .error e => some (sys.raises env sys.store k .session e now)
          | .ok message => some (sys.serves env k session message now)
  | _ => none

/-- A challenge is issued and sent on a connection. -/
def challenges (env : Env) (sys : System) (k : ConnId) (challenge : Store.Challenge)
    (next : Store.Challenge → Phase) (now : Int) : Plan :=
  match sys.store.createChallenge env challenge now with
  | none => sys.teardown env sys.store k now
  | some store => ⟨store, sys.phases.insert k (next challenge), none⟩

/-- A connection whose upgrade is not secure is closed before it is accepted. -/
def rejectsUpgrade (env : Env) (sys : System) (k : ConnId) (upgrade : Upgrade) : Option Plan :=
  match sys.phases.get? k with
  | some _ => none
  | none =>
      if isSecureConnection env upgrade then none
      else some ⟨sys.store, sys.phases.insert k .finished, none⟩

/-- A connection is accepted. -/
def connects (env : Env) (sys : System) (k : ConnId) (challenge : Store.Challenge) (now : Int) :
    Option Plan :=
  match sys.phases.get? k with
  | some _ => none
  | none => some (sys.challenges env k challenge .challenging now)

/-- The answer to an enrollment has been sent. -/
def rechallenges (env : Env) (sys : System) (k : ConnId) (challenge : Store.Challenge)
    (now : Int) : Option Plan :=
  match sys.phases.get? k with
  | some (.enrolled _) => some (sys.challenges env k challenge .authenticating now)
  | _ => none

/-- The wait for a handshake message has timed out. -/
def timesOut (env : Env) (sys : System) (k : ConnId) (now : Int) : Option Plan :=
  match sys.phases.get? k with
  | some (.challenging _) =>
      some (sys.raises env sys.store k .challenge (.agent .relayChallengeTimeout) now)
  | some (.authenticating _) =>
      some (sys.raises env sys.store k .authentication (.agent .relayChallengeTimeout) now)
  | _ => none

/-- `ready` has been sent, or could not be. -/
def readies (env : Env) (sys : System) (k : ConnId) (failed : Option Int) : Option Plan :=
  match sys.phases.get? k with
  | some .readying =>
      match failed with
      | none => some ⟨sys.store, sys.phases.insert k .serving, none⟩
      | some now => some (sys.raises env sys.store k .ready (.agent .relayReadyFailed) now)
  | _ => none

/-- The handler ends, after the diagnostic or without one, or while its connection is being
accepted. -/
def ends (env : Env) (sys : System) (k : ConnId) (closing : Bool) (now : Int) : Option Plan :=
  match sys.phases.get? k with
  | some .finished => none
  | some (.closing _) => some (sys.teardown env sys.store k now)
  | _ => if closing then none else some (sys.teardown env sys.store k now)

/-! ## Commands and cancels -/

/-- The part of the routing row that a command reads. -/
def routing (r : InstanceRow) : Routing := ⟨r.instanceId, r.contextEpoch⟩

/-- `device_command` up to the routing lookup. -/
def commands (env : Env) (sys : System) (c : CallId) (input : CommandInput) (uuid : String)
    (now : Int) : Plan :=
  match parseConnectorId env (.str input.connectorId) with
  | .error e => ⟨sys.store, sys.phases, some (.refuse c e)⟩
  | .ok connectorId =>
      if input.appAssertion.any fun a => !Py.eqStr a.connectorId connectorId then
        ⟨sys.store, sys.phases, some (.refuse c (.agent .appAssertionConnectorMismatch))⟩
      else
        match sys.store.relaySession env connectorId input.instanceId now with
        | .error e => ⟨sys.store, sys.phases, some (.refuse c e)⟩
        | .ok (store, row) =>
            ⟨store, sys.phases, some (.command c connectorId input (row.map routing) uuid now)⟩

/-- `cancel_request` up to the routing lookup. -/
def cancels (env : Env) (sys : System) (x : CancelId) (connectorId requestId : String)
    (now : Int) : Plan :=
  match parseConnectorId env (.str connectorId) with
  | .error e => ⟨sys.store, sys.phases, some (.refuseCancel x e)⟩
  | .ok connectorId =>
      match parseUuid env (.str requestId) with
      | .error e => ⟨sys.store, sys.phases, some (.refuseCancel x e)⟩
      | .ok requestId =>
          match sys.store.relaySession env connectorId none now with
          | .error e => ⟨sys.store, sys.phases, some (.refuseCancel x e)⟩
          | .ok (store, row) =>
              ⟨store, sys.phases,
                some (.cancelRequest x connectorId requestId (row.map routing))⟩

/-! ## Steps -/

/-- An event of which only the act matters. -/
def acts (sys : System) (a : Act) : Plan := ⟨sys.store, sys.phases, some a⟩

/-- An event that only writes to the tables. -/
def writes (sys : System) (store : Store) : Plan := ⟨store, sys.phases, none⟩

/-- The tables after an operation that may have raised. -/
def orSame {ε : Type} (sys : System) (result : Except ε Store) : Store :=
  match result with
  | .error _ => sys.store
  | .ok store => store

/-- What an event does; `none` when it cannot happen. -/
def plan (env : Env) (sys : System) : Event → Option Plan
  | .rejectUpgrade k upgrade => sys.rejectsUpgrade env k upgrade
  | .connect k challenge now => sys.connects env k challenge now
  | .receive k frame now => sys.receives env k frame now
  | .handshakeTimeout k now => sys.timesOut env k now
  | .rechallenge k challenge now => sys.rechallenges env k challenge now
  | .ready k => sys.readies env k none
  | .readyFailed k now => sys.readies env k (some now)
  | .finish k now => sys.ends env k true now
  | .disconnect k now => sys.ends env k false now
  | .issueToken rawToken connectorId capabilityProfile displayLabel expiresInSeconds now =>
      some (sys.writes (sys.orSame (sys.store.issueToken env rawToken connectorId
        capabilityProfile displayLabel expiresInSeconds now)))
  | .revoke connectorId now =>
      some (sys.writes ((sys.store.revokeDevice connectorId now).getD sys.store))
  | .delete connectorId => some (sys.writes (sys.orSame (sys.store.deleteRevokedDevice connectorId)))
  | .rename connectorId displayLabel =>
      some (sys.writes (sys.orSame (sys.store.rename env connectorId displayLabel)))
  | .deviceStatus connectorId now =>
      some (sys.writes (sys.store.deviceStatus env connectorId now).1)
  | .operatorDevices now => some (sys.writes (sys.store.operatorDevices env now).1)
  | .onlineAgents now => some (sys.writes (sys.store.agentInventory env now).1)
  | .command c input uuid now => some (sys.commands env c input uuid now)
  | .delivered c slow => some (sys.acts (.delivered c slow))
  | .sendFailed c timedOut => some (sys.acts (.sendFailed c timedOut))
  | .expire c => some (sys.acts (.expire c))
  | .cancelTask c => some (sys.acts (.cancelTask c))
  | .resume c => some (sys.acts (.resume c))
  | .cancel x connectorId requestId now => some (sys.cancels env x connectorId requestId now)
  | .cancelSent x => some (sys.acts (.cancelSent x))
  | .cancelFailed x => some (sys.acts (.cancelFailed x))

/-- The act of an event in the dispatcher. -/
def act (env : Env) (sys : System) (e : Event) : Option Act := (sys.plan env e).bind Plan.act

def step (env : Env) (sys : System) (e : Event) : Option System :=
  match sys.plan env e with
  | none => none
  | some plan =>
      match plan.act with
      | none => some ⟨plan.store, plan.phases, sys.dispatcher⟩
      | some a => (sys.dispatcher.step env a).map fun d => ⟨plan.store, plan.phases, d⟩

/-- **A refused upgrade** only finishes its connection. -/
theorem rejectsUpgrade_finishes {env : Env} {sys : System} {k : ConnId} {upgrade : Upgrade}
    {plan : Plan} (planned : sys.rejectsUpgrade env k upgrade = some plan) :
    sys.phases.get? k = none ∧ isSecureConnection env upgrade = false ∧
      plan = ⟨sys.store, sys.phases.insert k .finished, none⟩ := by
  unfold rejectsUpgrade at planned
  split at planned
  · cases planned
  · rename_i absent
    split at planned
    · cases planned
    · rename_i insecure
      exact ⟨absent, Bool.eq_false_iff.mpr insecure, (Option.some.inj planned).symm⟩

end System

/-- The connector as a machine. -/
def system (env : Env) : Machine System Event := ⟨System.init, System.step env⟩

/-- **The dispatcher of a system run is a run of the dispatcher.** -/
theorem system_simulates (env : Env) :
    Machine.Simulates (system env) (dispatcher env) System.dispatcher (System.act env) where
  init := rfl
  step := by
    intro sys sys' e stepped
    have stepped : sys.step env e = some sys' := stepped
    unfold System.step at stepped
    unfold System.act
    cases planned : sys.plan env e with
    | none => rw [planned] at stepped; cases stepped
    | some plan =>
        rw [planned] at stepped
        simp only [Option.bind_some]
        cases act : plan.act with
        | none =>
            simp only [act] at stepped
            cases stepped
            rfl
        | some a =>
            simp only [act] at stepped
            obtain ⟨d, next, rfl⟩ := Option.map_eq_some_iff.mp stepped
            exact next

/-- A side condition of the dispatcher, on the events of the connector. -/
abbrev onActs (env : Env) (allow : Dispatcher → Act → Prop) : System → Event → Prop :=
  Machine.lift System.dispatcher (System.act env) allow

theorem dispatcher_reach {env : Env} {allow : Dispatcher → Act → Prop} {sys : System}
    (reached : (system env).Reach (onActs env allow) sys) :
    (dispatcher env).Reach allow sys.dispatcher :=
  (system_simulates env).reach reached

/-- A decidable condition of the dispatcher can be decided on the events. -/
instance {env : Env} {allow : Dispatcher → Act → Prop} [∀ d a, Decidable (allow d a)]
    (sys : System) (e : Event) : Decidable (onActs env allow sys e) :=
  match act : sys.act env e with
  | none => isTrue fun _ isAct => nomatch act.symm.trans isAct
  | some a => decidable_of_iff (allow sys.dispatcher a) <| by
      unfold onActs Machine.lift
      rw [act]
      simp only [Option.some.injEq, forall_eq']

end RemoteAgent
