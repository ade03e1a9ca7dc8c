import RemoteAgent.Lib.Transition
import RemoteAgent.Requests

/-!
# Dispatching device commands (`service.py`, `relay.py`)

The state in which `device_command`, `cancel_request`, the device's responses and
the session registry meet, and one atomic step of it for every stretch of code
between two suspensions.

* `Dispatcher` is that state: the idempotency table, `_in_flight`, the registry
  with its sessions and their `pending` maps, and the calls.
* `deviceCommand` is `device_command` from the routing lookup up to the websocket
  send; `Live` is a call inside its `try` block.
* `Act` lists the steps; `Dispatcher.step` takes one.

A call's future is kept in the call: it is created for it and nothing else holds
on to it once the call has ended.  A `pending` map therefore maps a request id to
the call whose future is stored there.  A connection's `connection_generation`,
a fresh uuid, is represented by the number of the connection.
-/

open Wire Storage Transition

namespace RemoteAgent

abbrev ConnId := Nat
abbrev CallId := Nat
abbrev CancelId := Nat

/-! ## Sessions and requests -/

/-- `AgentRelaySession`, without its websocket and its `pending` map. -/
structure AgentRelaySession where
  connectorId : String
  instanceId : String
  contextEpoch : Json
  capabilities : List String
  capabilityProfile : CapabilityProfile

/-- `has_capability`. -/
def AgentRelaySession.hasCapability (s : AgentRelaySession) (capability : String) : Bool :=
  s.capabilities.contains capability

/-- A parsed application assertion: the envelope and the members read from it. -/
structure AppAssertion where
  envelope : Json
  connectorId : Json
  expiresAt : Int
  requestId : Json
  connectorId_eq : envelope.get? "connector_id" = some connectorId
  expiresAt_eq : envelope.get? "expires_at" = some (.int expiresAt)
  requestId_eq : envelope.get? "request_id" = some requestId

/-- The arguments of `device_command`. -/
structure CommandInput where
  clientId : String
  appId : String
  appAssertion : Option AppAssertion
  tool : String
  connectorId : String
  arguments : Json
  idempotencyKey : String
  instanceId : Option String

/-- The columns of `session_row` that `device_command` reads. -/
structure Routing where
  instanceId : String
  contextEpoch : Json

/-- A command that has passed every check before `claim_request`: its arguments, and
what the routing lookup and the registry found for it. -/
structure Request where
  key : RequestKey
  requestId : String
  tool : String
  arguments : Json
  /-- The argument `instance_id`. -/
  requestedInstance : Option String
  instanceId : String
  contextEpoch : Json
  appId : String
  appAssertion : Option Json
  conn : ConnId

namespace Request

/-- The value whose digest is stored with the claim. -/
def digestInput (rq : Request) : Json :=
  .obj [("connector_id", .str rq.key.connectorId), ("tool", .str rq.tool),
    ("arguments", rq.arguments), ("instance_id", .str rq.instanceId),
    ("context_epoch", rq.contextEpoch)]

def requestDigest (env : Env) (rq : Request) : String := canonicalJsonDigest env rq.digestInput

def claim (env : Env) (rq : Request) : Claim where
  key := rq.key
  requestId := rq.requestId
  toolName := rq.tool
  requestDigest := rq.requestDigest env

/-- The relay frame of type `request`. -/
def frame (rq : Request) : Json :=
  .obj ([("v", .int protocolVersion), ("type", .str "request"), ("request_id", .str rq.requestId),
    ("tool", .str rq.tool), ("connector_id", .str rq.key.connectorId),
    ("arguments", rq.arguments), ("idempotency_key", .str rq.key.idempotencyKey)] ++
    if rq.appId = "" then []
    else [("app_id", .str rq.appId), ("app_assertion", rq.appAssertion.getD
      (.obj [("source", .str "hub-delegation-v4"), ("verified", .bool true),
        ("client_id", .str rq.key.clientId)]))])

end Request

/-- A key of `_in_flight`. -/
structure CollisionKey where
  connectorId : String
  tool : String
  argumentsDigest : String
deriving DecidableEq

/-- `_collision_key`. -/
def Request.collisionKey (env : Env) (rq : Request) : Option CollisionKey :=
  if mutatingRelayTools.contains rq.tool then
    some ⟨rq.key.connectorId, rq.tool,
      canonicalJsonDigest env (.obj [("arguments", rq.arguments)])⟩
  else none

/-! ## Calls -/

/-- The future a call waits on; `failed` holds `AgentError("device_offline")`. -/
inductive Fut where
  | pending
  | result (r : Json)
  | failed
  | cancelled

def Fut.done : Fut → Bool
  | .pending => false
  | _ => true

/-- Inside the `try` block: awaiting the websocket send, or the future. -/
inductive Stage where
  | sending | waiting
deriving DecidableEq

/-- What has been thrown at the task: the expiry of `wait_for`, or a cancellation
of the task, which wins over it. -/
inductive Interrupt where
  | none | timeout | cancel
deriving DecidableEq

structure Live where
  request : Request
  stage : Stage
  future : Fut
  interrupt : Interrupt

/-- How a call that was told `new` ended. -/
inductive Outcome where
  | returned (r : Json)
  /-- The result is recorded, and `append_audit` raises on its code. -/
  | unaudited (r : Json)
  | raised (e : AgentCode)
  | cancelled

inductive Call where
  /-- Ended before `claim_request`. -/
  | refused (e : Exc)
  /-- Ended by the answer of `claim_request`, which was not `new`. -/
  | answered (rq : Request) (o : ClaimOutcome)
  /-- Told `new`, and inside the `try` block. -/
  | live (l : Live)
  /-- Told `new`, and ended. -/
  | settled (rq : Request) (out : Outcome)

/-- What the `await` on the future and the size check make of a call. -/
def Live.outcome (l : Live) : Outcome :=
  match l.interrupt with
  | .cancel => .cancelled
  | .timeout => .raised .deviceTimeout
  | .none =>
      match l.future with
      | .result r =>
          if r.dumps.length > resultMaxBytes then .raised .resultTooLarge else .returned r
      | .failed => .raised .deviceOffline
      | .pending | .cancelled => .cancelled

/-- A call of `cancel_request`. -/
inductive Cancel where
  | refused (e : Exc)
  | sending (target : CallId) (connectorId requestId : String)
  | cancelled (target : CallId) (connectorId requestId : String)
  | failed

/-- A frame the service hands to a websocket. -/
inductive Frame where
  | request (rq : Request)
  | cancel (connectorId requestId : String)

/-- A row of `agent_audit_events` about a request. -/
structure AuditEvent where
  action : String
  resultCode : String
  agentPrincipal : String
  connectorId : String
  requestId : String

structure Dispatcher where
  requests : Requests
  inFlight : Dict CollisionKey String
  registry : Dict String ConnId
  sessions : Dict ConnId AgentRelaySession
  pending : ConnId → Dict String CallId
  calls : Dict CallId Call
  cancels : Dict CancelId Cancel
  /-- The frames sent so far, in order. -/
  sent : List (ConnId × Frame)
  /-- The response frames accepted so far, in order. -/
  received : List (ConnId × Json)
  audit : List AuditEvent

namespace Dispatcher

def init : Dispatcher where
  requests := Table.empty
  inFlight := Dict.empty
  registry := Dict.empty
  sessions := Dict.empty
  pending := fun _ => Dict.empty
  calls := Dict.empty
  cancels := Dict.empty
  sent := []
  received := []
  audit := []

/-- `get_exact`. -/
def getExact (d : Dispatcher) (connectorId instanceId : String) :
    Option (ConnId × AgentRelaySession) :=
  match d.registry.get? connectorId with
  | none => none
  | some k =>
      match d.sessions.get? k with
      | none => none
      | some session => if session.instanceId = instanceId then some (k, session) else none

/-! ## `device_command` up to the send -/

/-- `int(datetime.timestamp())` of a clock that counts microseconds. -/
def unixSeconds (now : Int) : Int := now.tdiv 1000000

/-- The per-call budget a caller asked for. -/
def requestedTimeout (arguments : Json) : Option Json :=
  match arguments.get? "timeout_s" with
  | some t => some t
  | none => arguments.get? "timeout_seconds"

/-- Whether a requested budget exceeds the relay window; a boolean is no budget. -/
def exceedsWindow (env : Env) (arguments : Json) : Bool :=
  match requestedTimeout arguments with
  | some (.int t) => decide (t > env.config.requestTimeoutSeconds)
  | _ => false

/-- The relay request id: the assertion's, or else a fresh uuid. -/
def relayRequestId (env : Env) (assertion : Option AppAssertion) (uuid : String) : String :=
  match assertion with
  | none => uuid
  | some a =>
      if Py.truthy env.floats a.requestId then Py.str env.floats env.container a.requestId
      else uuid

/-- The checks of `device_command` between the routing lookup and `claim_request`. -/
def prepare (env : Env) (d : Dispatcher) (connectorId : String) (input : CommandInput)
    (row : Option Routing) (uuid : String) (now : Int) : Except AgentCode Request :=
  match row with
  | none => .error .deviceOffline
  | some row =>
      match d.getExact connectorId row.instanceId with
      | none => .error .deviceOffline
      | some (k, session) =>
          if !session.hasCapability (capabilityOf input.tool) then
            .error .capabilityNotGranted
          else if input.appAssertion.any fun a => decide (a.expiresAt ≤ unixSeconds now) then
            .error .appAssertionExpiredAtDispatch
          else if exceedsWindow env input.arguments then
            .error .timeoutExceedsRelayWindow
          else
            .ok {
              key := ⟨connectorId, input.clientId, input.idempotencyKey⟩
              requestId := relayRequestId env input.appAssertion uuid
              tool := input.tool
              arguments := input.arguments
              requestedInstance := input.instanceId
              instanceId := row.instanceId
              contextEpoch := row.contextEpoch
              appId := input.appId
              appAssertion := input.appAssertion.map AppAssertion.envelope
              conn := k }

/-- `_acquire_collision_guard`; `none` is `command_in_flight`. -/
def acquireCollisionGuard (inFlight : Dict CollisionKey String) (key : Option CollisionKey)
    (requestId : String) : Option (Dict CollisionKey String) :=
  match key with
  | none => some inFlight
  | some key =>
      match inFlight.get? key with
      | some _ => none
      | none => some (inFlight.insert key requestId)

/-- `_release_collision_guard`. -/
def releaseCollisionGuard (inFlight : Dict CollisionKey String) (key : Option CollisionKey) :
    Dict CollisionKey String :=
  match key with
  | none => inFlight
  | some key => inFlight.erase key

def setCall (d : Dispatcher) (c : CallId) (call : Call) : Dispatcher :=
  { d with calls := d.calls.insert c call }

/-- Store a future under its request id and send the frame. -/
def dispatch (d : Dispatcher) (c : CallId) (rq : Request) : Dispatcher :=
  { d with
    pending := fun k =>
      if k = rq.conn then (d.pending k).insert rq.requestId c else d.pending k
    calls := d.calls.insert c (.live ⟨rq, .sending, .pending, .none⟩)
    sent := d.sent ++ [(rq.conn, .request rq)] }

/-- `device_command` from `claim_request` to the send. -/
def claimAndSend (env : Env) (d : Dispatcher) (c : CallId) (rq : Request) : Dispatcher :=
  let claimed := claimRequest d.requests (rq.claim env)
  let d := { d with requests := claimed.1 }
  match claimed.2 with
  | .new =>
      match acquireCollisionGuard d.inFlight (rq.collisionKey env) rq.requestId with
      | none => d.setCall c (.settled rq (.raised .commandInFlight))
      | some inFlight => { d with inFlight := inFlight }.dispatch c rq
  | outcome => d.setCall c (.answered rq outcome)

/-- `device_command` from the routing lookup to the send. -/
def deviceCommand (env : Env) (d : Dispatcher) (c : CallId) (connectorId : String)
    (input : CommandInput) (row : Option Routing) (uuid : String) (now : Int) : Dispatcher :=
  match d.prepare env connectorId input row uuid now with
  | .error e => d.setCall c (.refused (.agent e))
  | .ok rq => d.claimAndSend env c rq

/-! ## `device_command` after the send -/

/-- Whether `append_audit` takes the code of a result.  The text of any other value
than a `str` is printed by `repr`, which escapes what cannot be encoded. -/
def auditable (env : Env) (r : Json) : Bool :=
  match r.get? "code" with
  | some (.str code) => env.encodes code
  | _ => true

/-- What the audit row makes of the end of a call. -/
def audited (env : Env) : Outcome → Outcome
  | .returned r => if auditable env r then .returned r else .unaudited r
  | out => out

/-- What `complete_request` is told when a call ends; a cancelled task tells it nothing. -/
def recordOutcome (t : Requests) (key : RequestKey) : Outcome → Requests
  | .returned r | .unaudited r => completeRequest t key .completed r
  | .raised e => completeRequest t key .failed e.result
  | .cancelled => t

/-- The audit row of a call that returned. -/
def outcomeAudit (env : Env) (rq : Request) : Outcome → List AuditEvent
  | .returned r =>
      let code := match r.get? "code" with
        | some code => if Py.truthy env.floats code then
            Py.str env.floats env.container code else "ok"
        | none => "ok"
      [⟨"mcp." ++ rq.tool, code, rq.key.clientId, rq.key.connectorId, rq.requestId⟩]
  | _ => []

/-- The end of a call: its `finally` block, the record and the audit row. -/
def settle (env : Env) (d : Dispatcher) (c : CallId) (rq : Request) (out : Outcome) :
    Dispatcher :=
  let out := audited env out
  { d with
    requests := recordOutcome d.requests rq.key out
    inFlight := releaseCollisionGuard d.inFlight (rq.collisionKey env)
    pending := fun k => if k = rq.conn then (d.pending k).erase rq.requestId else d.pending k
    calls := d.calls.insert c (.settled rq out)
    audit := d.audit ++ outcomeAudit env rq out }

/-- The send has completed; `slow` when it took longer than the delivery
allowance.  A future that is done by now is not waited for. -/
def delivered (env : Env) (d : Dispatcher) (c : CallId) (l : Live) (slow : Bool) : Dispatcher :=
  let d := if slow then
      { d with audit := d.audit ++ [⟨"relay." ++ l.request.tool, "assertion_delivery_slow",
        l.request.key.clientId, l.request.key.connectorId, l.request.requestId⟩] }
    else d
  if l.future.done then d.settle env c l.request l.outcome
  else d.setCall c (.live { l with stage := .waiting })

/-- Cancelling a future that is done does nothing. -/
def cancelFuture : Fut → Fut
  | .pending => .cancelled
  | fut => fut

/-! ## The registry and the device's frames -/

/-- The future of a call; one that has ended waits for nothing. -/
def future (d : Dispatcher) (c : CallId) : Fut :=
  match d.calls.get? c with
  | some (.live l) => l.future
  | _ => .cancelled

/-- `future.set_result`, for a future that is not done. -/
def setResult (d : Dispatcher) (c : CallId) (r : Json) : Dispatcher :=
  match d.calls.get? c with
  | some (.live l) => d.setCall c (.live { l with future := .result r })
  | _ => d

/-- `fail_pending`: every future stored for the session that is not done fails. -/
def failPending (d : Dispatcher) (k : ConnId) : Dispatcher :=
  { d with
    pending := fun k' => if k' = k then Dict.empty else d.pending k'
    calls := fun c =>
      match d.calls.get? c with
      | some (.live l) =>
          if (d.pending k).get? l.request.requestId = some c ∧ l.future.done = false then
            some (.live { l with future := .failed })
          else some (.live l)
      | call => call }

/-- `AgentRelayRegistry.register`, for the session of a connection that has none yet. -/
def register (d : Dispatcher) (k : ConnId) (session : AgentRelaySession) : Dispatcher :=
  let d := match d.registry.get? session.connectorId with
    | some existing => d.failPending existing
    | none => d
  { d with
    registry := d.registry.insert session.connectorId k
    sessions := d.sessions.insert k session }

/-- Whether `remove` takes the session out of the registry. -/
def removes (d : Dispatcher) (k : ConnId) (session : AgentRelaySession) : Bool :=
  decide (d.registry.get? session.connectorId = some k)

/-- `AgentRelayRegistry.remove`. -/
def remove (d : Dispatcher) (k : ConnId) (session : AgentRelaySession) : Dispatcher :=
  { d with
    registry := if d.removes k session then d.registry.erase session.connectorId
      else d.registry }.failPending k

/-- The keys of a response frame. -/
def responseKeys : List String :=
  ["v", "type", "request_id", "tool", "connector_id", "status", "result"]

/-- A member of a frame, as `message.get(name)` reads it. -/
def field (message : Json) (name : String) : Json := (message.get? name).getD .null

/-- The check of a response's `status`, whether it is `"ok"`.  A list or a
dictionary is not hashable, so the membership test raises a `TypeError`. -/
def responseStatus (status : Json) : Except Exc Bool :=
  match status with
  | .arr _ | .obj _ => .error .escape
  | status =>
      if Py.eqStr status "ok" then .ok true
      else if Py.eqStr status "error" then .ok false
      else .error .protocol

/-- `_receive_response` up to the `set_result`: the call that is settled and what
it is given. -/
def receiveResponse (env : Env) (d : Dispatcher) (k : ConnId) (connectorId : String)
    (message : Json) : Except Exc (CallId × Json) :=
  match requireKeys message responseKeys [] with
  | .error e => .error e
  | .ok () =>
      if !Py.eqInt env.floats (field message "v") protocolVersion ||
          !Py.eqStr (field message "connector_id") connectorId then .error .protocol
      else
        match (d.pending k).get? (env.text (field message "request_id")) with
        | none => .error .protocol
        | some c =>
            if (d.future c).done then .error .protocol
            else
              match responseStatus (field message "status") with
              | .error e => .error e
              | .ok ok => .ok (c, responseResult ok (field message "result"))

/-! ## `cancel_request` -/

/-- `cancel_request` from the routing lookup to the send. -/
def cancelRequest (d : Dispatcher) (x : CancelId) (connectorId requestId : String)
    (row : Option Routing) : Dispatcher :=
  let refuse := fun e => { d with cancels := d.cancels.insert x (.refused (.agent e)) }
  match row with
  | none => refuse .deviceOffline
  | some row =>
      match d.getExact connectorId row.instanceId with
      | none => refuse .deviceOffline
      | some (k, _) =>
          match (d.pending k).get? requestId with
          | none => refuse .requestNotInFlight
          | some c =>
              { d with
                cancels := d.cancels.insert x (.sending c connectorId requestId)
                sent := d.sent ++ [(k, .cancel connectorId requestId)] }

/-- The result a cancelled call is given. -/
def cancelResult : Json := .obj [("code", .str "cancelled")]

/-- `cancel_request` after the send. -/
def cancelSent (d : Dispatcher) (x : CancelId) (c : CallId) (connectorId requestId : String) :
    Dispatcher :=
  let d := if (d.future c).done then d else d.setResult c cancelResult
  { d with
    cancels := d.cancels.insert x (.cancelled c connectorId requestId)
    audit := d.audit ++ [⟨"relay.cancel", "cancelled", "operator", connectorId, requestId⟩] }

/-! ## Steps -/

end Dispatcher

/-- The atomic steps.  Everything outside the dispatcher is an argument: the
routing row that was looked up, the fresh uuid, the clock, which send or timer
completes when, and when a task is cancelled. -/
inductive Act where
  /-- A command that ends before the routing lookup. -/
  | refuse (c : CallId) (e : Exc)
  | command (c : CallId) (connectorId : String) (input : CommandInput) (row : Option Routing)
      (uuid : String) (now : Int)
  | delivered (c : CallId) (slow : Bool)
  | sendFailed (c : CallId) (timedOut : Bool)
  /-- The timer of `wait_for` fires; it may do so when the future is already done
  and the task has not run yet. -/
  | expire (c : CallId)
  | cancelTask (c : CallId)
  /-- The task runs again. -/
  | resume (c : CallId)
  | respond (k : ConnId) (message : Json)
  | register (k : ConnId) (session : AgentRelaySession)
  | remove (k : ConnId)
  /-- A heartbeat updates the session's `context_epoch`. -/
  | beat (k : ConnId) (contextEpoch : Json)
  | refuseCancel (x : CancelId) (e : Exc)
  | cancelRequest (x : CancelId) (connectorId requestId : String) (row : Option Routing)
  | cancelSent (x : CancelId)
  | cancelFailed (x : CancelId)

/-- Whether the task has something to run for. -/
def Live.ready (l : Live) : Bool :=
  match l.stage, l.interrupt with
  | _, .cancel => true
  | .sending, _ => false
  | .waiting, .timeout => true
  | .waiting, .none => l.future.done

namespace Dispatcher

def step (env : Env) (d : Dispatcher) : Act → Option Dispatcher
  | .refuse c e =>
      match d.calls.get? c with
      | some _ => none
      | none => some (d.setCall c (.refused e))
  | .command c connectorId input row uuid now =>
      match d.calls.get? c with
      | some _ => none
      | none => some (d.deviceCommand env c connectorId input row uuid now)
  | .delivered c slow =>
      match d.calls.get? c with
      | some (.live l) =>
          if l.stage = .sending ∧ l.interrupt = .none then some (d.delivered env c l slow)
          else none
      | _ => none
  | .sendFailed c timedOut =>
      match d.calls.get? c with
      | some (.live l) =>
          if l.stage = .sending ∧ l.interrupt = .none then
            some (d.settle env c l.request
              (.raised (if timedOut then .deviceTimeout else .deviceOffline)))
          else none
      | _ => none
  | .expire c =>
      match d.calls.get? c with
      | some (.live l) =>
          if l.stage = .waiting ∧ l.interrupt = .none then
            some (d.setCall c
              (.live { l with future := cancelFuture l.future, interrupt := .timeout }))
          else none
      | _ => none
  | .cancelTask c =>
      match d.calls.get? c with
      | some (.live l) =>
          some (d.setCall c (.live { l with
            future := if l.stage = .waiting then cancelFuture l.future else l.future
            interrupt := .cancel }))
      | _ => none
  | .resume c =>
      match d.calls.get? c with
      | some (.live l) => if l.ready then some (d.settle env c l.request l.outcome) else none
      | _ => none
  | .respond k message =>
      match d.sessions.get? k with
      | none => none
      | some session =>
          match d.receiveResponse env k session.connectorId message with
          | .error _ => none
          | .ok (c, r) =>
              some { d.setResult c r with received := d.received ++ [(k, message)] }
  | .register k session =>
      match d.sessions.get? k with
      | some _ => none
      | none => some (d.register k session)
  | .remove k =>
      match d.sessions.get? k with
      | none => none
      | some session => some (d.remove k session)
  | .beat k contextEpoch =>
      match d.sessions.get? k with
      | none => none
      | some session =>
          some { d with sessions :=
            d.sessions.insert k { session with contextEpoch := contextEpoch } }
  | .refuseCancel x e =>
      match d.cancels.get? x with
      | some _ => none
      | none => some { d with cancels := d.cancels.insert x (.refused e) }
  | .cancelRequest x connectorId requestId row =>
      match d.cancels.get? x with
      | some _ => none
      | none => some (d.cancelRequest x connectorId requestId row)
  | .cancelSent x =>
      match d.cancels.get? x with
      | some (.sending c connectorId requestId) => some (d.cancelSent x c connectorId requestId)
      | _ => none
  | .cancelFailed x =>
      match d.cancels.get? x with
      | some (.sending ..) => some { d with cancels := d.cancels.insert x .failed }
      | _ => none

end Dispatcher

/-- The dispatcher as a machine. -/
def dispatcher (env : Env) : Machine Dispatcher Act := ⟨Dispatcher.init, Dispatcher.step env⟩

end RemoteAgent
