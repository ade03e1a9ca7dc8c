import RemoteAgent.DeviceRows
import RemoteAgent.Enrollment
import RemoteAgent.Server

/-!
# Who may do what

Every effect of a run of the server, traced back to the request that was let through for it.

* `frames_authorised`: a device is sent a request only for a call of a tool that bore the
  token of the Hub and a delegation that verified; the frame says what that call said.
* `devices_authorised`: a device is enrolled only on a token that was issued for it at a
  request of the operator, and is revoked only at one.
-/

open Wire Storage Transition

namespace RemoteAgent

variable {env : Env}

/-! ## From a command to its frame -/

/-- What a request takes from its command. -/
structure Request.Carries (env : Env) (rq : Request) (input : CommandInput) (uuid : String)
    (now : Int) : Prop where
  connector : parseConnectorId env (.str input.connectorId) = .ok rq.key.connectorId
  clientId : rq.key.clientId = input.clientId
  idempotencyKey : rq.key.idempotencyKey = input.idempotencyKey
  requestId : rq.requestId = Dispatcher.relayRequestId env input.appAssertion uuid
  tool : rq.tool = input.tool
  arguments : rq.arguments = input.arguments
  requestedInstance : rq.requestedInstance = input.instanceId
  appId : rq.appId = input.appId
  appAssertion : rq.appAssertion = input.appAssertion.map AppAssertion.envelope
  /-- The assertion is for the connector, and has not expired. -/
  bound : ∀ a, input.appAssertion = some a →
    Py.eqStr a.connectorId rq.key.connectorId = true ∧ Dispatcher.unixSeconds now < a.expiresAt
  /-- The device is not given longer than the connector waits. -/
  window : Dispatcher.exceedsWindow env input.arguments = false

namespace Dispatcher

/-- The checks that a prepared request has passed. -/
theorem prepare_checked {d : Dispatcher} {connectorId : String} {input : CommandInput}
    {row : Option Routing} {uuid : String} {now : Int} {rq : Request}
    (prepared : d.prepare env connectorId input row uuid now = .ok rq) :
    (∀ a, input.appAssertion = some a → unixSeconds now < a.expiresAt) ∧
      exceedsWindow env input.arguments = false := by
  unfold prepare at prepared
  split at prepared
  · cases prepared
  · split at prepared
    · cases prepared
    · split at prepared
      · cases prepared
      · split at prepared
        · cases prepared
        · rename_i unexpired
          split at prepared
          · cases prepared
          · rename_i within
            refine ⟨fun a isSome => ?_, by simpa using within⟩
            rw [isSome, Option.any_some, decide_eq_true_eq] at unexpired
            exact not_le.mp unexpired

end Dispatcher

namespace System

variable {sys sys' : System} {e : Event}

/-- A command that reaches the dispatcher is that of its event. -/
theorem act_command_event {c : CallId} {connectorId : String} {input : CommandInput}
    {row : Option Routing} {uuid : String} {now : Int}
    (act : sys.act env e = some (.command c connectorId input row uuid now)) :
    e = .command c input uuid now ∧ parseConnectorId env (.str input.connectorId) = .ok connectorId ∧
      ∀ a, input.appAssertion = some a → Py.eqStr a.connectorId connectorId = true := by
  have free : e.conn? = none := (act_conn act).symm
  obtain ⟨plan, planned, act⟩ := Option.bind_eq_some_iff.mp act
  cases e with
  | rejectUpgrade | connect | receive | handshakeTimeout | rechallenge | ready | readyFailed | finish
  | disconnect => cases free
  | command c₀ input₀ uuid₀ now₀ =>
      obtain rfl := Option.some.inj planned
      unfold commands at act
      split at act
      · cases act
      · rename_i connector parsed
        split at act
        · cases act
        · rename_i matching
          split at act
          · cases act
          · cases act
            refine ⟨rfl, parsed, fun a isSome => ?_⟩
            rw [isSome, Option.any_some, Bool.not_eq_true', Bool.not_eq_false] at matching
            exact matching
  | cancel x connectorId₀ requestId now₀ =>
      obtain rfl := Option.some.inj planned
      unfold cancels at act
      split at act
      · cases act
      · split at act
        · cases act
        · split at act <;> cases act
  | issueToken | revoke | delete | rename | deviceStatus | operatorDevices | onlineAgents
  | delivered | sendFailed | expire | cancelTask | resume | cancelSent | cancelFailed =>
      obtain rfl := Option.some.inj planned
      cases act

/-- **A step sends at most one request frame**, for a command that it carries. -/
theorem step_sends (stepped : sys.step env e = some sys') :
    sys'.dispatcher.dispatched = sys.dispatcher.dispatched ∨
      ∃ rq c input uuid now, e = .command c input uuid now ∧
        sys'.dispatcher.dispatched = sys.dispatcher.dispatched ++ [rq] ∧
        rq.Carries env input uuid now ∧ Routed sys rq := by
  rcases dispatch_routed stepped with same | ⟨rq, appended, routed, _⟩
  · exact Or.inl same
  · have unsent : sys'.dispatcher.dispatched ≠ sys.dispatcher.dispatched := by
      rw [appended]
      exact fun same => List.cons_ne_nil _ _ (List.append_right_eq_self.mp same)
    obtain ⟨plan, planned, _, _, next⟩ := step_plan stepped
    split at next
    · exact absurd (congrArg Dispatcher.dispatched next) unsent
    · rename_i a act
      rcases (Dispatcher.step_effect next).dispatched_cases with same | ⟨c, rq', appended', came, _⟩
      · exact absurd same unsent
      · obtain rfl : rq' = rq :=
          List.singleton_inj.mp (List.append_cancel_left (appended'.symm.trans appended))
        unfold Dispatcher.incoming at came
        split at came
        · rename_i c₀ connectorId input row uuid now
          split at came
          · cases came
          · split at came
            · rename_i rq₀ prepared
              cases came
              obtain ⟨event, parsed, matching⟩ := act_command_event
                (Option.bind_eq_some_iff.mpr ⟨plan, planned, act⟩)
              obtain ⟨timely, window⟩ := Dispatcher.prepare_checked prepared
              obtain ⟨found, k, _, rfl⟩ := Dispatcher.prepare_ok prepared
              exact Or.inr ⟨_, _, input, uuid, now, event, appended,
                ⟨parsed, rfl, rfl, rfl, rfl, rfl, rfl, rfl, rfl,
                  fun a isSome => ⟨matching a isSome, timely a isSome⟩, window⟩, routed⟩
            · cases came
        · cases came

end System

/-! ## From a call of a tool to its command -/

/-- An assertion is determined by its envelope. -/
theorem AppAssertion.ofEnvelope?_envelope (a : AppAssertion) :
    AppAssertion.ofEnvelope? a.envelope = some a := by
  obtain ⟨envelope, connectorId, expiresAt, requestId, connector, expires, request⟩ := a
  unfold AppAssertion.ofEnvelope?
  split
  · rename_i connectorId' expiresAt' requestId' connector' expires' request'
    cases connector.symm.trans connector'
    cases expires.symm.trans expires'
    cases request.symm.trans request'
    rfl
  · rename_i absent
    exact (absent connectorId expiresAt requestId connector expires request).elim

namespace Server

variable {server : Server}

/-- The token of a call that is let through. -/
theorem verifyToken_token {token : Option String} (verified : server.verifyToken token = true) :
    token = some server.mcpBearerToken := by
  cases token with
  | none => cases verified
  | some token => exact congrArg some (compareDigest_eq_true (beq_iff_eq.mp verified))

/-- A verified assertion is one that `device_command` can read. -/
theorem Admits.assertion {request : ToolRequest} {received : Int} {identity : DelegatedIdentity}
    (admits : server.Admits env request received identity) {envelope : Json}
    (isSome : identity.appAssertion = some envelope) :
    ∃ a, AppAssertion.ofEnvelope? envelope = some a ∧ a.envelope = envelope := by
  have verified := attempt_ok admits.identity
  obtain ⟨claimed, payload, _, _, _, _, attached, _⟩ := verifyDelegationHeaders_ok verified
  rcases (attachedAssertion_ok attached).2 with ⟨_, isNone⟩ | ⟨parsed, isParsed, accepted, _⟩
  · cases isNone.symm.trans isSome
  · obtain rfl := Option.some.inj (isParsed.symm.trans isSome)
    obtain ⟨decoded, scopes, issued, expires, _, checked, rfl⟩ := parseAppAssertion_ok accepted
    exact ⟨checked.view, AppAssertion.ofEnvelope?_envelope checked.view, rfl⟩

/-- **The command of a call presents the identity that its headers prove.** -/
theorem Admits.presents {request : ToolRequest} {received : Int} {identity : DelegatedIdentity}
    (admits : server.Admits env request received identity) :
    (request.command identity).Presents identity := by
  refine ⟨rfl, rfl, ?_⟩
  show (identity.appAssertion.bind AppAssertion.ofEnvelope?).map AppAssertion.envelope =
    identity.appAssertion
  cases isSome : identity.appAssertion with
  | none => rfl
  | some envelope =>
      obtain ⟨a, isRead, same⟩ := admits.assertion isSome
      rw [Option.bind_some, isRead, Option.map_some, same]

/-- A command stands for a call of a tool that was let through. -/
theorem asks_command {incoming : Incoming} {c : CallId} {input : CommandInput} {uuid : String}
    {now : Int} (happens : happens incoming = true)
    (asks : server.asks env incoming = some (.command c input uuid now)) :
    ∃ request received identity, incoming = .tool c request uuid received now ∧
      server.Admits env request received identity ∧ input = request.command identity := by
  cases incoming with
  | tool c₀ request uuid₀ received now₀ =>
      unfold Server.asks at asks
      simp only at asks
      split at asks
      · rename_i token
        split at asks
        · cases asks
        · rename_i identity verified
          cases asks
          exact ⟨request, received, identity, rfl, ⟨token, verified⟩, rfl⟩
      · cases asks
  | operator authorization route rawToken x now₀ =>
      unfold Server.asks at asks
      simp only at asks
      split at asks
      · cases route with
        | issueEnrollment body =>
            obtain ⟨_, _, same⟩ := Option.map_eq_some_iff.mp asks
            cases same
        | renameDevice connectorId body =>
            obtain ⟨_, _, same⟩ := Option.map_eq_some_iff.mp asks
            cases same
        | _ => cases asks
      · cases asks
  | peer e =>
      obtain rfl := Option.some.inj asks
      cases happens

/-- A step of the server, taken apart. -/
theorem step_asks {sys sys' : System} {incoming : Incoming}
    (stepped : server.step env sys incoming = some sys') :
    happens incoming = true ∧ ((server.asks env incoming = none ∧ sys' = sys) ∨
      ∃ e, server.asks env incoming = some e ∧ sys.step env e = some sys') := by
  unfold Server.step at stepped
  split at stepped
  · rename_i happens
    refine ⟨happens, ?_⟩
    cases asks : server.asks env incoming with
    | none =>
        rw [asks] at stepped
        exact Or.inl ⟨rfl, (Option.some.inj stepped).symm⟩
    | some e =>
        rw [asks] at stepped
        exact Or.inr ⟨e, rfl, stepped⟩
  · cases stepped

/-! ## Frames -/

/-- The call of a tool behind a frame: what it bore, and what the frame says of it. -/
structure Behind (server : Server) (env : Env) (m : Machine.Moment System Incoming)
    (rq : Request) : Prop where
  call : ∃ c request uuid received now identity, m.event = .tool c request uuid received now ∧
    request.token = some server.mcpBearerToken ∧ server.Admits env request received identity ∧
    rq.Carries env (request.command identity) uuid now ∧
    rq.appAssertion = identity.appAssertion
  routed : System.Routed m.before rq
  sent : m.after.dispatcher.dispatched = m.before.dispatcher.dispatched ++ [rq]

/-- **Every request frame was asked for by the Hub.**  In every run of the server each
request frame was sent at a call of a tool that bore the token of the connector and a
delegation that verified.  Its verb, arguments, connector, client, key, app and assertion are
those of the call; the assertion is for the connector and had not expired; and the session it
went to was registered, granted the verb and had its row online. -/
theorem frames_authorised (server : Server) (env : Env)
    {past : List (Machine.Moment System Incoming)} {sys : System}
    (run : (server.machine env).Run past sys) {rq : Request}
    (sent : rq ∈ sys.dispatcher.dispatched) : ∃ m ∈ past, server.Behind env m rq := by
  have origin := run.origin (P := fun s rq => rq ∈ s.dispatcher.dispatched)
    (Q := fun _ m rq => server.Behind env m rq) (fun _ mem => by cases mem) ?_ sent
  · obtain ⟨before, m, after, rfl, behind⟩ := origin
    exact ⟨m, List.mem_append_right _ List.mem_cons_self, behind⟩
  · intro past s t incoming rq _ stepped mem
    obtain ⟨happens, ⟨_, rfl⟩ | ⟨e, asks, stepped⟩⟩ := step_asks stepped
    · exact Or.inl mem
    · rcases System.step_sends stepped with same | ⟨rq', c, input, uuid, now, rfl, appended,
        carries, routed⟩
      · exact Or.inl (same ▸ mem)
      · rw [appended] at mem
        rcases List.mem_append.mp mem with old | isNew
        · exact Or.inl old
        · obtain rfl := List.mem_singleton.mp isNew
          obtain ⟨request, received, identity, rfl, admits, rfl⟩ := asks_command happens asks
          exact Or.inr ⟨⟨c, request, uuid, received, now, identity, rfl,
            verifyToken_token admits.token, admits, carries,
            carries.appAssertion.trans admits.presents.appAssertion⟩, routed, appended⟩

end Server

namespace Sample

def server : Server where
  mcpBearerToken := "d3Vw8LqZ1xYk5RtN7sPf2JhGc9BmA4eT"
  operatorBearerToken := "Qz6Rj2Wb8Xn4Vt1Ky7Mc5Lf9Hs3GdPaE"
  delegation := { delegationConfig with requireSignedAppAssertion := false }
  hmac := hmac

/-- The Hub calls a tool of the sample device, under a delegation without an assertion. -/
def toolRequest : ToolRequest where
  token := some server.mcpBearerToken
  headers := delegationHeaders "agent:terminal"
    "b114de7ae59b5b7b1e6d5ed59d4541aec85f21e5ed34b3f700b14e215ac5c28a" ""
  call := .terminalExecute "uptime" none (some 30) none
  profileId := "pc-1"
  idempotencyKey := "key-1"
  instanceId := none

/-- The server that asks for an assertion. -/
def assertingServer : Server := { server with delegation := delegationConfig }

/-- The Hub calls the tool under a delegation with an assertion. -/
def signedRequest : ToolRequest := { toolRequest with headers := oneScopeHeaders }

/-- The command of that call. -/
def signedInput : CommandInput where
  clientId := "hub-client"
  appId := "app-1"
  appAssertion := some oneScope_parsed.view
  tool := signedRequest.call.tool
  connectorId := signedRequest.profileId
  arguments := signedRequest.call.arguments
  idempotencyKey := signedRequest.idempotencyKey
  instanceId := signedRequest.instanceId

theorem signedRequest_asks :
    assertingServer.asks delegationEnv (.tool 0 signedRequest (uuid 0) 1767225612 (second 12)) =
      some (.command 0 signedInput (uuid 0) (second 12)) := by
  obtain ⟨identity, verified, clientId, appId, _⟩ := oneScope_verified
  have raw : oneScopeHeaders.rawAssertion = envelopeHeader (.obj oneScope) :=
    rawAssertion_delegationHeaders _ _ _
  have presents := signedCommand_presents raw verified clientId appId oneScope_parsed
  have envelope : identity.appAssertion = some oneScope_parsed.view.envelope :=
    presents.appAssertion.symm
  have input : signedRequest.command identity = signedInput := by
    unfold ToolRequest.command signedInput
    rw [clientId, appId, envelope, Option.bind_some, AppAssertion.ofEnvelope?_envelope]
  have token : assertingServer.verifyToken signedRequest.token = true := by decide +kernel
  have delegated : assertingServer.delegation.delegatedIdentity delegationEnv assertingServer.hmac
      signedRequest.headers 1767225612 = .ok identity :=
    congrArg (attempt "delegation_invalid") verified
  unfold Server.asks
  simp only [token, ↓reduceIte, delegated, input]

/-- The operator asks for a route. -/
def ordered (route : Route) (s : Int) : Server.Incoming :=
  .operator (some ("Bearer " ++ server.operatorBearerToken)) route rawToken 0 (second s)

/-- The operator has a token issued, and the sample device enrolls and serves. -/
def orderedServing : List Server.Incoming :=
  ordered (.issueEnrollment (some (.obj [("connector_id", .str "pc-1"),
    ("capability_profile", .str "full_agent"), ("display_label", .str "PC 1")]))) 0 ::
    serving.tail.map .peer

end Sample

/-- The Hub has a command executed on the sample device, under an assertion. -/
theorem Server.frames_authorised_called : ∃ (past : List (Machine.Moment System Server.Incoming))
    (sys : System) (m : Machine.Moment System Server.Incoming) (rq : Request),
    (Sample.assertingServer.machine Sample.delegationEnv).Run past sys ∧ m ∈ past ∧
    Sample.assertingServer.Behind Sample.delegationEnv m rq ∧ rq.appAssertion.isSome = true := by
  have holds : ((Sample.assertingServer.machine Sample.delegationEnv).exec System.init
      Sample.orderedServing).any (fun sys =>
        (sys.step Sample.delegationEnv (.command 0 Sample.signedInput (Sample.uuid 0)
          (Sample.second 12))).any fun sys' =>
            sys'.dispatcher.dispatched.any fun rq => rq.appAssertion.isSome) = true := by
    decide +kernel
  obtain ⟨sys, ended, holds⟩ := (Option.any_eq_true _ _).mp holds
  obtain ⟨sys', stepped, sends⟩ := (Option.any_eq_true _ _).mp holds
  obtain ⟨rq, sent, signed⟩ := List.any_eq_true.mp sends
  have called : (Sample.assertingServer.machine Sample.delegationEnv).step sys
      (.tool 0 Sample.signedRequest (Sample.uuid 0) 1767225612 (Sample.second 12)) =
        some sys' := by
    unfold Server.machine Server.step
    simp only [Server.happens, ↓reduceIte, Sample.signedRequest_asks, stepped]
  have run := (Machine.Run.of_exec (M := Sample.assertingServer.machine Sample.delegationEnv)
    .init ended).step called
  obtain ⟨m, mem, behind⟩ :=
    Server.frames_authorised Sample.assertingServer Sample.delegationEnv run sent
  exact ⟨_, sys', m, rq, run, mem, behind, signed⟩

/-! ## The operator's requests -/

theorem afterPrefix_eq_some {start text rest : String} (found : afterPrefix start text = some rest) :
    text = start ++ rest := by
  unfold afterPrefix at found
  split at found
  · rename_i starts
    obtain ⟨tail, same⟩ := List.isPrefixOf_iff_prefix.mp starts
    cases found
    rw [← same, List.drop_left]
    refine String.toList_inj.mp ?_
    rw [String.toList_append, String.toList_ofList, same]
  · cases found

/-- A route that leads to the revocation of a device. -/
theorem Route.event_revoke {route : Route} {rawToken id : String} {x : CancelId} {now now' : Int}
    (event : route.event env rawToken x now = some (.revoke id now')) :
    route = .revokeDevice id := by
  cases route with
  | revokeDevice connectorId =>
      cases event
      rfl
  | issueEnrollment body =>
      obtain ⟨_, _, same⟩ := Option.map_eq_some_iff.mp event
      cases same
  | renameDevice connectorId body =>
      obtain ⟨_, _, same⟩ := Option.map_eq_some_iff.mp event
      cases same
  | _ => cases event

/-- A route that leads to the deletion of a device. -/
theorem Route.event_delete {route : Route} {rawToken id : String} {x : CancelId} {now : Int}
    (event : route.event env rawToken x now = some (.delete id)) : route = .deleteDevice id := by
  cases route with
  | deleteDevice connectorId =>
      cases event
      rfl
  | issueEnrollment body =>
      obtain ⟨_, _, same⟩ := Option.map_eq_some_iff.mp event
      cases same
  | renameDevice connectorId body =>
      obtain ⟨_, _, same⟩ := Option.map_eq_some_iff.mp event
      cases same
  | _ => cases event

/-- A route that leads to an enrollment token. -/
theorem Route.event_issue {route : Route} {rawToken raw : String} {x : CancelId} {now now' : Int}
    {connectorId profile label : Json} {seconds : Int}
    (event : route.event env rawToken x now =
      some (.issueToken raw connectorId profile label seconds now')) :
    ∃ body, route = .issueEnrollment body ∧
      issueOf env body = some ⟨connectorId, profile, label, seconds⟩ := by
  cases route with
  | issueEnrollment body =>
      obtain ⟨issue, isIssue, same⟩ := Option.map_eq_some_iff.mp event
      cases same
      exact ⟨body, rfl, isIssue⟩
  | renameDevice connectorId body =>
      obtain ⟨_, _, same⟩ := Option.map_eq_some_iff.mp event
      cases same
  | _ => cases event

namespace Server

variable {server : Server}

/-- The token of the operator is the whole of the header behind `Bearer `. -/
theorem operatorAuthorized_token {authorization : Option String}
    (authorized : server.operatorAuthorized authorization = some true) :
    authorization = some ("Bearer " ++ server.operatorBearerToken) := by
  unfold operatorAuthorized at authorized
  split at authorized
  · cases authorized
  · rename_i token found
    have same := afterPrefix_eq_some found
    rw [compareDigest_eq_true authorized] at same
    cases authorization with
    | none =>
        have long : 0 = 7 + server.operatorBearerToken.length :=
          (congrArg String.length same).trans (String.length_append _ _)
        omega
    | some header => exact congrArg some same

/-- At this moment the operator asks for a route, with the token. -/
def Ordered (server : Server) (m : Machine.Moment System Incoming) (route : Route) : Prop :=
  ∃ rawToken x now,
    m.event = .operator (some ("Bearer " ++ server.operatorBearerToken)) route rawToken x now

/-- What neither the relay nor a tool can ask for was asked for by the operator. -/
theorem asks_ordered {m : Machine.Moment System Incoming} {e : Event}
    (happens : happens m.event = true) (asks : server.asks env m.event = some e)
    (noPeer : isPeer e = false) (noCommand : ∀ c input uuid now, e ≠ .command c input uuid now) :
    ∃ route rawToken x now, server.Ordered m route ∧ route.event env rawToken x now = some e := by
  obtain ⟨before, incoming, after⟩ := m
  cases incoming with
  | tool c request uuid received now =>
      unfold Server.asks at asks
      simp only at asks
      split at asks
      · split at asks
        · cases asks
        · cases asks
          exact absurd rfl (noCommand _ _ _ _)
      · cases asks
  | operator authorization route rawToken x now =>
      unfold Server.asks at asks
      simp only at asks
      split at asks
      · rename_i authorized
        obtain rfl := operatorAuthorized_token authorized
        exact ⟨route, rawToken, x, now, ⟨rawToken, x, now, rfl⟩, asks⟩
      · cases asks
  | peer e' =>
      cases asks
      cases noPeer.symm.trans happens

/-! ## Devices -/

/-- What the operator has done for the devices of a run. -/
structure DevicesAuthorised (server : Server) (env : Env)
    (past : List (Machine.Moment System Incoming)) (sys : System) : Prop where
  /-- The connector and the profile of a device are those of a token. -/
  issued : ∀ device ∈ sys.store.devices, ∃ m ∈ past, ∃ body issue name,
    server.Ordered m (.issueEnrollment body) ∧ issueOf env body = some issue ∧
    env.textColumn issue.connectorId = some device.connectorId ∧
    env.textColumn issue.capabilityProfile = some name ∧
    CapabilityProfile.ofName? name = some device.capabilityProfile
  revoked : ∀ device ∈ sys.store.devices, device.enrollmentState = .revoked →
    ∃ m ∈ past, server.Ordered m (.revokeDevice device.connectorId)
  deleted : ∀ m ∈ past, ∀ device, m.before.store.getDevice device.connectorId = some device →
    m.after.store.getDevice device.connectorId = none →
    server.Ordered m (.deleteDevice device.connectorId) ∧ device.enrollmentState = .revoked

/-- A device that is revoked was so before, or is revoked by the operator. -/
theorem step_revoked {sys sys' : System} {incoming : Incoming}
    (stepped : server.step env sys incoming = some sys') {id : String} {r : DeviceRow}
    (found : sys'.store.getDevice id = some r) (revoked : r.enrollmentState = .revoked) :
    (∃ r, sys.store.getDevice id = some r ∧ r.enrollmentState = .revoked) ∨
      server.Ordered ⟨sys, incoming, sys'⟩ (.revokeDevice id) := by
  obtain ⟨happens, ⟨_, rfl⟩ | ⟨e, asks, stepped⟩⟩ := step_asks stepped
  · exact Or.inl ⟨r, found, revoked⟩
  · have changes := System.step_device stepped id
    rw [found] at changes
    generalize isRow : some r = row at changes
    cases changes with
    | same => exact Or.inl ⟨r, isRow.symm, revoked⟩
    | revoked event was =>
        subst event
        obtain ⟨route, rawToken, x, now, ordered, isRoute⟩ := asks_ordered
          (m := ⟨sys, incoming, sys'⟩) happens asks rfl fun _ _ _ _ same => by cases same
        exact Or.inr (Route.event_revoke isRoute ▸ ordered)
    | deleted => cases isRow
    | renamed event valid was enrolled =>
        obtain rfl := Option.some.inj isRow
        cases revoked.symm.trans enrolled
    | enrolled frame absent state =>
        obtain rfl := Option.some.inj isRow
        cases revoked.symm.trans state

/-- **Devices come and go at the request of the operator.**  In every run of the server a
device has the connector and the profile of a token that the operator asked for, it is revoked
only where the operator asked for that, and its row is removed only when it has been revoked
and the operator asks for its deletion. -/
theorem devices_authorised (server : Server) {env : Env}
    (collisionFree : Function.Injective env.sha256) (keys : KeyTexts env)
    {past : List (Machine.Moment System Incoming)} {sys : System}
    (run : (server.machine env).Run past sys) : DevicesAuthorised server env past sys where
  issued := by
    intro device mem
    obtain ⟨before, _, _, _, _, split, _, authentic⟩ :=
      System.device_enrolled collisionFree keys ((server.simulates env).run run) mem
    obtain ⟨m₀, mem₀, connector, granted, label, seconds, issuedAt, name, event, isConnector,
      isGranted, isProfile, _⟩ := authentic.token
    obtain ⟨m, memRun, asks, _⟩ :=
      Machine.mem_shown (split ▸ List.mem_append_left _ mem₀)
    rw [event] at asks
    obtain ⟨happens, _⟩ := step_asks (run.step_of_mem memRun)
    obtain ⟨route, rawToken, x, now, ordered, isRoute⟩ := asks_ordered happens asks rfl
      fun _ _ _ _ same => by cases same
    obtain ⟨body, rfl, isIssue⟩ := Route.event_issue isRoute
    exact ⟨m, memRun, body, _, name, ordered, isIssue, isConnector, isGranted, isProfile⟩
  revoked := by
    intro device mem revoked
    have origin := run.origin (x := device.connectorId)
      (P := fun s id => ∃ r, s.store.getDevice id = some r ∧ r.enrollmentState = .revoked)
      (Q := fun _ m id => server.Ordered m (.revokeDevice id))
      (fun _ none_ => by obtain ⟨_, found, _⟩ := none_; cases found)
      (fun _ stepped found => by
        obtain ⟨r, found, revoked⟩ := found
        exact step_revoked stepped found revoked)
      ⟨device, Table.mem_iff_find?.mp mem, revoked⟩
    obtain ⟨before, m, after, rfl, ordered⟩ := origin
    exact ⟨m, List.mem_append_right _ List.mem_cons_self, ordered⟩
  deleted := by
    intro m mem device was gone
    obtain ⟨happens, ⟨_, same⟩ | ⟨e, asks, stepped⟩⟩ := step_asks (run.step_of_mem mem)
    · rw [same, was] at gone
      cases gone
    · have changes := System.step_device stepped device.connectorId
      rw [gone] at changes
      generalize isRow : none = row at changes
      cases changes with
      | same => cases isRow.trans was
      | deleted event was' revoked =>
          subst event
          obtain ⟨route, rawToken, x, now, ordered, isRoute⟩ := asks_ordered happens asks rfl
            fun _ _ _ _ same => by cases same
          cases was.symm.trans was'
          exact ⟨Route.event_delete isRoute ▸ ordered, revoked⟩
      | revoked | renamed | enrolled => cases isRow

/-- The operator revokes the sample device. -/
theorem devices_authorised_revoked : ∃ (env : Env)
    (past : List (Machine.Moment System Incoming)) (sys : System) (device : DeviceRow),
    (Sample.server.machine env).Run past sys ∧ device ∈ sys.store.devices ∧
    device.enrollmentState = .revoked ∧ DevicesAuthorised Sample.server env past sys := by
  let env : Env := { Sample.env with
    ed25519 := fun key _ _ => decide (key = Sample.publicKey)
    floats := { Sample.env.floats with repr := fun f => String.ofList (f.text.take 24) } }
  have keys : KeyTexts env := by
    constructor
    · intro key payload signature verified
      rw [of_decide_eq_true verified]
      decide
    · intro f
      show (String.ofList (f.text.take 24)).length ≤ 24
      rw [String.length_ofList]
      exact List.length_take_le 24 f.text
  have holds : ((Sample.server.machine env).exec System.init
      (Sample.orderedServing ++ [Sample.ordered (.revokeDevice "pc-1") 20])).any (fun sys =>
        sys.store.devices.rows.any fun r => decide (r.enrollmentState = .revoked)) = true := by
    decide +kernel
  obtain ⟨sys, ended, revoked⟩ := (Option.any_eq_true _ _).mp holds
  obtain ⟨device, mem, revoked⟩ := List.any_eq_true.mp revoked
  have run := Machine.Run.of_exec (M := Sample.server.machine env) .init ended
  exact ⟨env, _, sys, device, run, mem, of_decide_eq_true revoked,
    devices_authorised Sample.server Sample.sha256_injective keys run⟩

end Server

end RemoteAgent
