import RemoteAgent.Forwarding
import RemoteAgent.Lib.Shown

/-!
# The HTTP server (`server.py`)

The tools that the Hub calls and the routes of the operator, in front of the connector.

* `ToolCall`: the tools with their arguments, as the framework has validated them, and the
  verb and the arguments that go to the device.
* `Route`: the operator's routes, what each asks of the service and what it answers.
* `Server.machine`: requests, and the events of the relay and of the tasks.  A request comes
  into effect only with its bearer token, a tool call only with a delegation that verifies.
* `Server.simulates`: behind every run of the server is a run of the connector.
-/

open Wire Storage Transition

namespace RemoteAgent

open Dispatcher (field)

/-! ## Tokens -/

/-- `hmac.compare_digest` of two texts; `none` is the `TypeError` for a character outside
ASCII. -/
def compareDigest (a b : String) : Option Bool :=
  if a.toList.all (fun c => decide (c.toNat < 128)) && b.toList.all fun c => decide (c.toNat < 128)
  then some (decide (a = b)) else none

theorem compareDigest_eq_true {a b : String} (same : compareDigest a b = some true) : a = b := by
  unfold compareDigest at same
  split at same
  · exact of_decide_eq_true (Option.some.inj same)
  · cases same

/-- What follows a prefix of a text. -/
def afterPrefix (start text : String) : Option String :=
  if start.toList.isPrefixOf text.toList then
    some (String.ofList (text.toList.drop start.toList.length))
  else none

/-! ## Tools -/

/-- The tools of the server, with their arguments. -/
inductive ToolCall where
  | connectorHealth
  | filesList (root path : String) (pattern : Option String)
  | filesStat (root path : String)
  | filesSearch (root path query : String) (limit : Int)
  | filesRead (root path : String) (offset : Int) (length : Option Int) (encoding : String)
  | filesWrite (root path content encoding : String)
  | filesDelete (root path : String)
  | filesMove (root path destination : String)
  | filesMkdir (root path : String)
  | filesUpload (root path contentBase64 : String)
  | filesDownload (root path : String)
  | terminalExecute (command : String) (root : Option String) (timeoutS : Option Int)
      (cwd : Option String)
  | sshExecute (host command : String) (root : Option String) (timeoutS : Option Int)
  | sshListProfiles
  | skillsList
  | skillsMaterialize (skillId targetRoot : String)
  | skillsExecute (skillId : String) (arguments : Option (List (String × Json)))
  | mcpListServers
  | mcpCall (serverId toolName : String) (arguments : Option (List (String × Json)))
  | mcpHealth (serverId : Option String)
  | skillsHealth

namespace ToolCall

/-- The relay verb of a tool. -/
def tool : ToolCall → String
  | connectorHealth => "connector.health"
  | filesList .. => "files.list"
  | filesStat .. => "files.stat"
  | filesSearch .. => "files.search"
  | filesRead .. => "files.read"
  | filesWrite .. => "files.write"
  | filesDelete .. => "files.delete"
  | filesMove .. => "files.move"
  | filesMkdir .. => "files.mkdir"
  | filesUpload .. => "files.upload"
  | filesDownload .. => "files.download"
  | terminalExecute .. => "terminal.execute"
  | sshExecute .. => "ssh.execute"
  | sshListProfiles => "ssh.list_profiles"
  | skillsList => "skills.list"
  | skillsMaterialize .. => "skills.materialize"
  | skillsExecute .. => "skills.execute"
  | mcpListServers => "mcp.list_servers"
  | mcpCall .. => "mcp.call"
  | mcpHealth .. => "mcp.health"
  | skillsHealth => "skills.health"

/-- An argument that may be absent. -/
def textOrNull : Option String → Json
  | none => .null
  | some s => .str s

/-- The members `root` and `path`. -/
def location (root path : String) : List (String × Json) :=
  [("root", .str root), ("path", .str path)]

/-- The member `timeout_s`, which is forwarded only if it is given. -/
def timeout : Option Int → List (String × Json)
  | none => []
  | some seconds => [("timeout_s", .int seconds)]

/-- `arguments or {}`. -/
def nested (arguments : Option (List (String × Json))) : Json := .obj (arguments.getD [])

/-- The arguments that go to the device. -/
def arguments : ToolCall → Json
  | filesList root path pattern =>
      .obj (location root path ++ [("pattern", textOrNull pattern)])
  | filesStat root path => .obj (location root path)
  | filesSearch root path query limit =>
      .obj (location root path ++ [("query", .str query), ("limit", .int limit)])
  | filesRead root path offset length encoding =>
      .obj (location root path ++ [("offset", .int offset),
        ("length", (length.map Json.int).getD .null), ("encoding", .str encoding)])
  | filesWrite root path content encoding =>
      .obj (location root path ++ [("content", .str content), ("encoding", .str encoding)])
  | filesDelete root path => .obj (location root path)
  | filesMove root path destination =>
      .obj (location root path ++ [("destination", .str destination)])
  | filesMkdir root path => .obj (location root path)
  | filesUpload root path contentBase64 =>
      .obj (location root path ++ [("content_base64", .str contentBase64)])
  | filesDownload root path => .obj (location root path)
  | terminalExecute command root timeoutS cwd =>
      .obj ([("command", .str command), ("cwd", textOrNull cwd)] ++ timeout timeoutS ++
        (root.map fun root => ("root", .str root)).toList)
  | sshExecute host command root timeoutS =>
      .obj ([("root", textOrNull root), ("host", .str host), ("command", .str command)] ++
        timeout timeoutS)
  | skillsMaterialize skillId targetRoot =>
      .obj [("skill_id", .str skillId), ("target_root", .str targetRoot)]
  | skillsExecute skillId arguments =>
      .obj [("skill_id", .str skillId), ("arguments", nested arguments)]
  | mcpCall serverId toolName arguments =>
      .obj [("server_id", .str serverId), ("tool_name", .str toolName),
        ("arguments", nested arguments)]
  | mcpHealth serverId => .obj [("server_id", textOrNull serverId)]
  | connectorHealth | sshListProfiles | skillsList | mcpListServers | skillsHealth => .obj []

/-- Every tool asks for a capability of the full profile. -/
theorem capability_granted (call : ToolCall) :
    capabilityOf call.tool ∈ capabilitiesForProfile .fullAgent := by
  have listed : capabilityOf call.tool ∈ fullAgentCapabilities := by
    cases call <;> simp only [tool] <;> decide +kernel
  simpa only [capabilitiesForProfile, List.mem_insertionSort] using listed

end ToolCall

/-- A call of a tool, as it arrives. -/
structure ToolRequest where
  /-- The bearer token that the framework has found in the request. -/
  token : Option String
  headers : Headers
  call : ToolCall
  profileId : String
  idempotencyKey : String
  instanceId : Option String

/-! ## Routes of the operator -/

/-- The routes under which the operator is served; a body is `none` if it is not JSON. -/
inductive Route where
  | relayErrorContract
  | relayCaPublication
  | issueRelayCertificate (body : Option Json)
  | issueEnrollment (body : Option Json)
  | revokeDevice (connectorId : String)
  | renameDevice (connectorId : String) (body : Option Json)
  | deleteDevice (connectorId : String)
  | listDevices
  | listAgents
  | cancelRequest (connectorId requestId : String)
  | operatorAudit (limit : Option String)

/-- `int(value)`; `none` is any exception. -/
def intOf (env : Env) : Json → Option Int
  | .bool b => some (if b then 1 else 0)
  | .int i => some i
  | .float f => env.floats.trunc f
  | .str s => env.intOfText s
  | _ => none

/-- The arguments that `issue_enrollment` takes from its body. -/
structure Issue where
  connectorId : Json
  capabilityProfile : Json
  displayLabel : Json
  expiresInSeconds : Int

/-- The body of `issue_enrollment`; `none` is any exception. -/
def issueOf (env : Env) (body : Option Json) : Option Issue := do
  let body ← body
  let connectorId ← body.get? "connector_id"
  let capabilityProfile ← body.get? "capability_profile"
  let displayLabel ← body.get? "display_label"
  let expiresInSeconds ← intOf env ((body.get? "expires_in_seconds").getD (.int 600))
  return ⟨connectorId, capabilityProfile, displayLabel, expiresInSeconds⟩

/-- What a route asks of the service: with the token that is drawn, the task that cancels and
the clock. -/
def Route.event (env : Env) (rawToken : String) (x : CancelId) (now : Int) : Route → Option Event
  | .issueEnrollment body => (issueOf env body).map fun issue =>
      .issueToken rawToken issue.connectorId issue.capabilityProfile issue.displayLabel
        issue.expiresInSeconds now
  | .revokeDevice connectorId => some (.revoke connectorId now)
  | .renameDevice connectorId body =>
      (body.bind (Json.get? · "display_label")).map (.rename connectorId)
  | .deleteDevice connectorId => some (.delete connectorId)
  | .listDevices => some (.operatorDevices now)
  | .listAgents => some (.onlineAgents now)
  | .cancelRequest connectorId requestId => some (.cancel x connectorId requestId now)
  | .relayErrorContract | .relayCaPublication | .issueRelayCertificate _ | .operatorAudit _ => none

/-! ## Answers to the operator -/

/-- An answer of a route: its status, and the `code` of its body if there is one. -/
structure Answer where
  status : Nat
  code : Option String

/-- The body of an error is its code. -/
def Answer.error (status : Nat) (x : AgentCode) : Answer := ⟨status, some x.code⟩

/-- An exception that no route catches. -/
def Answer.raised : Answer := ⟨500, none⟩

def Answer.ok : Answer := ⟨200, none⟩

/-- What a route answers at once; `none` for a cancel, which is answered at its end, and for
the two routes of the certificate authority. -/
def Route.answer (env : Env) (store : Store) (rawToken : String) (now : Int) :
    Route → Option Answer
  | .issueEnrollment body =>
      match issueOf env body with
      | none => some (.error 400 .invalidEnrollmentRequest)
      | some issue =>
          match store.issueToken env rawToken issue.connectorId issue.capabilityProfile
              issue.displayLabel issue.expiresInSeconds now with
          | .error _ => some (.error 400 .invalidEnrollmentRequest)
          | .ok _ => some ⟨201, none⟩
  | .revokeDevice connectorId =>
      match store.revokeDevice connectorId now with
      | none => some (.error 404 .deviceNotFound)
      | some _ => some .ok
  | .renameDevice connectorId body =>
      match body.bind (Json.get? · "display_label") with
      | none => some .raised
      | some label =>
          match store.rename env connectorId label with
          | .error (.agent x) => some (.error (if x = .deviceNotFound then 404 else 400) x)
          | .error _ => some .raised
          | .ok _ => some .ok
  | .deleteDevice connectorId =>
      match store.deleteRevokedDevice connectorId with
      | .error x => some (.error (if x = .deviceNotFound then 404
          else if x = .deviceNotRevoked then 409 else 400) x)
      | .ok _ => some .ok
  | .operatorAudit limit =>
      match limit with
      | none => some .ok
      | some limit =>
          match env.intOfText limit with
          | none => some ⟨400, some "invalid_limit"⟩
          | some _ => some .ok
  | .relayErrorContract | .listDevices | .listAgents => some .ok
  | .relayCaPublication | .issueRelayCertificate _ | .cancelRequest .. => none

/-- What a cancel is answered once it has ended. -/
def Cancel.answer : Cancel → Option Answer
  | .refused (.agent x) => some (.error
      (if x = .deviceOffline ∨ x = .requestNotInFlight then 404 else 400) x)
  | .refused .protocol => some ⟨400, some "invalid_cancel_request"⟩
  | .refused .escape | .failed => some .raised
  | .sending .. => none
  | .cancelled .. => some ⟨200, some "ok"⟩

/-- An event that only writes to the tables, when it writes what was there. -/
theorem System.step_writes {env : Env} {sys sys' : System} {e : Event} {store : Store}
    (planned : sys.plan env e = some (sys.writes store)) (stepped : sys.step env e = some sys')
    (same : store = sys.store) : sys' = sys := by
  unfold System.step at stepped
  rw [planned] at stepped
  subst same
  exact (Option.some.inj stepped).symm

theorem System.orSame_error {ε : Type} {sys : System} {result : Except ε Store} {x : ε}
    (failed : result = .error x) : sys.orSame result = sys.store := by
  rw [failed]
  rfl

/-- **A request that fails leaves everything as it was.** -/
theorem Route.failed_unchanged {env : Env} {sys sys' : System} {rawToken : String} {x : CancelId}
    {now : Int} {route : Route} {answer : Answer} {e : Event}
    (answered : route.answer env sys.store rawToken now = some answer)
    (failed : 400 ≤ answer.status) (asks : route.event env rawToken x now = some e)
    (stepped : sys.step env e = some sys') : sys' = sys := by
  -- what succeeds answers with a status below 400
  have succeeded : ∀ {status : Nat} {code : Option String}, status < 400 →
      some (Answer.mk status code) = some answer → False := by
    rintro status code low ⟨⟩
    exact Nat.not_le.mpr low failed
  unfold Route.answer at answered
  cases route with
  | issueEnrollment body =>
      obtain ⟨issue, isIssue, rfl⟩ := Option.map_eq_some_iff.mp asks
      simp only [isIssue] at answered
      refine System.step_writes rfl stepped ?_
      split at answered
      · rename_i failed'
        exact System.orSame_error failed'
      · exact (succeeded (by decide) answered).elim
  | revokeDevice connectorId =>
      obtain rfl := Option.some.inj asks
      simp only at answered
      refine System.step_writes rfl stepped ?_
      split at answered
      · rename_i failed'
        rw [failed']
        rfl
      · exact (succeeded (by decide) answered).elim
  | renameDevice connectorId body =>
      obtain ⟨label, isLabel, rfl⟩ := Option.map_eq_some_iff.mp asks
      simp only [isLabel] at answered
      refine System.step_writes rfl stepped ?_
      split at answered
      · rename_i failed'
        exact System.orSame_error failed'
      · rename_i failed'
        exact System.orSame_error failed'
      · exact (succeeded (by decide) answered).elim
  | deleteDevice connectorId =>
      obtain rfl := Option.some.inj asks
      simp only at answered
      refine System.step_writes rfl stepped ?_
      split at answered
      · rename_i failed'
        exact System.orSame_error failed'
      · exact (succeeded (by decide) answered).elim
  | listDevices | listAgents => exact (succeeded (by decide) answered).elim
  | cancelRequest => cases answered
  | relayErrorContract | relayCaPublication | issueRelayCertificate | operatorAudit => cases asks

/-! ## Requests -/

/-- What `create_app` is given. -/
structure Server where
  mcpBearerToken : String
  operatorBearerToken : String
  delegation : DelegationConfig
  /-- The hexadecimal HMAC-SHA256: secret, payload. -/
  hmac : String → String → String

namespace Server

/-- What a server has to deal with. -/
inductive Incoming where
  /-- A call of a tool: `received` is the clock by which its delegation is checked. -/
  | tool (c : CallId) (request : ToolRequest) (uuid : String) (received now : Int)
  | operator (authorization : Option String) (route : Route) (rawToken : String) (x : CancelId)
      (now : Int)
  /-- The relay and the tasks that run. -/
  | peer (e : Event)

/-- The events that no request is needed for. -/
def isPeer : Event → Bool
  | .rejectUpgrade .. | .connect .. | .receive .. | .handshakeTimeout .. | .rechallenge .. | .ready ..
  | .readyFailed .. | .finish .. | .disconnect .. | .delivered .. | .sendFailed .. | .expire ..
  | .cancelTask .. | .resume .. | .cancelSent .. | .cancelFailed .. => true
  | _ => false

/-- `verify_token`: without a verified token the framework answers 401. -/
def verifyToken (server : Server) (token : Option String) : Bool :=
  token.any fun token => compareDigest token server.mcpBearerToken == some true

/-- `operator_authorized`; `none` is an exception. -/
def operatorAuthorized (server : Server) (authorization : Option String) : Option Bool :=
  match afterPrefix "Bearer " (authorization.getD "") with
  | none => some false
  | some token => compareDigest token server.operatorBearerToken

end Server

/-- The envelope of an assertion, with the members that `device_command` reads. -/
def AppAssertion.ofEnvelope? (envelope : Json) : Option AppAssertion :=
  match connector : envelope.get? "connector_id", expires : envelope.get? "expires_at",
      request : envelope.get? "request_id" with
  | some connectorId, some (.int expiresAt), some requestId =>
      some ⟨envelope, connectorId, expiresAt, requestId, connector, expires, request⟩
  | _, _, _ => none

/-- `call_agent`: the arguments of `device_command`. -/
def ToolRequest.command (request : ToolRequest) (identity : DelegatedIdentity) : CommandInput where
  clientId := identity.clientId
  appId := identity.appId
  appAssertion := identity.appAssertion.bind AppAssertion.ofEnvelope?
  tool := request.call.tool
  connectorId := request.profileId
  arguments := request.call.arguments
  idempotencyKey := request.idempotencyKey
  instanceId := request.instanceId

namespace Server

variable (server : Server) (env : Env)

/-- A call of a tool, with the identity that it proves. -/
structure Admits (request : ToolRequest) (received : Int) (identity : DelegatedIdentity) : Prop where
  token : server.verifyToken request.token = true
  identity : server.delegation.delegatedIdentity env server.hmac request.headers received =
    .ok identity

/-- What an incoming request asks of the connector, if it is let through. -/
def asks : Incoming → Option Event
  | .tool c request uuid received now =>
      if server.verifyToken request.token then
        match server.delegation.delegatedIdentity env server.hmac request.headers received with
        | .error _ => none
        | .ok identity => some (.command c (request.command identity) uuid now)
      else none
  | .operator authorization route rawToken x now =>
      if server.operatorAuthorized authorization = some true then
        route.event env rawToken x now
      else none
  | .peer e => some e

/-- Whether something can be dealt with at all: without a request, only what is no
request. -/
def happens : Incoming → Bool
  | .peer e => isPeer e
  | .tool .. | .operator .. => true

/-- A request that asks nothing changes nothing. -/
def step (sys : System) (incoming : Incoming) : Option System :=
  if happens incoming then
    match server.asks env incoming with
    | none => some sys
    | some e => sys.step env e
  else none

/-- The server as a machine. -/
def machine : Machine System Incoming := ⟨System.init, server.step env⟩

/-- **Behind every run of the server is a run of the connector.** -/
theorem simulates : Machine.Simulates (server.machine env) (system env) id
    (fun _ => server.asks env) where
  init := rfl
  step := by
    intro sys sys' incoming stepped
    have stepped : server.step env sys incoming = some sys' := stepped
    unfold step at stepped
    split at stepped
    · cases asked : server.asks env incoming with
      | none =>
          rw [asked] at stepped
          exact (Option.some.inj stepped).symm
      | some e =>
          rw [asked] at stepped
          exact stepped
    · cases stepped

end Server

end RemoteAgent
