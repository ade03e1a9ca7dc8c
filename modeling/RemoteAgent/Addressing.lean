import RemoteAgent.Assertion
import RemoteAgent.Selection

/-!
# Addressing a call by its request id

A call waits under the request id as its assertion spells it; `cancel_request` looks it up
under the normal form of the id that it is given.  `inflight_addressable_iff`: given the id of
the request frame, a cancel finds the call and names it exactly when the id is in normal form.

* `OwnsEntry.effect`: a call on a registered session owns its entry, where no call is
  dispatched under the id of another one.
* `upperCase_not_addressable`: an id in upper case cannot be cancelled.
-/

open Wire Storage Transition

namespace RemoteAgent

namespace Dispatcher

variable {env : Env} {d d' : Dispatcher} {a : Act}

/-- A call that is dispatched takes no other's entry in the `pending` map of its session. -/
def FreeEntry (env : Env) (d : Dispatcher) (a : Act) : Prop :=
  ∀ c rq, d.incoming env a = some (c, rq) → d.ClaimsNew env rq →
    acquireCollisionGuard d.inFlight (rq.collisionKey env) rq.requestId ≠ none →
    (d.pending rq.conn).get? rq.requestId = none

/-- A call on a session that is registered owns its entry. -/
def OwnsEntry (d : Dispatcher) : Prop :=
  ∀ c l, d.IsLive c l → d.registry.get? l.request.key.connectorId = some l.request.conn →
    (d.pending l.request.conn).get? l.request.requestId = some c

theorem OwnsEntry.effect (owns : OwnsEntry d) (wired : Wired d) (free : FreeEntry env d a)
    (effect : Effect env d d' a) : OwnsEntry d' := by
  intro c l' live registered
  -- A live call whose record is kept, and whose entry is kept if it is its own.
  have kept : ∀ l, d.IsLive c l → l'.request = l.request →
      (d.registry.get? l.request.key.connectorId = some l.request.conn →
        (d.pending l.request.conn).get? l.request.requestId = some c →
        (d'.pending l.request.conn).get? l.request.requestId = some c) →
      (d'.pending l'.request.conn).get? l'.request.requestId = some c := by
    intro l before same entry
    rw [same] at registered ⊢
    by_cases was : d.registry.get? l.request.key.connectorId = some l.request.conn
    · exact entry was (owns c l before was)
    · exact absurd registered (effect.unregistered_mono (wired.homed c _ before.told) was)
  cases effect with
  | idle requests inFlight pending dispatched calls links =>
      rcases calls c with same | ⟨_, e, refused, _⟩
      · exact kept l' (same.symm.trans live) rfl fun _ mine => by rwa [pending]
      · rw [IsLive, refused] at live
        cases live
  | tuned c₀ l₀ l₁ was tunes requests inFlight pending dispatched calls links =>
      rw [IsLive, calls, Dict.get?_insert] at live
      split at live
      · rename_i same
        subst same
        cases live
        exact kept l₀ was tunes.request fun _ mine => by rwa [pending]
      · exact kept l' live rfl fun _ mine => by rwa [pending]
  | lost k requests inFlight pending dispatched calls loses =>
      rw [IsLive, calls] at live
      obtain ⟨l, before, same, _⟩ := isLive_failPending live
      by_cases here : l.request.conn = k
      · -- The call's own session is lost.
        have home := wired.homed c _ before.told
        rw [same, here] at registered
        exact absurd registered (loses.gone wired (here ▸ home))
      · refine kept l before same fun _ mine => ?_
        rwa [pending, pending_failPending, if_neg here]
  | answered c₀ rq₀ came fresh notNew eq =>
      subst eq
      have live : (d.calls.insert c₀ _).get? c = some (.live l') := live
      rw [Dict.get?_insert] at live
      split at live
      · cases live
      · exact kept l' live rfl fun _ mine => mine
  | blocked c₀ rq₀ came fresh new taken eq =>
      subst eq
      have live : (d.calls.insert c₀ _).get? c = some (.live l') := live
      rw [Dict.get?_insert] at live
      split at live
      · cases live
      · exact kept l' live rfl fun _ mine => mine
  | dispatch c₀ rq₀ inFlight came fresh new acquired eq =>
      subst eq
      have unused := free c₀ rq₀ came new (by rw [acquired]; exact Option.some_ne_none _)
      rcases isLive_dispatch live with ⟨rfl, rfl⟩ | ⟨_, before⟩
      · rw [pending_dispatch, if_pos rfl, Dict.get?_insert_self]
      · -- The new entry was free, so it is not that of this call.
        refine kept l' before rfl fun _ mine => ?_
        rw [pending_dispatch]
        split
        · rename_i here
          rw [Dict.get?_insert]
          split
          · rename_i sameId
            rw [here, sameId, unused] at mine
            cases mine
          · exact mine
        · exact mine
  | settled c₀ l₀ out was interrupted raised returned requests inFlight pending dispatched calls
      links =>
      rw [IsLive, calls, Dict.get?_insert] at live
      split at live
      · cases live
      · rename_i other
        refine kept l' live rfl fun registered mine => ?_
        rw [pending]
        simp only
        split
        · rename_i here
          rw [Dict.get?_erase]
          split
          · -- Two calls on one registered session do not share an entry.
            rename_i sameId
            have home := wired.homed c _ (IsLive.told live)
            have home₀ := wired.homed c₀ _ was.told
            rw [here, home₀, Option.some.injEq] at home
            rw [here, ← home] at registered
            have mine₀ := owns c₀ l₀ was registered
            rw [here, sameId, mine₀] at mine
            exact absurd (Option.some.inj mine).symm other
          · exact mine
        · exact mine

theorem ownsEntry_of_reach (reached : (dispatcher env).Reach (FreeEntry env) d) : OwnsEntry d :=
  reached.invariant (fun _ _ live => nomatch live) fun before owns free step =>
    owns.effect (wired_of_reach before) free (step_effect step)

/-- A cancel that is taken to the dispatcher, once the registry has found its session: it
finds a call under the id it looks up, and names that id. -/
theorem cancelRequest_sends {x : CancelId} {connectorId id : String} {row : Routing}
    {k : ConnId} {session : AgentRelaySession} {c : CallId}
    (found : d.getExact connectorId row.instanceId = some (k, session))
    (waiting : (d.pending k).get? id = some c) :
    d.cancelRequest x connectorId id (some row) = { d with
      cancels := d.cancels.insert x (.sending c connectorId id)
      sent := d.sent ++ [(k, .cancel connectorId id)] } := by
  simp only [cancelRequest, found, waiting]

/-- A cancel is only ever sent for the id that was looked up. -/
theorem cancelRequest_names {x : CancelId} {connectorId connectorId' id id' : String}
    {row : Option Routing} {c : CallId}
    (sends : (d.cancelRequest x connectorId id row).cancels.get? x =
      some (.sending c connectorId' id')) : id' = id := by
  unfold cancelRequest at sends
  split at sends
  · rw [Dict.get?_insert_self] at sends
    cases sends
  · split at sends
    · rw [Dict.get?_insert_self] at sends
      cases sends
    · split at sends
      · rw [Dict.get?_insert_self] at sends
        cases sends
      · rw [Dict.get?_insert_self] at sends
        cases sends
        rfl

end Dispatcher

open Dispatcher (FreeEntry)

/-- A cancel with the id of call `c` finds the call and sends a frame that names the id. -/
def Addressed (env : Env) (sys : System) (x : CancelId) (name : String) (c : CallId) (rq : Request)
    (now : Int) : Prop :=
  ∃ sys', sys.step env (.cancel x name rq.requestId now) = some sys' ∧
    sys'.dispatcher.cancels.get? x = some (.sending c rq.key.connectorId rq.requestId) ∧
    sys'.dispatcher.sent =
      sys.dispatcher.sent ++ [(rq.conn, .cancel rq.key.connectorId rq.requestId)]

/-- **Cancels by request id.**  In a run in which no call is dispatched under the id of another
one on its session, a call on the session that a cancel finds for its connector can be
cancelled under the id of its request frame, exactly when the id is in normal form. -/
theorem inflight_addressable_iff (env : Env) {sys : System}
    (reached : (system env).Reach (onActs env (FreeEntry env)) sys) {c : CallId} {l : Live}
    (live : sys.dispatcher.IsLive c l) {name : String} {now : Int} {store : Store}
    {row : InstanceRow} {session : AgentRelaySession}
    (parsed : parseConnectorId env (.str name) = .ok l.request.key.connectorId)
    (looked : sys.store.relaySession env l.request.key.connectorId none now = .ok (store, some row))
    (found : sys.dispatcher.getExact l.request.key.connectorId row.instanceId =
      some (l.request.conn, session))
    {x : CancelId} (unused : sys.dispatcher.cancels.get? x = none) :
    Addressed env sys x name c l.request now ↔
      parseUuid env (.str l.request.requestId) = .ok l.request.requestId := by
  have registered : sys.dispatcher.registry.get? l.request.key.connectorId = some l.request.conn := by
    unfold Dispatcher.getExact at found
    split at found
    · cases found
    · rename_i k isRegistered
      split at found
      · cases found
      · split at found
        · cases found
          exact isRegistered
        · cases found
  have mine := Dispatcher.ownsEntry_of_reach (dispatcher_reach reached) c l live registered
  constructor
  · rintro ⟨sys', stepped, sends, _⟩
    obtain ⟨plan, planned, _, _, next⟩ := System.step_plan stepped
    have is : sys.cancels env x name l.request.requestId now = plan := Option.some.inj planned
    cases parsedId : parseUuid env (.str l.request.requestId) with
    | error e =>
        have refused : sys.cancels env x name l.request.requestId now =
            ⟨sys.store, sys.phases, some (.refuseCancel x e)⟩ := by
          unfold System.cancels
          rw [parsed]
          dsimp only
          rw [parsedId]
        obtain rfl := is.symm.trans refused
        simp only [Dispatcher.step, unused] at next
        rw [← Option.some.inj next, Dict.get?_insert_self] at sends
        cases sends
    | ok id =>
        obtain rfl := is.symm.trans (System.cancels_looked parsed parsedId looked)
        simp only [Dispatcher.step, unused] at next
        rw [← Option.some.inj next] at sends
        rw [Dispatcher.cancelRequest_names sends]
  · intro normal
    have planned := System.cancels_looked (x := x) parsed normal looked
    refine ⟨⟨store, sys.phases, sys.dispatcher.cancelRequest x l.request.key.connectorId
      l.request.requestId (some (System.routing row))⟩, ?_, ?_, ?_⟩
    · have step : sys.plan env (.cancel x name l.request.requestId now) = some _ :=
        congrArg some planned
      unfold System.step
      rw [step]
      simp only [Dispatcher.step, unused, Option.map_some]
    · rw [Dispatcher.cancelRequest_sends found mine]
      exact Dict.get?_insert_self _ _ _
    · rw [Dispatcher.cancelRequest_sends found mine]

/-! ## Runs -/

/-- A check that implies the condition. -/
def freeEntry (env : Env) (d : Dispatcher) (a : Act) : Bool :=
  match d.incoming env a with
  | none => true
  | some (_, rq) => ((d.pending rq.conn).get? rq.requestId).isNone

theorem freeEntry_sound {env : Env} {d : Dispatcher} {a : Act} (checked : freeEntry env d a = true) :
    FreeEntry env d a := by
  intro c rq came _ _
  simp only [freeEntry, came] at checked
  exact Option.isNone_iff_eq_none.mp checked

def isAddressed (sys : System) : Bool :=
  match sys.dispatcher.calls.get? 0,
      sys.store.relaySession Sample.env "pc-1" none (Sample.second 12) with
  | some (.live l), .ok (_, some row) =>
      decide (l.request.key.connectorId = "pc-1" ∧ l.request.requestId = Sample.uuid 0 ∧
        (sys.dispatcher.cancels.get? 0).isNone = true) &&
      match sys.dispatcher.getExact "pc-1" row.instanceId with
      | some (k, _) => decide (k = l.request.conn)
      | none => false
  | _, _ => false

/-- A command without an assertion bears a fresh uuid, and can be cancelled. -/
theorem inflight_addressable_iff_uuid : ∃ (sys : System) (rq : Request),
    (system Sample.env).Reach Machine.anyStep sys ∧ sys.dispatcher.Running 0 rq ∧
    Addressed Sample.env sys 0 "pc-1" 0 rq (Sample.second 12) := by
  have reached : (system Sample.env).Reach (onActs Sample.env (FreeEntry Sample.env)) System.init :=
    .init
  have holds : ((system Sample.env).execIf
      (fun sys e => (sys.act Sample.env e).all (freeEntry Sample.env sys.dispatcher)) System.init
      (Sample.serving ++ Sample.sent 0 "k-1" false 10)).any
      isAddressed = true := by
    decide +kernel
  obtain ⟨sys, ended, checked⟩ := (Option.any_eq_true _ _).mp holds
  have reached : (system Sample.env).Reach (onActs Sample.env (FreeEntry Sample.env)) sys :=
    reached.of_execIf (fun sys e checked a act => freeEntry_sound (by rwa [act] at checked)) ended
  unfold isAddressed at checked
  split at checked
  · rename_i l store row live looked
    obtain ⟨facts, conn⟩ := Bool.and_eq_true_iff.mp checked
    obtain ⟨connector, isUuid, unused⟩ := of_decide_eq_true facts
    split at conn
    · rename_i k session found
      obtain rfl := of_decide_eq_true conn
      have named : parseConnectorId Sample.env (.str "pc-1") = .ok "pc-1" := by decide +kernel
      have normal : parseUuid Sample.env (.str (Sample.uuid 0)) = .ok (Sample.uuid 0) := by
        decide +kernel
      rw [← isUuid] at normal
      have live : sys.dispatcher.IsLive 0 l := live
      have unused := Option.isNone_iff_eq_none.mp unused
      have named : parseConnectorId Sample.env (.str "pc-1") = .ok l.request.key.connectorId := by
        rw [connector]
        exact named
      rw [← connector] at looked found
      have addressable := inflight_addressable_iff Sample.env reached live named looked found unused
      exact ⟨sys, l.request, reached.forget, ⟨l, live, rfl⟩, addressable.mpr normal⟩
    · cases conn
  · cases checked

namespace Sample

/-- The request id of the assertion, in upper case. -/
def upperCaseId : String := "1F4B9C2E-6A7D-4E5F-8B3C-0D9E8F7A6B5C"

/-- The assertion, but for the spelling of its request id. -/
def upperCaseEnvelope : Json :=
  .obj [("schema_version", .str "business-mcp-remote-agent-app-assertion-v2"),
    ("issuer", .str "business-mcp-hub"), ("audience", .str "remote-agent-device"),
    ("key_id", .str "hub-key-1"), ("client_id", .str "hub-client"), ("app_id", .str "app-1"),
    ("connector_id", .str "pc-1"), ("scopes", .arr [.str "agent:terminal"]),
    ("issued_at", .int 1767225600), ("expires_at", .int 1767225900),
    ("nonce", .str "Zb7Qk2Xc9Vn4Lm1Pa6Rt"), ("request_id", .str upperCaseId),
    ("assertion_id", .str "c7d1e8f2-3b4a-4c6d-9e5f-a1b2c3d4e5f6"),
    ("signature", .str enrollSignature)]

def upperCaseAssertion : AppAssertion where
  envelope := upperCaseEnvelope
  connectorId := .str "pc-1"
  expiresAt := 1767225900
  requestId := .str upperCaseId
  connectorId_eq := by rfl
  expiresAt_eq := by rfl
  requestId_eq := by rfl

def upperCaseCommand : CommandInput :=
  { command "k-1" true with appAssertion := some upperCaseAssertion }

end Sample

def missesUpperCase (sys : System) : Bool :=
  match sys.dispatcher.calls.get? 0 with
  | some (.live l) =>
      decide (l.request.requestId = Sample.upperCaseId ∧
        (sys.dispatcher.pending l.request.conn).get? Sample.upperCaseId = some 0) &&
      (sys.step Sample.env (.cancel 0 "pc-1" Sample.upperCaseId (Sample.second 12))).any
        fun sys' : System => match sys'.dispatcher.cancels.get? 0 with
          | some (.refused (.agent .requestNotInFlight)) => true
          | _ => false
  | _ => false

/-- **A request id in upper case cannot be cancelled**: the parser accepts the assertion, the
call waits under its spelling, and the cancel looks up another one. -/
theorem upperCase_not_addressable : ∃ (sys sys' : System) (rq : Request),
    (parseAppAssertion Sample.env Sample.upperCaseEnvelope.canon).toOption.isSome = true ∧
    (system Sample.env).Reach Machine.anyStep sys ∧ sys.dispatcher.Running 0 rq ∧
    rq.requestId = Sample.upperCaseId ∧
    (sys.dispatcher.pending rq.conn).get? Sample.upperCaseId = some 0 ∧
    sys.step Sample.env (.cancel 0 "pc-1" Sample.upperCaseId (Sample.second 12)) = some sys' ∧
    sys'.dispatcher.cancels.get? 0 = some (.refused (.agent .requestNotInFlight)) ∧
    ¬ Addressed Sample.env sys 0 "pc-1" 0 rq (Sample.second 12) := by
  have accepted : (parseAppAssertion Sample.env Sample.upperCaseEnvelope.canon).toOption.isSome =
      true := by decide +kernel
  have reached : (system Sample.env).Reach Machine.anyStep System.init := .init
  obtain ⟨sys, reached, holds⟩ := reached.exists_of_exec
    (Sample.serving ++ [.command 0 Sample.upperCaseCommand (Sample.uuid 0) (Sample.second 10),
      .delivered 0 false])
    missesUpperCase (by decide +kernel)
  unfold missesUpperCase at holds
  split at holds
  · rename_i l live
    obtain ⟨facts, cancels⟩ := Bool.and_eq_true_iff.mp holds
    obtain ⟨isId, waiting⟩ := of_decide_eq_true facts
    obtain ⟨sys', stepped, refused⟩ := (Option.any_eq_true _ _).mp cancels
    split at refused
    · rename_i notInFlight
      refine ⟨sys, sys', l.request, accepted, reached, ⟨l, live, rfl⟩, isId, waiting, stepped,
        notInFlight, ?_⟩
      rintro ⟨sys₁, stepped₁, sends, _⟩
      rw [isId] at stepped₁
      obtain rfl := Option.some.inj (stepped.symm.trans stepped₁)
      cases notInFlight.symm.trans sends
    · cases refused
  · cases holds

end RemoteAgent
