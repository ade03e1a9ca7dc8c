import RemoteAgent.PendingCalls
import RemoteAgent.Relay
import RemoteAgent.StoreSteps

/-!
# Connections, sessions and instance rows

`plan_effect` is the case analysis over the events for the tables: rows age, a
device is enrolled, or a connection registers a session and writes its row.

* `Linked`: the handler of a connection has a session exactly when it is past its
  authentication.  `receive_answered`, `close_answered`: so the dispatcher takes the
  act of every frame and of every end of a connection.
* `Generations`: an instance row bears the generation of a session of its connector.
-/

open Wire Storage Transition

namespace RemoteAgent.System

open Dispatcher (field)

variable {env : Env} {sys sys' : System} {e : Event}

/-! ## What an event does to the tables -/

/-- Everything an event can do to the devices and the instances. -/
inductive TableEffect (sys : System) (plan : Plan) : Prop where
  | aged (aged : Store.Aged sys.store plan.store)
      (act : ∀ k session, plan.act ≠ some (.register k session))
  | enrolls (connectorId : String) (enrolls : Store.Enrolls sys.store plan.store connectorId)
      (act : plan.act = none)
  | online (k : ConnId) (session : AgentRelaySession) (device : DeviceRow)
      (online : Store.Online sys.store plan.store session.connectorId session.instanceId k device)
      (profile : session.capabilityProfile = device.capabilityProfile)
      (capabilities : session.capabilities = capabilitiesForProfile device.capabilityProfile)
      (act : plan.act = some (.register k session))

theorem teardown_effect {store : Store} {k : ConnId} {now : Int}
    (aged : Store.Aged sys.store store) : TableEffect sys (sys.teardown env store k now) := by
  unfold teardown
  split
  · exact .aged aged fun _ _ act => nomatch act
  · refine .aged ?_ fun _ _ act => nomatch act
    simp only
    split
    · exact aged.trans (Store.disconnectRelay_aged env store _ _ _)
    · exact aged

theorem raises_effect {store : Store} {k : ConnId} {stage : HandshakeStage} {x : Exc} {now : Int}
    (aged : Store.Aged sys.store store) : TableEffect sys (sys.raises env store k stage x now) := by
  cases x with
  | agent x => exact .aged aged fun _ _ act => nomatch act
  | protocol => exact .aged aged fun _ _ act => nomatch act
  | escape => exact teardown_effect aged

/-- **A session is made of the device row that was enrolled when it was
authenticated.** -/
theorem authenticateSession_cases {s s' : Store} {generation : Nat}
    {challenge : Store.Challenge} {message : Json} {now : Int}
    {result : Except Exc AgentRelaySession}
    (done : s.authenticateSession env generation challenge message now = (s', result)) :
    (∃ x, result = .error x ∧ Store.Aged s s') ∨
      ∃ session device, result = .ok session ∧
        Store.Online s s' session.connectorId session.instanceId generation device ∧
        session.capabilityProfile = device.capabilityProfile ∧
        session.capabilities = capabilitiesForProfile device.capabilityProfile := by
  unfold Store.authenticateSession at done
  split at done
  · cases done
    exact Or.inl ⟨_, rfl, .refl s⟩
  · split at done
    · cases done
      exact Or.inl ⟨_, rfl, .refl s⟩
    · split at done
      · rename_i s₁ x refused
        cases done
        rcases Store.authenticateRelay_cases refused with ⟨_, _, aged⟩ | ⟨_, _, isOk, _⟩
        · exact Or.inl ⟨_, rfl, aged⟩
        · cases isOk
      · rename_i s₁ identity accepted
        rcases Store.authenticateRelay_cases accepted with ⟨_, isError, _⟩ | ⟨_, device, isOk, online⟩
        · cases isError
        · cases isOk
          have found : s₁.getDevice identity.connectorId = some device := by
            have before := online.found
            unfold Store.getDevice at before ⊢
            rwa [online.devices]
          rw [found] at done
          cases done
          exact Or.inr ⟨_, device, rfl, online, rfl, rfl⟩

theorem authenticates_effect {k : ConnId} {challenge : Store.Challenge} {message : Json}
    {now : Int} : TableEffect sys (sys.authenticates env k challenge message now) := by
  unfold authenticates
  split
  · rename_i store x refused
    rcases authenticateSession_cases refused with ⟨_, _, aged⟩ | ⟨_, _, isOk, _⟩
    · exact raises_effect aged
    · cases isOk
  · rename_i store session accepted
    rcases authenticateSession_cases accepted with ⟨_, isError, _⟩ | ⟨_, device, isOk, online⟩
    · cases isError
    · cases isOk
      exact .online k session device online.1 online.2.1 online.2.2 rfl

theorem handleEnroll_cases {s s' : Store} {message : Json} {now : Int}
    {result : Except Exc String} (done : s.handleEnroll env message now = (s', result)) :
    (∃ x, result = .error x ∧ Store.Aged s s') ∨
      ∃ connectorId, result = .ok connectorId ∧ Store.Enrolls s s' connectorId := by
  unfold Store.handleEnroll at done
  split at done
  · cases done
    exact Or.inl ⟨_, rfl, .refl s⟩
  · split at done
    · cases done
      exact Or.inl ⟨_, rfl, .refl s⟩
    · exact Store.completeEnrollment_cases done

theorem handshakes_effect {k : ConnId} {challenge : Store.Challenge} {message : Json}
    {now : Int} : TableEffect sys (sys.handshakes env k challenge message now) := by
  unfold handshakes
  split
  · split
    · rename_i store x refused
      rcases handleEnroll_cases refused with ⟨_, _, aged⟩ | ⟨_, isOk, _⟩
      · exact raises_effect aged
      · cases isOk
    · rename_i store connectorId enrolled
      rcases handleEnroll_cases enrolled with ⟨_, isError, _⟩ | ⟨_, isOk, enrolls⟩
      · cases isError
      · cases isOk
        exact .enrolls connectorId enrolls rfl
  · exact authenticates_effect

theorem handleHeartbeat_aged {s s' : Store} {k : ConnId} {session : AgentRelaySession}
    {message : Json} {now : Int} {result : Except Exc Json}
    (done : s.handleHeartbeat env k session message now = (s', result)) : Store.Aged s s' := by
  unfold Store.handleHeartbeat at done
  split at done
  · cases done
    exact .refl s
  · split at done
    · cases done
      exact .refl s
    · split at done
      · cases done
        exact .refl s
      · rename_i s₁ accepted
        have aged := Store.acceptHeartbeat_aged accepted
        split at done
        · cases done
          exact aged
        · cases done
          exact aged

theorem serves_effect {k : ConnId} {session : AgentRelaySession} {message : Json} {now : Int} :
    TableEffect sys (sys.serves env k session message now) := by
  unfold serves
  split
  · split
    · rename_i store x refused
      exact raises_effect (handleHeartbeat_aged refused)
    · rename_i store epoch accepted
      exact .aged (handleHeartbeat_aged accepted) fun _ _ act => nomatch act
  · split
    · split
      · exact raises_effect (.refl _)
      · exact .aged (.refl _) fun _ _ act => nomatch act
    · exact raises_effect (.refl _)

theorem receives_effect {k : ConnId} {frame : Except Exc Json} {now : Int} {plan : Plan}
    (received : sys.receives env k frame now = some plan) : TableEffect sys plan := by
  unfold receives at received
  split at received
  · split at received
    · cases received
      exact raises_effect (.refl _)
    · cases received
      exact handshakes_effect
  · split at received
    · cases received
      exact raises_effect (.refl _)
    · cases received
      exact authenticates_effect
  · split at received
    · cases received
    · split at received
      · cases received
        exact raises_effect (.refl _)
      · cases received
        exact serves_effect
  · cases received

theorem challenges_effect {k : ConnId} {challenge : Store.Challenge}
    {next : Store.Challenge → Phase} {now : Int} :
    TableEffect sys (sys.challenges env k challenge next now) := by
  unfold challenges
  split
  · exact teardown_effect (.refl _)
  · rename_i store created
    exact .aged (Store.createChallenge_aged created) fun _ _ act => nomatch act

theorem connects_effect {k : ConnId} {challenge : Store.Challenge} {now : Int} {plan : Plan}
    (planned : sys.connects env k challenge now = some plan) : TableEffect sys plan := by
  unfold connects at planned
  split at planned
  · cases planned
  · cases planned
    exact challenges_effect

theorem rechallenges_effect {k : ConnId} {challenge : Store.Challenge} {now : Int} {plan : Plan}
    (planned : sys.rechallenges env k challenge now = some plan) : TableEffect sys plan := by
  unfold rechallenges at planned
  split at planned
  · cases planned
    exact challenges_effect
  · cases planned

theorem timesOut_effect {k : ConnId} {now : Int} {plan : Plan}
    (planned : sys.timesOut env k now = some plan) : TableEffect sys plan := by
  unfold timesOut at planned
  split at planned
  · cases planned
    exact raises_effect (.refl _)
  · cases planned
    exact raises_effect (.refl _)
  · cases planned

theorem readies_effect {k : ConnId} {failed : Option Int} {plan : Plan}
    (planned : sys.readies env k failed = some plan) : TableEffect sys plan := by
  unfold readies at planned
  split at planned
  · split at planned
    · cases planned
      exact .aged (.refl _) fun _ _ act => nomatch act
    · cases planned
      exact raises_effect (.refl _)
  · cases planned

/-- The end of a handler is its `finally` block. -/
theorem ends_teardown {k : ConnId} {closing : Bool} {now : Int} {plan : Plan}
    (planned : sys.ends env k closing now = some plan) :
    plan = sys.teardown env sys.store k now := by
  unfold ends at planned
  split at planned
  · cases planned
  · exact (Option.some.inj planned).symm
  · split at planned
    · cases planned
    · exact (Option.some.inj planned).symm

theorem orSame_aged {ε : Type} {result : Except ε Store}
    (aged : ∀ {store}, result = .ok store → Store.Aged sys.store store) :
    Store.Aged sys.store (sys.orSame result) := by
  unfold orSame
  split
  · exact .refl _
  · exact aged rfl

theorem commands_effect {c : CallId} {input : CommandInput} {uuid : String} {now : Int} :
    TableEffect sys (sys.commands env c input uuid now) := by
  unfold commands
  split
  · exact .aged (.refl _) fun _ _ act => nomatch act
  · split
    · exact .aged (.refl _) fun _ _ act => nomatch act
    · split
      · exact .aged (.refl _) fun _ _ act => nomatch act
      · rename_i store row looked
        exact .aged (Store.relaySession_aged looked) fun _ _ act => nomatch act

theorem cancels_effect {x : CancelId} {connectorId requestId : String} {now : Int} :
    TableEffect sys (sys.cancels env x connectorId requestId now) := by
  unfold cancels
  split
  · exact .aged (.refl _) fun _ _ act => nomatch act
  · split
    · exact .aged (.refl _) fun _ _ act => nomatch act
    · split
      · exact .aged (.refl _) fun _ _ act => nomatch act
      · rename_i store row looked
        exact .aged (Store.relaySession_aged looked) fun _ _ act => nomatch act

theorem writes_effect {store : Store} (aged : Store.Aged sys.store store) :
    TableEffect sys (sys.writes store) := .aged aged fun _ _ act => nomatch act

/-- **What an event does to the tables.** -/
theorem plan_effect {plan : Plan} (planned : sys.plan env e = some plan) :
    TableEffect sys plan := by
  cases e with
  | rejectUpgrade k upgrade =>
      obtain ⟨_, _, rfl⟩ := rejectsUpgrade_finishes planned
      exact .aged (.refl _) fun _ _ act => by cases act
  | connect k challenge now => exact connects_effect planned
  | receive k frame now => exact receives_effect planned
  | handshakeTimeout k now => exact timesOut_effect planned
  | rechallenge k challenge now => exact rechallenges_effect planned
  | ready k => exact readies_effect (show sys.readies env k none = some plan from planned)
  | readyFailed k now =>
      exact readies_effect (show sys.readies env k (some now) = some plan from planned)
  | finish k now => exact ends_teardown planned ▸ teardown_effect (.refl _)
  | disconnect k now => exact ends_teardown planned ▸ teardown_effect (.refl _)
  | issueToken rawToken connectorId profile label expires now =>
      obtain rfl := Option.some.inj planned
      exact writes_effect (orSame_aged Store.issueToken_aged)
  | revoke connectorId now =>
      obtain rfl := Option.some.inj planned
      cases revoked : sys.store.revokeDevice connectorId now with
      | none => exact writes_effect (.refl _)
      | some store => exact writes_effect (Store.revokeDevice_aged revoked)
  | delete connectorId =>
      obtain rfl := Option.some.inj planned
      exact writes_effect (orSame_aged Store.deleteRevokedDevice_aged)
  | rename connectorId label =>
      obtain rfl := Option.some.inj planned
      exact writes_effect (orSame_aged Store.rename_aged)
  | deviceStatus connectorId now =>
      obtain rfl := Option.some.inj planned
      exact writes_effect (Store.deviceStatus_aged env _ _ _)
  | operatorDevices now =>
      obtain rfl := Option.some.inj planned
      exact writes_effect (Store.operatorDevices_aged env _ _)
  | onlineAgents now =>
      obtain rfl := Option.some.inj planned
      exact writes_effect (Store.agentInventory_aged env _ _)
  | command c input uuid now =>
      obtain rfl := Option.some.inj planned
      exact commands_effect
  | cancel x connectorId requestId now =>
      obtain rfl := Option.some.inj planned
      exact cancels_effect
  | delivered | sendFailed | expire | cancelTask | resume | cancelSent | cancelFailed =>
      obtain rfl := Option.some.inj planned
      exact .aged (.refl _) fun _ _ act => nomatch act

/-- A step, taken apart: its plan, and what the dispatcher makes of the act. -/
theorem step_plan (stepped : sys.step env e = some sys') :
    ∃ plan, sys.plan env e = some plan ∧ sys'.store = plan.store ∧ sys'.phases = plan.phases ∧
      match plan.act with
      | none => sys'.dispatcher = sys.dispatcher
      | some a => sys.dispatcher.step env a = some sys'.dispatcher := by
  unfold step at stepped
  split at stepped
  · cases stepped
  · rename_i plan planned
    refine ⟨plan, planned, ?_⟩
    cases act : plan.act with
    | none =>
      rw [act] at stepped
      cases stepped
      exact ⟨rfl, rfl, rfl⟩
    | some a =>
      rw [act] at stepped
      obtain ⟨d, next, rfl⟩ := Option.map_eq_some_iff.mp stepped
      exact ⟨rfl, rfl, next⟩

/-! ## Instance rows and sessions -/

/-- An instance row bears the generation of a session of its connector. -/
def Generations (sys : System) : Prop :=
  ∀ r ∈ sys.store.instances,
    sys.dispatcher.connectorOf r.connectionGeneration = some r.connectorId

theorem generations_init : Generations init := fun _ mem => nomatch mem

/-- A connection that is given a session keeps its connector. -/
theorem connectorOf_mono (stepped : sys.step env e = some sys') {k : ConnId}
    {connectorId : String} (has : sys.dispatcher.connectorOf k = some connectorId) :
    sys'.dispatcher.connectorOf k = some connectorId := by
  obtain ⟨plan, _, _, _, next⟩ := step_plan stepped
  split at next
  · rw [next, has]
  · exact (Dispatcher.step_effect next).connectorOf_mono has

theorem connectorOf_register {d d' : Dispatcher} {k : ConnId} {session : AgentRelaySession}
    (next : d.step env (.register k session) = some d') :
    d'.connectorOf k = some session.connectorId := by
  simp only [Dispatcher.step] at next
  split at next
  · cases next
  · cases next
    unfold Dispatcher.connectorOf Dispatcher.register
    rw [Dict.get?_insert_self]
    rfl

theorem Generations.step (generations : Generations sys) (stepped : sys.step env e = some sys') :
    Generations sys' := by
  have kept := fun {r} (mem : r ∈ sys.store.instances) =>
    connectorOf_mono stepped (generations r mem)
  obtain ⟨plan, planned, store, _, next⟩ := step_plan stepped
  intro r mem
  rw [store] at mem
  cases plan_effect planned with
  | aged aged act =>
      obtain ⟨old, memOld, from_⟩ := aged.instances r mem
      rw [from_.generation, from_.connectorId]
      exact kept memOld
  | enrolls connectorId enrolls act => exact kept (enrolls.instances ▸ mem)
  | online k session device online profile capabilities act =>
      rcases online.instances r mem with ⟨old, _⟩ | ⟨_, connector, generation⟩
      · exact kept old
      · rw [act] at next
        rw [generation, connector]
        exact connectorOf_register next

theorem generations_of_reach {allow : System → Event → Prop}
    (reached : (system env).Reach allow sys) : Generations sys :=
  reached.invariant generations_init fun _ generations _ stepped => generations.step stepped

/-! ## Handlers and sessions -/

/-- What the phase of a connection says about whether it has a session. -/
def SessionFits : Option Phase → Option String → Prop
  | none, connector | some (.challenging _), connector | some (.enrolled _), connector
  | some (.authenticating _), connector => connector = none
  | some .readying, connector | some .serving, connector => connector ≠ none
  | some (.closing _), _ | some .finished, _ => True

theorem SessionFits.congr {phase : Option Phase} {connector connector' : Option String}
    (same : connector' = none ↔ connector = none) (fits : SessionFits phase connector) :
    SessionFits phase connector' := by
  cases phase with
  | none => exact same.mpr fits
  | some phase =>
      cases phase with
      | challenging | enrolled | authenticating => exact same.mpr fits
      | readying | serving => exact fun none => fits (same.mp none)
      | closing | finished => trivial

def Linked (sys : System) : Prop :=
  ∀ k, SessionFits (sys.phases.get? k) (sys.dispatcher.connectorOf k)

theorem linked_init : Linked init := fun _ => rfl

/-- What an event does to the phases, and whether its act registers a session. -/
inductive PhaseEffect (sys : System) (plan : Plan) : Prop where
  | same (phases : plan.phases = sys.phases)
      (act : ∀ k session, plan.act ≠ some (.register k session))
  | moves (k : ConnId) (phase : Phase) (phases : plan.phases = sys.phases.insert k phase)
      (fits : SessionFits (some phase) (sys.dispatcher.connectorOf k))
      (act : plan.act = none ∨ plan.act = some (.remove k))
  | registers (k : ConnId) (session : AgentRelaySession)
      (phases : plan.phases = sys.phases.insert k .readying)
      (act : plan.act = some (.register k session))

theorem teardown_phases {store : Store} {k : ConnId} {now : Int} :
    PhaseEffect sys (sys.teardown env store k now) := by
  unfold teardown
  split
  · exact .moves k .finished rfl trivial (Or.inl rfl)
  · exact .moves k .finished rfl trivial (Or.inr rfl)

theorem raises_phases {store : Store} {k : ConnId} {stage : HandshakeStage} {x : Exc} {now : Int} :
    PhaseEffect sys (sys.raises env store k stage x now) := by
  cases x with
  | agent x => exact .moves k (.closing _) rfl trivial (Or.inl rfl)
  | protocol => exact .moves k (.closing _) rfl trivial (Or.inl rfl)
  | escape => exact teardown_phases

theorem authenticates_phases {k : ConnId} {challenge : Store.Challenge} {message : Json}
    {now : Int} : PhaseEffect sys (sys.authenticates env k challenge message now) := by
  unfold authenticates
  split
  · exact raises_phases
  · exact .registers k _ rfl rfl

theorem receives_phases (linked : Linked sys) {k : ConnId} {frame : Except Exc Json} {now : Int}
    {plan : Plan} (received : sys.receives env k frame now = some plan) : PhaseEffect sys plan := by
  have fits := linked k
  unfold receives at received
  split at received
  · rename_i challenge phase
    rw [phase] at fits
    split at received
    · cases received
      exact raises_phases
    · cases received
      unfold handshakes
      split
      · split
        · exact raises_phases
        · exact .moves k (.enrolled _) rfl fits (Or.inl rfl)
      · exact authenticates_phases
  · split at received
    · cases received
      exact raises_phases
    · cases received
      exact authenticates_phases
  · split at received
    · cases received
    · split at received
      · cases received
        exact raises_phases
      · cases received
        unfold serves
        split
        · split
          · exact raises_phases
          · exact .same rfl fun _ _ act => by cases act
        · split
          · split
            · exact raises_phases
            · exact .same rfl fun _ _ act => by cases act
          · exact raises_phases
  · cases received

theorem challenges_phases {k : ConnId} {challenge : Store.Challenge}
    {next : Store.Challenge → Phase} {now : Int}
    (fits : SessionFits (some (next challenge)) (sys.dispatcher.connectorOf k)) :
    PhaseEffect sys (sys.challenges env k challenge next now) := by
  unfold challenges
  split
  · exact teardown_phases
  · exact .moves k _ rfl fits (Or.inl rfl)

theorem commands_phases {c : CallId} {input : CommandInput} {uuid : String} {now : Int} :
    PhaseEffect sys (sys.commands env c input uuid now) := by
  unfold commands
  split
  · exact .same rfl fun _ _ act => nomatch act
  · split
    · exact .same rfl fun _ _ act => nomatch act
    · split <;> exact .same rfl fun _ _ act => nomatch act

theorem cancels_phases {x : CancelId} {connectorId requestId : String} {now : Int} :
    PhaseEffect sys (sys.cancels env x connectorId requestId now) := by
  unfold cancels
  split
  · exact .same rfl fun _ _ act => nomatch act
  · split
    · exact .same rfl fun _ _ act => nomatch act
    · split <;> exact .same rfl fun _ _ act => nomatch act

theorem plan_phases (linked : Linked sys) {plan : Plan} (planned : sys.plan env e = some plan) :
    PhaseEffect sys plan := by
  cases e with
  | rejectUpgrade k upgrade =>
      obtain ⟨_, _, rfl⟩ := rejectsUpgrade_finishes planned
      exact .moves k .finished rfl trivial (Or.inl rfl)
  | connect k challenge now =>
      have planned : sys.connects env k challenge now = some plan := planned
      have fits := linked k
      unfold connects at planned
      split at planned
      · cases planned
      · rename_i phase
        rw [phase] at fits
        cases planned
        exact challenges_phases fits
  | receive k frame now => exact receives_phases linked planned
  | handshakeTimeout k now =>
      have planned : sys.timesOut env k now = some plan := planned
      unfold timesOut at planned
      split at planned
      · cases planned
        exact raises_phases
      · cases planned
        exact raises_phases
      · cases planned
  | rechallenge k challenge now =>
      have planned : sys.rechallenges env k challenge now = some plan := planned
      have fits := linked k
      unfold rechallenges at planned
      split at planned
      · rename_i phase
        rw [phase] at fits
        cases planned
        exact challenges_phases fits
      · cases planned
  | ready k =>
      have planned : sys.readies env k none = some plan := planned
      have fits := linked k
      unfold readies at planned
      split at planned
      · rename_i phase
        rw [phase] at fits
        cases planned
        exact .moves k .serving rfl fits (Or.inl rfl)
      · cases planned
  | readyFailed k now =>
      have planned : sys.readies env k (some now) = some plan := planned
      unfold readies at planned
      split at planned
      · cases planned
        exact raises_phases
      · cases planned
  | finish k now => exact ends_teardown planned ▸ teardown_phases
  | disconnect k now => exact ends_teardown planned ▸ teardown_phases
  | command c input uuid now =>
      obtain rfl := Option.some.inj planned
      exact commands_phases
  | cancel x connectorId requestId now =>
      obtain rfl := Option.some.inj planned
      exact cancels_phases
  | issueToken | revoke | delete | rename | deviceStatus | operatorDevices | onlineAgents
  | delivered | sendFailed | expire | cancelTask | resume | cancelSent | cancelFailed =>
      obtain rfl := Option.some.inj planned
      exact .same rfl fun _ _ act => nomatch act

/-- Only a registration changes whether a connection has a session. -/
theorem connectorOf_none_iff (stepped : sys.step env e = some sys') {plan : Plan}
    (planned : sys.plan env e = some plan) {k : ConnId}
    (act : ∀ session, plan.act ≠ some (.register k session)) :
    sys'.dispatcher.connectorOf k = none ↔ sys.dispatcher.connectorOf k = none := by
  constructor
  · intro none_
    by_contra some_
    obtain ⟨connectorId, has⟩ := Option.ne_none_iff_exists'.mp some_
    rw [connectorOf_mono stepped has] at none_
    cases none_
  · intro none_
    obtain ⟨plan', planned', _, _, next⟩ := step_plan stepped
    rw [planned] at planned'
    cases planned'
    split at next
    · rw [next, none_]
    · rename_i a isAct
      exact (Dispatcher.step_effect next).connectorOf_none none_ fun session same =>
        act session (isAct.trans (congrArg some same))

theorem Linked.step (linked : Linked sys) (stepped : sys.step env e = some sys') :
    Linked sys' := by
  obtain ⟨plan, planned, _, phases, next⟩ := step_plan stepped
  intro k
  rw [phases]
  cases plan_phases linked planned with
  | same same act =>
      rw [same]
      exact (linked k).congr (connectorOf_none_iff stepped planned (act k))
  | moves k₀ phase moved fits act =>
      have keeps := connectorOf_none_iff stepped planned (k := k) fun session isAct => by
        rcases act with none | remove
        · rw [none] at isAct
          cases isAct
        · rw [remove] at isAct
          cases isAct
      rw [moved, Dict.get?_insert]
      split
      · rename_i same
        subst same
        exact fits.congr keeps
      · exact (linked k).congr keeps
  | registers k₀ session moved act =>
      rw [moved, Dict.get?_insert]
      split
      · rename_i same
        subst same
        rw [act] at next
        rw [connectorOf_register next]
        exact Option.some_ne_none _
      · rename_i other
        refine (linked k).congr (connectorOf_none_iff stepped planned fun session' isAct => ?_)
        rw [act] at isAct
        cases isAct
        exact other rfl

theorem linked_of_reach {allow : System → Event → Prop}
    (reached : (system env).Reach allow sys) : Linked sys :=
  reached.invariant linked_init fun _ linked _ stepped => linked.step stepped

/-! ## Every frame is dealt with -/

/-- The dispatcher takes the act of a plan. -/
def Taken (env : Env) (sys : System) (plan : Plan) : Prop :=
  ∀ a, plan.act = some a → (sys.dispatcher.step env a).isSome = true

theorem Taken.step {plan : Plan} (taken : Taken env sys plan)
    (planned : sys.plan env e = some plan) : (sys.step env e).isSome = true := by
  unfold System.step
  rw [planned]
  cases act : plan.act with
  | none => simp only [act, Option.isSome_some]
  | some a => simp only [act, Option.isSome_map, taken a act]

theorem teardown_taken {store : Store} {k : ConnId} {now : Int} :
    Taken env sys (sys.teardown env store k now) := by
  intro a act
  unfold teardown at act
  split at act
  · cases act
  · rename_i session here
    cases act
    simp only [Dispatcher.step, here, Option.isSome_some]

theorem raises_taken {store : Store} {k : ConnId} {stage : HandshakeStage} {x : Exc} {now : Int} :
    Taken env sys (sys.raises env store k stage x now) := by
  cases x with
  | agent x => exact fun _ act => nomatch act
  | protocol => exact fun _ act => nomatch act
  | escape => exact teardown_taken

theorem authenticates_taken {k : ConnId} {challenge : Store.Challenge} {message : Json} {now : Int}
    (free : sys.dispatcher.connectorOf k = none) :
    Taken env sys (sys.authenticates env k challenge message now) := by
  unfold authenticates
  split
  · exact raises_taken
  · intro a act
    cases act
    have absent : sys.dispatcher.sessions.get? k = none := Option.map_eq_none_iff.mp free
    simp only [Dispatcher.step, absent, Option.isSome_some]

/-- **A frame on a connection that waits for one is always dealt with.** -/
theorem receive_answered (linked : Linked sys) {k : ConnId} {frame : Except Exc Json} {now : Int}
    {plan : Plan} (received : sys.receives env k frame now = some plan) :
    (sys.step env (.receive k frame now)).isSome = true := by
  refine Taken.step ?_ (show sys.plan env (.receive k frame now) = some plan from received)
  have fits := linked k
  unfold receives at received
  split at received
  · rename_i challenge phase
    rw [phase] at fits
    split at received
    · cases received
      exact raises_taken
    · cases received
      unfold handshakes
      split
      · split
        · exact raises_taken
        · exact fun _ act => by cases act
      · exact authenticates_taken fits
  · rename_i challenge phase
    rw [phase] at fits
    split at received
    · cases received
      exact raises_taken
    · cases received
      exact authenticates_taken fits
  · split at received
    · cases received
    · rename_i session here
      split at received
      · cases received
        exact raises_taken
      · cases received
        unfold serves
        split
        · split
          · exact raises_taken
          · intro a act
            cases act
            simp only [Dispatcher.step, here, Option.isSome_some]
        · split
          · split
            · exact raises_taken
            · rename_i settled
              intro a act
              cases act
              simp only [Dispatcher.step, here, settled, Option.isSome_some]
          · exact raises_taken
  · cases received

/-- **The end of a handler is always carried out.** -/
theorem close_answered {k : ConnId} {closing : Bool} {now : Int} {plan : Plan}
    (planned : sys.ends env k closing now = some plan) : Taken env sys plan :=
  ends_teardown planned ▸ teardown_taken

end RemoteAgent.System

/-! ## A device that enrolls and serves

Concrete values for the runs below and in the modules that follow: a key pair, the
two signatures its device makes, and the SHA-256 digests of the texts hashed. -/

namespace RemoteAgent.Sample

def publicKey : String := "11qYAYKxCrfVS_7TyWQHOg7hcvPapiMlrwIaaPcHURo"

def rawToken : String := "q4Zr0vYdX1mT7uKcE9sBnW2hLfPjA6gR8oIxQ5tVyM3"

def firstChallenge : Store.Challenge :=
  ⟨"5b2c1e0a-7d4f-4c3b-9a61-0f8e2d7c4b11", "Jk3vW8rTq1ZxNc5yHb7dLm2pSf9gUa4E"⟩

def secondChallenge : Store.Challenge :=
  ⟨"9e3f7a52-1c6d-4e8b-b5a0-2d4c6f8e1a37", "Gt6nRw0eKs2Xv8mQy4jPz1bCh5aFd7uL"⟩

def enrollSignature : String :=
  "-KoQXWewgZJkzzResB_sydWHPKlPK_Jx39GubpLcXHB9BBgua8Qa2C5-K-KUO_dzozKUTN-i-E1I2DYe_-6FBg"

def authenticateSignature : String :=
  "FbLa02GT5SpbmT2c3EBpa9fPS3yZZwQ_I-G6t89-2JESM3doLtxncLfAC1vcp4mtxu3r-CZooH3LHoWUlXX0Aw"

/-- The arguments of the command that the runs send. -/
def arguments : Json := .obj [("command", .str "uptime")]

/-- The arguments of a second command. -/
def otherArguments : Json := .obj [("command", .str "whoami")]

/-- What is hashed for a command, by the `context_epoch` of its instance. -/
def commandText (arguments : Json) (contextEpoch : Int) : String :=
  (Json.obj [("connector_id", .str "pc-1"), ("tool", .str "terminal.execute"),
    ("arguments", arguments), ("instance_id", .str "i-1"),
    ("context_epoch", .int contextEpoch)]).dumps

/-- The texts that the runs hash, with their SHA-256 digests. -/
def digests : List (String × String) :=
  [(rawToken, "82b801bf4c9f1435e72f486ba387e62486c3824fc52ecc12b868a5019d8fce2e"),
    (firstChallenge.challenge,
      "6589605ef3210ac9b4fc7401983f0ee5bc3490078430a8b8d88a2b1518388404"),
    (secondChallenge.challenge,
      "a1c368a80429de3e202bd10f032703c5056dd2dff0d91cb409cc9b3725822178"),
    (commandText arguments 1, "572c344756cec4c0a5e8409e3c01f28ed26758eea18abb8714e1c37a3f93c975"),
    (commandText arguments 2, "ac739ef33d2caa31d2841a1ccd5e6614e40ffe78ce1981f82f7b620435e39bfb"),
    (commandText otherArguments 1,
      "a78e1b8466b96e71ac21d7f56f64f66fbca12f72e27ca19a84856e81607433ab"),
    ((Json.obj [("arguments", arguments)]).dumps,
      "f0ed78d18071463f2136238ce87d15679eaacc692192013a78d0febf13488de1"),
    ((Json.obj [("arguments", otherArguments)]).dumps,
      "a94a42c63311fc936e76208c3cddbbeafd3e197121c5511bead72bddaef2b1e1")]

/-- SHA-256 on these texts; no other text is hashed below. -/
def sha256 (text : String) : String := (digests.lookup text).getD ("~" ++ text)

/-- No two texts have one digest in the sample. -/
theorem sha256_injective : Function.Injective sha256 := by
  have listed : ∀ p ∈ digests, p.2.toList.head? ≠ some '~' ∧
      ∀ q ∈ digests, p.2 = q.2 → p.1 = q.1 := by decide +kernel
  have known : ∀ {text digest : String}, digests.lookup text = some digest →
      (text, digest) ∈ digests := by
    intro text digest found
    obtain ⟨before, after, is, _⟩ := List.lookup_eq_some_iff.mp found
    rw [is]
    exact List.mem_append_right _ List.mem_cons_self
  -- A listed digest is none of the others, which all begin with a tilde.
  have apart : ∀ {text digest : String}, digests.lookup text = some digest →
      ∀ text', digest ≠ "~" ++ text' := by
    intro text digest found text' is
    refine (listed _ (known found)).1 ?_
    rw [is, String.toList_append]
    rfl
  intro text text' same
  unfold sha256 at same
  cases found : digests.lookup text with
  | some digest =>
      cases found' : digests.lookup text' with
      | some digest' =>
          rw [found, found', Option.getD_some, Option.getD_some] at same
          exact (listed _ (known found)).2 _ (known found') same
      | none =>
          rw [found, found', Option.getD_some, Option.getD_none] at same
          exact absurd same (apart found text')
  | none =>
      cases found' : digests.lookup text' with
      | some digest' =>
          rw [found, found', Option.getD_some, Option.getD_none] at same
          exact absurd same.symm (apart found' text)
      | none =>
          rw [found, found', Option.getD_none, Option.getD_none] at same
          exact (String.append_right_inj "~").mp same

def env : Env where
  config := ⟨60, 30, false⟩
  sha256 := sha256
  -- The two signatures that are verified below are the device's own, and valid.
  ed25519 := fun _ _ _ => true
  publicKeyFingerprint := fun key => if key = publicKey then "21fe31dfa154a261" else ""
  floats := {
    repr := fun f => String.ofList f.text
    isZero := fun _ => false
    eqInt := fun _ _ => false
    ltInt := fun _ _ => false
    intLt := fun _ _ => false
    lt := fun _ _ => false
    trunc := fun _ => none }
  container := Json.dumps
  textOfFloat := fun f => String.ofList f.text
  integerOfFloat := fun _ => none
  integerOfText := fun _ => none
  intOfText := fun _ => none
  encodes := fun _ => true
  encodes_ascii := fun _ _ => rfl
  tooDeep := fun text => decide (1000 < text.toList.countP fun c => c == '[' || c == '{')

/-- Second `s` of the runs, in microseconds. -/
def second (s : Int) : Int := (1767225600 + s) * 1000000

def enrollFrame : Json :=
  .obj [("v", .int 1), ("type", .str "enroll"),
    ("challenge_id", .str firstChallenge.challengeId),
    ("challenge", .str firstChallenge.challenge), ("connector_id", .str "pc-1"),
    ("enrollment_token", .str rawToken), ("public_key", .str publicKey),
    ("signature", .str enrollSignature), ("platform", .str "linux")]

def authenticateFrame : Json :=
  .obj [("v", .int 1), ("type", .str "authenticate"),
    ("challenge_id", .str secondChallenge.challengeId),
    ("challenge", .str secondChallenge.challenge), ("connector_id", .str "pc-1"),
    ("instance_id", .str "i-1"), ("context_epoch", .int 1),
    ("signature", .str authenticateSignature)]

def heartbeatFrame (contextEpoch : Int) : Json :=
  .obj [("v", .int 1), ("type", .str "heartbeat"), ("context_epoch", .int contextEpoch)]

/-- The response to the command with a request id, with an exit code. -/
def exitFrame (requestId : String) (exitCode : Int) : Json :=
  .obj [("v", .int 1), ("type", .str "response"), ("request_id", .str requestId),
    ("tool", .str "terminal.execute"), ("connector_id", .str "pc-1"), ("status", .str "ok"),
    ("result", .obj [("exit_code", .int exitCode)])]

/-- The response to the command with a request id. -/
def responseFrame (requestId : String) : Json := exitFrame requestId 0

/-- A signed assertion for the command, good for five minutes. -/
def envelope : Json :=
  .obj [("schema_version", .str "business-mcp-remote-agent-app-assertion-v2"),
    ("issuer", .str "business-mcp-hub"), ("audience", .str "remote-agent-device"),
    ("key_id", .str "hub-key-1"), ("client_id", .str "hub-client"), ("app_id", .str "app-1"),
    ("connector_id", .str "pc-1"), ("scopes", .arr [.str "agent:terminal"]),
    ("issued_at", .int 1767225600), ("expires_at", .int 1767225900),
    ("nonce", .str "Zb7Qk2Xc9Vn4Lm1Pa6Rt"),
    ("request_id", .str "1f4b9c2e-6a7d-4e5f-8b3c-0d9e8f7a6b5c"),
    ("assertion_id", .str "c7d1e8f2-3b4a-4c6d-9e5f-a1b2c3d4e5f6"),
    ("signature", .str enrollSignature)]

def assertion : AppAssertion where
  envelope := envelope
  connectorId := .str "pc-1"
  expiresAt := 1767225900
  requestId := .str "1f4b9c2e-6a7d-4e5f-8b3c-0d9e8f7a6b5c"
  connectorId_eq := by rfl
  expiresAt_eq := by rfl
  requestId_eq := by rfl

/-- The command under an idempotency key, with the assertion or without one. -/
def command (idempotencyKey : String) (signed : Bool) : CommandInput where
  clientId := "hub-client"
  appId := if signed then "app-1" else ""
  appAssertion := if signed then some assertion else none
  tool := "terminal.execute"
  connectorId := "pc-1"
  arguments := arguments
  idempotencyKey := idempotencyKey
  instanceId := none

/-- A command with other arguments. -/
def otherCommand (idempotencyKey : String) : CommandInput :=
  { command idempotencyKey false with arguments := otherArguments }

/-- The request id of the assertion. -/
def signedId : String := "1f4b9c2e-6a7d-4e5f-8b3c-0d9e8f7a6b5c"

/-- The uuids drawn for calls without an assertion. -/
def uuid (c : CallId) : String :=
  if c = 0 then "7b0c6d1e-2f3a-4b5c-8d7e-9f0a1b2c3d4e"
  else "e4d3c2b1-a0f9-4e8d-b7c6-5a4b3c2d1e0f"

/-- Call `c` is made and its frame sent. -/
def sent (c : CallId) (idempotencyKey : String) (signed : Bool) (s : Int) : List Event :=
  [.command c (command idempotencyKey signed) (uuid c) (second s), .delivered c false]

/-- Call `c` is made, its frame sent, answered by the device, and the call returns. -/
def answered (c : CallId) (idempotencyKey : String) (signed : Bool) (s : Int) : List Event :=
  sent c idempotencyKey signed s ++
    [.receive 0 (.ok (responseFrame (if signed then signedId else uuid c))) (second (s + 1)),
      .resume c]

/-- A token is issued, and connection 0 enrolls, authenticates and serves. -/
def serving : List Event :=
  [.issueToken rawToken (.str "pc-1") (.str "full_agent") (.str "PC 1") 600 (second 0),
    .connect 0 firstChallenge (second 1),
    .receive 0 (.ok enrollFrame) (second 2),
    .rechallenge 0 secondChallenge (second 3),
    .receive 0 (.ok authenticateFrame) (second 4),
    .ready 0]

example : ((system env).exec System.init serving).any (fun sys =>
    decide (sys.dispatcher.registry.get? "pc-1" = some 0 ∧ sys.store.instances.rows.map
      (fun r => (r.instanceId, r.connectorId, r.connectionGeneration, r.state)) =
        [("i-1", "pc-1", 0, .online)])) = true := by
  decide +kernel

end RemoteAgent.Sample
