import RemoteAgent.Handlers

/-!
# Where a command is sent

`dispatch_routed`: a request frame is sent only where three things agree, an online
instance row of the connector, the registry entry of the connector, and the session
of that entry with the instance of the row.  `step_sessions` says what an act can do
to the sessions: registered once, a session only has its epoch raised.
-/

open Wire Storage Transition

namespace RemoteAgent

namespace Dispatcher

variable {env : Env} {d : Dispatcher} {a : Act}

/-- A claim is that of a command which was given a routing row. -/
theorem incoming_routing {c : CallId} {rq : Request} (came : d.incoming env a = some (c, rq)) :
    ∃ input row uuid now, a = .command c rq.key.connectorId input (some row) uuid now ∧
      rq.instanceId = row.instanceId := by
  unfold incoming at came
  split at came
  · rename_i c₀ connectorId input row uuid now
    split at came
    · cases came
    · split at came
      · rename_i rq₀ prepared
        cases came
        obtain ⟨found, k, rfl, rfl⟩ := prepare_ok prepared
        exact ⟨input, found, uuid, now, rfl, rfl⟩
      · cases came
  · cases came

/-! ## Sessions -/

/-- A session later in its life: only a heartbeat changes it, and only its epoch. -/
structure SessionFrom (old new : AgentRelaySession) : Prop where
  connectorId : new.connectorId = old.connectorId
  instanceId : new.instanceId = old.instanceId
  capabilities : new.capabilities = old.capabilities
  profile : new.capabilityProfile = old.capabilityProfile

theorem SessionFrom.refl (session : AgentRelaySession) : SessionFrom session session :=
  ⟨rfl, rfl, rfl, rfl⟩

theorem SessionFrom.trans {a b c : AgentRelaySession} (first : SessionFrom a b)
    (second : SessionFrom b c) : SessionFrom a c where
  connectorId := second.connectorId.trans first.connectorId
  instanceId := second.instanceId.trans first.instanceId
  capabilities := second.capabilities.trans first.capabilities
  profile := second.profile.trans first.profile

/-- A registration takes the registry entry of the session's connector. -/
theorem step_register {d' : Dispatcher} {k : ConnId} {session : AgentRelaySession}
    (step : d.step env (.register k session) = some d') : Joins d d' k session := by
  simp only [Dispatcher.step] at step
  split at step
  · cases step
  · rename_i free
    obtain rfl := Option.some.inj step
    refine ⟨free, ?_, ?_⟩
    · unfold register
      simp only
      split <;> rfl
    · unfold register
      simp only
      split <;> rfl

/-- What an act does to the sessions. -/
inductive SessionEffect (d d' : Dispatcher) (a : Act) : Prop where
  | same (sessions : d'.sessions = d.sessions)
  | joins (k : ConnId) (session : AgentRelaySession) (act : a = .register k session)
      (free : d.sessions.get? k = none)
      (sessions : d'.sessions = d.sessions.insert k session)
  | beats (k : ConnId) (session : AgentRelaySession) (contextEpoch : Json)
      (act : a = .beat k contextEpoch) (was : d.sessions.get? k = some session)
      (sessions : d'.sessions =
        d.sessions.insert k { session with contextEpoch := contextEpoch })

theorem sessions_deviceCommand (d : Dispatcher) (c : CallId) (connectorId : String)
    (input : CommandInput) (row : Option Routing) (uuid : String) (now : Int) :
    (d.deviceCommand env c connectorId input row uuid now).sessions = d.sessions := by
  unfold deviceCommand
  split
  · rfl
  · unfold claimAndSend
    simp only
    split
    · split <;> rfl
    · rfl

theorem sessions_delivered (d : Dispatcher) (c : CallId) (l : Live) (slow : Bool) :
    (d.delivered env c l slow).sessions = d.sessions := by
  unfold delivered
  cases slow <;> simp only [Bool.false_eq_true, ↓reduceIte] <;> split <;> rfl

theorem sessions_setResult (d : Dispatcher) (c : CallId) (r : Json) :
    (d.setResult c r).sessions = d.sessions := by
  unfold setResult
  split <;> rfl

theorem sessions_cancelRequest (d : Dispatcher) (x : CancelId) (connectorId requestId : String)
    (row : Option Routing) :
    (d.cancelRequest x connectorId requestId row).sessions = d.sessions := by
  unfold cancelRequest
  split
  · rfl
  · split
    · rfl
    · split <;> rfl

theorem step_sessions {d' : Dispatcher} (step : d.step env a = some d') :
    SessionEffect d d' a := by
  cases a with
  | refuse c e =>
      simp only [Dispatcher.step] at step
      split at step
      · cases step
      · cases step
        exact .same rfl
  | command c connectorId input row uuid now =>
      simp only [Dispatcher.step] at step
      split at step
      · cases step
      · cases step
        exact .same (sessions_deviceCommand _ _ _ _ _ _ _)
  | delivered c slow =>
      simp only [Dispatcher.step] at step
      split at step
      · split at step
        · cases step
          exact .same (sessions_delivered _ _ _ _)
        · cases step
      · cases step
  | sendFailed c timedOut =>
      simp only [Dispatcher.step] at step
      split at step
      · split at step
        · cases step
          exact .same rfl
        · cases step
      · cases step
  | expire c =>
      simp only [Dispatcher.step] at step
      split at step
      · split at step
        · cases step
          exact .same rfl
        · cases step
      · cases step
  | cancelTask c =>
      simp only [Dispatcher.step] at step
      split at step
      · cases step
        exact .same rfl
      · cases step
  | resume c =>
      simp only [Dispatcher.step] at step
      split at step
      · split at step
        · cases step
          exact .same rfl
        · cases step
      · cases step
  | respond k message =>
      simp only [Dispatcher.step] at step
      split at step
      · cases step
      · split at step
        · cases step
        · cases step
          exact .same (sessions_setResult _ _ _)
  | register k session =>
      have joins := step_register step
      exact .joins k session rfl joins.free joins.sessions
  | remove k =>
      simp only [Dispatcher.step] at step
      split at step
      · cases step
      · cases step
        exact .same rfl
  | beat k contextEpoch =>
      simp only [Dispatcher.step] at step
      split at step
      · cases step
      · rename_i session was
        cases step
        exact .beats k session contextEpoch rfl was rfl
  | refuseCancel x e =>
      simp only [Dispatcher.step] at step
      split at step
      · cases step
      · cases step
        exact .same rfl
  | cancelRequest x connectorId requestId row =>
      simp only [Dispatcher.step] at step
      split at step
      · cases step
      · cases step
        exact .same (sessions_cancelRequest _ _ _ _ _)
  | cancelSent x =>
      simp only [Dispatcher.step] at step
      split at step
      · cases step
        unfold cancelSent
        simp only
        split
        · exact .same rfl
        · exact .same (sessions_setResult _ _ _)
      · cases step
  | cancelFailed x =>
      simp only [Dispatcher.step] at step
      split at step
      · cases step
        exact .same rfl
      · cases step

/-- A session stays, up to its epoch. -/
theorem SessionEffect.kept {d' : Dispatcher} (effect : SessionEffect d d' a) {k : ConnId}
    {session : AgentRelaySession} (was : d.sessions.get? k = some session) :
    ∃ session', d'.sessions.get? k = some session' ∧ SessionFrom session session' := by
  cases effect with
  | same sessions => exact ⟨session, sessions ▸ was, .refl session⟩
  | joins k₀ session₀ act free sessions =>
      have other : k ≠ k₀ := by
        rintro rfl
        rw [free] at was
        cases was
      rw [sessions, Dict.get?_insert_of_ne other]
      exact ⟨session, was, .refl session⟩
  | beats k₀ session₀ contextEpoch act here sessions =>
      rw [sessions, Dict.get?_insert]
      split
      · rename_i same
        subst same
        obtain rfl := Option.some.inj (here.symm.trans was)
        exact ⟨_, rfl, rfl, rfl, rfl, rfl⟩
      · exact ⟨session, was, .refl session⟩

/-- A session was there, or has just been registered. -/
theorem SessionEffect.cases {d' : Dispatcher} (effect : SessionEffect d d' a) {k : ConnId}
    {session' : AgentRelaySession} (found : d'.sessions.get? k = some session') :
    (∃ session, d.sessions.get? k = some session ∧ SessionFrom session session') ∨
      (a = .register k session' ∧ d.sessions.get? k = none) := by
  cases effect with
  | same sessions => exact Or.inl ⟨session', sessions ▸ found, .refl session'⟩
  | joins k₀ session₀ act free sessions =>
      rw [sessions, Dict.get?_insert] at found
      split at found
      · rename_i same
        cases found
        subst same
        exact Or.inr ⟨act, free⟩
      · exact Or.inl ⟨session', found, .refl session'⟩
  | beats k₀ session₀ contextEpoch act here sessions =>
      rw [sessions, Dict.get?_insert] at found
      split at found
      · rename_i same
        cases found
        subst same
        exact Or.inl ⟨session₀, here, rfl, rfl, rfl, rfl⟩
      · exact Or.inl ⟨session', found, .refl session'⟩

end Dispatcher

namespace Store

/-- A routing lookup sweeps the instances and leaves the devices alone. -/
theorem relaySession_devices {env : Env} {s s' : Store} {connectorId : String}
    {instanceId : Option String} {now : Int} {row : Option InstanceRow}
    (looked : s.relaySession env connectorId instanceId now = .ok (s', row)) :
    s'.devices = s.devices := by
  unfold relaySession at looked
  split at looked
  · cases looked
    rfl
  · cases looked
    rfl
  · split at looked
    · cases looked
    · cases looked
      rfl

end Store

namespace System

variable {env : Env} {sys sys' : System} {e : Event}

/-! ## Routing -/

/-- A command is taken to the dispatcher with the row that the lookup found. -/
theorem act_command {plan : Plan} (planned : sys.plan env e = some plan) {c : CallId}
    {connectorId : String} {input : CommandInput} {row : Option Routing} {uuid : String}
    {now : Int} (act : plan.act = some (.command c connectorId input row uuid now)) :
    ∃ found, sys.store.relaySession env connectorId input.instanceId now =
      .ok (plan.store, found) ∧ row = found.map routing := by
  have isAct : sys.act env e = some (.command c connectorId input row uuid now) :=
    Option.bind_eq_some_iff.mpr ⟨plan, planned, act⟩
  have free : e.conn? = none := (act_conn isAct).symm
  cases e with
  | rejectUpgrade | connect | receive | handshakeTimeout | rechallenge | ready | readyFailed | finish
  | disconnect => cases free
  | command c₀ input₀ uuid₀ now₀ =>
      obtain rfl := Option.some.inj planned
      unfold commands at act ⊢
      split at act
      · cases act
      · split at act
        · cases act
        · rename_i parsed unmatched
          split at act
          · cases act
          · rename_i store found looked
            cases act
            rw [if_neg unmatched, looked]
            exact ⟨found, rfl, rfl⟩
  | cancel x connectorId₀ requestId now₀ =>
      obtain rfl := Option.some.inj planned
      unfold cancels at act
      split at act
      · cases act
      · split at act
        · cases act
        · split at act <;> cases act
  | issueToken | revoke | delete | rename | deviceStatus | operatorDevices | onlineAgents
  | delivered | sendFailed | expire | cancelTask | resume | cancelSent | cancelFailed =>
      obtain rfl := Option.some.inj planned
      cases act

/-- What holds where a request frame is sent. -/
structure Routed (sys : System) (rq : Request) : Prop where
  row : ∃ r ∈ sys.store.instances, r.connectorId = rq.key.connectorId ∧
    r.instanceId = rq.instanceId ∧ r.state = .online
  registered : sys.dispatcher.registry.get? rq.key.connectorId = some rq.conn
  session : ∃ session, sys.dispatcher.sessions.get? rq.conn = some session ∧
    session.instanceId = rq.instanceId ∧ session.hasCapability (capabilityOf rq.tool) = true

/-- **A step sends at most one request frame**, to a session that the rows, the registry
and the session itself agree on; the devices are left alone then. -/
theorem dispatch_routed (stepped : sys.step env e = some sys') :
    sys'.dispatcher.dispatched = sys.dispatcher.dispatched ∨
      ∃ rq, sys'.dispatcher.dispatched = sys.dispatcher.dispatched ++ [rq] ∧ Routed sys rq ∧
        sys'.store.devices = sys.store.devices := by
  obtain ⟨plan, planned, store, _, next⟩ := step_plan stepped
  split at next
  · exact Or.inl (congrArg Dispatcher.dispatched next)
  · rename_i a act
    rcases (Dispatcher.step_effect next).dispatched_cases with same | ⟨c, rq, appended, came, _⟩
    · exact Or.inl same
    · obtain ⟨input, row, uuid, now, rfl, sameInstance⟩ := Dispatcher.incoming_routing came
      obtain ⟨found, looked, isRow⟩ := act_command planned act
      obtain ⟨r, rfl, rfl⟩ := Option.map_eq_some_iff.mp isRow.symm
      obtain ⟨old, mem, from_, connector, online⟩ := Store.relaySession_row looked
      obtain ⟨registered, session⟩ := Dispatcher.incoming_registered came
      exact Or.inr ⟨rq, appended,
        ⟨⟨old, mem, connector, from_.instanceId.symm.trans sameInstance.symm, online⟩,
          registered, session⟩,
        store ▸ Store.relaySession_devices looked⟩

end System

end RemoteAgent
