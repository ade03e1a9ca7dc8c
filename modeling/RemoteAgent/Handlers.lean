import RemoteAgent.Presence

/-!
# What the handler of one connection can do

An event of a connection changes the phase of that connection only, and its act, if
any, is one of that connection (`plan_confined`); the other events have no phase and
act for a call or a cancel (`act_conn`).
-/

open Wire Storage Transition

namespace RemoteAgent

/-- The connection whose handler takes an act. -/
def Act.conn? : Act → Option ConnId
  | .respond k _ | .register k _ | .remove k | .beat k _ => some k
  | _ => none

/-- The connection to whose handler an event belongs. -/
def Event.conn? : Event → Option ConnId
  | .rejectUpgrade k _ | .connect k _ _ | .receive k _ _ | .handshakeTimeout k _
  | .rechallenge k _ _ | .ready k | .readyFailed k _ | .finish k _ | .disconnect k _ => some k
  | _ => none

namespace System

variable {env : Env} {sys sys' : System} {e : Event}

/-- A plan of the handler of connection `k`. -/
structure Confined (sys : System) (k : ConnId) (plan : Plan) : Prop where
  phases : ∀ k', k' ≠ k → plan.phases.get? k' = sys.phases.get? k'
  act : ∀ a, plan.act = some a → a.conn? = some k

/-- The handler moves to a phase. -/
theorem Confined.moves {k : ConnId} {store : Store} {phase : Phase} {act : Option Act}
    (own : ∀ a, act = some a → a.conn? = some k) :
    Confined sys k ⟨store, sys.phases.insert k phase, act⟩ where
  phases := fun _ other => Dict.get?_insert_of_ne other
  act := own

theorem teardown_confined {store : Store} {k : ConnId} {now : Int} :
    Confined sys k (sys.teardown env store k now) := by
  unfold teardown
  split
  · exact .moves fun _ act => by cases act
  · refine .moves fun a act => ?_
    cases act
    rfl

theorem raises_confined {store : Store} {k : ConnId} {stage : HandshakeStage} {x : Exc}
    {now : Int} : Confined sys k (sys.raises env store k stage x now) := by
  cases x with
  | agent x => exact .moves fun _ act => by cases act
  | protocol => exact .moves fun _ act => by cases act
  | escape => exact teardown_confined

theorem authenticates_confined {k : ConnId} {challenge : Store.Challenge} {message : Json}
    {now : Int} : Confined sys k (sys.authenticates env k challenge message now) := by
  unfold authenticates
  split
  · exact raises_confined
  · refine .moves fun a act => ?_
    cases act
    rfl

theorem handshakes_confined {k : ConnId} {challenge : Store.Challenge} {message : Json}
    {now : Int} : Confined sys k (sys.handshakes env k challenge message now) := by
  unfold handshakes
  split
  · split
    · exact raises_confined
    · exact .moves fun _ act => by cases act
  · exact authenticates_confined

theorem serves_confined {k : ConnId} {session : AgentRelaySession} {message : Json}
    {now : Int} : Confined sys k (sys.serves env k session message now) := by
  have acts : ∀ {store : Store} {act : Act}, act.conn? = some k →
      Confined sys k ⟨store, sys.phases, some act⟩ := fun own =>
    ⟨fun _ _ => rfl, fun a act => Option.some.inj act ▸ own⟩
  unfold serves
  split
  · split
    · exact raises_confined
    · exact acts rfl
  · split
    · split
      · exact raises_confined
      · exact acts rfl
    · exact raises_confined

theorem receives_confined {k : ConnId} {frame : Except Exc Json} {now : Int} {plan : Plan}
    (received : sys.receives env k frame now = some plan) : Confined sys k plan := by
  unfold receives at received
  split at received
  · split at received
    · cases received
      exact raises_confined
    · cases received
      exact handshakes_confined
  · split at received
    · cases received
      exact raises_confined
    · cases received
      exact authenticates_confined
  · split at received
    · cases received
    · split at received
      · cases received
        exact raises_confined
      · cases received
        exact serves_confined
  · cases received

theorem challenges_confined {k : ConnId} {challenge : Store.Challenge}
    {next : Store.Challenge → Phase} {now : Int} :
    Confined sys k (sys.challenges env k challenge next now) := by
  unfold challenges
  split
  · exact teardown_confined
  · exact .moves fun _ act => by cases act

/-- **An event of a connection stays on that connection.** -/
theorem plan_confined {plan : Plan} (planned : sys.plan env e = some plan) {k : ConnId}
    (own : e.conn? = some k) : Confined sys k plan := by
  cases e with
  | rejectUpgrade k₀ upgrade =>
      cases own
      obtain ⟨_, _, rfl⟩ := rejectsUpgrade_finishes planned
      exact .moves fun _ act => by cases act
  | connect k₀ challenge now =>
      cases own
      have planned : sys.connects env k challenge now = some plan := planned
      unfold connects at planned
      split at planned
      · cases planned
      · cases planned
        exact challenges_confined
  | receive k₀ frame now =>
      cases own
      exact receives_confined planned
  | handshakeTimeout k₀ now =>
      cases own
      have planned : sys.timesOut env k now = some plan := planned
      unfold timesOut at planned
      split at planned
      · cases planned
        exact raises_confined
      · cases planned
        exact raises_confined
      · cases planned
  | rechallenge k₀ challenge now =>
      cases own
      have planned : sys.rechallenges env k challenge now = some plan := planned
      unfold rechallenges at planned
      split at planned
      · cases planned
        exact challenges_confined
      · cases planned
  | ready k₀ =>
      cases own
      have planned : sys.readies env k none = some plan := planned
      unfold readies at planned
      split at planned
      · cases planned
        exact .moves fun _ act => by cases act
      · cases planned
  | readyFailed k₀ now =>
      cases own
      have planned : sys.readies env k (some now) = some plan := planned
      unfold readies at planned
      split at planned
      · cases planned
        exact raises_confined
      · cases planned
  | finish k₀ now =>
      cases own
      exact ends_teardown planned ▸ teardown_confined
  | disconnect k₀ now =>
      cases own
      exact ends_teardown planned ▸ teardown_confined
  | _ => cases own

/-- The plan of an event that belongs to no connection. -/
structure Unconnected (sys : System) (plan : Plan) : Prop where
  phases : plan.phases = sys.phases
  act : ∀ a, plan.act = some a →
    a.conn? = none ∧ ∀ c, a ≠ .refuse c (.agent .commandInFlight)

theorem commands_unconnected {c : CallId} {input : CommandInput} {uuid : String} {now : Int} :
    Unconnected sys (sys.commands env c input uuid now) := by
  have refused : ∀ {x : Exc}, x ≠ .agent .commandInFlight →
      Unconnected sys ⟨sys.store, sys.phases, some (.refuse c x)⟩ := by
    intro x other
    refine ⟨rfl, fun a act => ?_⟩
    cases act
    refine ⟨rfl, fun c' same => ?_⟩
    cases same
    exact other rfl
  have parsed : ∀ {normal : String → String} {ok : String → Bool} {j : Json} {x : Exc},
      parsePattern env normal ok j = .error x → x ≠ .agent .commandInFlight := by
    intro normal ok j x failed
    unfold parsePattern at failed
    dsimp only at failed
    split at failed
    · cases failed
    · cases failed
      exact fun same => by cases same
  unfold commands
  split
  · rename_i x failed
    exact refused (parsed failed)
  · split
    · exact refused fun same => by cases same
    · split
      · rename_i x failed
        refine refused ?_
        unfold Store.relaySession at failed
        split at failed
        · cases failed
        · cases failed
        · split at failed
          · rename_i bad
            cases failed
            exact parsed bad
          · cases failed
      · refine ⟨rfl, fun a act => ?_⟩
        cases act
        exact ⟨rfl, fun c' same => by cases same⟩

theorem cancels_unconnected {x : CancelId} {connectorId requestId : String} {now : Int} :
    Unconnected sys (sys.cancels env x connectorId requestId now) := by
  unfold cancels
  split
  · refine ⟨rfl, fun a act => ?_⟩
    cases act
    exact ⟨rfl, fun c' same => nomatch same⟩
  · split
    · refine ⟨rfl, fun a act => ?_⟩
      cases act
      exact ⟨rfl, fun c' same => nomatch same⟩
    · split <;>
      · refine ⟨rfl, fun a act => ?_⟩
        cases act
        exact ⟨rfl, fun c' same => nomatch same⟩

/-- **An event that belongs to no connection** moves no handler and acts for none. -/
theorem plan_unconnected {plan : Plan} (planned : sys.plan env e = some plan)
    (free : e.conn? = none) : Unconnected sys plan := by
  cases e with
  | rejectUpgrade | connect | receive | handshakeTimeout | rechallenge | ready | readyFailed
  | finish | disconnect => cases free
  | command c input uuid now =>
      obtain rfl := Option.some.inj planned
      exact commands_unconnected
  | cancel x connectorId requestId now =>
      obtain rfl := Option.some.inj planned
      exact cancels_unconnected
  | issueToken | revoke | delete | rename | deviceStatus | operatorDevices | onlineAgents =>
      obtain rfl := Option.some.inj planned
      exact ⟨rfl, fun _ act => nomatch act⟩
  | delivered | sendFailed | expire | cancelTask | resume | cancelSent | cancelFailed =>
      obtain rfl := Option.some.inj planned
      refine ⟨rfl, fun a act => ?_⟩
      cases act
      exact ⟨rfl, fun c' same => nomatch same⟩

/-- The act of an event belongs to the connection of the event. -/
theorem act_conn {a : Act} (act : sys.act env e = some a) : a.conn? = e.conn? := by
  obtain ⟨plan, planned, act⟩ := Option.bind_eq_some_iff.mp act
  cases own : e.conn? with
  | none => exact ((plan_unconnected planned own).act a act).1
  | some k => exact (plan_confined planned own).act a act

/-- No check before the claim raises `command_in_flight`. -/
theorem act_refuse {c : CallId} {x : Exc} (act : sys.act env e = some (.refuse c x)) :
    x ≠ .agent .commandInFlight := by
  rintro rfl
  have free : e.conn? = none := (act_conn act).symm
  obtain ⟨plan, planned, act⟩ := Option.bind_eq_some_iff.mp act
  exact ((plan_unconnected planned free).act _ act).2 c rfl

end System

end RemoteAgent
