import Mathlib.Logic.Relation
import RemoteAgent.Handlers

/-!
# The operation of the store behind an event

Every event calls at most one operation of the store, and the end of a handler may
close the instance of its session afterwards (`plan_performs`).  What all operations
preserve, the tables of a run therefore have.
-/

open Wire Storage Transition

namespace RemoteAgent

/-- The challenge that the handler of a connection waits to have answered. -/
def Phase.challenge? : Phase → Option Store.Challenge
  | .challenging challenge | .authenticating challenge => some challenge
  | _ => none

/-- The challenge that an event issues, on which connection and when. -/
def Event.challenge? : Event → Option (ConnId × Store.Challenge × Int)
  | .connect k challenge now | .rechallenge k challenge now => some (k, challenge, now)
  | _ => none

/-- Any number of sweeps of stale instances. -/
abbrev Store.Sweeps : Store → Store → Prop :=
  Relation.ReflTransGen fun s s' => ∃ staleBefore, s' = s.markStaleInstances staleBefore

namespace Store

variable {env : Env} {s s' : Store}

/-- The tables after an accepted heartbeat. -/
def beaten (s : Store) (instanceId : String) (generation : Nat) (contextEpoch : Json)
    (now : Int) : Store :=
  let instances := s.instances.updateWhere
    (fun r => decide (r.instanceId = instanceId) && decide (r.connectionGeneration = generation) &&
      decide (r.state = .online)) (beat contextEpoch (asTimestamp now)) (beat_key _ _)
  { s with instances := instances }

/-- A heartbeat is accepted for a row of its generation that is online, and changes
only that row. -/
theorem acceptHeartbeat_ok {instanceId : String} {generation : Nat} {epoch : Json} {now : Int}
    (accepted : s.acceptHeartbeat env instanceId generation epoch now = .ok s') :
    (∃ r ∈ s.instances, r.connectionGeneration = generation ∧ r.state = .online) ∧
      ∃ name stored, s' = s.beaten name generation stored now := by
  unfold acceptHeartbeat at accepted
  split at accepted
  · cases accepted
  · split at accepted
    · cases accepted
    · cases accepted
    · rename_i beats
      cases accepted
      unfold heartbeat at beats
      split at beats
      · cases beats
      · rename_i row found
        split at beats
        · cases beats
        · rename_i current
          rw [not_or, not_not, not_not] at current
          refine ⟨⟨row, Table.mem_of_find? found, current.2, current.1⟩, ?_⟩
          split at beats
          · cases beats
          · split at beats
            · cases beats
            · cases beats
            · split at beats
              · cases beats
              · cases beats
                exact ⟨_, _, rfl⟩

/-- The `heartbeat` branch leaves the tables alone or accepts the heartbeat. -/
theorem handleHeartbeat_steps {k : ConnId} {session : AgentRelaySession} {message : Json}
    {now : Int} {result : Except Exc Json}
    (done : s.handleHeartbeat env k session message now = (s', result)) :
    s' = s ∨ s.acceptHeartbeat env session.instanceId k
      (Dispatcher.field message "context_epoch") now = .ok s' := by
  unfold handleHeartbeat at done
  split at done
  · cases done
    exact Or.inl rfl
  · split at done
    · cases done
      exact Or.inl rfl
    · split at done
      · cases done
        exact Or.inl rfl
      · rename_i accepted
        split at done
        · cases done
          exact Or.inr accepted
        · cases done
          exact Or.inr accepted

/-- The end of a session closes the row of its generation, or nothing. -/
theorem disconnectRelay_cases (env : Env) (s : Store) (instanceId : String) (generation : Nat)
    (now : Int) : s.disconnectRelay env instanceId generation now = s ∨
      ∃ name, s.disconnectRelay env instanceId generation now = { s with
        instances := s.instances.updateWhere
          (fun r => decide (r.instanceId = name) && decide (r.connectionGeneration = generation))
          (close fun _ => some (asTimestamp now)) (close_key _) } := by
  unfold disconnectRelay
  split
  · exact Or.inl rfl
  · unfold disconnectInstance
    split
    · exact Or.inl rfl
    · split
      · exact Or.inl rfl
      · exact Or.inr ⟨_, rfl⟩

end Store

namespace System

/-- The operation of an event, with the tables it leaves. -/
inductive Performs (env : Env) (sys : System) : Event → Store → Prop
  | nothing (e : Event) : Performs env sys e sys.store
  | issues {rawToken : String} {connectorId capabilityProfile displayLabel : Json}
      {expires now : Int} {store : Store}
      (issued : sys.store.issueToken env rawToken connectorId capabilityProfile displayLabel
        expires now = .ok store) :
      Performs env sys
        (.issueToken rawToken connectorId capabilityProfile displayLabel expires now) store
  | revokes {connectorId : String} {now : Int} {store : Store}
      (revoked : sys.store.revokeDevice connectorId now = some store) :
      Performs env sys (.revoke connectorId now) store
  | deletes {connectorId : String} {store : Store}
      (deleted : sys.store.deleteRevokedDevice connectorId = .ok store) :
      Performs env sys (.delete connectorId) store
  | renames {connectorId : String} {displayLabel : Json} {store : Store}
      (renamed : sys.store.rename env connectorId displayLabel = .ok store) :
      Performs env sys (.rename connectorId displayLabel) store
  | sweeps {e : Event} {store : Store} (free : e.conn? = none)
      (swept : sys.store.Sweeps store) : Performs env sys e store
  | challenges {e : Event} {k : ConnId} {challenge : Store.Challenge} {now : Int} {store : Store}
      (asked : e.challenge? = some (k, challenge, now))
      (created : sys.store.createChallenge env challenge now = some store) :
      Performs env sys e store
  | enrolls {k : ConnId} {challenge : Store.Challenge} {message : Json} {now : Int}
      {store : Store} {result : Except Exc String}
      (phase : sys.phases.get? k = some (.challenging challenge))
      (type : hasType message "enroll" = true)
      (done : sys.store.handleEnroll env message now = (store, result)) :
      Performs env sys (.receive k (.ok message) now) store
  | authenticates {k : ConnId} {phase : Phase} {challenge : Store.Challenge} {message : Json}
      {now : Int} {store : Store} {result : Except Exc AgentRelaySession}
      (here : sys.phases.get? k = some phase) (waits : phase.challenge? = some challenge)
      (done : sys.store.authenticateSession env k challenge message now = (store, result)) :
      Performs env sys (.receive k (.ok message) now) store
  | beats {k : ConnId} {session : AgentRelaySession} {message : Json} {now : Int}
      {store : Store} {result : Except Exc Json}
      (here : sys.dispatcher.sessions.get? k = some session)
      (done : sys.store.handleHeartbeat env k session message now = (store, result)) :
      Performs env sys (.receive k (.ok message) now) store

/-- What the end of a handler does to the tables afterwards. -/
inductive Closes (env : Env) (sys : System) (store : Store) : Option ConnId → Store → Prop
  | same (who : Option ConnId) : Closes env sys store who store
  | closed {k : ConnId} {session : AgentRelaySession} (now : Int)
      (here : sys.dispatcher.sessions.get? k = some session) :
      Closes env sys store (some k) (store.disconnectRelay env session.instanceId k now)

variable {env : Env} {sys sys' : System} {e : Event}

theorem teardown_closes {store : Store} {k : ConnId} {now : Int} :
    Closes env sys store (some k) (sys.teardown env store k now).store := by
  unfold teardown
  split
  · exact .same _
  · rename_i session here
    simp only
    split
    · exact .closed now here
    · exact .same _

theorem raises_closes {store : Store} {k : ConnId} {stage : HandshakeStage} {x : Exc}
    {now : Int} : Closes env sys store (some k) (sys.raises env store k stage x now).store := by
  cases x with
  | agent x => exact .same _
  | protocol => exact .same _
  | escape => exact teardown_closes

/-- What an event does to the tables: its operation, then the end of the handler. -/
def Operates (env : Env) (sys : System) (e : Event) (store : Store) : Prop :=
  ∃ mid, Performs env sys e mid ∧ Closes env sys mid e.conn? store

theorem Performs.operates {store : Store} (performs : Performs env sys e store) :
    Operates env sys e store := ⟨store, performs, .same _⟩

theorem raises_operates {k : ConnId} {frame : Except Exc Json} {stage : HandshakeStage}
    {x : Exc} {now now' : Int} {store : Store}
    (performs : Performs env sys (.receive k frame now) store) :
    Operates env sys (.receive k frame now) (sys.raises env store k stage x now').store :=
  ⟨store, performs, raises_closes⟩

theorem authenticates_operates {k : ConnId} {phase : Phase} {challenge : Store.Challenge}
    {message : Json} {now : Int} (here : sys.phases.get? k = some phase)
    (waits : phase.challenge? = some challenge) :
    Operates env sys (.receive k (.ok message) now)
      (sys.authenticates env k challenge message now).store := by
  unfold authenticates
  split
  · rename_i store x refused
    exact raises_operates (.authenticates here waits refused)
  · rename_i store session accepted
    exact (Performs.authenticates here waits accepted).operates

theorem handshakes_operates {k : ConnId} {challenge : Store.Challenge} {message : Json}
    {now : Int} (phase : sys.phases.get? k = some (.challenging challenge)) :
    Operates env sys (.receive k (.ok message) now)
      (sys.handshakes env k challenge message now).store := by
  unfold handshakes
  split
  · rename_i type
    split
    · rename_i store x refused
      exact raises_operates (.enrolls phase type refused)
    · rename_i store connectorId enrolled
      exact (Performs.enrolls phase type enrolled).operates
  · exact authenticates_operates phase rfl

theorem serves_operates {k : ConnId} {session : AgentRelaySession} {message : Json} {now : Int}
    (here : sys.dispatcher.sessions.get? k = some session) :
    Operates env sys (.receive k (.ok message) now)
      (sys.serves env k session message now).store := by
  unfold serves
  split
  · split
    · rename_i store x refused
      exact raises_operates (.beats here refused)
    · rename_i store epoch accepted
      exact (Performs.beats here accepted).operates
  · split
    · split
      · exact raises_operates (.nothing _)
      · exact (Performs.nothing _).operates
    · exact raises_operates (.nothing _)

theorem receives_operates {k : ConnId} {frame : Except Exc Json} {now : Int} {plan : Plan}
    (received : sys.receives env k frame now = some plan) :
    Operates env sys (.receive k frame now) plan.store := by
  unfold receives at received
  split at received
  · rename_i challenge phase
    split at received
    · cases received
      exact raises_operates (.nothing _)
    · cases received
      exact handshakes_operates phase
  · rename_i challenge phase
    split at received
    · cases received
      exact raises_operates (.nothing _)
    · cases received
      exact authenticates_operates phase rfl
  · split at received
    · cases received
    · rename_i session here
      split at received
      · cases received
        exact raises_operates (.nothing _)
      · cases received
        exact serves_operates here
  · cases received

theorem challenges_operates {k : ConnId} {challenge : Store.Challenge}
    {next : Store.Challenge → Phase} {now : Int} (own : e.conn? = some k)
    (asked : e.challenge? = some (k, challenge, now)) :
    Operates env sys e (sys.challenges env k challenge next now).store := by
  unfold challenges
  split
  · exact ⟨sys.store, .nothing _, own ▸ teardown_closes⟩
  · rename_i store created
    exact (Performs.challenges asked created).operates

/-- A lookup for routing is one sweep. -/
theorem relaySession_sweeps {s s' : Store} {connectorId : String} {instanceId : Option String}
    {now : Int} {row : Option InstanceRow}
    (looked : s.relaySession env connectorId instanceId now = .ok (s', row)) : s.Sweeps s' := by
  unfold Store.relaySession at looked
  split at looked
  · cases looked
    exact .single ⟨_, rfl⟩
  · cases looked
    exact .single ⟨_, rfl⟩
  · split at looked
    · cases looked
    · cases looked
      exact .single ⟨_, rfl⟩

theorem deviceStatus_sweeps (env : Env) (s : Store) (connectorId : String) (now : Int) :
    s.Sweeps (s.deviceStatus env connectorId now).1 := by
  unfold Store.deviceStatus
  split
  · exact .refl
  · exact .single ⟨_, rfl⟩

theorem operatorDevices_sweeps (env : Env) (s : Store) (now : Int) :
    s.Sweeps (s.operatorDevices env now).1 := by
  unfold Store.operatorDevices
  refine List.foldlRecOn
    (motive := fun read : Store × List (Except AgentCode Store.DeviceStatus) => s.Sweeps read.1)
    _ _ .refl fun read swept device _ => ?_
  exact swept.trans (deviceStatus_sweeps env read.1 device.connectorId now)

theorem revoke_operates {connectorId : String} {now : Int} :
    Operates env sys (.revoke connectorId now)
      (sys.writes ((sys.store.revokeDevice connectorId now).getD sys.store)).store := by
  cases revoked : sys.store.revokeDevice connectorId now with
  | none => exact (Performs.nothing _).operates
  | some store => exact (Performs.revokes revoked).operates

theorem sweeps_operates {store : Store} (free : e.conn? = none)
    (swept : sys.store.Sweeps store) : Operates env sys e (sys.writes store).store :=
  (Performs.sweeps free swept).operates

theorem commands_operates {c : CallId} {input : CommandInput} {uuid : String} {now : Int} :
    Operates env sys (.command c input uuid now) (sys.commands env c input uuid now).store := by
  unfold commands
  split
  · exact (Performs.nothing _).operates
  · split
    · exact (Performs.nothing _).operates
    · split
      · exact (Performs.nothing _).operates
      · rename_i store row looked
        exact (Performs.sweeps rfl (relaySession_sweeps looked)).operates

theorem cancels_operates {x : CancelId} {connectorId requestId : String} {now : Int} :
    Operates env sys (.cancel x connectorId requestId now)
      (sys.cancels env x connectorId requestId now).store := by
  unfold cancels
  split
  · exact (Performs.nothing _).operates
  · split
    · exact (Performs.nothing _).operates
    · split
      · exact (Performs.nothing _).operates
      · rename_i store row looked
        exact (Performs.sweeps rfl (relaySession_sweeps looked)).operates

/-- An event of the operator: its operation, if that succeeds. -/
theorem orSame_operates {ε : Type} {result : Except ε Store}
    (performs : ∀ {store}, result = .ok store → Performs env sys e store) :
    Operates env sys e (sys.writes (sys.orSame result)).store := by
  unfold orSame
  split
  · exact (Performs.nothing e).operates
  · exact (performs rfl).operates

/-- **Every event performs at most one operation of the store.** -/
theorem plan_performs {plan : Plan} (planned : sys.plan env e = some plan) :
    Operates env sys e plan.store := by
  cases e with
  | rejectUpgrade k upgrade =>
      obtain ⟨_, _, rfl⟩ := rejectsUpgrade_finishes planned
      exact (Performs.nothing _).operates
  | connect k challenge now =>
      have planned : sys.connects env k challenge now = some plan := planned
      unfold connects at planned
      split at planned
      · cases planned
      · cases planned
        exact challenges_operates rfl rfl
  | receive k frame now => exact receives_operates planned
  | handshakeTimeout k now =>
      have planned : sys.timesOut env k now = some plan := planned
      unfold timesOut at planned
      split at planned
      · cases planned
        exact ⟨sys.store, .nothing _, raises_closes⟩
      · cases planned
        exact ⟨sys.store, .nothing _, raises_closes⟩
      · cases planned
  | rechallenge k challenge now =>
      have planned : sys.rechallenges env k challenge now = some plan := planned
      unfold rechallenges at planned
      split at planned
      · cases planned
        exact challenges_operates rfl rfl
      · cases planned
  | ready k =>
      have planned : sys.readies env k none = some plan := planned
      unfold readies at planned
      split at planned
      · cases planned
        exact (Performs.nothing _).operates
      · cases planned
  | readyFailed k now =>
      have planned : sys.readies env k (some now) = some plan := planned
      unfold readies at planned
      split at planned
      · cases planned
        exact ⟨sys.store, .nothing _, raises_closes⟩
      · cases planned
  | finish k now => exact ends_teardown planned ▸ ⟨sys.store, .nothing _, teardown_closes⟩
  | disconnect k now => exact ends_teardown planned ▸ ⟨sys.store, .nothing _, teardown_closes⟩
  | issueToken rawToken connectorId profile label expires now =>
      obtain rfl := Option.some.inj planned
      exact orSame_operates .issues
  | revoke connectorId now =>
      obtain rfl := Option.some.inj planned
      exact revoke_operates
  | delete connectorId =>
      obtain rfl := Option.some.inj planned
      exact orSame_operates .deletes
  | rename connectorId label =>
      obtain rfl := Option.some.inj planned
      exact orSame_operates .renames
  | deviceStatus connectorId now =>
      obtain rfl := Option.some.inj planned
      exact sweeps_operates rfl (deviceStatus_sweeps env _ _ _)
  | operatorDevices now =>
      obtain rfl := Option.some.inj planned
      exact sweeps_operates rfl (operatorDevices_sweeps env _ _)
  | onlineAgents now =>
      obtain rfl := Option.some.inj planned
      exact sweeps_operates rfl (.single ⟨Store.freshAfter env now, rfl⟩)
  | command c input uuid now =>
      obtain rfl := Option.some.inj planned
      exact commands_operates
  | cancel x connectorId requestId now =>
      obtain rfl := Option.some.inj planned
      exact cancels_operates
  | delivered | sendFailed | expire | cancelTask | resume | cancelSent | cancelFailed =>
      obtain rfl := Option.some.inj planned
      exact (Performs.nothing _).operates

theorem step_operates (stepped : sys.step env e = some sys') :
    Operates env sys e sys'.store := by
  obtain ⟨plan, planned, store, _, _⟩ := step_plan stepped
  exact store ▸ plan_performs planned

/-! ## Tables that an operation leaves alone -/

/-- The end of a handler touches the instances only. -/
theorem Closes.same_tables {store store' : Store} {who : Option ConnId}
    (closes : Closes env sys store who store') :
    store'.devices = store.devices ∧ store'.tokens = store.tokens ∧
      store'.challenges = store.challenges := by
  cases closes with
  | same => exact ⟨rfl, rfl, rfl⟩
  | closed now here =>
      rcases Store.disconnectRelay_cases env store _ _ now with same | ⟨_, same⟩
      · rw [same]
        exact ⟨rfl, rfl, rfl⟩
      · rw [same]
        exact ⟨rfl, rfl, rfl⟩

theorem Closes.aged {store store' : Store} {who : Option ConnId}
    (closes : Closes env sys store who store') : Store.Aged store store' := by
  cases closes with
  | same => exact .refl store
  | closed now here => exact Store.disconnectRelay_aged env store _ _ now

theorem sweeps_devices {s s' : Store} (swept : s.Sweeps s') : s'.devices = s.devices := by
  induction swept with
  | refl => rfl
  | tail _ next ih =>
      obtain ⟨_, rfl⟩ := next
      exact ih

theorem sweeps_tokens {s s' : Store} (swept : s.Sweeps s') : s'.tokens = s.tokens := by
  induction swept with
  | refl => rfl
  | tail _ next ih =>
      obtain ⟨_, rfl⟩ := next
      exact ih

theorem sweeps_challenges {s s' : Store} (swept : s.Sweeps s') :
    s'.challenges = s.challenges := by
  induction swept with
  | refl => rfl
  | tail _ next ih =>
      obtain ⟨_, rfl⟩ := next
      exact ih

end System

end RemoteAgent
