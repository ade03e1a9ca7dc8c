import RemoteAgent.Operations
import RemoteAgent.Routing

/-!
# Revocation

The websocket and the registry entry of a device survive its revocation.  What keeps
it out is in the tables: no device row of it is enrolled and no instance row of it is
online (`Revoked`), and every operation preserves that until the device is enrolled
again.

`revocation_effective` says what follows in every state of every run after a
revocation: nothing is sent to the device, nothing it says is accepted, and nowhere
is it shown as online.
-/

open Wire Storage Transition

namespace RemoteAgent

namespace Store

/-- A connector without an enrolled device and without an instance online. -/
structure Revoked (s : Store) (connectorId : String) : Prop where
  device : ∀ r ∈ s.devices, r.connectorId = connectorId → r.enrollmentState ≠ .enrolled
  instances : ∀ r ∈ s.instances, r.connectorId = connectorId → r.state ≠ .online

variable {env : Env} {s s' : Store} {connectorId : String}

theorem revokeDevice_revoked {now : Int} (revoked : s.revokeDevice connectorId now = some s') :
    s'.Revoked connectorId := by
  unfold revokeDevice at revoked
  split at revoked
  · cases revoked
  · cases revoked
    constructor
    · intro r mem own enrolled
      have mem : r ∈ s.devices.updateWhere _ _ (DeviceRow.revoke_key _) := mem
      obtain ⟨old, _, rfl⟩ := Table.mem_updateWhere.mp mem
      split at enrolled
      · cases enrolled
      · rename_i other
        rw [if_neg other] at own
        exact other (decide_eq_true own)
    · intro r mem own online
      have mem : r ∈ s.instances.updateWhere _ _ (close_key _) := mem
      obtain ⟨old, _, rfl⟩ := Table.mem_updateWhere.mp mem
      split at online
      · cases online
      · rename_i other
        rw [if_neg other] at own
        simp only [own, decide_true, online, Bool.true_and, decide_eq_true_eq] at other
        exact other fun same => nomatch same

theorem Revoked.aged (revoked : s.Revoked connectorId) (aged : Aged s s') :
    s'.Revoked connectorId where
  device := by
    intro r mem own enrolled
    obtain ⟨old, memOld, from_⟩ := aged.devices r mem
    exact revoked.device old memOld (from_.connectorId.symm.trans own) (from_.enrolled enrolled)
  instances := by
    intro r mem own online
    obtain ⟨old, memOld, from_⟩ := aged.instances r mem
    exact revoked.instances old memOld (from_.connectorId.symm.trans own) (from_.online online)

/-- Another device may be enrolled. -/
theorem Revoked.enrolls {other : String} (revoked : s.Revoked connectorId)
    (enrolls : Enrolls s s' other) (ne : other ≠ connectorId) : s'.Revoked connectorId where
  device := by
    intro r mem own enrolled
    rcases enrolls.devices r mem with isNew | ⟨old, memOld, from_⟩
    · exact ne (isNew.symm.trans own)
    · exact revoked.device old memOld (from_.connectorId.symm.trans own) (from_.enrolled enrolled)
  instances := by
    rw [enrolls.instances]
    exact revoked.instances

/-- Only an instance of an enrolled device comes online. -/
theorem Revoked.not_online {other instanceId : String} {generation : Nat} {device : DeviceRow}
    (revoked : s.Revoked connectorId) (online : Online s s' other instanceId generation device) :
    other ≠ connectorId := by
  intro same
  refine revoked.device device (Table.mem_of_find? online.found) ?_ online.enrolled
  exact (Table.key_of_find? online.found).trans same

theorem Revoked.online {other instanceId : String} {generation : Nat} {device : DeviceRow}
    (revoked : s.Revoked connectorId) (online : Online s s' other instanceId generation device) :
    s'.Revoked connectorId where
  device := by
    rw [online.devices]
    exact revoked.device
  instances := by
    intro r mem own
    rcases online.instances r mem with ⟨old, _⟩ | ⟨_, connector, _⟩
    · exact revoked.instances r old own
    · exact absurd (connector.symm.trans own) (revoked.not_online online)

/-! ## What a revoked device is refused -/

theorem Revoked.authenticateRelay (revoked : s.Revoked connectorId)
    {challengeId challenge name instanceId epoch signature : Json} {generation : Nat}
    {capabilities : List String} {now : Int} {identity : Identity}
    (accepted : (s.authenticateRelay env challengeId challenge name instanceId epoch signature
      generation capabilities now).2 = .ok identity) : identity.connectorId ≠ connectorId := by
  rcases authenticateRelay_cases (Prod.mk.eta.symm.trans (congrArg _ accepted)) with
    ⟨_, isError, _⟩ | ⟨_, _, isOk, online⟩
  · cases isError
  · cases isOk
    exact revoked.not_online online

theorem Revoked.agentInventory (revoked : s.Revoked connectorId) {now : Int} {agent : OnlineAgent}
    (listed : agent ∈ (s.agentInventory env now).2) : agent.deviceId ≠ connectorId := by
  obtain ⟨⟨device, r⟩, row, rfl⟩ := List.mem_map.mp listed
  rw [List.mem_insertionSort] at row
  obtain ⟨joined, enrolled⟩ := List.mem_filter.mp row
  obtain ⟨device', memDevice, pair⟩ := List.mem_flatMap.mp joined
  obtain ⟨r', _, same⟩ := List.mem_map.mp pair
  cases same
  exact fun own => revoked.device device memDevice own (of_decide_eq_true enrolled)

theorem Revoked.deviceStatus (revoked : s.Revoked connectorId) {now : Int} {status : DeviceStatus}
    (reported : (s.deviceStatus env connectorId now).2 = .ok status) :
    status.connectionState = .offline := by
  unfold Store.deviceStatus at reported
  split at reported
  · cases reported
  · cases reported
    have none_ : (s.latestOnlineInstance connectorId (freshAfter env now)).2 = none := by
      cases looked : s.latestOnlineInstance connectorId (freshAfter env now) with
      | mk s' latest =>
          cases latest with
          | none => rfl
          | some r =>
              obtain ⟨mem, own, online⟩ := latestOnlineInstance_row looked
              obtain ⟨rfl, _⟩ := Prod.mk.inj looked
              exact absurd online
                ((revoked.aged (markStaleInstances_aged s _)).instances r mem own)
    show (if (s.latestOnlineInstance connectorId (freshAfter env now)).2.isSome then
      InstanceState.online else .offline) = .offline
    rw [none_]
    rfl

end Store

namespace System

variable {env : Env} {sys sys' revoked : System} {e : Event} {connectorId : String}

/-! ## Every run after a revocation -/

/-- The event does not enroll the connector. -/
def NotReenrolled (env : Env) (connectorId : String) (sys : System) (e : Event) : Prop :=
  ∀ sys', sys.step env e = some sys' → sys.store.getDevice connectorId = none →
    sys'.store.getDevice connectorId = none

instance : Decidable (NotReenrolled env connectorId sys e) :=
  match stepped : sys.step env e with
  | none => isTrue fun _ isStep => nomatch stepped.symm.trans isStep
  | some sys' => decidable_of_iff (sys.store.getDevice connectorId = none →
      sys'.store.getDevice connectorId = none) <| by
    unfold NotReenrolled
    rw [stepped]
    simp only [Option.some.injEq, forall_eq']

theorem revoked_step (out : sys.store.Revoked connectorId)
    (allowed : NotReenrolled env connectorId sys e) (stepped : sys.step env e = some sys') :
    sys'.store.Revoked connectorId := by
  have kept := allowed sys' stepped
  obtain ⟨plan, planned, store, _, _⟩ := step_plan stepped
  rw [store] at kept ⊢
  cases plan_effect planned with
  | aged aged act => exact out.aged aged
  | enrolls other enrolls act =>
      refine out.enrolls enrolls fun same => ?_
      subst same
      obtain ⟨device, present⟩ := enrolls.present
      rw [kept enrolls.absent] at present
      cases present
  | online k session device online profile capabilities act => exact out.online online

/-- No frame is sent for a revoked connector. -/
theorem revoked_unsent (out : sys.store.Revoked connectorId)
    (stepped : sys.step env e = some sys') :
    sys'.dispatcher.dispatched.filter (fun rq => decide (rq.key.connectorId = connectorId)) =
      sys.dispatcher.dispatched.filter (fun rq => decide (rq.key.connectorId = connectorId)) := by
  rcases dispatch_routed stepped with same | ⟨rq, appended, routed, _⟩
  · rw [same]
  · obtain ⟨r, mem, connector, _, online⟩ := routed.row
    have other : rq.key.connectorId ≠ connectorId := fun own =>
      out.instances r mem (connector.trans own) online
    rw [appended, List.filter_append, List.filter_cons_of_neg (by simpa using other),
      List.filter_nil, List.append_nil]

/-- What a revoked connector is kept from in state `sys`; `revoked` is the state after
the revocation. -/
structure ShutOut (env : Env) (connectorId : String) (revoked sys : System) : Prop where
  unsent : sys.dispatcher.dispatched.filter (fun rq => decide (rq.key.connectorId = connectorId)) =
    revoked.dispatcher.dispatched.filter (fun rq => decide (rq.key.connectorId = connectorId))
  unauthenticated : ∀ challengeId challenge name instanceId epoch signature generation
    capabilities now identity, (sys.store.authenticateRelay env challengeId challenge name
      instanceId epoch signature generation capabilities now).2 = .ok identity →
    identity.connectorId ≠ connectorId
  unheard : ∀ k session, sys.dispatcher.sessions.get? k = some session →
    session.connectorId = connectorId → ∀ epoch now store,
      sys.store.acceptHeartbeat env session.instanceId k epoch now ≠ .ok store
  offline : ∀ r ∈ sys.store.instances, r.connectorId = connectorId → r.state ≠ .online
  unlisted : ∀ now, ∀ agent ∈ (sys.store.agentInventory env now).2, agent.deviceId ≠ connectorId
  status : ∀ now status, (sys.store.deviceStatus env connectorId now).2 = .ok status →
    status.connectionState = .offline

/-- The tables decide; the session of a websocket that is still open does not help. -/
theorem Store.Revoked.shutOut (out : sys.store.Revoked connectorId)
    (generations : Generations sys)
    (unsent : sys.dispatcher.dispatched.filter
        (fun rq => decide (rq.key.connectorId = connectorId)) =
      revoked.dispatcher.dispatched.filter
        (fun rq => decide (rq.key.connectorId = connectorId))) :
    ShutOut env connectorId revoked sys where
  unsent := unsent
  unauthenticated := fun _ _ _ _ _ _ _ _ _ _ accepted => out.authenticateRelay accepted
  unheard := by
    intro k session here own epoch now store beat
    obtain ⟨⟨r, mem, generation, online⟩, _⟩ := Store.acceptHeartbeat_ok beat
    have connector := generations r mem
    unfold Dispatcher.connectorOf at connector
    rw [generation, here] at connector
    exact out.instances r mem ((Option.some.inj connector).symm.trans own) online
  offline := out.instances
  unlisted := fun _ _ listed => out.agentInventory listed
  status := fun _ _ reported => out.deviceStatus reported

/-- **Revocation is effective.**  In every run, from the revocation on and as long as the
connector is not enrolled again, no request frame is sent for it, no authentication and
no heartbeat of it is accepted, no instance row of it is online, and neither inventory
shows it as online. -/
theorem revocation_effective {env : Env} {connectorId : String} {now : Int}
    {before revoked sys : System} (reached : (system env).Reach Machine.anyStep before)
    (known : (before.store.revokeDevice connectorId now).isSome = true)
    (step : before.step env (.revoke connectorId now) = some revoked)
    (later : ((system env).startAt revoked).Reach (NotReenrolled env connectorId) sys) :
    ShutOut env connectorId revoked sys := by
  have stepped : (system env).step before (.revoke connectorId now) = some revoked := step
  have reachedRevoked := reached.step trivial stepped
  have start : revoked.store.Revoked connectorId := by
    obtain ⟨store, stored⟩ := Option.isSome_iff_exists.mp known
    obtain ⟨plan, planned, same, _, _⟩ := step_plan step
    obtain rfl := Option.some.inj planned
    rw [same]
    simp only [writes, stored, Option.getD_some]
    exact Store.revokeDevice_revoked stored
  obtain ⟨out, unsent⟩ : sys.store.Revoked connectorId ∧ _ := later.invariant
    (I := fun sys => sys.store.Revoked connectorId ∧
      sys.dispatcher.dispatched.filter (fun rq => decide (rq.key.connectorId = connectorId)) =
        revoked.dispatcher.dispatched.filter
          (fun rq => decide (rq.key.connectorId = connectorId)))
    ⟨start, rfl⟩
    fun _ holds allowed stepped =>
      ⟨revoked_step holds.1 allowed stepped, (revoked_unsent holds.1 stepped).trans holds.2⟩
  exact Store.Revoked.shutOut out (generations_of_reach (reachedRevoked.startAt later)) unsent

/-- The device is connected when it is revoked, and stays so; a command for it and a
heartbeat of it follow. -/
theorem revocation_effective_connected :
    ∃ revoked sys : System, sys.dispatcher.registry.get? "pc-1" = some 0 ∧
      ShutOut Sample.env "pc-1" revoked sys := by
  have reached : (system Sample.env).Reach Machine.anyStep init := .init
  obtain ⟨before, reached, holds⟩ := reached.exists_of_exec Sample.serving
    (fun sys => (sys.store.revokeDevice "pc-1" (Sample.second 10)).isSome &&
      (sys.step Sample.env (.revoke "pc-1" (Sample.second 10))).any fun revoked =>
        (((system Sample.env).startAt revoked).execIf
          (fun sys e => decide (NotReenrolled Sample.env "pc-1" sys e)) revoked
          [.command 0 (Sample.command "k-1" false) (Sample.uuid 0) (Sample.second 11),
            .receive 0 (.ok (Sample.heartbeatFrame 2)) (Sample.second 12)]).any
          fun sys : System => decide (sys.dispatcher.registry.get? "pc-1" = some 0)) (by decide +kernel)
  obtain ⟨known, holds⟩ := Bool.and_eq_true_iff.mp holds
  obtain ⟨revoked, step, holds⟩ := (Option.any_eq_true _ _).mp holds
  obtain ⟨sys, ended, registered⟩ := (Option.any_eq_true _ _).mp holds
  have start : ((system Sample.env).startAt revoked).Reach
      (NotReenrolled Sample.env "pc-1") revoked := .init
  have later := start.of_execIf (fun _ _ => of_decide_eq_true) ended
  exact ⟨revoked, sys, of_decide_eq_true registered,
    revocation_effective reached known step later⟩

end System

end RemoteAgent
