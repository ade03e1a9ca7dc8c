import RemoteAgent.Handshake
import RemoteAgent.Routing

/-!
# The capability ceiling

A command is checked against the capabilities that a session was given when it was
authenticated, while the profile that grants them is in the device row, which may since
have been revoked, deleted and enrolled again under another profile.

What ties the two together is the instance row.  While it is online, the device of its
connector is enrolled and the session of its generation has the capabilities of the
device's profile (`Profiled`).  A session that the registry holds for the connector of
a row, and that has the instance of the row, is the one of the row's generation
(`Current`).  `dispatched_within_profile` follows with `dispatch_routed`.
-/

open Wire Storage Transition

namespace RemoteAgent

namespace Store

variable {env : Env} {s s' s'' : Store}

/-! ## Devices with an instance online -/

/-- The device of every instance that is online afterwards is enrolled as before, and
under the same profile. -/
def Attends (s s' : Store) : Prop :=
  ∀ r ∈ s'.instances, r.state = .online → ∀ device,
    s.getDevice r.connectorId = some device → device.enrollmentState = .enrolled →
    ∃ device', s'.getDevice r.connectorId = some device' ∧
      device'.enrollmentState = .enrolled ∧
      device'.capabilityProfile = device.capabilityProfile

/-- An operation that drops and changes no device. -/
theorem Attends.of_kept
    (kept : ∀ connectorId device, s.getDevice connectorId = some device →
      s'.getDevice connectorId = some device) : Attends s s' :=
  fun r _ _ device found enrolled => ⟨device, kept r.connectorId device found, enrolled, rfl⟩

theorem Attends.of_devices (same : s'.devices = s.devices) : Attends s s' := by
  refine .of_kept fun connectorId device found => ?_
  unfold getDevice at found ⊢
  rw [same]
  exact found

/-- Closing instances afterwards changes nothing. -/
theorem Attends.aged (attends : Attends s s') (aged : Aged s' s'')
    (same : s''.devices = s'.devices) : Attends s s'' := by
  intro r mem online device found enrolled
  obtain ⟨old, memOld, from_⟩ := aged.instances r mem
  rw [from_.connectorId] at found ⊢
  obtain ⟨device', found', rest⟩ := attends old memOld (from_.online online) device found enrolled
  unfold getDevice at found' ⊢
  rw [same]
  exact ⟨device', found', rest⟩

theorem revokeDevice_attends {connectorId : String} {now : Int}
    (revoked : s.revokeDevice connectorId now = some s') : Attends s s' := by
  intro r mem online device found enrolled
  have other : r.connectorId ≠ connectorId := by
    intro own
    unfold revokeDevice at revoked
    split at revoked
    · cases revoked
    · cases revoked
      have mem : r ∈ s.instances.updateWhere _ _ (close_key _) := mem
      obtain ⟨old, _, rfl⟩ := Table.mem_updateWhere.mp mem
      split at online
      · cases online
      · rename_i kept
        rw [if_neg kept] at own
        simp only [own, decide_true, online, Bool.true_and, decide_eq_true_eq] at kept
        exact kept fun same => nomatch same
  refine ⟨device, ?_, enrolled, rfl⟩
  unfold revokeDevice at revoked
  split at revoked
  · cases revoked
  · cases revoked
    unfold getDevice at found ⊢
    simp only [Table.find?_updateWhere, found, Option.map_some]
    rw [if_neg]
    rw [Table.key_of_find? found, decide_eq_true_eq]
    exact other

theorem deleteRevokedDevice_attends {connectorId : String}
    (deleted : s.deleteRevokedDevice connectorId = .ok s') : Attends s s' := by
  intro r mem online device found enrolled
  unfold deleteRevokedDevice at deleted
  split at deleted
  · cases deleted
  · split at deleted
    · cases deleted
    · cases deleted
      have other := (Table.mem_deleteWhere.mp mem).2
      refine ⟨device, ?_, enrolled, rfl⟩
      unfold getDevice at found ⊢
      simp only [Table.find?_deleteWhere, found]
      rw [Option.filter_some, if_pos]
      rw [Table.key_of_find? found, other]
      rfl

theorem rename_attends {connectorId : String} {label : Json}
    (renamed : s.rename env connectorId label = .ok s') : Attends s s' := by
  intro r mem online device found enrolled
  unfold rename at renamed
  split at renamed
  · cases renamed
  · split at renamed
    · cases renamed
    · split at renamed
      · cases renamed
      · cases renamed
        unfold getDevice at found ⊢
        simp only [renameDevice, Table.find?_updateWhere, found, Option.map_some]
        split
        · exact ⟨_, rfl, enrolled, rfl⟩
        · exact ⟨_, rfl, enrolled, rfl⟩

/-- An enrollment adds a device and leaves the others alone. -/
theorem EnrollSteps.kept {r : EnrollRequest} {result : Except Exc String}
    (steps : EnrollSteps env s r s' result) {connectorId : String} {device : DeviceRow}
    (found : s.getDevice connectorId = some device) :
    s'.getDevice connectorId = some device := by
  cases steps with
  | refused x => exact found
  | unchallenged tokenOpen closed => exact found
  | unverified x tokenOpen challengeOpen => exact found
  | enrolled tokenOpen challengeOpen as =>
      rw [as.stored]
      unfold getDevice at found ⊢
      rw [Table.find?_insertOrIgnore,
        show (((s.useToken _ _).useChallenge _ _).devices.find? connectorId) = some device
          from found, Option.some_or]

end Store

namespace System

variable {env : Env} {sys sys' : System} {e : Event}

/-- **Every operation attends to the devices with an instance online.** -/
theorem Performs.attends {store : Store} (performs : Performs env sys e store) :
    sys.store.Attends store := by
  cases performs with
  | nothing => exact .of_devices rfl
  | issues issued =>
      refine .of_devices ?_
      obtain ⟨_, _, _, _, _, _, _, _, _, rfl⟩ := Store.issueToken_ok issued
      rfl
  | revokes revoked => exact Store.revokeDevice_attends revoked
  | deletes deleted => exact Store.deleteRevokedDevice_attends deleted
  | renames renamed => exact Store.rename_attends renamed
  | sweeps free swept => exact .of_devices (sweeps_devices swept)
  | challenges asked created =>
      refine .of_devices ?_
      obtain ⟨_, _, rfl⟩ := Store.createChallenge_ok created
      rfl
  | enrolls phase type done => exact .of_kept fun _ _ => (Store.handleEnroll_steps done).kept
  | authenticates here waits done =>
      exact .of_devices (Store.authenticateSession_steps done).devices
  | beats here done =>
      rcases Store.handleHeartbeat_steps done with rfl | accepted
      · exact .of_devices rfl
      · obtain ⟨_, _, _, rfl⟩ := Store.acceptHeartbeat_ok accepted
        exact .of_devices rfl

theorem step_attends (stepped : sys.step env e = some sys') :
    sys.store.Attends sys'.store := by
  obtain ⟨mid, performs, closes⟩ := step_operates stepped
  exact performs.attends.aged closes.aged closes.same_tables.1

/-! ## Rows, sessions and profiles -/

/-- An instance that is online has the session of its generation, with what the profile
of its device grants. -/
def Profiled (sys : System) : Prop :=
  ∀ r ∈ sys.store.instances, r.state = .online →
    ∃ device, sys.store.getDevice r.connectorId = some device ∧
      device.enrollmentState = .enrolled ∧
      ∃ session, sys.dispatcher.sessions.get? r.connectionGeneration = some session ∧
        session.capabilities = capabilitiesForProfile device.capabilityProfile

theorem profiled_init : Profiled init := fun _ mem => nomatch mem

/-- What a step does to the sessions. -/
theorem step_session_kept (stepped : sys.step env e = some sys') {k : ConnId}
    {session : AgentRelaySession} (here : sys.dispatcher.sessions.get? k = some session) :
    ∃ session', sys'.dispatcher.sessions.get? k = some session' ∧
      Dispatcher.SessionFrom session session' := by
  obtain ⟨plan, _, _, _, next⟩ := step_plan stepped
  split at next
  · exact ⟨session, next ▸ here, .refl session⟩
  · exact (Dispatcher.step_sessions next).kept here

/-- A row that was online before, with its device, session and profile. -/
theorem Profiled.kept (profiled : Profiled sys) (stepped : sys.step env e = some sys')
    {old new : InstanceRow} (memOld : old ∈ sys.store.instances)
    (mem : new ∈ sys'.store.instances) (from_ : Store.InstanceFrom old new)
    (online : new.state = .online) :
    ∃ device, sys'.store.getDevice new.connectorId = some device ∧
      device.enrollmentState = .enrolled ∧
      ∃ session, sys'.dispatcher.sessions.get? new.connectionGeneration = some session ∧
        session.capabilities = capabilitiesForProfile device.capabilityProfile := by
  obtain ⟨device, found, enrolled, session, here, granted⟩ :=
    profiled old memOld (from_.online online)
  rw [← from_.connectorId] at found
  rw [← from_.generation] at here
  obtain ⟨device', found', enrolled', profile⟩ :=
    step_attends stepped new mem online device found enrolled
  obtain ⟨session', here', later⟩ := step_session_kept stepped here
  refine ⟨device', found', enrolled', session', here', ?_⟩
  rw [later.capabilities, granted, profile]

theorem Profiled.step (profiled : Profiled sys) (stepped : sys.step env e = some sys') :
    Profiled sys' := by
  intro r mem online
  obtain ⟨plan, planned, store, _, next⟩ := step_plan stepped
  have memPlan := store ▸ mem
  cases plan_effect planned with
  | aged aged act =>
      obtain ⟨old, memOld, from_⟩ := aged.instances r memPlan
      exact profiled.kept stepped memOld mem from_ online
  | enrolls connectorId enrolls act =>
      exact profiled.kept stepped (enrolls.instances ▸ memPlan) mem (.refl r) online
  | online k session device came profile capabilities act =>
      rcases came.instances r memPlan with ⟨old, _⟩ | ⟨_, connector, generation⟩
      · exact profiled.kept stepped old mem (.refl r) online
      · refine ⟨device, ?_, came.enrolled, session, ?_, capabilities⟩
        · have found := came.found
          unfold Store.getDevice at found ⊢
          rwa [connector, store, came.devices]
        · rw [act] at next
          rw [generation]
          rw [(Dispatcher.step_register next).sessions, Dict.get?_insert_self]

/-- The registry's session for the connector of a row is the one of the row's
generation, if it has the instance of the row. -/
def Current (sys : System) : Prop :=
  ∀ r ∈ sys.store.instances, ∀ k session,
    sys.dispatcher.registry.get? r.connectorId = some k →
    sys.dispatcher.sessions.get? k = some session → session.instanceId = r.instanceId →
    r.connectionGeneration = k

theorem current_init : Current init := fun _ mem => nomatch mem

/-- Without a registration, the registry and the rows say no more than before. -/
theorem Current.kept (current : Current sys)
    (stepped : sys.step env e = some sys') {plan : Plan} (planned : sys.plan env e = some plan)
    (act : ∀ k session, plan.act ≠ some (.register k session)) {old new : InstanceRow}
    (memOld : old ∈ sys.store.instances) (from_ : Store.InstanceFrom old new) {k : ConnId}
    {session : AgentRelaySession}
    (registered : sys'.dispatcher.registry.get? new.connectorId = some k)
    (here : sys'.dispatcher.sessions.get? k = some session)
    (same : session.instanceId = new.instanceId) : new.connectionGeneration = k := by
  obtain ⟨plan', planned', _, _, next⟩ := step_plan stepped
  obtain rfl := Option.some.inj (planned.symm.trans planned')
  rw [from_.generation]
  have before : sys.dispatcher.registry.get? old.connectorId = some k ∧
      ∃ session₀, sys.dispatcher.sessions.get? k = some session₀ ∧
        Dispatcher.SessionFrom session₀ session := by
    rw [from_.connectorId] at registered
    split at next
    · rw [next] at registered here
      exact ⟨registered, session, here, .refl session⟩
    · rename_i a isAct
      have unregistered : ∀ session, a ≠ .register k session := fun session is =>
        act k session (isAct.trans (congrArg some is))
      rcases (Dispatcher.step_sessions next).cases here with was | ⟨is, _⟩
      · rcases (Dispatcher.step_effect next).registered_cases registered with
          old | ⟨session₀, joins, _⟩
        · exact ⟨old, was⟩
        · obtain ⟨session₁, was, _⟩ := was
          rw [joins.free] at was
          cases was
      · exact absurd is (unregistered session)
  obtain ⟨registered₀, session₀, here₀, later⟩ := before
  exact current old memOld k session₀ registered₀ here₀
    (later.instanceId.symm.trans (same.trans from_.instanceId))

theorem Current.step (current : Current sys) (wired : Dispatcher.Wired sys.dispatcher)
    (stepped : sys.step env e = some sys') : Current sys' := by
  intro r mem k session registered here same
  obtain ⟨plan, planned, store, _, next⟩ := step_plan stepped
  have memPlan := store ▸ mem
  cases plan_effect planned with
  | aged aged act =>
      obtain ⟨old, memOld, from_⟩ := aged.instances r memPlan
      exact current.kept stepped planned act memOld from_ registered here same
  | enrolls connectorId enrolls act =>
      exact current.kept stepped planned (fun _ _ isAct => nomatch act.symm.trans isAct)
        (enrolls.instances ▸ memPlan) (.refl r) registered here same
  | online k₀ session₀ device came profile capabilities act =>
      rw [act] at next
      have joins := Dispatcher.step_register next
      rw [joins.registry, Dict.get?_insert] at registered
      rw [joins.sessions, Dict.get?_insert] at here
      split at registered
      · cases registered
        rw [if_pos rfl] at here
        cases here
        rcases came.instances r memPlan with ⟨_, other⟩ | ⟨_, _, generation⟩
        · exact absurd same.symm other
        · exact generation
      · rename_i otherConnector
        have before : k ≠ k₀ := by
          rintro rfl
          have owned := wired.registered _ _ registered
          unfold Dispatcher.connectorOf at owned
          rw [joins.free] at owned
          cases owned
        rw [if_neg before] at here
        rcases came.instances r memPlan with ⟨old, _⟩ | ⟨_, connector, _⟩
        · exact current r old k session registered here same
        · exact absurd connector otherConnector

theorem profiled_of_reach {allow : System → Event → Prop}
    (reached : (system env).Reach allow sys) : Profiled sys :=
  reached.invariant profiled_init fun _ profiled _ stepped => profiled.step stepped

theorem current_of_reach (reached : (system env).Reach Machine.anyStep sys) : Current sys :=
  reached.invariant current_init fun before current _ stepped =>
    current.step (Dispatcher.wired_of_reach ((system_simulates env).reach_any before)) stepped

/-! ## What is dispatched -/

/-- **Capability ceiling at dispatch.**  In every run, a request frame carries a tool
that the profile of the connector's enrolled device row grants at that moment. -/
theorem dispatched_within_profile (reached : (system env).Reach Machine.anyStep sys)
    (stepped : sys.step env e = some sys') :
    ∃ new, sys'.dispatcher.dispatched = sys.dispatcher.dispatched ++ new ∧
      ∀ rq ∈ new, ∃ device, sys.store.getDevice rq.key.connectorId = some device ∧
        sys'.store.getDevice rq.key.connectorId = some device ∧
        device.enrollmentState = .enrolled ∧
        capabilityOf rq.tool ∈ capabilitiesForProfile device.capabilityProfile := by
  rcases dispatch_routed stepped with same | ⟨rq, appended, routed, devices⟩
  · exact ⟨[], by rw [same, List.append_nil], fun _ mem => nomatch mem⟩
  · refine ⟨[rq], appended, fun rq' mem => ?_⟩
    obtain rfl := List.mem_singleton.mp mem
    obtain ⟨r, memRow, connector, instance_, online⟩ := routed.row
    obtain ⟨session, here, sameInstance, capable⟩ := routed.session
    obtain ⟨device, found, enrolled, session', here', granted⟩ :=
      profiled_of_reach reached r memRow online
    have generation := current_of_reach reached r memRow rq'.conn session
      (connector ▸ routed.registered) here (sameInstance.trans instance_.symm)
    rw [generation, here] at here'
    cases here'
    rw [connector] at found
    refine ⟨device, found, ?_, enrolled, ?_⟩
    · unfold Store.getDevice at found ⊢
      rwa [devices]
    · rw [← granted]
      exact List.contains_iff_mem.mp capable

def executesOne (requests : List Request) : Bool :=
  match requests with
  | [rq] => decide (rq.tool = "terminal.execute")
  | _ => false

/-- The command that the sample device is sent. -/
theorem dispatched_within_profile_sent :
    ∃ (sys sys' : System) (rq : Request), rq.tool = "terminal.execute" ∧
      sys'.dispatcher.dispatched = sys.dispatcher.dispatched ++ [rq] ∧
      ∃ device, sys.store.getDevice rq.key.connectorId = some device ∧
        capabilityOf rq.tool ∈ capabilitiesForProfile device.capabilityProfile := by
  have reached : (system Sample.env).Reach Machine.anyStep init := .init
  obtain ⟨sys, reached, holds⟩ := reached.exists_of_exec Sample.serving
    (fun sys => (sys.step Sample.env (.command 0 (Sample.command "k-1" false) (Sample.uuid 0)
      (Sample.second 10))).any fun sys' =>
        decide (sys.dispatcher.dispatched.length = 0) &&
          executesOne sys'.dispatcher.dispatched) (by decide +kernel)
  obtain ⟨sys', stepped, holds⟩ := (Option.any_eq_true _ _).mp holds
  obtain ⟨none_, one⟩ := Bool.and_eq_true_iff.mp holds
  obtain ⟨new, appended, within⟩ := dispatched_within_profile reached stepped
  rw [List.eq_nil_of_length_eq_zero (of_decide_eq_true none_), List.nil_append] at appended
  unfold executesOne at one
  split at one
  · rename_i rq isOne
    rw [isOne] at appended
    obtain ⟨device, found, _, _, granted⟩ := within rq (appended ▸ List.mem_singleton.mpr rfl)
    refine ⟨sys, sys', rq, of_decide_eq_true one, ?_, device, found, granted⟩
    rw [List.eq_nil_of_length_eq_zero (of_decide_eq_true none_), List.nil_append, isOne]
  · cases one

end System

end RemoteAgent
