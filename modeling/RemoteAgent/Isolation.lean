import RemoteAgent.Authentication
import RemoteAgent.Binding

/-!
# Devices apart from one another

What is stored of a connector, and whether it counts as online, depends on its own rows
only (`deviceStatus_congr`, `agentInventory_congr`, `relaySession_congr`).

* `device_isolated_iff`: an operation of one device leaves all of another as it was,
  unless it authenticates with an instance id that the other one has a row for.
* `instance_taken_over`: then the row, and the online state with it, change hands.
-/

open Wire Storage Transition

namespace RemoteAgent

open Dispatcher (field)

namespace Store

variable {env : Env} {s s' : Store} {connectorId : String}

/-! ## What is computed from the rows of a connector -/

/-- The instance rows of a connector. -/
def rowsOf (s : Store) (connectorId : String) : List InstanceRow :=
  s.instances.rows.filter fun r => decide (r.connectorId = connectorId)

/-- A sweep of stale instances, on the rows of a connector. -/
theorem rowsOf_markStaleInstances (staleBefore : Int) :
    (s.markStaleInstances staleBefore).rowsOf connectorId =
      (s.rowsOf connectorId).map fun r =>
        if decide (r.state = .online) && decide (r.lastHeartbeatAt ≤ asTimestamp staleBefore) then
          close (fun r => r.disconnectedAt.or (some r.lastHeartbeatAt)) r else r :=
  Table.filter_updateWhere (close_key _) fun _ => rfl

theorem rowsOf_congr (same : s'.rowsOf connectorId = s.rowsOf connectorId) (staleBefore : Int) :
    (s'.markStaleInstances staleBefore).rowsOf connectorId =
      (s.markStaleInstances staleBefore).rowsOf connectorId := by
  rw [rowsOf_markStaleInstances, rowsOf_markStaleInstances, same]

theorem filter_fresh (freshAfter : Int) :
    (s.instances.rows.filter fun r =>
      decide (r.connectorId = connectorId) && isFresh freshAfter r) =
    (s.rowsOf connectorId).filter (isFresh freshAfter) := by
  unfold rowsOf
  rw [List.filter_filter]
  exact List.filter_congr fun r _ => Bool.and_comm _ _

theorem latestOnlineInstance_congr (same : s'.rowsOf connectorId = s.rowsOf connectorId)
    (freshAfter : Int) : (s'.latestOnlineInstance connectorId freshAfter).2 =
      (s.latestOnlineInstance connectorId freshAfter).2 := by
  unfold latestOnlineInstance
  simp only [filter_fresh, rowsOf_congr same]

theorem exactOnlineInstance_congr (same : s'.rowsOf connectorId = s.rowsOf connectorId)
    (instanceId : String) (freshAfter : Int) :
    (s'.exactOnlineInstance connectorId instanceId freshAfter).2 =
      (s.exactOnlineInstance connectorId instanceId freshAfter).2 := by
  unfold exactOnlineInstance
  simp only [Table.filter_find?, filter_fresh, rowsOf_congr same]

theorem relaySession_congr (same : s'.rowsOf connectorId = s.rowsOf connectorId)
    (instanceId : Option String) (now : Int) :
    (s'.relaySession env connectorId instanceId now).map Prod.snd =
      (s.relaySession env connectorId instanceId now).map Prod.snd := by
  unfold relaySession
  split
  · exact congrArg Except.ok (latestOnlineInstance_congr same _)
  · exact congrArg Except.ok (latestOnlineInstance_congr same _)
  · split
    · rfl
    · exact congrArg Except.ok (exactOnlineInstance_congr same _ _)

theorem deviceStatus_congr (devices : s'.devices = s.devices)
    (same : s'.rowsOf connectorId = s.rowsOf connectorId) (now : Int) :
    (s'.deviceStatus env connectorId now).2 = (s.deviceStatus env connectorId now).2 := by
  unfold deviceStatus getDevice
  rw [devices]
  split
  · rfl
  · simp only [latestOnlineInstance_congr same]

instance : Std.Total agentOrder where
  total a b := by
    unfold agentOrder
    rcases lt_trichotomy a.1.connectorId b.1.connectorId with less | same | less
    · exact Or.inl (Or.inl less)
    · rcases le_total b.2.lastHeartbeatAt a.2.lastHeartbeatAt with first | second
      · exact Or.inl (Or.inr ⟨same, first⟩)
      · exact Or.inr (Or.inr ⟨same.symm, second⟩)
    · exact Or.inr (Or.inl less)

instance : IsTrans (DeviceRow × InstanceRow) agentOrder where
  trans a b c := by
    rintro (less | ⟨same, first⟩) (less' | ⟨same', second⟩)
    · exact Or.inl (less.trans less')
    · exact Or.inl (same' ▸ less)
    · exact Or.inl (same ▸ less')
    · exact Or.inr ⟨same.trans same', second.trans first⟩

/-- The part of the inventory's join that is about a connector. -/
theorem filter_joined (s : Store) (connectorId : String) (staleBefore : Int) :
    ((s.devices.rows.flatMap fun device =>
      (s.instances.rows.filter fun r => decide (r.connectorId = device.connectorId) &&
        isFresh staleBefore r).map (device, ·)).filter
          fun row => decide (row.1.connectorId = connectorId)) =
    s.devices.rows.flatMap fun device =>
      if device.connectorId = connectorId then
        ((s.rowsOf connectorId).filter (isFresh staleBefore)).map (device, ·)
      else [] := by
  rw [List.filter_flatMap]
  refine List.flatMap_congr fun device _ => ?_
  rw [List.filter_map]
  split
  · rename_i own
    rw [own, filter_fresh]
    refine congrArg _ (List.filter_eq_self.mpr fun r _ => ?_)
    exact decide_eq_true own
  · rename_i other
    rw [List.filter_eq_nil_iff.mpr, List.map_nil]
    exact fun r _ isOwn => other (of_decide_eq_true isOwn)

/-- The entries of a connector in the inventory. -/
theorem agentInventory_congr (devices : s'.devices = s.devices)
    (same : s'.rowsOf connectorId = s.rowsOf connectorId) (now : Int) :
    ((s'.agentInventory env now).2.filter fun a => decide (a.deviceId = connectorId)) =
      (s.agentInventory env now).2.filter fun a => decide (a.deviceId = connectorId) := by
  have own : ∀ rows : List (DeviceRow × InstanceRow),
      ((rows.filter fun row => decide (row.1.enrollmentState = .enrolled)).insertionSort
        agentOrder).filter (fun row => decide (row.1.connectorId = connectorId)) =
      ((rows.filter fun row => decide (row.1.connectorId = connectorId)).filter
        fun row => decide (row.1.enrollmentState = .enrolled)).insertionSort agentOrder := by
    intro rows
    rw [filter_insertionSort, List.filter_filter, List.filter_filter]
    exact congrArg _ (List.filter_congr fun row _ => Bool.and_comm _ _)
  have swept : (s'.markStaleInstances (freshAfter env now)).devices =
      (s.markStaleInstances (freshAfter env now)).devices := devices
  unfold agentInventory onlineAgents
  simp only [List.filter_map]
  refine congrArg _ ((own _).trans ((congrArg _ ?_).trans (own _).symm))
  rw [filter_joined, filter_joined, rowsOf_congr same, swept]

/-! ## What the operations of a connection do to the rows of a connector -/

/-- No instance row of a connector bears a generation. -/
def Clear (s : Store) (connectorId : String) (generation : Nat) : Prop :=
  ∀ r ∈ s.rowsOf connectorId, r.connectionGeneration ≠ generation

theorem Clear.row {generation : Nat} (clear : s.Clear connectorId generation) :
    ∀ r ∈ s.instances, decide (r.connectorId = connectorId) = true →
      decide (r.connectionGeneration = generation) = false :=
  fun r mem own => decide_eq_false (clear r (List.mem_filter.mpr ⟨mem, own⟩))

theorem rowsOf_beaten {generation : Nat} (clear : s.Clear connectorId generation)
    (instanceId : String) (epoch : Json) (now : Int) :
    (s.beaten instanceId generation epoch now).rowsOf connectorId = s.rowsOf connectorId := by
  refine Table.filter_updateWhere_other (beat_key _ _) (fun _ => rfl) fun r mem own => ?_
  rw [clear.row r mem own, Bool.and_false, Bool.false_and]

theorem rowsOf_disconnectRelay {generation : Nat} (clear : s.Clear connectorId generation)
    (env : Env) (instanceId : String) (now : Int) :
    (s.disconnectRelay env instanceId generation now).rowsOf connectorId =
      s.rowsOf connectorId := by
  rcases disconnectRelay_cases env s instanceId generation now with same | ⟨name, closed⟩
  · rw [same]
  · rw [closed]
    refine Table.filter_updateWhere_other (close_key _) (fun _ => rfl) fun r mem own => ?_
    rw [clear.row r mem own, Bool.and_false]

/-- The tables with the row of a session that comes online. -/
def comesOnline (s : Store) (row : InstanceRow) : Store :=
  let instances := s.instances.upsert row (replaceInstance row) (replaceInstance_key row)
  { s with instances := instances }

theorem rowsOf_comesOnline {row : InstanceRow} (other : row.connectorId ≠ connectorId)
    (free : ∀ r ∈ s.rowsOf connectorId, r.instanceId ≠ row.instanceId) :
    (s.comesOnline row).rowsOf connectorId = s.rowsOf connectorId := by
  refine Table.filter_upsert_other (decide_eq_false other) fun r mem same => ?_
  refine ⟨decide_eq_false fun own => ?_, decide_eq_false other⟩
  exact free r (List.mem_filter.mpr ⟨mem, decide_eq_true own⟩) same

/-! ## When an authentication gets through -/

/-- The checks of an authentication frame, all passed, for a connector and an instance. -/
structure Admits (env : Env) (s : Store) (challenge : Challenge) (message : Json) (now : Int)
    (connectorId instanceId : String) : Prop where
  complete : requireKeys message authenticateKeys [] = .ok ()
  version : Py.eqInt env.floats (field message "v") protocolVersion = true
  type : hasType message "authenticate" = true
  challengeId : field message "challenge_id" = .str challenge.challengeId
  challenge : field message "challenge" = .str challenge.challenge
  connector : parseConnectorId env (field message "connector_id") = .ok connectorId
  instance_ : parseInstanceId env (field message "instance_id") = .ok instanceId
  unused : ∃ row, ChallengeOpen env s (field message "challenge_id") (field message "challenge")
    now row
  device : ∃ device payload, s.getDevice connectorId = some device ∧
    device.enrollmentState = .enrolled ∧
    relayAuthPayload env (field message "challenge_id") (field message "challenge")
      (.str connectorId) (.str instanceId) (field message "context_epoch") = .ok payload ∧
    verifyEd25519 env (.str device.publicKey) payload (field message "signature") = true
  epoch : ∃ epoch, env.naturalColumn (field message "context_epoch") = some epoch

/-- The row of an authenticated session. -/
def onlineRow (connectorId instanceId : String) (generation : Nat) (contextEpoch : Json)
    (now : Int) : InstanceRow where
  instanceId := instanceId
  connectorId := connectorId
  connectionGeneration := generation
  contextEpoch := contextEpoch
  state := .online
  connectedAt := asTimestamp now
  lastHeartbeatAt := asTimestamp now
  disconnectedAt := none

/-- A session without capabilities of its own comes online if its epoch can be stored. -/
theorem upsertPresence_eq (env : Env) {device : DeviceRow} (found : s.getDevice connectorId = some device)
    (enrolled : device.enrollmentState = .enrolled) (instanceId : String) (generation : Nat)
    (contextEpoch : Json) (now : Int) :
    s.upsertPresence env connectorId instanceId generation contextEpoch [] now =
      match env.naturalColumn contextEpoch with
      | none => .error .escape
      | some epoch =>
          .ok (some (s.comesOnline (onlineRow connectorId instanceId generation epoch now))) := by
  unfold upsertPresence
  simp only [found, enrolled, ne_eq, not_true_eq_false, ↓reduceIte, List.all_nil, Bool.not_true,
    Bool.false_eq_true]
  rfl

/-- An authentication whose checks all pass writes its row. -/
theorem Admits.writes {challenge : Challenge} {message : Json} {now : Int}
    {instanceId : String} (admits : Admits env s challenge message now connectorId instanceId)
    (generation : Nat) : ∃ epoch, env.naturalColumn (field message "context_epoch") = some epoch ∧
      (s.authenticateSession env generation challenge message now).1 =
        (s.useChallenge (env.text (field message "challenge_id")) now).comesOnline
          (onlineRow connectorId instanceId generation epoch now) := by
  obtain ⟨ticket, isOpen⟩ := admits.unused
  obtain ⟨device, payload, found, enrolled, isPayload, verified⟩ := admits.device
  obtain ⟨epoch, isEpoch⟩ := admits.epoch
  have consumed := consumeChallenge_eq_some.mpr ⟨ticket, isOpen, rfl⟩
  have found' : (s.useChallenge (env.text (field message "challenge_id")) now).getDevice
      connectorId = some device := found
  have online := upsertPresence_eq env found' enrolled instanceId generation
    (field message "context_epoch") now
  rw [isEpoch] at online
  refine ⟨epoch, isEpoch, ?_⟩
  have found'' : ((s.useChallenge (env.text (field message "challenge_id")) now).comesOnline
      (onlineRow connectorId instanceId generation epoch now)).getDevice connectorId =
        some device := found
  unfold authenticateSession
  simp only [admits.complete, admits.version, admits.type, Bool.not_true, Bool.false_or,
    Py.eqStr_iff.mpr admits.challengeId, Py.eqStr_iff.mpr admits.challenge, Bool.false_eq_true,
    ↓reduceIte]
  unfold authenticateRelay
  simp only [admits.connector, admits.instance_, consumed]
  unfold authenticateVerified
  simp only [found', enrolled, ne_eq, not_true_eq_false, ↓reduceIte, isPayload, verified,
    Bool.not_true, Bool.false_eq_true, online, found'']

theorem authenticateVerified_epoch {challengeId challenge : Json} {instanceId : String}
    {contextEpoch signature : Json} {generation : Nat} {capabilities : List String} {now : Int}
    (verified : s.authenticateVerified env challengeId challenge connectorId instanceId
      contextEpoch signature generation capabilities now = .ok s') :
    ∃ epoch, env.naturalColumn contextEpoch = some epoch := by
  unfold authenticateVerified at verified
  split at verified
  · cases verified
  · split at verified
    · cases verified
    · split at verified
      · cases verified
      · split at verified
        · cases verified
        · split at verified
          · cases verified
          · cases verified
          · rename_i stored
            unfold upsertPresence at stored
            split at stored
            · cases stored
            · split at stored
              · cases stored
              · split at stored
                · cases stored
                · split at stored
                  · cases stored
                  · rename_i epoch isEpoch
                    exact ⟨epoch, isEpoch⟩

/-- An authentication that gets through has passed every check. -/
theorem authenticateSession_admits {generation : Nat} {challenge : Challenge} {message : Json}
    {now : Int} {session : AgentRelaySession}
    (done : s.authenticateSession env generation challenge message now = (s', .ok session)) :
    Admits env s challenge message now session.connectorId session.instanceId := by
  obtain ⟨row, isOpen, as⟩ := (authenticateSession_steps done).ok
  unfold authenticateSession at done
  split at done
  · cases done
  · rename_i complete
    split at done
    · cases done
    · rename_i checked
      simp only [Bool.or_eq_true, Bool.not_eq_true', not_or, Bool.not_eq_false] at checked
      split at done
      · cases done
      · rename_i s₁ identity accepted
        unfold authenticateRelay at accepted
        split at accepted
        · cases accepted
        · rename_i connectorId connector
          split at accepted
          · cases accepted
          · rename_i instanceId instance_
            split at accepted
            · cases accepted
            · split at accepted
              · cases accepted
              · rename_i verified
                cases accepted
                split at done
                · cases done
                · cases done
                  exact ⟨complete, checked.1.1.1, as.type, as.challengeId, as.challenge,
                    connector, instance_, ⟨row, isOpen⟩, as.device, authenticateVerified_epoch verified⟩

end Store

namespace Dispatcher

variable {env : Env} {d d' : Dispatcher} {a : Act} {connectorId connectorId' : String}

/-! ## What an act of a connection does to another connector -/

/-- The registry entry, the sessions, the pending maps and the calls of a connector are as
they were. -/
structure Untouched (d d' : Dispatcher) (connectorId : String) : Prop where
  registry : d'.registry.get? connectorId = d.registry.get? connectorId
  sessions : ∀ k, d.connectorOf k = some connectorId → d'.sessions.get? k = d.sessions.get? k
  pending : ∀ k, d.connectorOf k = some connectorId → d'.pending k = d.pending k
  calls : ∀ c rq, d.Told c rq → rq.key.connectorId = connectorId →
    d'.calls.get? c = d.calls.get? c

theorem Untouched.refl (d : Dispatcher) (connectorId : String) : Untouched d d connectorId :=
  ⟨rfl, fun _ _ => rfl, fun _ _ => rfl, fun _ _ _ _ => rfl⟩

/-- The call of a pending entry is one of the connection's connector. -/
theorem Wired.entry_own (wired : Wired d) {k : ConnId} (has : d.connectorOf k = some connectorId)
    {id : String} {c : CallId} (entry : (d.pending k).get? id = some c) {rq : Request}
    (told : d.Told c rq) : rq.key.connectorId = connectorId := by
  obtain ⟨rq', running, conn, _⟩ := wired.entry k id c entry
  have home := wired.homed c rq' running.told
  rw [conn, has] at home
  rw [told.unique running.told]
  exact (Option.some.inj home).symm

theorem failPending_untouched (wired : Wired d) {k : ConnId}
    (has : d.connectorOf k = some connectorId') (other : connectorId ≠ connectorId') :
    Untouched d (d.failPending k) connectorId where
  registry := rfl
  sessions := fun _ _ => rfl
  pending := by
    intro k' own
    rw [pending_failPending, if_neg]
    rintro rfl
    rw [own] at has
    exact other (Option.some.inj has)
  calls := by
    intro c rq told own
    rw [get?_failPending]
    split
    · rename_i l live
      split
      · rename_i failed
        exact absurd (own.symm.trans (wired.entry_own has failed.1 told)) other
      · exact live.symm
    · rfl

theorem register_untouched (wired : Wired d) {k : ConnId} {session : AgentRelaySession}
    (free : d.sessions.get? k = none) (other : connectorId ≠ session.connectorId) :
    Untouched d (d.register k session) connectorId := by
  have joined : ∀ {d₀ : Dispatcher}, Untouched d d₀ connectorId → d₀.sessions = d.sessions →
      Untouched d { d₀ with
        registry := d₀.registry.insert session.connectorId k
        sessions := d₀.sessions.insert k session } connectorId := by
    intro d₀ untouched same
    refine ⟨(Dict.get?_insert_of_ne other).trans untouched.registry, fun k' own => ?_,
      untouched.pending, untouched.calls⟩
    have differ : k' ≠ k := by
      rintro rfl
      unfold connectorOf at own
      rw [free] at own
      cases own
    exact (Dict.get?_insert_of_ne differ).trans (congrArg (Dict.get? · k') same)
  unfold register
  cases found : d.registry.get? session.connectorId with
  | none => exact joined (.refl d connectorId) rfl
  | some existing =>
      exact joined (failPending_untouched wired (wired.registered _ _ found) other) rfl

theorem setResult_untouched {c : CallId} {result : Json}
    (apart : ∀ rq, d.Told c rq → rq.key.connectorId ≠ connectorId) :
    Untouched d (d.setResult c result) connectorId := by
  unfold setResult
  split
  · rename_i l live
    refine ⟨rfl, fun _ _ => rfl, fun _ _ => rfl, fun c' rq told own => ?_⟩
    refine Dict.get?_insert_of_ne ?_
    rintro rfl
    exact apart rq told own
  · exact .refl d connectorId

/-- **An act of a connection leaves the other connectors alone.** -/
theorem step_untouched (wired : Wired d) (step : d.step env a = some d') {k : ConnId}
    (own : a.conn? = some k) (has : d'.connectorOf k = some connectorId')
    (other : connectorId ≠ connectorId') : Untouched d d' connectorId := by
  cases a with
  | respond k₀ message =>
      cases own
      simp only [Dispatcher.step] at step
      split at step
      · cases step
      · rename_i session here
        split at step
        · cases step
        · rename_i c result settled
          cases step
          have same : (d.setResult c result).connectorOf k = some connectorId' := has
          unfold connectorOf at same
          rw [sessions_setResult] at same
          have entry := (receiveResponse_ok_iff.mp settled).pending
          have untouched : Untouched d (d.setResult c result) connectorId :=
            setResult_untouched fun rq told mine =>
              other (mine.symm.trans (wired.entry_own same entry told))
          exact ⟨untouched.registry, untouched.sessions, untouched.pending, untouched.calls⟩
  | register k₀ session =>
      cases own
      have joins := step_register step
      rw [joins.connectorOf, if_pos rfl] at has
      simp only [Dispatcher.step] at step
      split at step
      · cases step
      · rename_i free
        cases step
        exact register_untouched wired free (Option.some.inj has ▸ other)
  | remove k₀ =>
      cases own
      simp only [Dispatcher.step] at step
      split at step
      · cases step
      · rename_i session here
        cases step
        have same : d.connectorOf k = some connectorId' := has
        have mine : session.connectorId = connectorId' := by
          unfold connectorOf at same
          rw [here] at same
          exact Option.some.inj same
        have failed := failPending_untouched wired same other
        refine ⟨?_, failed.sessions, failed.pending, failed.calls⟩
        show (if d.removes k session then d.registry.erase session.connectorId
          else d.registry).get? connectorId = d.registry.get? connectorId
        split
        · exact Dict.get?_erase_of_ne (mine ▸ other)
        · rfl
  | beat k₀ contextEpoch =>
      cases own
      simp only [Dispatcher.step] at step
      split at step
      · cases step
      · rename_i session here
        cases step
        refine ⟨rfl, fun k' mine => Dict.get?_insert_of_ne ?_, fun _ _ => rfl, fun _ _ _ _ => rfl⟩
        rintro rfl
        unfold connectorOf at has mine
        rw [here] at mine
        rw [Dict.get?_insert_self] at has
        exact other ((Option.some.inj mine).symm.trans (Option.some.inj has))
  | _ => cases own

end Dispatcher

namespace System

variable {env : Env} {sys sys' : System} {e : Event} {connectorId connectorId' : String}

/-! ## Operations of a device -/

/-- An event is an operation of a device on a connection: an authentication frame that
names it, or anything that the handler of its session does. -/
inductive ActsAs (env : Env) (sys : System) (e : Event) (k : ConnId) (connectorId : String) : Prop
  | authenticates {phase : Phase} {challenge : Store.Challenge} {message : Json} {now : Int}
      (event : e = .receive k (.ok message) now) (here : sys.phases.get? k = some phase)
      (waits : phase.challenge? = some challenge) (type : ¬ TakesEnroll phase message)
      (names : parseConnectorId env (field message "connector_id") = .ok connectorId)
  | serves (own : e.conn? = some k) (session : sys.dispatcher.connectorOf k = some connectorId)

/-- What is stored of a connector, and every answer about it, is as it was. -/
structure Isolated (env : Env) (sys sys' : System) (connectorId : String) : Prop where
  rows : sys'.store.rowsOf connectorId = sys.store.rowsOf connectorId
  links : Dispatcher.Untouched sys.dispatcher sys'.dispatcher connectorId
  status : ∀ now, (sys'.store.deviceStatus env connectorId now).2 =
    (sys.store.deviceStatus env connectorId now).2
  agents : ∀ now,
    ((sys'.store.agentInventory env now).2.filter fun a => decide (a.deviceId = connectorId)) =
      (sys.store.agentInventory env now).2.filter fun a => decide (a.deviceId = connectorId)
  routing : ∀ instanceId now,
    (sys'.store.relaySession env connectorId instanceId now).map Prod.snd =
      (sys.store.relaySession env connectorId instanceId now).map Prod.snd

/-- An authentication frame passes every check and brings an instance id that a connector
has a row for. -/
inductive TakesOver (env : Env) (sys : System) (e : Event) (connectorId : String) : Prop
  | authenticates {k : ConnId} {phase : Phase} {challenge : Store.Challenge} {message : Json}
      {now : Int} {own instanceId : String} (event : e = .receive k (.ok message) now)
      (here : sys.phases.get? k = some phase) (waits : phase.challenge? = some challenge)
      (type : ¬ TakesEnroll phase message)
      (admits : sys.store.Admits env challenge message now own instanceId)
      (row : InstanceRow) (theirs : row ∈ sys.store.rowsOf connectorId)
      (same : row.instanceId = instanceId)

theorem mem_rowsOf {s : Store} {r : InstanceRow} :
    r ∈ s.rowsOf connectorId ↔ r ∈ s.instances ∧ r.connectorId = connectorId := by
  unfold Store.rowsOf
  rw [List.mem_filter, decide_eq_true_iff]
  rfl

/-- The rows of another connector bear other generations. -/
theorem Generations.clear (generations : Generations sys) {k : ConnId}
    (has : sys.dispatcher.connectorOf k = some connectorId') (other : connectorId ≠ connectorId') :
    sys.store.Clear connectorId k := by
  intro r mem same
  obtain ⟨mem, own⟩ := mem_rowsOf.mp mem
  have home := generations r mem
  rw [same, has, own] at home
  exact other (Option.some.inj home).symm

theorem Closes.rowsOf {store store' : Store} {k : ConnId} {who : Option ConnId}
    (closes : Closes env sys store who store') (isWho : who = some k)
    (clear : store.Clear connectorId k) :
    store'.rowsOf connectorId = store.rowsOf connectorId := by
  cases closes with
  | same => rfl
  | closed now here =>
      cases isWho
      exact Store.rowsOf_disconnectRelay clear env _ now

/-- The handler of a session leaves the tables of the other connectors alone. -/
theorem serves_tables (linked : Linked sys) (generations : Generations sys)
    (stepped : sys.step env e = some sys') {k : ConnId} (own : e.conn? = some k)
    (session : sys.dispatcher.connectorOf k = some connectorId')
    (other : connectorId ≠ connectorId') :
    sys'.store.devices = sys.store.devices ∧
      sys'.store.rowsOf connectorId = sys.store.rowsOf connectorId := by
  have clear := generations.clear session other
  have busy : sys.dispatcher.sessions.get? k ≠ none := by
    intro free
    unfold Dispatcher.connectorOf at session
    rw [free] at session
    cases session
  obtain ⟨mid, performs, closes⟩ := step_operates stepped
  have mids : mid.devices = sys.store.devices ∧
      mid.rowsOf connectorId = sys.store.rowsOf connectorId := by
    cases performs with
    | nothing => exact ⟨rfl, rfl⟩
    | issues | revokes | deletes | renames => cases own
    | sweeps free =>
        rw [free] at own
        cases own
    | challenges asked created =>
        obtain ⟨challenges, _, rfl⟩ := Store.createChallenge_ok created
        exact ⟨rfl, rfl⟩
    | enrolls phase type done =>
        cases own
        exact absurd (linked.free phase rfl) busy
    | authenticates here waits done =>
        cases own
        exact absurd (linked.free here waits) busy
    | beats here done =>
        cases own
        rcases Store.handleHeartbeat_steps done with rfl | accepted
        · exact ⟨rfl, rfl⟩
        · obtain ⟨_, name, stored, rfl⟩ := Store.acceptHeartbeat_ok accepted
          exact ⟨rfl, Store.rowsOf_beaten clear name stored _⟩
  have clearMid : mid.Clear connectorId k := fun r mem => clear r (mids.2 ▸ mem)
  exact ⟨closes.same_tables.1.trans mids.1, (closes.rowsOf own clearMid).trans mids.2⟩

/-- An authentication leaves the tables of another connector alone, unless it takes a row
of it. -/
theorem authenticates_tables (linked : Linked sys) {k : ConnId} {phase : Phase}
    {challenge : Store.Challenge} {message : Json} {now : Int}
    (stepped : sys.step env (.receive k (.ok message) now) = some sys')
    (here : sys.phases.get? k = some phase) (waits : phase.challenge? = some challenge)
    (type : ¬ TakesEnroll phase message)
    (names : parseConnectorId env (field message "connector_id") = .ok connectorId')
    (other : connectorId ≠ connectorId')
    (keeps : ¬ TakesOver env sys (.receive k (.ok message) now) connectorId) :
    sys'.store.devices = sys.store.devices ∧
      sys'.store.rowsOf connectorId = sys.store.rowsOf connectorId := by
  rcases step_handshake linked stepped here waits with ⟨takes, _⟩ | ⟨_, store⟩
  · exact absurd takes type
  · rw [store]
    cases done : sys.store.authenticateSession env k challenge message now with
    | mk s' result =>
        refine ⟨(Store.authenticateSession_steps done).devices, ?_⟩
        cases Store.authenticateSession_steps done with
        | refused x => rfl
        | unverified x own challengeOpen => rfl
        | authenticated challengeOpen as =>
            have admits := Store.authenticateSession_admits done
            obtain ⟨row, instanceId, connector, _, _, rfl⟩ := as.stored
            cases admits.connector.symm.trans names
            refine Store.rowsOf_comesOnline (connector ▸ other.symm) fun r mem same => ?_
            exact keeps (.authenticates rfl here waits type admits r mem (same.trans instanceId))

/-- The act of an authentication frame is a registration. -/
theorem authenticates_act {k : ConnId} {challenge : Store.Challenge} {message : Json} {now : Int}
    (free : sys.dispatcher.sessions.get? k = none) {a : Act}
    (act : (sys.authenticates env k challenge message now).act = some a) :
    ∃ session, a = .register k session ∧
      sys.store.authenticateSession env k challenge message now =
        ((sys.authenticates env k challenge message now).store, .ok session) := by
  unfold authenticates at act ⊢
  split at act
  · rename_i store x refused
    cases x with
    | agent x => cases act
    | protocol => cases act
    | escape =>
        have act : (sys.teardown env store k now).act = some a := act
        unfold teardown at act
        rw [free] at act
        cases act
  · rename_i store session accepted
    cases act
    exact ⟨session, rfl, accepted⟩

/-- The dispatcher leaves another connector alone. -/
theorem acts_links (reached : (system env).Reach Machine.anyStep sys)
    (stepped : sys.step env e = some sys') {k : ConnId} (acts : ActsAs env sys e k connectorId')
    (other : connectorId ≠ connectorId') :
    Dispatcher.Untouched sys.dispatcher sys'.dispatcher connectorId := by
  have wired := Dispatcher.wired_of_reach ((system_simulates env).reach_any reached)
  obtain ⟨plan, planned, _, _, next⟩ := step_plan stepped
  split at next
  · rw [next]
    exact .refl _ _
  · rename_i a act
    have isAct : sys.act env e = some a := Option.bind_eq_some_iff.mpr ⟨plan, planned, act⟩
    cases acts with
    | serves own session =>
        exact Dispatcher.step_untouched wired next ((act_conn isAct).trans own)
          (connectorOf_mono stepped session) other
    | @authenticates phase challenge message now event here waits type names =>
        subst event
        have free := (linked_of_reach reached).free here waits
        have planned : sys.receives env k (.ok message) now = some plan := planned
        rw [receives_authenticates here waits type] at planned
        obtain rfl := Option.some.inj planned
        obtain ⟨session, rfl, done⟩ := authenticates_act free act
        have admits := Store.authenticateSession_admits done
        cases admits.connector.symm.trans names
        exact Dispatcher.step_untouched wired next rfl (connectorOf_register next) other

/-- A row that is taken over is no longer one of its connector. -/
theorem takesOver_rows (linked : Linked sys) {k : ConnId} {phase : Phase}
    {challenge : Store.Challenge} {message : Json} {now : Int}
    (stepped : sys.step env (.receive k (.ok message) now) = some sys')
    (here : sys.phases.get? k = some phase) (waits : phase.challenge? = some challenge)
    (type : ¬ TakesEnroll phase message) {own : String} {row : InstanceRow}
    (admits : sys.store.Admits env challenge message now own row.instanceId)
    (other : connectorId ≠ own) :
    row ∉ sys'.store.rowsOf connectorId := by
  intro kept
  rcases step_handshake linked stepped here waits with ⟨takes, _⟩ | ⟨_, store⟩
  · exact type takes
  · obtain ⟨epoch, _, written⟩ := admits.writes k
    obtain ⟨mem, mine⟩ := mem_rowsOf.mp kept
    rw [store, written] at mem
    have mem : row ∈ (sys.store.useChallenge (env.text (field message "challenge_id"))
        now).instances.upsert _ _ _ := mem
    rcases Table.mem_upsert.mp mem with ⟨_, differ⟩ | replaced
    · exact differ rfl
    · refine other (mine.symm.trans ?_)
      rw [replaced]
      split
      · rfl
      · rfl

/-- **Devices apart from one another.**  In every reachable state, an operation of one
device leaves the rows, the session, the pending calls and every answer about another
connector as they were, unless it authenticates with the id of an instance row of that
connector. -/
theorem device_isolated_iff {env : Env} {sys sys' : System} {e : Event}
    (reached : (system env).Reach Machine.anyStep sys) (stepped : sys.step env e = some sys')
    {k : ConnId} {connectorId connectorId' : String} (acts : ActsAs env sys e k connectorId')
    (other : connectorId ≠ connectorId') :
    Isolated env sys sys' connectorId ↔ ¬ TakesOver env sys e connectorId := by
  have linked := linked_of_reach reached
  constructor
  · rintro isolated ⟨event, here, waits, type, admits, row, theirs, rfl⟩
    subst event
    refine takesOver_rows linked stepped here waits type admits ?_
      (isolated.rows ▸ theirs)
    cases acts with
    | authenticates event here' waits' type' names =>
        cases event
        cases admits.connector.symm.trans names
        exact other
    | serves own session =>
        cases own
        have free := linked.free here waits
        unfold Dispatcher.connectorOf at session
        rw [free] at session
        cases session
  · intro keeps
    have tables : sys'.store.devices = sys.store.devices ∧
        sys'.store.rowsOf connectorId = sys.store.rowsOf connectorId := by
      cases acts with
      | authenticates event here waits type names =>
          subst event
          exact authenticates_tables linked stepped here waits type names other keeps
      | serves own session =>
          exact serves_tables linked (generations_of_reach reached) stepped own session other
    obtain ⟨devices, rows⟩ := tables
    exact ⟨rows, acts_links reached stepped acts other, Store.deviceStatus_congr devices rows,
      Store.agentInventory_congr devices rows, Store.relaySession_congr rows⟩

end System

/-! ## Two devices -/

namespace Sample

def neighbourKey : String := "PUAXw-hDiVqStwqnTRt-vJyYLM8uxJaMwM1V8Sr0Zgw"

def neighbourToken : String := "Vn8Lq2Rw5Ty7Ui0Op3As6Df9Gh1Jk4Zx_Cb-Nm2Qe5W"

def thirdChallenge : Store.Challenge :=
  ⟨"c41d8e90-3b7a-4f52-8d16-7e0a9b2c5f34", "Mn4Bv7Cx1Zl9Kj3Hg6Fd0Sa5Po8Iu2Yt"⟩

def fourthChallenge : Store.Challenge :=
  ⟨"27f6b3c8-9d05-4a1e-a7b2-6c3d8e4f1095", "Re5Wq8Ty2Ui6Op0Lk4Jh7Gf1Ds9Az3Xc"⟩

def neighbourEnrollFrame : Json :=
  .obj [("v", .int 1), ("type", .str "enroll"),
    ("challenge_id", .str thirdChallenge.challengeId),
    ("challenge", .str thirdChallenge.challenge), ("connector_id", .str "pc-2"),
    ("enrollment_token", .str neighbourToken), ("public_key", .str neighbourKey),
    ("signature", .str ("hEmPGHktYmzmccSIo1qV6mLfYVzulQ9eUATBO4Yx4ikhCOWLbORMy7vESsoikiNUBQyGR9v_" ++
      "v7YJVHob4dC8DQ"))]

/-- The neighbour authenticates with an instance id of its choice. -/
def neighbourAuthenticateFrame (instanceId signature : String) : Json :=
  .obj [("v", .int 1), ("type", .str "authenticate"),
    ("challenge_id", .str fourthChallenge.challengeId),
    ("challenge", .str fourthChallenge.challenge), ("connector_id", .str "pc-2"),
    ("instance_id", .str instanceId), ("context_epoch", .int 1), ("signature", .str signature)]

/-- With an id of its own. -/
def ownInstanceFrame : Json :=
  neighbourAuthenticateFrame "i-2"
    "5CheUumvxiVoKwj6i2D_jxQPEpjIBhpImWle6oTNrPzFGVGqTrncE5bUkuZqW7A4NX9grJyBUVoc2yDANFoZDg"

/-- With the id that the first device serves under. -/
def takenInstanceFrame : Json :=
  neighbourAuthenticateFrame "i-1"
    "ymuQmZxYBHBN-68A6tMMZLfBL4r9E1x1RpQu6_mwn7gG-q3Ywm0xd2lXOaHsR1o6H0W3jyzpEc8sTq7l-KFrAA"

/-- The first device serves; the neighbour enrolls and is sent its second challenge. -/
def neighbourChallenged : List Event :=
  serving ++
    [.issueToken neighbourToken (.str "pc-2") (.str "full_agent") (.str "PC 2") 600 (second 5),
      .connect 1 thirdChallenge (second 6),
      .receive 1 (.ok neighbourEnrollFrame) (second 7),
      .rechallenge 1 fourthChallenge (second 8)]

/-- Both devices serve. -/
def bothServing : List Event :=
  neighbourChallenged ++ [.receive 1 (.ok ownInstanceFrame) (second 9), .ready 1]

end Sample

namespace System

/-- A heartbeat of the neighbour leaves the first device alone. -/
theorem device_isolated_iff_heartbeat : ∃ sys sys' : System,
    sys.step Sample.env (.receive 1 (.ok (Sample.heartbeatFrame 2)) (Sample.second 10)) =
      some sys' ∧
    sys.dispatcher.registry.get? "pc-1" = some 0 ∧ Isolated Sample.env sys sys' "pc-1" := by
  obtain ⟨sys, reached, checked⟩ := Machine.Reach.exists_of_exec (M := system Sample.env) .init
    Sample.bothServing (fun sys : System =>
      decide (sys.dispatcher.registry.get? "pc-1" = some 0) &&
      decide (sys.dispatcher.connectorOf 1 = some "pc-2") &&
      (sys.step Sample.env
        (.receive 1 (.ok (Sample.heartbeatFrame 2)) (Sample.second 10))).isSome)
    (by decide +kernel)
  obtain ⟨both, taken⟩ := Bool.and_eq_true_iff.mp checked
  obtain ⟨registered, session⟩ := Bool.and_eq_true_iff.mp both
  have session := of_decide_eq_true session
  obtain ⟨sys', stepped⟩ := Option.isSome_iff_exists.mp taken
  refine ⟨sys, sys', stepped, of_decide_eq_true registered, ?_⟩
  refine (device_isolated_iff reached stepped (.serves rfl session) (by decide)).mpr ?_
  rintro ⟨event, here, waits, _⟩
  cases event
  have free := (linked_of_reach reached).free here waits
  unfold Dispatcher.connectorOf at session
  rw [free] at session
  cases session

/-- **The neighbour authenticates with the instance id of the first device**, which is
offline from then on, though its session is still registered. -/
theorem instance_taken_over : ∃ sys sys' : System,
    (system Sample.env).Reach Machine.anyStep sys ∧
    sys.step Sample.env (.receive 1 (.ok Sample.takenInstanceFrame) (Sample.second 9)) =
      some sys' ∧
    ActsAs Sample.env sys (.receive 1 (.ok Sample.takenInstanceFrame) (Sample.second 9)) 1
      "pc-2" ∧
    sys'.dispatcher.registry.get? "pc-1" = some 0 ∧
    ((sys.store.deviceStatus Sample.env "pc-1" (Sample.second 9)).2.toOption.map
      Store.DeviceStatus.connectionState) = some .online ∧
    ((sys'.store.deviceStatus Sample.env "pc-1" (Sample.second 9)).2.toOption.map
      Store.DeviceStatus.connectionState) = some .offline ∧
    ¬ Isolated Sample.env sys sys' "pc-1" := by
  obtain ⟨sys, reached, checked⟩ := Machine.Reach.exists_of_exec (M := system Sample.env) .init
    Sample.neighbourChallenged (fun sys : System =>
      sys.isAuthenticating 1 &&
      (decide (((sys.store.deviceStatus Sample.env "pc-1" (Sample.second 9)).2.toOption.map
        Store.DeviceStatus.connectionState) = some .online) &&
      (sys.step Sample.env (.receive 1 (.ok Sample.takenInstanceFrame) (Sample.second 9))).any
        fun sys' : System => decide (sys'.dispatcher.registry.get? "pc-1" = some 0 ∧
          ((sys'.store.deviceStatus Sample.env "pc-1" (Sample.second 9)).2.toOption.map
            Store.DeviceStatus.connectionState) = some .offline)))
    (by decide +kernel)
  obtain ⟨phase, checked⟩ := Bool.and_eq_true_iff.mp checked
  obtain ⟨online, taken⟩ := Bool.and_eq_true_iff.mp checked
  obtain ⟨sys', stepped, after⟩ := (Option.any_eq_true _ _).mp taken
  obtain ⟨registered, offline⟩ := of_decide_eq_true after
  have online := of_decide_eq_true online
  refine ⟨sys, sys', reached, stepped, ?_, registered, online, offline, fun isolated => ?_⟩
  · unfold isAuthenticating at phase
    split at phase
    · rename_i challenge here
      refine .authenticates rfl here rfl ?_ (by decide +kernel)
      rintro ⟨⟨_, challenging⟩, _⟩
      cases challenging
    · cases phase
  · rw [isolated.status, online] at offline
    cases offline

end System

end RemoteAgent
