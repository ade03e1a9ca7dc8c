import RemoteAgent.Teardown

/-!
# The life of an instance row

A row is online exactly as long as it has no time of disconnection.  `rows_lifecycle`: once
a sweep has closed it, with the time of its last heartbeat, it stays as it is until the
instance id is used again or the device is deleted, in the runs in which no handler ends
after a sweep has closed its row.

* `disconnected_iff_offline`: the five statements that write a state keep it in step with
  the time.
* `reaped_kept`: the one step that changes a row which a sweep has closed.
* `torn_after_sweep`: the `finally` block of a handler that is still registered overwrites
  the time that the sweep recorded.
-/

open Wire Storage Transition

namespace RemoteAgent

/-- The reads, each of which sweeps before it answers. -/
def Event.sweeps : Event → Bool
  | .deviceStatus _ _ | .operatorDevices _ | .onlineAgents _ | .command _ _ _ _
  | .cancel _ _ _ _ => true
  | _ => false

namespace System

variable {env : Env} {sys sys' : System} {e : Event} {past : History}

/-! ## State and time of disconnection -/

/-- The row is online exactly if it has no time of disconnection. -/
def Timed (r : InstanceRow) : Prop := r.state = .online ↔ r.disconnectedAt = none

theorem timed_close {at_ : InstanceRow → Option Int} {r : InstanceRow} (is : (at_ r).isSome) :
    Timed (Store.close at_ r) := by
  obtain ⟨t, isTime⟩ := Option.isSome_iff_exists.mp is
  constructor
  · exact fun online => nomatch online
  · intro none_
    have none_ : at_ r = none := none_
    rw [isTime] at none_
    cases none_

/-- **A row is online exactly if it has no time of disconnection.** -/
theorem disconnected_iff_offline {allow : System → Event → Prop}
    (reached : (system env).Reach allow sys) :
    ∀ id r, sys.store.instances.find? id = some r → Timed r := by
  refine reached.invariant (I := fun sys => ∀ id r, sys.store.instances.find? id = some r → Timed r)
    (by intro id r none_; cases none_) ?_
  intro s t e _ ih _ stepped id r' found'
  obtain ⟨mid, touches, shuts⟩ := step_row stepped id
  have timed : ∀ r, mid = some r → Timed r := by
    intro r isRow
    cases touches with
    | same => exact ih id r isRow
    | swept free found online =>
        cases isRow
        refine timed_close ?_
        rw [(ih id _ found).mp online]
        rfl
    | revoked event found online =>
        cases isRow
        exact timed_close rfl
    | deleted => cases isRow
    | beaten event here beats =>
        cases isRow
        have was : Timed _ := ih id _ beats.found
        exact was
    | online =>
        cases isRow
        exact iff_of_true rfl rfl
  generalize e.conn? = who, t.store.instances.find? id = row at shuts found'
  cases shuts with
  | same => exact timed r' found'
  | closed =>
      cases found'
      exact timed_close rfl

/-! ## Rows that a sweep has closed -/

/-- At this moment a sweep closes the row of an instance id, and leaves `r`. -/
structure Reaps (m : Machine.Moment System Event) (id : String) (r : InstanceRow) : Prop where
  sweeps : m.event.sweeps = true
  online : ∃ old, m.before.store.instances.find? id = some old ∧ old.state = .online
  closed : m.after.store.instances.find? id = some r
  offline : r.state = .offline

/-- A sweep has closed the row of an instance id and left `r`; since then no
`authenticate_relay` has used the id, and the row has not been deleted. -/
def Reaped (env : Env) (past : History) (id : String) (r : InstanceRow) : Prop :=
  ∃ before m after, past = before ++ m :: after ∧ Reaps m id r ∧ ∀ m' ∈ after,
    (∀ k, ¬ Upserts env m' id k) ∧ (m'.after.store.instances.find? id).isSome

/-- What holds of the rows after a run. -/
structure Lifecycle (env : Env) (past : History) (sys : System) : Prop where
  online : ∀ r ∈ sys.store.instances, r.state = .online ↔ r.disconnectedAt = none
  reaped : ∀ id r, Reaped env past id r →
    sys.store.instances.find? id = some r ∧ r.disconnectedAt = some r.lastHeartbeatAt

/-- A handler whose session is still registered does not end after a sweep has closed the row
of its generation. -/
def SparesReaped (env : Env) (past : History) (m : Machine.Moment System Event) : Prop :=
  ∀ k session r, m.before.act env m.event = some (.remove k) →
    m.before.dispatcher.sessions.get? k = some session →
    m.before.dispatcher.removes k session = true → Reaped env past session.instanceId r →
    r.connectionGeneration ≠ k

/-- A row was closed just now, or some time before. -/
theorem Reaped.cases {m : Machine.Moment System Event} {id : String} {r : InstanceRow}
    (reaped : Reaped env (past ++ [m]) id r) :
    Reaps m id r ∨ (Reaped env past id r ∧ (∀ k, ¬ Upserts env m id k) ∧
      (m.after.store.instances.find? id).isSome) := by
  obtain ⟨before, m₀, after, split, reaps, since⟩ := reaped
  rcases List.eq_nil_or_concat after with rfl | ⟨after, last, rfl⟩
  · obtain ⟨-, same⟩ := List.append_inj' split rfl
    cases same
    exact Or.inl reaps
  · rw [List.concat_eq_append] at split since
    have shifted : past ++ [m] = (before ++ m₀ :: after) ++ [last] := by
      rw [split, List.append_assoc, List.cons_append]
    obtain ⟨rfl, same⟩ := List.append_inj' shifted rfl
    cases same
    exact Or.inr ⟨⟨before, m₀, after, rfl, reaps, fun m' mem =>
      since m' (List.mem_append_left _ mem)⟩,
      since m (List.mem_append_right _ (List.mem_singleton_self m))⟩

theorem Reaped.offline {id : String} {r : InstanceRow} (reaped : Reaped env past id r) :
    r.state = .offline := by
  obtain ⟨_, _, _, _, reaps, _⟩ := reaped
  exact reaps.offline

/-- A read is no event of a connection. -/
theorem conn_of_sweeps (sweeps : e.sweeps = true) : e.conn? = none := by
  cases e with
  | deviceStatus | operatorDevices | onlineAgents | command | cancel => rfl
  | _ => cases sweeps

/-- **A sweep closes a row with the time of its last heartbeat.** -/
theorem Reaps.time (timed : ∀ id r, sys.store.instances.find? id = some r → Timed r)
    (stepped : sys.step env e = some sys') {id : String} {r : InstanceRow}
    (reaps : Reaps ⟨sys, e, sys'⟩ id r) : r.disconnectedAt = some r.lastHeartbeatAt := by
  obtain ⟨mid, touches, shuts⟩ := step_row stepped id
  have free := conn_of_sweeps reaps.sweeps
  have sweeps := reaps.sweeps
  obtain ⟨old, wasFound, wasOnline⟩ := reaps.online
  have closed := reaps.closed
  dsimp only at free closed wasFound sweeps
  rw [free] at shuts
  generalize sys'.store.instances.find? id = row at shuts closed
  cases shuts with
  | same =>
      cases touches with
      | same =>
          obtain rfl := Option.some.inj (wasFound.symm.trans closed)
          cases wasOnline.symm.trans reaps.offline
      | swept _ found online =>
          cases closed
          show Option.or _ _ = _
          rw [(timed id _ found).mp online]
          rfl
      | revoked event => cases event ▸ sweeps
      | deleted => cases closed
      | beaten event => cases event ▸ free
      | online event => cases event ▸ free

/-- **The one step that changes a row which a sweep has closed**: the end of a handler that
is still registered. -/
theorem reaped_kept (stepped : sys.step env e = some sys') {id : String} {r : InstanceRow}
    (found : sys.store.instances.find? id = some r) (offline : r.state = .offline)
    (unwritten : ∀ k, ¬ Upserts env ⟨sys, e, sys'⟩ id k)
    (there : (sys'.store.instances.find? id).isSome) :
    sys'.store.instances.find? id = some r ∨
      ∃ k session, ClosesRow env sys e id (some r) k session r := by
  obtain ⟨mid, touches, after⟩ := step_row_closed stepped id
  have kept : mid = some r ∨ mid = none := by
    cases touches with
    | same => exact Or.inl found
    | swept free there online | revoked event there online =>
        obtain rfl := Option.some.inj (found.symm.trans there)
        cases offline.symm.trans online
    | deleted => exact Or.inr rfl
    | beaten event here beats =>
        obtain rfl := Option.some.inj (found.symm.trans beats.found)
        cases offline.symm.trans beats.online
    | @online k phase challenge message now store session epoch event here waits done isId =>
        have stored := step_authenticated stepped event here waits (congrArg Prod.snd done)
        exact absurd ⟨session, challenge, message, now, ⟨event, ⟨phase, here, waits⟩, stored⟩, isId⟩
          (unwritten k)
  rcases after with same | ⟨k, session, r', now, closes, _⟩
  · rcases kept with rfl | rfl
    · exact Or.inl same
    · rw [same] at there
      cases there
  · rcases kept with rfl | rfl
    · obtain rfl := Option.some.inj closes.row
      exact Or.inr ⟨k, session, closes⟩
    · cases closes.row

/-- The row that the end of a handler closes is that of its session. -/
theorem ClosesRow.own (owned : Owned env sys) {id : String} {k : ConnId}
    {session : AgentRelaySession} {r : InstanceRow}
    (closes : ClosesRow env sys e id (some r) k session r)
    (found : sys.store.instances.find? id = some r) : session.instanceId = id := by
  obtain ⟨session', here, _, isId, _⟩ := owned id r found
  rw [closes.generation] at here
  obtain rfl := Option.some.inj (closes.here.symm.trans here)
  exact isId

/-- **The life of a row.**  In a run in which no handler that is still registered ends after
a sweep has closed its row, every row is online exactly if it has no time of disconnection,
and a row that a sweep has closed stays as the sweep left it, with the time of its last
heartbeat. -/
theorem rows_lifecycle {env : Env} {past : History} {sys : System} (run : (system env).Run past sys)
    (spares : ∀ before m after, past = before ++ m :: after → SparesReaped env before m) :
    Lifecycle env past sys := by
  refine ⟨fun r mem => disconnected_iff_offline run.reach _ r (Table.mem_iff_find?.mp mem), ?_⟩
  induction run with
  | init =>
      rintro id r ⟨before, m, after, split, _⟩
      cases before <;> cases split
  | @step past sys sys' e before stepped ih =>
      have earlier := ih fun first m after split => spares first m (after ++ [_]) (by
        rw [split, List.append_assoc, List.cons_append])
      have spared := spares past ⟨sys, e, sys'⟩ [] rfl
      intro id r reaped
      rcases reaped.cases with reaps | ⟨was, unwritten, there⟩
      · exact ⟨reaps.closed, reaps.time (disconnected_iff_offline before.reach) stepped⟩
      · obtain ⟨found, time⟩ := earlier id r was
        refine ⟨?_, time⟩
        rcases reaped_kept stepped found was.offline unwritten there with same | ⟨k, session, closes⟩
        · exact same
        · have own := closes.own (owned_of_reach before.reach) found
          exact absurd closes.generation (spared k session r closes.act closes.here closes.removes
            (own ▸ was))

/-! ## After the sweep -/

/-- The row of an instance id is in a state. -/
def isState (sys : System) (id : String) (state : InstanceState) : Bool :=
  (sys.store.instances.find? id).any fun r => decide (r.state = state)

theorem isState_iff {id : String} {state : InstanceState} :
    isState sys id state = true ↔
      ∃ r, sys.store.instances.find? id = some r ∧ r.state = state := by
  unfold isState
  simp only [Option.any_eq_true, decide_eq_true_eq]

/-- The clock of a run of a list of events and two more, read off the events. -/
theorem clockRuns_then {events : List Event} {s s₁ s₂ : System} {e₁ e₂ : Event}
    (ended : (system env).exec init events = some s)
    (sorted : ((events ++ [e₁] ++ [e₂]).filterMap Event.now?).Pairwise (· ≤ ·)) :
    ClockRuns ((system env).history init events ++ [⟨s, e₁, s₁⟩] ++ [⟨s₁, e₂, s₂⟩]) := by
  have are : readings ((system env).history init events ++ [⟨s, e₁, s₁⟩] ++ [⟨s₁, e₂, s₂⟩]) =
      (events ++ [e₁] ++ [e₂]).filterMap Event.now? := by
    have events_ := Machine.events_of_exec ended
    unfold readings
    simp only [List.filterMap_append]
    refine congrArg₂ _ (congrArg₂ _ ?_ rfl) rfl
    conv_rhs => rw [← events_]
    rw [List.filterMap_map]
    rfl
  unfold ClockRuns
  rw [are]
  exact sorted

/-- After the run of a list, a sweep closes the row of `i-1`, and one event more leaves it
there. -/
theorem reaped_then (env : Env) (events : List Event) {s s₁ s₂ : System} (e₁ e₂ : Event)
    (sweeps : e₁.sweeps = true) (online : isState s "i-1" .online = true)
    (offline : isState s₁ "i-1" .offline = true)
    (there : (s₂.store.instances.find? "i-1").isSome) (unconnected : ∀ k frame now,
      e₂ ≠ .receive k frame now) :
    ∃ r, s₁.store.instances.find? "i-1" = some r ∧
      Reaped env ((system env).history init events ++ [⟨s, e₁, s₁⟩] ++ [⟨s₁, e₂, s₂⟩]) "i-1" r := by
  obtain ⟨r, closed, isOffline⟩ := isState_iff.mp offline
  refine ⟨r, closed, _, _, [_], List.append_assoc _ _ _,
    ⟨sweeps, isState_iff.mp online, closed, isOffline⟩, fun m mem => ?_⟩
  rw [List.mem_singleton.mp mem]
  refine ⟨fun k upserts => ?_, there⟩
  obtain ⟨_, message, now, _, event, _⟩ := upserts_row upserts
  exact unconnected k _ now event

/-- The sample device falls silent, is swept and then revoked; its row stays as it was. -/
theorem rows_lifecycle_revoked : ∃ (past : History) (sys : System) (r : InstanceRow),
    (system Sample.env).Run past sys ∧ Reaped Sample.env past "i-1" r ∧
    Lifecycle Sample.env past sys := by
  have run : (system Sample.env).Run [] init := .init
  have holds : ((system Sample.env).execIf
      (fun sys e => decide ((sys.act Sample.env e).bind removed? = none)) init
      Sample.serving).any (fun s : System => isState s "i-1" .online &&
        (s.step Sample.env (.onlineAgents (Sample.second 200))).any fun s₁ : System =>
          isState s₁ "i-1" .offline &&
          (s₁.step Sample.env (.revoke "pc-1" (Sample.second 201))).any fun s₂ : System =>
            (s₂.store.instances.find? "i-1").isSome) = true := by
    decide +kernel
  obtain ⟨s, ended, holds⟩ := (Option.any_eq_true _ _).mp holds
  obtain ⟨online, holds⟩ := Bool.and_eq_true_iff.mp holds
  obtain ⟨s₁, first, holds⟩ := (Option.any_eq_true _ _).mp holds
  obtain ⟨offline, holds⟩ := Bool.and_eq_true_iff.mp holds
  obtain ⟨s₂, second, there⟩ := (Option.any_eq_true _ _).mp holds
  obtain ⟨run, quiet⟩ := run.of_execIf ended
  obtain ⟨r, _, reaped⟩ := reaped_then Sample.env Sample.serving
    (.onlineAgents (Sample.second 200)) (.revoke "pc-1" (Sample.second 201)) rfl online offline
    there fun k frame now same => nomatch same
  have whole := run_then run first second
  refine ⟨_, s₂, r, whole, reaped,
    rows_lifecycle whole fun before m after split k session r' act _ _ _ => ?_⟩
  have mem := List.mem_append_right before (List.mem_cons_self (a := m) (l := after))
  rw [← split] at mem
  have noRemove : (m.before.act Sample.env m.event).bind removed? = none := by
    rcases List.mem_append.mp mem with mem | isLast
    · rcases List.mem_append.mp mem with mem | isFirst
      · exact quiet m mem
      · rw [List.mem_singleton.mp isFirst]
        rfl
    · rw [List.mem_singleton.mp isLast]
      rfl
  rw [act] at noRemove
  cases noRemove

/-- **A teardown after the sweep overwrites the recorded time**: the row that the sweep closed
at the time of its last heartbeat claims that the device was there until its socket was torn
down. -/
theorem torn_after_sweep : ∃ (past : History) (sys : System) (r r' : InstanceRow),
    (system Sample.env).Run past sys ∧ ClockRuns past ∧ Reaped Sample.env past "i-1" r ∧
    r.disconnectedAt = some r.lastHeartbeatAt ∧
    sys.store.instances.find? "i-1" = some r' ∧
    r'.disconnectedAt = some (r'.lastHeartbeatAt + 296) ∧ ¬ Lifecycle Sample.env past sys := by
  have run : (system Sample.env).Run [] init := .init
  have holds : ((system Sample.env).exec init Sample.serving).any (fun s : System =>
      isState s "i-1" .online &&
        (s.step Sample.env (.onlineAgents (Sample.second 200))).any fun s₁ : System =>
          isState s₁ "i-1" .offline &&
          (s₁.step Sample.env (.disconnect 0 (Sample.second 300))).any fun s₂ : System =>
            (s₂.store.instances.find? "i-1").any fun r =>
              decide (r.disconnectedAt = some (r.lastHeartbeatAt + 296))) = true := by
    decide +kernel
  obtain ⟨s, ended, holds⟩ := (Option.any_eq_true _ _).mp holds
  obtain ⟨online, holds⟩ := Bool.and_eq_true_iff.mp holds
  obtain ⟨s₁, first, holds⟩ := (Option.any_eq_true _ _).mp holds
  obtain ⟨offline, holds⟩ := Bool.and_eq_true_iff.mp holds
  obtain ⟨s₂, second, holds⟩ := (Option.any_eq_true _ _).mp holds
  obtain ⟨r', found, later⟩ := (Option.any_eq_true _ _).mp holds
  have later := of_decide_eq_true later
  have whole := run_then (run.of_exec ended) first second
  obtain ⟨r, closed, reaped⟩ := reaped_then Sample.env Sample.serving
    (.onlineAgents (Sample.second 200)) (.disconnect 0 (Sample.second 300)) rfl online offline
    (Option.isSome_iff_exists.mpr ⟨r', found⟩) fun k frame now same => nomatch same
  have reaps : Reaps ⟨s, .onlineAgents (Sample.second 200), s₁⟩ "i-1" r := by
    obtain ⟨r₀, closed₀, isOffline⟩ := isState_iff.mp offline
    obtain rfl := Option.some.inj (closed.symm.trans closed₀)
    exact ⟨rfl, isState_iff.mp online, closed, isOffline⟩
  have time := reaps.time (disconnected_iff_offline (run.of_exec ended).reach) first
  refine ⟨_, s₂, r, r', whole, clockRuns_then ended ?_, reaped, time, found, later,
    fun lifecycle => ?_⟩
  · decide
  · obtain ⟨same, _⟩ := lifecycle.reaped "i-1" r reaped
    obtain rfl := Option.some.inj (found.symm.trans same)
    have both := Option.some.inj (time.symm.trans later)
    omega

end System

end RemoteAgent
