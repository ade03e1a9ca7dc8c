import RemoteAgent.InstanceRows

/-!
# Fencing of connections

Connections may share an instance id: a reconnect overlaps with the teardown of the old
socket.  `connections_fenced`: in every run, a heartbeat or a disconnect writes a row only
for the generation that `upsert_presence` wrote there last; within a generation the epoch
and the time of the last heartbeat never go back; and the end of a handler touches neither
the registry entry nor the row of any other connection.

* `row_traced`: a row has just been written by `upsert_presence`, or it is an older row
  that has aged (`Ages`).
* `row_written_last`: a row bears the generation that was written last.
-/

open Wire Storage Transition

namespace RemoteAgent

open Dispatcher (field)

/-- Every epoch that a frame has is an integer. -/
def Event.integerEpoch : Event → Bool
  | .receive _ (.ok message) _ =>
      match message.get? "context_epoch" with
      | some (.int _) | none => true
      | some _ => false
  | _ => true

/-- What the epoch of such a frame reads as. -/
theorem Event.epoch_int {k : ConnId} {message : Json} {now : Int}
    (integer : (Event.receive k (.ok message) now).integerEpoch = true) :
    field message "context_epoch" = .null ∨ ∃ i, field message "context_epoch" = .int i := by
  simp only [Event.integerEpoch] at integer
  unfold Dispatcher.field
  cases found : message.get? "context_epoch" with
  | none => exact Or.inl rfl
  | some epoch =>
      rw [found] at integer
      cases epoch with
      | int i => exact Or.inr ⟨i, rfl⟩
      | null | bool | float | str | arr | obj => cases integer

namespace System

variable {env : Env} {sys sys' : System} {e : Event} {past : History}

/-! ## The generation of a row -/

/-- At this moment `upsert_presence` writes the row of an instance id for a connection. -/
def Upserts (env : Env) (m : Machine.Moment System Event) (id : String) (k : ConnId) : Prop :=
  ∃ session challenge message now,
    Authenticates env m.before m.event m.after.store k session challenge message now ∧
      session.instanceId = id

/-- `upsert_presence` last wrote the row of an instance id for connection `k`. -/
def LastUpserted (env : Env) (past : History) (id : String) (k : ConnId) : Prop :=
  ∃ before m after, past = before ++ m :: after ∧ Upserts env m id k ∧
    ∀ m' ∈ after, ∀ k', ¬ Upserts env m' id k'

/-- A row after an event that writes none anew: at most a heartbeat has changed its epoch
and the time of its last heartbeat. -/
structure Ages (env : Env) (sys : System) (e : Event) (id : String) (r r' : InstanceRow) :
    Prop where
  found : sys.store.instances.find? id = some r
  generation : r'.connectionGeneration = r.connectionGeneration
  beat : (r'.contextEpoch = r.contextEpoch ∧ r'.lastHeartbeatAt = r.lastHeartbeatAt) ∨
    ∃ k message now session, e = .receive k (.ok message) now ∧
      Store.Beats env sys.store session k (field message "context_epoch") id r r'.contextEpoch ∧
      r'.lastHeartbeatAt = asTimestamp now

/-- What `upsert_presence` has written. -/
theorem upserts_row {id : String} {k : ConnId} (upserts : Upserts env ⟨sys, e, sys'⟩ id k) :
    ∃ connectorId message now epoch, e = .receive k (.ok message) now ∧
      env.naturalColumn (field message "context_epoch") = some epoch ∧
      sys'.store.instances.find? id = some (Store.onlineRow connectorId id k epoch now) := by
  obtain ⟨session, challenge, message, now, authenticates, rfl⟩ := upserts
  obtain ⟨epoch, column, _, written⟩ := Store.authenticateSession_ok authenticates.done
  refine ⟨session.connectorId, message, now, epoch, authenticates.event, column, ?_⟩
  have written : sys'.store = _ := written
  rw [written, Store.find?_comesOnline]
  exact if_pos rfl

/-- A connection has no session before it is authenticated. -/
theorem upserts_free (linked : Linked sys) {id : String} {k : ConnId}
    (upserts : Upserts env ⟨sys, e, sys'⟩ id k) : sys.dispatcher.sessions.get? k = none := by
  obtain ⟨_, _, _, _, authenticates, _⟩ := upserts
  obtain ⟨phase, here, waits⟩ := authenticates.waits
  exact linked.free here waits

/-- **A row has just been written, or it is an older row that has aged.** -/
theorem row_traced (stepped : sys.step env e = some sys') {id : String} {r' : InstanceRow}
    (found' : sys'.store.instances.find? id = some r') :
    Upserts env ⟨sys, e, sys'⟩ id r'.connectionGeneration ∨
      ((∀ k, ¬ Upserts env ⟨sys, e, sys'⟩ id k) ∧ ∃ r, Ages env sys e id r r') := by
  by_cases written : ∃ k, Upserts env ⟨sys, e, sys'⟩ id k
  · obtain ⟨k, upserts⟩ := written
    obtain ⟨_, _, _, _, _, _, now_⟩ := upserts_row upserts
    obtain rfl := Option.some.inj (found'.symm.trans now_)
    exact Or.inl upserts
  · have unwritten := not_exists.mp written
    refine Or.inr ⟨unwritten, ?_⟩
    obtain ⟨mid, touches, shuts⟩ := step_row stepped id
    have aged : ∀ r', mid = some r' → ∃ r, Ages env sys e id r r' := by
      intro r' isRow
      cases touches with
      | same => exact ⟨r', isRow, rfl, Or.inl ⟨rfl, rfl⟩⟩
      | swept free found online =>
          cases isRow
          exact ⟨_, found, rfl, Or.inl ⟨rfl, rfl⟩⟩
      | revoked event found online =>
          cases isRow
          exact ⟨_, found, rfl, Or.inl ⟨rfl, rfl⟩⟩
      | deleted => cases isRow
      | beaten event here beats =>
          cases isRow
          exact ⟨_, beats.found, rfl, Or.inr ⟨_, _, _, _, event, beats, rfl⟩⟩
      | @online k phase challenge message now store session epoch event here waits done isId =>
          have stored := step_authenticated stepped event here waits (congrArg Prod.snd done)
          exact absurd ⟨session, challenge, message, now, ⟨event, ⟨phase, here, waits⟩, stored⟩, isId⟩
            (unwritten k)
    generalize e.conn? = who, sys'.store.instances.find? id = row at shuts found'
    cases shuts with
    | same => exact aged r' found'
    | @closed k session r now here parsed isRow generation =>
        cases found'
        obtain ⟨old, ages⟩ := aged r isRow
        exact ⟨old, ages.found, ages.generation, ages.beat⟩

/-- **A row bears the generation that was written last.** -/
theorem row_written_last (run : (system env).Run past sys) :
    ∀ id r, sys.store.instances.find? id = some r →
      LastUpserted env past id r.connectionGeneration := by
  refine run.invariant (I := fun past sys => ∀ id r, sys.store.instances.find? id = some r →
    LastUpserted env past id r.connectionGeneration) (by intro id r none_; cases none_) ?_
  intro past s t e _ ih stepped id r' found'
  rcases row_traced stepped found' with upserts | ⟨unwritten, r, ages⟩
  · exact ⟨past, _, [], rfl, upserts, fun m mem => absurd mem List.not_mem_nil⟩
  · obtain ⟨before, m, after, rfl, upserts, last⟩ := ih id r ages.found
    refine ⟨before, m, after ++ [⟨s, e, t⟩], List.append_assoc _ _ _, ages.generation ▸ upserts, ?_⟩
    intro m' mem
    rcases List.mem_append.mp mem with older | isLast
    · exact last m' older
    · rw [List.mem_singleton.mp isLast]
      exact unwritten

/-! ## Epochs and heartbeats of one generation -/

/-- Every epoch that is stored is an integer. -/
structure IntegerEpochs (sys : System) : Prop where
  rows : ∀ id r, sys.store.instances.find? id = some r → ∃ i, r.contextEpoch = .int i
  sessions : ∀ k session, sys.dispatcher.sessions.get? k = some session →
    ∃ i, session.contextEpoch = .int i

/-- An integer is stored as it is. -/
theorem naturalColumn_int {i : Int} {epoch : Json}
    (column : env.naturalColumn (.int i) = some epoch) : epoch = .int i := by
  unfold Env.naturalColumn at column
  dsimp only at column
  split at column
  · exact (Option.some.inj column).symm
  · cases column

/-- A stored epoch is an integer if the frame's epoch is one. -/
theorem naturalColumn_epoch {k : ConnId} {message : Json} {now : Int} {epoch : Json}
    (integer : (Event.receive k (.ok message) now).integerEpoch = true)
    (column : env.naturalColumn (field message "context_epoch") = some epoch) :
    ∃ i, field message "context_epoch" = .int i ∧ epoch = .int i := by
  rcases Event.epoch_int integer with absent | ⟨i, is⟩
  · rw [absent] at column
    cases column
  · rw [is] at column
    exact ⟨i, is, naturalColumn_int column⟩

/-- The time of a row's last heartbeat is one that the clock has shown. -/
theorem lastHeartbeat_read (run : (system env).Run past sys) :
    ∀ id r, sys.store.instances.find? id = some r →
      ∃ t ∈ readings past, r.lastHeartbeatAt = asTimestamp t := by
  refine run.invariant (I := fun past sys => ∀ id r, sys.store.instances.find? id = some r →
    ∃ t ∈ readings past, r.lastHeartbeatAt = asTimestamp t) (by intro id r none_; cases none_) ?_
  intro past s t e _ ih stepped id r' found'
  have new : ∀ {now : Int}, e.now? = some now → now ∈ readings (past ++ [⟨s, e, t⟩]) := by
    intro now reading
    rw [readings_concat, reading]
    exact List.mem_append_right _ (List.mem_singleton_self now)
  rcases row_traced stepped found' with upserts | ⟨_, r, ages⟩
  · obtain ⟨_, _, now, _, event, _, written⟩ := upserts_row upserts
    have is := Option.some.inj (found'.symm.trans written)
    exact ⟨now, new (event ▸ rfl), congrArg InstanceRow.lastHeartbeatAt is⟩
  · rcases ages.beat with ⟨_, same⟩ | ⟨_, _, now, _, event, _, beaten⟩
    · obtain ⟨t₀, mem, at_⟩ := ih id r ages.found
      refine ⟨t₀, ?_, same.trans at_⟩
      rw [readings_concat]
      exact List.mem_append_left _ mem
    · exact ⟨now, new (event ▸ rfl), beaten⟩

theorem teardown_removes {store : Store} {k : ConnId} {now : Int} {a : Act}
    (act : (sys.teardown env store k now).act = some a) : a = .remove k := by
  unfold teardown at act
  split at act
  · cases act
  · exact (Option.some.inj act).symm

theorem raises_removes {store : Store} {k : ConnId} {stage : HandshakeStage} {x : Exc} {now : Int}
    {a : Act} (act : (sys.raises env store k stage x now).act = some a) : a = .remove k := by
  cases x with
  | agent x => cases act
  | protocol => cases act
  | escape => exact teardown_removes act

theorem challenges_removes {k : ConnId} {challenge : Store.Challenge}
    {next : Store.Challenge → Phase} {now : Int} {a : Act}
    (act : (sys.challenges env k challenge next now).act = some a) : a = .remove k := by
  unfold challenges at act
  split at act
  · exact teardown_removes act
  · cases act

/-- A frame that raises the epoch of a session is an accepted heartbeat. -/
theorem serves_beat {k k' : ConnId} {session : AgentRelaySession} {message : Json} {now : Int}
    {epoch : Json} (act : (sys.serves env k session message now).act = some (.beat k' epoch)) :
    k' = k ∧ ∃ store,
      sys.store.handleHeartbeat env k session message now = (store, .ok epoch) := by
  unfold serves at act
  split at act
  · split at act
    · cases raises_removes act
    · rename_i store epoch done
      cases act
      exact ⟨rfl, store, done⟩
  · split at act
    · split at act
      · cases raises_removes act
      · cases act
    · cases raises_removes act

theorem receives_beat {k k' : ConnId} {frame : Except Exc Json} {now : Int} {plan : Plan}
    {epoch : Json} (received : sys.receives env k frame now = some plan)
    (act : plan.act = some (.beat k' epoch)) : k' = k ∧ ∃ message session store,
      frame = .ok message ∧ sys.dispatcher.sessions.get? k = some session ∧
      sys.store.handleHeartbeat env k session message now = (store, .ok epoch) := by
  have authenticated : ∀ {challenge : Store.Challenge} {message : Json},
      (sys.authenticates env k challenge message now).act ≠ some (.beat k' epoch) := by
    intro challenge message act
    unfold authenticates at act
    split at act
    · cases raises_removes act
    · cases act
  unfold receives at received
  split at received
  · split at received
    · cases received
      cases raises_removes act
    · cases received
      unfold handshakes at act
      split at act
      · split at act
        · cases raises_removes act
        · cases act
      · exact absurd act authenticated
  · split at received
    · cases received
      cases raises_removes act
    · cases received
      exact absurd act authenticated
  · split at received
    · cases received
    · rename_i session here
      split at received
      · cases received
        cases raises_removes act
      · rename_i message
        cases received
        obtain ⟨own, store, done⟩ := serves_beat act
        exact ⟨own, message, session, store, rfl, here, done⟩
  · cases received

/-- **Only an accepted heartbeat raises the epoch of a session.** -/
theorem plan_beat {plan : Plan} (planned : sys.plan env e = some plan) {k : ConnId} {epoch : Json}
    (act : plan.act = some (.beat k epoch)) : ∃ message now session store,
      e = .receive k (.ok message) now ∧ sys.dispatcher.sessions.get? k = some session ∧
      sys.store.handleHeartbeat env k session message now = (store, .ok epoch) := by
  cases own : e.conn? with
  | none => cases ((plan_unconnected planned own).act _ act).1
  | some k₀ =>
      cases e with
      | receive k₁ frame now =>
          obtain ⟨rfl, message, session, store, rfl, here, done⟩ := receives_beat planned act
          exact ⟨message, now, session, store, rfl, here, done⟩
      | rejectUpgrade k₁ upgrade =>
          obtain ⟨_, _, rfl⟩ := rejectsUpgrade_finishes planned
          cases act
      | connect k₁ challenge now =>
          have planned : sys.connects env k₁ challenge now = some plan := planned
          unfold connects at planned
          split at planned
          · cases planned
          · cases planned
            cases challenges_removes act
      | handshakeTimeout k₁ now =>
          have planned : sys.timesOut env k₁ now = some plan := planned
          unfold timesOut at planned
          split at planned
          · cases planned
            cases raises_removes act
          · cases planned
            cases raises_removes act
          · cases planned
      | rechallenge k₁ challenge now =>
          have planned : sys.rechallenges env k₁ challenge now = some plan := planned
          unfold rechallenges at planned
          split at planned
          · cases planned
            cases challenges_removes act
          · cases planned
      | ready k₁ =>
          have planned : sys.readies env k₁ none = some plan := planned
          unfold readies at planned
          split at planned
          · cases planned
            cases act
          · cases planned
      | readyFailed k₁ now =>
          have planned : sys.readies env k₁ (some now) = some plan := planned
          unfold readies at planned
          split at planned
          · cases planned
            cases raises_removes act
          · cases planned
      | finish k₁ now => cases teardown_removes (ends_teardown planned ▸ act)
      | disconnect k₁ now => cases teardown_removes (ends_teardown planned ▸ act)
      | _ => cases own

/-- An accepted heartbeat raises the epoch of its session to its own. -/
theorem handleHeartbeat_epoch {s s' : Store} {k : ConnId} {session : AgentRelaySession}
    {message : Json} {now : Int} {epoch : Json}
    (done : s.handleHeartbeat env k session message now = (s', .ok epoch)) :
    Py.max env.floats session.contextEpoch (field message "context_epoch") = some epoch := by
  unfold Store.handleHeartbeat at done
  split at done
  · cases done
  · split at done
    · cases done
    · split at done
      · cases done
      · split at done
        · cases done
        · rename_i raised
          cases done
          exact raised

/-- Of two integers, `max` is one. -/
theorem max_int {floats : Py.FloatOps} {i j : Int} {epoch : Json}
    (is : Py.max floats (.int i) (.int j) = some epoch) : ∃ n, epoch = .int n := by
  unfold Py.max at is
  obtain ⟨below, _, rfl⟩ := Option.map_eq_some_iff.mp is
  split
  · exact ⟨j, rfl⟩
  · exact ⟨i, rfl⟩

theorem IntegerEpochs.step (integers : IntegerEpochs sys) (integer : e.integerEpoch = true)
    (stepped : sys.step env e = some sys') : IntegerEpochs sys' where
  rows := by
    intro id r' found'
    rcases row_traced stepped found' with upserts | ⟨_, r, ages⟩
    · obtain ⟨_, message, now, epoch, event, column, written⟩ := upserts_row upserts
      obtain ⟨i, _, isInt⟩ := naturalColumn_epoch (event ▸ integer) column
      have is := Option.some.inj (found'.symm.trans written)
      exact ⟨i, (congrArg InstanceRow.contextEpoch is).trans isInt⟩
    · obtain ⟨i, isInt⟩ := integers.rows id r ages.found
      rcases ages.beat with ⟨same, _⟩ | ⟨k, message, now, _, event, beats, _⟩
      · exact ⟨i, same.trans isInt⟩
      · obtain ⟨j, _, new⟩ := naturalColumn_epoch (event ▸ integer) beats.column
        exact ⟨j, new⟩
  sessions := by
    intro k session' found'
    obtain ⟨plan, planned, _, _, next⟩ := step_plan stepped
    split at next
    · exact integers.sessions k session' (next ▸ found')
    · rename_i a act
      cases Dispatcher.step_sessions next with
      | same sessions => exact integers.sessions k session' (sessions ▸ found')
      | joins k₀ session isAct free sessions =>
          rw [sessions, Dict.get?_insert] at found'
          split at found'
          · cases found'
            obtain ⟨challenge, message, now, authenticates⟩ := plan_register planned (isAct ▸ act)
            obtain ⟨epoch, column, same, _⟩ := Store.authenticateSession_ok authenticates.done
            obtain ⟨i, is, _⟩ := naturalColumn_epoch (authenticates.event ▸ integer) column
            exact ⟨i, same.trans is⟩
          · exact integers.sessions k session' found'
      | beats k₀ session epoch isAct was sessions =>
          rw [sessions, Dict.get?_insert] at found'
          split at found'
          · cases found'
            obtain ⟨message, now, session₀, store, event, here, done⟩ :=
              plan_beat planned (isAct ▸ act)
            obtain ⟨i, is⟩ := integers.sessions k₀ session₀ here
            have raised := handleHeartbeat_epoch done
            rw [is] at raised
            rcases Event.epoch_int (event ▸ integer) with absent | ⟨j, isInt⟩
            · rw [absent] at raised
              cases raised
            · rw [isInt] at raised
              exact max_int raised
          · exact integers.sessions k session' found'

theorem integerEpochs_of_run (run : (system env).Run past sys)
    (integer : ∀ m ∈ past, m.event.integerEpoch = true) : IntegerEpochs sys := by
  induction run with
  | init => exact ⟨fun _ _ none_ => (nomatch none_), fun _ _ none_ => (nomatch none_)⟩
  | step _ stepped ih =>
      have earlier := ih fun m mem => integer m (List.mem_append_left _ mem)
      exact earlier.step (integer _ (List.mem_append_right _ (List.mem_singleton_self _))) stepped

/-- The stored epoch of a row is not above that of a later one. -/
def EpochLe (r r' : InstanceRow) : Prop :=
  ∃ i j, r.contextEpoch = .int i ∧ r'.contextEpoch = .int j ∧ i ≤ j

theorem EpochLe.trans {a b c : InstanceRow} (first : EpochLe a b) (second : EpochLe b c) :
    EpochLe a c := by
  obtain ⟨i, j, isI, isJ, le⟩ := first
  obtain ⟨j', k, isJ', isK, le'⟩ := second
  cases isJ.symm.trans isJ'
  exact ⟨i, k, isI, isK, le.trans le'⟩

/-- A heartbeat is not accepted below the stored epoch. -/
theorem Ages.epochLe {id : String} {r r' : InstanceRow} (ages : Ages env sys e id r r')
    (integers : IntegerEpochs sys) (integer : e.integerEpoch = true) : EpochLe r r' := by
  obtain ⟨i, isInt⟩ := integers.rows id r ages.found
  rcases ages.beat with ⟨same, _⟩ | ⟨k, message, now, _, event, beats, _⟩
  · exact ⟨i, i, isInt, same.trans isInt, le_refl i⟩
  · obtain ⟨j, is, new⟩ := naturalColumn_epoch (event ▸ integer) beats.column
    obtain ⟨stored, isStored, notBefore⟩ := beats.notBefore
    rw [isInt] at isStored
    cases isStored
    rw [is] at notBefore
    have notBelow : ¬ j < i := of_decide_eq_false (Option.some.inj notBefore)
    exact ⟨i, j, isInt, new, not_lt.mp notBelow⟩

/-- A connection writes no row anew after a row has borne its generation. -/
theorem generation_spent (run : (system env).Run past sys) {m : Machine.Moment System Event}
    (mem : m ∈ past) {id : String} {r : InstanceRow}
    (found : m.after.store.instances.find? id = some r) :
    sys.dispatcher.connectorOf r.connectionGeneration ≠ none := by
  have stays : ∀ {s t : System} {e : Event} {k : ConnId}, (system env).step s e = some t →
      s.dispatcher.connectorOf k ≠ none → t.dispatcher.connectorOf k ≠ none := by
    intro s t e k stepped some_
    obtain ⟨connectorId, has⟩ := Option.ne_none_iff_exists'.mp some_
    rw [connectorOf_mono stepped has]
    exact Option.some_ne_none _
  refine run.spent (P := fun sys k => sys.dispatcher.connectorOf k ≠ none) stays m mem _ ?_
  obtain ⟨before, after, rfl⟩ := List.append_of_mem mem
  obtain ⟨runBefore, stepped⟩ := run.upTo
  obtain ⟨session, here, _⟩ := owned_of_reach (.step runBefore.reach trivial stepped) id r found
  unfold Dispatcher.connectorOf
  rw [here]
  exact Option.some_ne_none _

/-- **Within a generation**, what every ageing step keeps between a row and a later one holds
between a row of any moment and the row at the end. -/
theorem generation_monotone {Le : InstanceRow → InstanceRow → Prop}
    {holds : History → Prop}
    (refl : ∀ {past sys}, (system env).Run past sys → holds past → ∀ {id r},
      sys.store.instances.find? id = some r → Le r r)
    (trans : ∀ {a b c}, Le a b → Le b c → Le a c)
    (earlier : ∀ {past m}, holds (past ++ [m]) → holds past)
    (ages : ∀ {past s t e}, (system env).Run past s → holds (past ++ [⟨s, e, t⟩]) →
      ∀ {id r r'}, Ages env s e id r r' → Le r r')
    (run : (system env).Run past sys) (ok : holds past) :
    ∀ m ∈ past, ∀ id r, m.after.store.instances.find? id = some r → ∀ r',
      sys.store.instances.find? id = some r' →
      r'.connectionGeneration = r.connectionGeneration → Le r r' := by
  induction run with
  | init => exact fun m mem => absurd mem List.not_mem_nil
  | @step past s t e before stepped ih =>
      intro m mem id r found r' found' same
      rcases List.mem_append.mp mem with older | isLast
      · rcases row_traced stepped found' with upserts | ⟨_, mid, aged⟩
        · have free := upserts_free (linked_of_reach before.reach) upserts
          have spent := generation_spent before older found
          unfold Dispatcher.connectorOf at spent
          rw [← same, free] at spent
          exact absurd rfl spent
        · have first := ih (earlier ok) m older id r found mid aged.found
            (aged.generation.symm.trans same)
          exact trans first (ages before ok aged)
      · rw [List.mem_singleton.mp isLast] at found
        obtain rfl := Option.some.inj (found.symm.trans found')
        exact refl (.step before stepped) ok found'

/-! ## The end of a handler -/

/-- The handler of connection `k` ends with this step. -/
def Finishes (sys sys' : System) (k : ConnId) : Prop :=
  (∀ phase, sys.phases.get? k = some phase → phase ≠ .finished) ∧
    sys'.phases.get? k = some .finished

/-- The step in which a handler ends moves that handler only, and registers no session. -/
theorem Finishes.moves (linked : Linked sys) (stepped : sys.step env e = some sys') {k : ConnId}
    (finishes : Finishes sys sys' k) : e.conn? = some k ∧ ∃ plan, sys.plan env e = some plan ∧
      (plan.act = none ∨ plan.act = some (.remove k)) := by
  obtain ⟨plan, planned, _, phases, _⟩ := step_plan stepped
  have ended : plan.phases.get? k = some .finished := phases ▸ finishes.2
  have moved : plan.phases.get? k ≠ sys.phases.get? k := by
    intro same
    exact finishes.1 _ (same.symm.trans ended) rfl
  have own : e.conn? = some k := by
    cases own : e.conn? with
    | none => exact absurd (congrArg (·.get? k) (plan_unconnected planned own).phases) moved
    | some k₀ =>
        by_cases same : k = k₀
        · rw [same]
        · exact absurd ((plan_confined planned own).phases k same) moved
  refine ⟨own, plan, planned, ?_⟩
  cases plan_phases linked planned with
  | same same act => exact absurd (congrArg (·.get? k) same) moved
  | moves k₀ phase isMove fits act =>
      rw [isMove, Dict.get?_insert] at moved
      split at moved
      · rename_i same
        exact same ▸ act
      · exact absurd rfl moved
  | registers k₀ session isMove act =>
      rw [isMove, Dict.get?_insert] at ended
      split at ended
      · cases ended
      · rename_i other
        rw [isMove, Dict.get?_insert_of_ne other] at moved
        exact absurd rfl moved

/-- **The end of a handler spares the other connections**: their registry entries and the
rows of their generations. -/
theorem Finishes.spares (linked : Linked sys) (stepped : sys.step env e = some sys')
    {k k' : ConnId} (finishes : Finishes sys sys' k) (other : k' ≠ k) :
    (∀ connectorId, sys.dispatcher.registry.get? connectorId = some k' →
      sys'.dispatcher.registry.get? connectorId = some k') ∧
    ∀ id r, sys.store.instances.find? id = some r → r.connectionGeneration = k' →
      sys'.store.instances.find? id = some r := by
  obtain ⟨own, plan, planned, acts⟩ := finishes.moves linked stepped
  constructor
  · intro connectorId registered
    obtain ⟨plan', planned', _, _, next⟩ := step_plan stepped
    obtain rfl := Option.some.inj (planned.symm.trans planned')
    rcases acts with none_ | remove
    · rw [none_] at next
      rw [next, registered]
    · rw [remove] at next
      simp only [Dispatcher.step] at next
      split at next
      · cases next
      · rename_i session here
        rw [← Option.some.inj next]
        unfold Dispatcher.remove Dispatcher.failPending
        simp only
        split
        · rename_i removes
          have entry := of_decide_eq_true removes
          rw [Dict.get?_erase_of_ne]
          · exact registered
          · rintro rfl
            exact other (Option.some.inj (registered.symm.trans entry))
        · exact registered
  · intro id r found generation
    obtain ⟨mid, touches, shuts⟩ := step_row stepped id
    have kept : mid = some r := by
      cases touches with
      | same => exact found
      | swept free => cases own.symm.trans free
      | revoked event => cases event ▸ own
      | deleted event => cases event ▸ own
      | @beaten k₁ session message now r₁ new event here beats =>
          subst event
          cases own
          obtain rfl := Option.some.inj (found.symm.trans beats.found)
          exact absurd (generation.symm.trans beats.generation) other
      | @online k₁ phase challenge message now store session epoch event here waits done =>
          have phases := (step_joins stepped event here waits done).2
          subst event
          cases own
          have ended := finishes.2
          rw [phases, Dict.get?_insert_self] at ended
          cases ended
    rw [own] at shuts
    generalize sys'.store.instances.find? id = row at shuts
    cases shuts with
    | same => exact kept
    | closed now here parsed isRow bears =>
        obtain rfl := Option.some.inj (isRow.symm.trans kept)
        exact absurd (generation.symm.trans bears) other

/-! ## The fence -/

/-- A heartbeat that is rejected leaves the tables alone, where epochs are integers. -/
theorem handleHeartbeat_rejected {k : ConnId} {session : AgentRelaySession} {message : Json}
    {now : Int} {s' : Store} {x : Exc} (isInt : ∃ i, session.contextEpoch = .int i)
    (integer : (Event.receive k (.ok message) now).integerEpoch = true)
    (rejected : sys.store.handleHeartbeat env k session message now = (s', .error x)) :
    s' = sys.store := by
  unfold Store.handleHeartbeat at rejected
  split at rejected
  · cases rejected
    rfl
  · split at rejected
    · cases rejected
      rfl
    · split at rejected
      · cases rejected
        rfl
      · rename_i accepted
        split at rejected
        · rename_i incomparable
          -- The heartbeat has been accepted, so its epoch is an integer, like the session's.
          obtain ⟨name, r, new, beats, rfl⟩ := Store.acceptHeartbeat_iff.mp accepted
          obtain ⟨i, is⟩ := isInt
          obtain ⟨j, isJ, _⟩ := naturalColumn_epoch integer beats.column
          rw [is, isJ] at incomparable
          cases incomparable
        · cases rejected

/-- What the fence between the connections of a run keeps. -/
structure Fenced (env : Env) (past : History) (sys : System) : Prop where
  /-- A heartbeat writes the online row of its generation only, and only while no other
  connection has written that row since. -/
  heartbeat : ∀ instanceId generation epoch now s',
    sys.store.acceptHeartbeat env instanceId generation epoch now = .ok s' →
    ∀ id, s'.instances.find? id ≠ sys.store.instances.find? id →
      ∃ r, sys.store.instances.find? id = some r ∧ r.connectionGeneration = generation ∧
        r.state = .online ∧ LastUpserted env past id generation
  disconnect : ∀ instanceId generation now id,
    (sys.store.disconnectRelay env instanceId generation now).instances.find? id ≠
      sys.store.instances.find? id →
    ∃ r, sys.store.instances.find? id = some r ∧ r.connectionGeneration = generation ∧
      LastUpserted env past id generation
  rejected : ∀ k session message now s' x, sys.dispatcher.sessions.get? k = some session →
    (Event.receive k (.ok message) now).integerEpoch = true →
    sys.store.handleHeartbeat env k session message now = (s', .error x) → s' = sys.store
  epochs : ∀ m ∈ past, ∀ id r, m.after.store.instances.find? id = some r →
    ∀ r', sys.store.instances.find? id = some r' →
    r'.connectionGeneration = r.connectionGeneration → EpochLe r r'
  beats : ClockRuns past → ∀ m ∈ past, ∀ id r, m.after.store.instances.find? id = some r →
    ∀ r', sys.store.instances.find? id = some r' →
    r'.connectionGeneration = r.connectionGeneration → r.lastHeartbeatAt ≤ r'.lastHeartbeatAt
  teardown : ∀ e sys' k k', sys.step env e = some sys' → Finishes sys sys' k → k' ≠ k →
    (∀ connectorId, sys.dispatcher.registry.get? connectorId = some k' →
      sys'.dispatcher.registry.get? connectorId = some k') ∧
    ∀ id r, sys.store.instances.find? id = some r → r.connectionGeneration = k' →
      sys'.store.instances.find? id = some r

/-- **Connection fencing.**  In every run whose frames have integer epochs, of any number of
connections in any order, an older connection writes no row of a newer one, rows of one
generation only go forward, and no handler that ends takes anything from another. -/
theorem connections_fenced {env : Env} {past : History} {sys : System}
    (run : (system env).Run past sys) (integer : ∀ m ∈ past, m.event.integerEpoch = true) :
    Fenced env past sys where
  heartbeat := by
    intro instanceId generation epoch now s' accepted id changed
    obtain ⟨name, r, new, beats, rfl⟩ := Store.acceptHeartbeat_iff.mp accepted
    rw [Store.find?_beaten _ _ beats.found beats.generation beats.online] at changed
    split at changed
    · rename_i here
      subst here
      have last := row_written_last run name r beats.found
      exact ⟨r, beats.found, beats.generation, beats.online, beats.generation ▸ last⟩
    · exact absurd rfl changed
  disconnect := by
    intro instanceId generation now id changed
    rw [Store.find?_disconnectRelay] at changed
    cases found : sys.store.instances.find? id with
    | none =>
        rw [found] at changed
        exact absurd rfl changed
    | some r =>
        rw [found, Option.map_some] at changed
        split at changed
        · rename_i hit
          have last := row_written_last run id r found
          exact ⟨r, rfl, hit.2, hit.2 ▸ last⟩
        · exact absurd rfl changed
  rejected := by
    intro k session message now s' x here isInteger rejected
    have isInt := (integerEpochs_of_run run integer).sessions k session here
    exact handleHeartbeat_rejected isInt isInteger rejected
  epochs := by
    have refl : ∀ {past sys}, (system env).Run past sys →
        (∀ m ∈ past, m.event.integerEpoch = true) → ∀ {id r},
        sys.store.instances.find? id = some r → EpochLe r r := by
      intro past sys run ok id r found
      obtain ⟨i, isInt⟩ := (integerEpochs_of_run run ok).rows id r found
      exact ⟨i, i, isInt, isInt, le_refl i⟩
    refine generation_monotone refl EpochLe.trans ?_ ?_ run integer
    · exact fun ok m mem => ok m (List.mem_append_left _ mem)
    · intro past s t e before ok id r r' ages
      have earlier := integerEpochs_of_run before fun m mem => ok m (List.mem_append_left _ mem)
      exact ages.epochLe earlier (ok _ (List.mem_append_right _ (List.mem_singleton_self _)))
  beats := by
    intro clock
    have refl : ∀ {past sys}, (system env).Run past sys → ClockRuns past → ∀ {id r},
        sys.store.instances.find? id = some r → r.lastHeartbeatAt ≤ r.lastHeartbeatAt := by
      intro past sys _ _ id r _
      exact le_refl _
    refine generation_monotone refl (fun first second => le_trans first second)
      (fun ok => ok.before) ?_ run clock
    · intro past s t e before ok id r r' ages
      rcases ages.beat with ⟨_, same⟩ | ⟨_, _, now, _, event, _, beaten⟩
      · exact le_of_eq same.symm
      · obtain ⟨t₀, mem, at_⟩ := lastHeartbeat_read before id r ages.found
        rw [at_, beaten]
        exact asTimestamp_mono (ok.last (event ▸ rfl) mem)
  teardown := fun e sys' k k' stepped finishes other =>
    finishes.spares (linked_of_reach run.reach) stepped other

end System

namespace Sample

/-- The device connects again, sends a heartbeat there, and its first connection ends. -/
def overlapped : List Event :=
  twice sameInstanceFrame ++
    [.receive 1 (.ok (heartbeatFrame 2)) (second 8), .disconnect 0 (second 9)]

end Sample

namespace System

/-- The sample device has connected again under one instance id when its first connection
ends: the row and the registry entry of the second one stay. -/
theorem connections_fenced_twice : ∃ (past : History) (sys : System),
    (system Sample.env).Run past sys ∧
    sys.dispatcher.registry.get? "pc-1" = some 1 ∧
    sys.store.instances.rows.map (fun r => (r.connectionGeneration, r.state)) = [(1, .online)] ∧
    Fenced Sample.env past sys := by
  have run : (system Sample.env).Run [] init := .init
  have holds : ((system Sample.env).exec init Sample.overlapped).any
      (fun sys : System => decide (sys.dispatcher.registry.get? "pc-1" = some 1 ∧
        sys.store.instances.rows.map (fun r => (r.connectionGeneration, r.state)) =
          [(1, .online)])) = true := by
    decide +kernel
  obtain ⟨sys, ended, checked⟩ := (Option.any_eq_true _ _).mp holds
  obtain ⟨registered, rows⟩ := of_decide_eq_true checked
  have integer : ∀ e ∈ Sample.overlapped, e.integerEpoch = true := by decide +kernel
  refine ⟨(system Sample.env).history init Sample.overlapped, sys, run.of_exec ended, registered,
    rows, connections_fenced (run.of_exec ended) fun m mem => ?_⟩
  exact integer _ (Machine.event_of_history mem)

end System

end RemoteAgent
