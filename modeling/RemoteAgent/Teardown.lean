import RemoteAgent.Fencing

/-!
# What the end of a handler leaves behind

`teardown_clean_iff`: in a run, no finished handler has left an online row exactly when
every session that ended still held its registry entry, or had no online row any more.

* `plan_ends`: an event of a connection refuses its upgrade or ends in the `finally` block of
  its handler, or the handler goes on.
* `ghost_row`: a session that was replaced under another instance id leaves its row online.
-/

open Wire Storage Transition

namespace RemoteAgent.System

variable {env : Env} {sys sys' : System} {e : Event} {past : History}

/-! ## The `finally` block -/

/-- How the plan of an event of connection `k` goes on: by the `finally` block of the
handler, or without it. -/
inductive Ends (env : Env) (sys : System) (e : Event) (k : ConnId) (plan : Plan) : Prop where
  | refused (absent : sys.phases.get? k = none)
      (is : plan = ⟨sys.store, sys.phases.insert k .finished, none⟩)
  | torn (store : Store) (now : Int) (performs : Performs env sys e store)
      (is : plan = sys.teardown env store k now)
  | goesOn (performs : Performs env sys e plan.store) (act : ∀ k', plan.act ≠ some (.remove k'))
      (phase : plan.phases.get? k = some .finished → sys.phases.get? k = some .finished)

theorem raises_ends {k : ConnId} {stage : HandshakeStage} {x : Exc} {now : Int} {store : Store}
    (performs : Performs env sys e store) :
    Ends env sys e k (sys.raises env store k stage x now) := by
  cases x with
  | escape => exact .torn store now performs rfl
  | agent x =>
      refine .goesOn performs (fun _ act => nomatch act) fun ended => ?_
      rw [show (sys.raises env store k stage (.agent x) now).phases.get? k =
        some (.closing _) from Dict.get?_insert_self _ _ _] at ended
      cases ended
  | protocol =>
      refine .goesOn performs (fun _ act => nomatch act) fun ended => ?_
      rw [show (sys.raises env store k stage .protocol now).phases.get? k =
        some (.closing _) from Dict.get?_insert_self _ _ _] at ended
      cases ended

/-- The handler moves to a phase in which it is not finished. -/
theorem Ends.moves {k : ConnId} {store : Store} {phase : Phase} {act : Option Act}
    (performs : Performs env sys e store) (acts : ∀ k', act ≠ some (.remove k'))
    (running : phase ≠ .finished) :
    Ends env sys e k ⟨store, sys.phases.insert k phase, act⟩ := by
  refine .goesOn performs acts fun ended => ?_
  rw [Dict.get?_insert_self] at ended
  exact absurd (Option.some.inj ended) running

theorem authenticates_ends {k : ConnId} {phase : Phase} {challenge : Store.Challenge}
    {message : Json} {now : Int} (here : sys.phases.get? k = some phase)
    (waits : phase.challenge? = some challenge) :
    Ends env sys (.receive k (.ok message) now) k
      (sys.authenticates env k challenge message now) := by
  unfold authenticates
  split
  · rename_i store x refused
    exact raises_ends (.authenticates here waits refused)
  · rename_i store session accepted
    exact .moves (.authenticates here waits accepted) (fun _ act => by cases act)
      (fun same => by cases same)

theorem receives_ends {k : ConnId} {frame : Except Exc Json} {now : Int} {plan : Plan}
    (received : sys.receives env k frame now = some plan) :
    Ends env sys (.receive k frame now) k plan := by
  unfold receives at received
  split at received
  · rename_i challenge phase
    split at received
    · cases received
      exact raises_ends (.nothing _)
    · cases received
      unfold handshakes
      split
      · rename_i type
        split
        · rename_i store x refused
          exact raises_ends (.enrolls phase type refused)
        · rename_i store connectorId enrolled
          exact .moves (.enrolls phase type enrolled) (fun _ act => by cases act)
            (fun same => by cases same)
      · exact authenticates_ends phase rfl
  · rename_i challenge phase
    split at received
    · cases received
      exact raises_ends (.nothing _)
    · cases received
      exact authenticates_ends phase rfl
  · split at received
    · cases received
    · rename_i session here
      split at received
      · cases received
        exact raises_ends (.nothing _)
      · cases received
        unfold serves
        split
        · split
          · rename_i store x refused
            exact raises_ends (.beats here refused)
          · rename_i store epoch accepted
            exact .goesOn (.beats here accepted) (fun _ act => by cases act) id
        · split
          · split
            · exact raises_ends (.nothing _)
            · exact .goesOn (.nothing _) (fun _ act => by cases act) id
          · exact raises_ends (.nothing _)
  · cases received

theorem challenges_ends {k : ConnId} {challenge : Store.Challenge}
    {next : Store.Challenge → Phase} {now : Int} (asked : e.challenge? = some (k, challenge, now))
    (running : next challenge ≠ .finished) :
    Ends env sys e k (sys.challenges env k challenge next now) := by
  unfold challenges
  split
  · exact .torn _ _ (.nothing _) rfl
  · rename_i store created
    exact .moves (.challenges asked created) (fun _ act => nomatch act) running

/-- **A handler is not entered, ends in its `finally` block, or goes on.** -/
theorem plan_ends {plan : Plan} (planned : sys.plan env e = some plan) {k : ConnId}
    (own : e.conn? = some k) : Ends env sys e k plan := by
  cases e with
  | rejectUpgrade k₀ upgrade =>
      cases own
      obtain ⟨absent, _, is⟩ := rejectsUpgrade_finishes planned
      exact .refused absent is
  | connect k₀ challenge now =>
      cases own
      have planned : sys.connects env k challenge now = some plan := planned
      unfold connects at planned
      split at planned
      · cases planned
      · cases planned
        exact challenges_ends rfl fun same => nomatch same
  | receive k₀ frame now =>
      cases own
      exact receives_ends planned
  | handshakeTimeout k₀ now =>
      cases own
      have planned : sys.timesOut env k now = some plan := planned
      unfold timesOut at planned
      split at planned
      · cases planned
        exact raises_ends (.nothing _)
      · cases planned
        exact raises_ends (.nothing _)
      · cases planned
  | rechallenge k₀ challenge now =>
      cases own
      have planned : sys.rechallenges env k challenge now = some plan := planned
      unfold rechallenges at planned
      split at planned
      · cases planned
        exact challenges_ends rfl fun same => nomatch same
      · cases planned
  | ready k₀ =>
      cases own
      have planned : sys.readies env k none = some plan := planned
      unfold readies at planned
      split at planned
      · cases planned
        exact .moves (.nothing _) (fun _ act => nomatch act) (fun same => nomatch same)
      · cases planned
  | readyFailed k₀ now =>
      cases own
      have planned : sys.readies env k (some now) = some plan := planned
      unfold readies at planned
      split at planned
      · cases planned
        exact raises_ends (.nothing _)
      · cases planned
  | finish k₀ now =>
      cases own
      exact .torn _ now (.nothing _) (ends_teardown planned)
  | disconnect k₀ now =>
      cases own
      exact .torn _ now (.nothing _) (ends_teardown planned)
  | _ => cases own

/-- The row that the `finally` block of a session closes. -/
structure ClosesRow (env : Env) (sys : System) (e : Event) (id : String) (mid : Option InstanceRow)
    (k : ConnId) (session : AgentRelaySession) (r : InstanceRow) : Prop where
  act : sys.act env e = some (.remove k)
  here : sys.dispatcher.sessions.get? k = some session
  removes : sys.dispatcher.removes k session = true
  row : mid = some r
  generation : r.connectionGeneration = k

/-- **The row of an instance id through an event**: its operation, and then at most the
`finally` block of a session that is still registered. -/
theorem step_row_closed (stepped : sys.step env e = some sys') (id : String) :
    ∃ mid, Touches env sys e id mid ∧ (sys'.store.instances.find? id = mid ∨
      ∃ k session r now, ClosesRow env sys e id mid k session r ∧
        sys'.store.instances.find? id = some (Store.close (fun _ => some (asTimestamp now)) r)) := by
  obtain ⟨plan, planned, stored, _, _⟩ := step_plan stepped
  cases own : e.conn? with
  | none =>
      obtain ⟨mid, performs, closes⟩ := step_operates stepped
      rw [own] at closes
      generalize sys'.store = store at closes
      cases closes with
      | same => exact ⟨_, performs.touches id, Or.inl rfl⟩
  | some k =>
      rw [stored]
      cases plan_ends planned own with
      | refused absent is => exact ⟨_, (Performs.nothing e).touches id, Or.inl (by rw [is])⟩
      | goesOn performs act phase => exact ⟨_, performs.touches id, Or.inl rfl⟩
      | torn store now performs is =>
          refine ⟨_, performs.touches id, ?_⟩
          rw [is]
          unfold teardown
          cases here : sys.dispatcher.sessions.get? k with
          | none => exact Or.inl rfl
          | some session =>
              simp only
              split
              · rename_i removes
                rw [Store.find?_disconnectRelay]
                cases found : store.instances.find? id with
                | none => exact Or.inl rfl
                | some r =>
                    rw [Option.map_some]
                    split
                    · rename_i hit
                      have act : sys.act env e = some (.remove k) := by
                        refine Option.bind_eq_some_iff.mpr ⟨plan, planned, ?_⟩
                        rw [is]
                        unfold teardown
                        rw [here]
                      exact Or.inr ⟨k, session, r, now, ⟨act, here, removes, rfl, hit.2⟩, rfl⟩
                    · exact Or.inl rfl
              · exact Or.inl rfl

/-- A handler that has finished takes no further event. -/
theorem finished_over {k : ConnId} (finished : sys.phases.get? k = some .finished)
    (own : e.conn? = some k) : sys.plan env e = none := by
  cases e with
  | rejectUpgrade k₀ upgrade =>
      cases own
      show sys.rejectsUpgrade env k upgrade = none
      unfold rejectsUpgrade
      rw [finished]
  | connect k₀ challenge now =>
      cases own
      show sys.connects env k challenge now = none
      unfold connects
      rw [finished]
  | receive k₀ frame now =>
      cases own
      show sys.receives env k frame now = none
      unfold receives
      rw [finished]
  | handshakeTimeout k₀ now =>
      cases own
      show sys.timesOut env k now = none
      unfold timesOut
      rw [finished]
  | rechallenge k₀ challenge now =>
      cases own
      show sys.rechallenges env k challenge now = none
      unfold rechallenges
      rw [finished]
  | ready k₀ =>
      cases own
      show sys.readies env k none = none
      unfold readies
      rw [finished]
  | readyFailed k₀ now =>
      cases own
      show sys.readies env k (some now) = none
      unfold readies
      rw [finished]
  | finish k₀ now =>
      cases own
      show sys.ends env k true now = none
      unfold ends
      rw [finished]
  | disconnect k₀ now =>
      cases own
      show sys.ends env k false now = none
      unfold ends
      rw [finished]
  | _ => cases own

/-- Whether the handler of a connection has finished. -/
def isFinished (sys : System) (k : ConnId) : Bool :=
  match sys.phases.get? k with
  | some .finished => true
  | _ => false

theorem isFinished_iff {k : ConnId} :
    isFinished sys k = true ↔ sys.phases.get? k = some .finished := by
  unfold isFinished
  split
  · rename_i finished
    simp only [finished]
  · rename_i other
    simp only [Bool.false_eq_true, false_iff]
    exact other

/-! ## Nothing left behind -/

/-- Nothing is left of connection `k`: no registry entry, and no online row. -/
structure Gone (sys : System) (k : ConnId) : Prop where
  unregistered : ∀ connectorId, sys.dispatcher.registry.get? connectorId ≠ some k
  offline : ∀ r ∈ sys.store.instances, r.connectionGeneration = k → r.state = .offline

/-- Nothing is left of any handler that has finished. -/
def Clean (sys : System) : Prop := ∀ k, sys.phases.get? k = some .finished → Gone sys k

/-- Where the `finally` block of a session runs, the registry still holds the session, or no
online row bears its generation. -/
def Retires (env : Env) (sys : System) (e : Event) : Prop :=
  ∀ k session, sys.act env e = some (.remove k) → sys.dispatcher.sessions.get? k = some session →
    sys.dispatcher.removes k session = true ∨
      ∀ r ∈ sys.store.instances, r.connectionGeneration = k → r.state = .offline

/-- The connection whose `finally` block an act is. -/
def removed? : Act → Option ConnId
  | .remove k => some k
  | _ => none

theorem removed?_iff {a : Act} {k : ConnId} : removed? a = some k ↔ a = .remove k := by
  cases a with
  | remove k' => simp only [removed?, Option.some.injEq, Act.remove.injEq]
  | _ => simp only [removed?, reduceCtorEq]

instance : Decidable (Retires env sys e) :=
  match ends : (sys.act env e).bind removed? with
  | none => isTrue fun k _ act => by
      rw [act] at ends
      cases ends
  | some k =>
      decidable_of_iff (∀ session ∈ sys.dispatcher.sessions.get? k,
        sys.dispatcher.removes k session = true ∨
          ∀ r ∈ sys.store.instances.rows, r.connectionGeneration = k → r.state = .offline) <| by
      obtain ⟨a, act, isRemove⟩ := Option.bind_eq_some_iff.mp ends
      rw [removed?_iff.mp isRemove] at act
      constructor
      · intro retires k' session act' here
        cases act.symm.trans act'
        exact retires session here
      · intro retires session here
        exact retires k session act here

/-- What a row shows of its connection. -/
def ownerState (r : InstanceRow) : ConnId × InstanceState := (r.connectionGeneration, r.state)

/-- Before its `finally` block, an event of a session changes no owner and no state of a
row. -/
theorem performs_owners (linked : Linked sys) {k : ConnId} {session : AgentRelaySession}
    (own : e.conn? = some k) (here : sys.dispatcher.sessions.get? k = some session)
    {store : Store} (performs : Performs env sys e store) (id : String) :
    (store.instances.find? id).map ownerState =
      (sys.store.instances.find? id).map ownerState := by
  have touches := performs.touches id
  generalize store.instances.find? id = row at touches
  cases touches with
  | same => rfl
  | swept free => cases own.symm.trans free
  | revoked event => cases event ▸ own
  | deleted event => cases event ▸ own
  | beaten event here beats =>
      rw [beats.found]
      rfl
  | @online k₀ phase challenge message now store' session' epoch event phase_ waits =>
      subst event
      cases own
      cases here.symm.trans (linked.free phase_ waits)

/-- The rows after the `finally` block of a session. -/
theorem torn_owners (linked : Linked sys) (owned : Owned env sys) {k : ConnId}
    {session : AgentRelaySession} (own : e.conn? = some k)
    (here : sys.dispatcher.sessions.get? k = some session) {store : Store}
    (performs : Performs env sys e store) (now : Int) (id : String) :
    ((sys.teardown env store k now).store.instances.find? id).map ownerState =
      (sys.store.instances.find? id).map fun r =>
        if sys.dispatcher.removes k session = true ∧ r.connectionGeneration = k then (k, .offline)
        else ownerState r := by
  have owners := performs_owners linked own here performs id
  have kept : sys.dispatcher.removes k session = false →
      (sys.teardown env store k now).store = store := by
    intro notRemoved
    unfold teardown
    rw [here]
    simp only [notRemoved, Bool.false_eq_true, ↓reduceIte]
  cases removes : sys.dispatcher.removes k session with
  | false =>
      rw [kept removes, owners]
      exact Option.map_congr fun r _ => (if_neg fun both => nomatch both.1).symm
  | true =>
      have closes : (sys.teardown env store k now).store =
          store.disconnectRelay env session.instanceId k now := by
        unfold teardown
        rw [here]
        simp only [removes, ↓reduceIte]
      rw [closes, Store.find?_disconnectRelay]
      cases found : sys.store.instances.find? id with
      | none =>
          rw [found] at owners
          rw [Option.map_eq_none_iff.mp owners]
          rfl
      | some r =>
          rw [found] at owners
          obtain ⟨mid, isMid, same⟩ := Option.map_eq_some_iff.mp owners
          rw [isMid]
          have sameGeneration : mid.connectionGeneration = r.connectionGeneration :=
            congrArg Prod.fst same
          simp only [Option.map_some, Option.some.injEq, true_and]
          by_cases bears : r.connectionGeneration = k
          · obtain ⟨session₀, here₀, _, isId, parsed⟩ := owned id r found
            rw [bears] at here₀
            obtain rfl := Option.some.inj (here.symm.trans here₀)
            have named : parseInstanceId env (.str session.instanceId) = .ok id := by
              rw [isId]
              exact parsed
            rw [if_pos bears, if_pos (And.intro named (sameGeneration.trans bears))]
            exact congrArg (·, InstanceState.offline) (sameGeneration.trans bears)
          · have other : mid.connectionGeneration ≠ k := fun is => bears (sameGeneration.symm.trans is)
            rw [if_neg bears, if_neg fun both => other both.2]
            exact same

/-- Nothing comes back of a handler that has finished. -/
theorem Gone.kept {k : ConnId} (gone : Gone sys k) (stepped : sys.step env e = some sys')
    (other : e.conn? ≠ some k) : Gone sys' k where
  unregistered := by
    intro connectorId found
    obtain ⟨plan, planned, _, _, next⟩ := step_plan stepped
    split at next
    · exact gone.unregistered connectorId (next ▸ found)
    · rename_i a act
      rcases (Dispatcher.step_effect next).registered_cases found with old | ⟨session, joins, _⟩
      · exact gone.unregistered connectorId old
      · have joined : sys'.dispatcher.sessions.get? k = some session := by
          rw [joins.sessions, Dict.get?_insert_self]
        rcases (Dispatcher.step_sessions next).cases joined with ⟨_, was, _⟩ | ⟨rfl, _⟩
        · rw [joins.free] at was
          cases was
        · exact other (act_conn (Option.bind_eq_some_iff.mpr ⟨plan, planned, act⟩)).symm
  offline := by
    intro r' mem bears
    have found' := Table.mem_iff_find?.mp mem
    obtain ⟨mid, touches, shuts⟩ := step_row stepped r'.instanceId
    have offline : ∀ r, mid = some r → r.connectionGeneration = k → r.state = .offline := by
      intro r isRow bears
      cases touches with
      | same => exact gone.offline r (Table.mem_of_find? isRow) bears
      | swept | revoked =>
          cases isRow
          rfl
      | deleted => cases isRow
      | beaten event here beats =>
          cases isRow
          refine absurd ?_ other
          rw [event, ← bears, ← beats.generation]
          rfl
      | online event =>
          cases isRow
          refine absurd ?_ other
          rw [event, ← bears]
          rfl
    generalize e.conn? = who, sys'.store.instances.find? r'.instanceId = row at shuts found'
    cases shuts with
    | same => exact offline r' found' bears
    | closed =>
        cases found'
        rfl

/-- The registry after the `finally` block of a session does not hold the session. -/
theorem remove_unregistered {d d' : Dispatcher} (wired : d.Wired) {k : ConnId}
    (next : d.step env (.remove k) = some d') (connectorId : String) :
    d'.registry.get? connectorId ≠ some k := by
  intro found
  simp only [Dispatcher.step] at next
  split at next
  · cases next
  · rename_i session here
    obtain rfl := Option.some.inj next
    -- An entry for `k` can only be that of the connector of its session.
    have entry : d.registry.get? connectorId = some k → session.connectorId = connectorId := by
      intro registered
      have connector := wired.registered connectorId k registered
      unfold Dispatcher.connectorOf at connector
      rw [here] at connector
      exact Option.some.inj connector
    have found : (if d.removes k session then d.registry.erase session.connectorId
        else d.registry).get? connectorId = some k := found
    split at found
    · obtain ⟨different, registered⟩ := Dict.get?_of_get?_erase found
      exact different (entry registered).symm
    · rename_i notRemoved
      refine notRemoved (decide_eq_true ?_)
      rw [entry found]
      exact found

/-- Nothing is left of a connection that has no session. -/
theorem gone_of_reach (reached : (system env).Reach Machine.anyStep sys) {k : ConnId}
    (free : sys.dispatcher.sessions.get? k = none) : Gone sys k where
  unregistered := by
    intro connectorId found
    have connector := (Dispatcher.wired_of_reach
      ((system_simulates env).reach_any reached)).registered connectorId k found
    unfold Dispatcher.connectorOf at connector
    rw [free] at connector
    cases connector
  offline := by
    intro r mem bears
    obtain ⟨session, there, _⟩ := owned_of_reach reached _ r (Table.mem_iff_find?.mp mem)
    rw [bears, free] at there
    cases there

/-- **A step keeps every handler that has finished clean**, if a session that ends retires. -/
theorem Clean.step (reached : (system env).Reach Machine.anyStep sys) (clean : Clean sys)
    (retires : Retires env sys e) (stepped : sys.step env e = some sys') : Clean sys' := by
  have linked := linked_of_reach reached
  have wired := Dispatcher.wired_of_reach ((system_simulates env).reach_any reached)
  intro k finished'
  by_cases was : sys.phases.get? k = some .finished
  · refine (clean k was).kept stepped fun own => ?_
    obtain ⟨plan, planned, _⟩ := step_plan stepped
    rw [finished_over was own] at planned
    cases planned
  · have finishes : Finishes sys sys' k := ⟨fun phase found is => was (is ▸ found), finished'⟩
    obtain ⟨own, plan, planned, _⟩ := finishes.moves linked stepped
    obtain ⟨plan', planned', stored, phases, next⟩ := step_plan stepped
    obtain rfl := Option.some.inj (planned.symm.trans planned')
    cases plan_ends planned own with
    | refused absent is =>
        rw [is] at next
        have same : sys'.dispatcher = sys.dispatcher := next
        exact gone_of_reach (.step reached trivial stepped) (same ▸ linked.absent absent)
    | goesOn performs act phase => exact absurd (phase (phases ▸ finished')) was
    | torn store now performs is =>
        cases here : sys.dispatcher.sessions.get? k with
        | none =>
            have act : plan.act = none := by
              rw [is]
              unfold teardown
              rw [here]
            rw [act] at next
            have same : sys'.dispatcher = sys.dispatcher := next
            exact gone_of_reach (.step reached trivial stepped) (same ▸ here)
        | some session =>
            have act : plan.act = some (.remove k) := by
              rw [is]
              unfold teardown
              rw [here]
            rw [act] at next
            have isAct : sys.act env e = some (.remove k) :=
              Option.bind_eq_some_iff.mpr ⟨plan, planned, act⟩
            refine ⟨remove_unregistered wired next, fun r' mem bears => ?_⟩
            have owners := torn_owners linked (owned_of_reach reached) own here performs now
              r'.instanceId
            rw [← is, ← stored, Table.mem_iff_find?.mp mem, Option.map_some] at owners
            obtain ⟨r, found, is_⟩ := Option.map_eq_some_iff.mp owners.symm
            split at is_
            · exact (congrArg Prod.snd is_).symm
            · rename_i notClosed
              have sameGeneration : r.connectionGeneration = r'.connectionGeneration :=
                congrArg Prod.fst is_
              have sameState : r.state = r'.state := congrArg Prod.snd is_
              rcases retires k session isAct here with removes | none_
              · exact absurd ⟨removes, sameGeneration.trans bears⟩ notClosed
              · exact sameState.symm.trans
                  (none_ r (Table.mem_of_find? found) (sameGeneration.trans bears))

/-- **A session that does not retire leaves its row online.** -/
theorem ghost_row (reached : (system env).Reach Machine.anyStep sys)
    (stepped : sys.step env e = some sys') (clean : Clean sys') : Retires env sys e := by
  intro k session act here
  cases removes : sys.dispatcher.removes k session with
  | true => exact Or.inl rfl
  | false =>
      refine Or.inr fun r mem bears => ?_
      have own : e.conn? = some k := (act_conn act).symm
      obtain ⟨plan, planned, isAct⟩ := Option.bind_eq_some_iff.mp act
      obtain ⟨plan', planned', stored, phases, _⟩ := step_plan stepped
      obtain rfl := Option.some.inj (planned.symm.trans planned')
      cases plan_ends planned own with
      | refused absent is =>
          rw [is] at isAct
          cases isAct
      | goesOn performs acts phase => exact absurd isAct (acts k)
      | torn store now performs is =>
          have finished : sys'.phases.get? k = some .finished := by
            rw [phases, is]
            unfold teardown
            rw [here]
            exact Dict.get?_insert_self _ _ _
          have owners := torn_owners (linked_of_reach reached) (owned_of_reach reached) own here
            performs now r.instanceId
          rw [Table.mem_iff_find?.mp mem, Option.map_some, removes, if_neg (by simp), ← is, ← stored]
            at owners
          obtain ⟨r', found', same⟩ := Option.map_eq_some_iff.mp owners
          have sameGeneration : r'.connectionGeneration = r.connectionGeneration :=
            congrArg Prod.fst same
          have offline := (clean k finished).offline r' (Table.mem_of_find? found')
            (sameGeneration.trans bears)
          exact (congrArg Prod.snd same).symm.trans offline

theorem clean_init : Clean init := fun _ finished => nomatch finished

/-- **Teardown.**  In a run, nothing is ever left of a handler that has finished, neither a
registry entry nor an online row, exactly when every session that ended was still
registered or had no online row. -/
theorem teardown_clean_iff {env : Env} {past : History} {sys : System}
    (run : (system env).Run past sys) :
    (∀ m ∈ past, Clean m.after) ↔ ∀ m ∈ past, Retires env m.before m.event := by
  constructor
  · intro clean m mem
    obtain ⟨before, after, rfl⟩ := List.append_of_mem mem
    obtain ⟨runBefore, stepped⟩ := run.upTo
    exact ghost_row runBefore.reach stepped (clean m mem)
  · intro retires
    have clean : Clean sys ∧ ∀ m ∈ past, Clean m.after := by
      induction run with
      | init => exact ⟨clean_init, fun m mem => absurd mem List.not_mem_nil⟩
      | @step past s t e before stepped ih =>
          obtain ⟨here, earlier⟩ := ih fun m mem => retires m (List.mem_append_left _ mem)
          have retired := retires _ (List.mem_append_right _ (List.mem_singleton_self _))
          have clean := here.step before.reach retired stepped
          refine ⟨clean, fun m mem => ?_⟩
          rcases List.mem_append.mp mem with older | isLast
          · exact earlier m older
          · rw [List.mem_singleton.mp isLast]
            exact clean
    exact clean.2

/-- The sample device has connected again under one instance id when its first connection
ends, and nothing is left of that one. -/
theorem teardown_clean_twice : ∃ (past : History) (sys : System),
    (system Sample.env).Run past sys ∧ sys.phases.get? 0 = some .finished ∧
    ∀ m ∈ past, Clean m.after := by
  have run : (system Sample.env).Run [] init := .init
  have holds : ((system Sample.env).execIf (fun sys e => decide (Retires Sample.env sys e)) init
      Sample.overlapped).any (fun sys : System => isFinished sys 0) = true := by
    decide +kernel
  obtain ⟨sys, ended, finished⟩ := (Option.any_eq_true _ _).mp holds
  obtain ⟨run, retires⟩ := run.of_execIf ended
  exact ⟨_, sys, run, isFinished_iff.mp finished, (teardown_clean_iff run).mpr retires⟩

/-- **A session replaced by one of another instance leaves its row online.** -/
theorem replaced_session_lingers : ∃ sys : System,
    (system Sample.env).Reach Machine.anyStep sys ∧ sys.phases.get? 0 = some .finished ∧
    (∃ r ∈ sys.store.instances, r.connectionGeneration = 0 ∧ r.state = .online) ∧
    ¬ Clean sys := by
  obtain ⟨sys, reached, checked⟩ := Machine.Reach.exists_of_exec (M := system Sample.env) .init
    (Sample.twice Sample.otherInstanceFrame ++ [.disconnect 0 (Sample.second 8)])
    (fun sys : System => isFinished sys 0 && sys.store.instances.rows.any fun r =>
      decide (r.connectionGeneration = 0 ∧ r.state = .online)) (by decide +kernel)
  obtain ⟨finished, lingers⟩ := Bool.and_eq_true_iff.mp checked
  have finished := isFinished_iff.mp finished
  obtain ⟨r, mem, both⟩ := List.any_eq_true.mp lingers
  obtain ⟨bears, online⟩ := of_decide_eq_true both
  refine ⟨sys, reached, finished, ⟨r, mem, bears, online⟩, fun clean => ?_⟩
  cases online.symm.trans ((clean 0 finished).offline r mem bears)

end RemoteAgent.System
