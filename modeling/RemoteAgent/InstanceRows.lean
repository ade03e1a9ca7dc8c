import RemoteAgent.Isolation

/-!
# One instance row through an event

An instance id has at most one row.  `step_row` is the case analysis over the events for
that row: the operation of the event touches it (`Touches`), and the end of a handler may
close it afterwards (`Shuts`).

* `acceptHeartbeat_iff`: which row an accepted heartbeat writes, and when it is accepted.
* `Owned`: a row bears the generation of a session with its connector and its instance id.
-/

open Wire Storage Transition

namespace RemoteAgent

open Dispatcher (field)

theorem asTimestamp_mono {t t' : Int} (le : t ≤ t') : asTimestamp t ≤ asTimestamp t' :=
  Int.ediv_le_ediv (by decide) le

/-- The clock reading of an event. -/
def Event.now? : Event → Option Int
  | .connect _ _ now | .receive _ _ now | .handshakeTimeout _ now | .rechallenge _ _ now
  | .readyFailed _ now | .finish _ now | .disconnect _ now | .issueToken _ _ _ _ _ now
  | .revoke _ now | .deviceStatus _ now | .operatorDevices now | .onlineAgents now
  | .command _ _ _ now | .cancel _ _ _ now => some now
  | .rejectUpgrade _ _ | .ready _ | .delete _ | .rename _ _ | .delivered _ _ | .sendFailed _ _
  | .expire _ | .cancelTask _ | .resume _ | .cancelSent _ | .cancelFailed _ => none

/-- The clock readings of a run, in order. -/
def readings (past : History) : List Int := past.filterMap fun m => m.event.now?

theorem readings_concat (past : History) (m : Machine.Moment System Event) :
    readings (past ++ [m]) = readings past ++ m.event.now?.toList := by
  unfold readings
  rw [List.filterMap_append]
  cases reading : m.event.now? with
  | none => simp only [List.filterMap_cons, reading, List.filterMap_nil, Option.toList_none]
  | some now => simp only [List.filterMap_cons, reading, List.filterMap_nil, Option.toList_some]

/-- The clock of a run never goes back. -/
def ClockRuns (past : History) : Prop := (readings past).Pairwise (· ≤ ·)

theorem ClockRuns.before {past : History} {m : Machine.Moment System Event}
    (clock : ClockRuns (past ++ [m])) : ClockRuns past := by
  unfold ClockRuns at clock
  rw [readings_concat] at clock
  exact (List.pairwise_append.mp clock).1

/-- No earlier reading is later. -/
theorem ClockRuns.last {past : History} {m : Machine.Moment System Event}
    (clock : ClockRuns (past ++ [m])) {now t : Int} (reading : m.event.now? = some now)
    (mem : t ∈ readings past) : t ≤ now := by
  unfold ClockRuns at clock
  rw [readings_concat, reading] at clock
  exact (List.pairwise_append.mp clock).2.2 t mem now (List.mem_singleton_self now)

namespace Store

variable {env : Env} {s s' : Store}

/-! ## The row after an operation -/

/-- A heartbeat that is accepted: the row it finds, and the epoch that is stored. -/
structure Beats (env : Env) (s : Store) (instanceId : String) (generation : Nat) (epoch : Json)
    (name : String) (r : InstanceRow) (new : Json) : Prop where
  parsed : parseInstanceId env (.str instanceId) = .ok name
  found : s.instances.find? name = some r
  generation : r.connectionGeneration = generation
  online : r.state = .online
  notBefore : ∃ stored, storedEpoch env r.contextEpoch = .ok stored ∧
    Py.lt env.floats epoch (.int stored) = some false
  column : env.naturalColumn epoch = some new

/-- **When a heartbeat is accepted, and what it writes.** -/
theorem acceptHeartbeat_iff {instanceId : String} {generation : Nat} {epoch : Json} {now : Int} :
    s.acceptHeartbeat env instanceId generation epoch now = .ok s' ↔
      ∃ name r new, Beats env s instanceId generation epoch name r new ∧
        s' = s.beaten name generation new now := by
  constructor
  · intro accepted
    unfold acceptHeartbeat at accepted
    split at accepted
    · cases accepted
    · rename_i name parsed
      split at accepted
      · cases accepted
      · cases accepted
      · rename_i beats
        cases accepted
        unfold heartbeat at beats
        split at beats
        · cases beats
        · rename_i r found
          split at beats
          · cases beats
          · rename_i current
            rw [not_or, not_not, not_not] at current
            split at beats
            · cases beats
            · rename_i stored isStored
              split at beats
              · cases beats
              · cases beats
              · rename_i notBefore
                split at beats
                · cases beats
                · rename_i new column
                  cases beats
                  exact ⟨name, r, new, ⟨parsed, found, current.2, current.1,
                    ⟨stored, isStored, notBefore⟩, column⟩, rfl⟩
  · rintro ⟨name, r, new, beats, rfl⟩
    obtain ⟨stored, isStored, notBefore⟩ := beats.notBefore
    unfold acceptHeartbeat heartbeat
    simp only [beats.parsed, beats.found, beats.online, beats.generation, ne_eq, not_true_eq_false,
      or_self, ↓reduceIte, isStored, notBefore, beats.column]
    rfl

theorem find?_beaten {name : String} {generation : Nat} {r : InstanceRow} (new : Json) (now : Int)
    (found : s.instances.find? name = some r) (isGeneration : r.connectionGeneration = generation)
    (online : r.state = .online) (id : String) :
    (s.beaten name generation new now).instances.find? id =
      if name = id then some (beat new (asTimestamp now) r) else s.instances.find? id := by
  have key : r.instanceId = name := Table.key_of_find? found
  split
  · rename_i here
    exact Table.find?_updateWhere_of (beat_key _ _) (here ▸ found) (by simp [key, isGeneration, online])
  · rename_i other
    refine Table.find?_updateWhere_other (beat_key _ _) fun r' found' => ?_
    have key' : r'.instanceId = id := Table.key_of_find? found'
    have apart : r'.instanceId ≠ name := fun same => other (same.symm.trans key')
    rw [decide_eq_false apart, Bool.false_and, Bool.false_and]

theorem find?_comesOnline (s : Store) (row : InstanceRow) (id : String) :
    (s.comesOnline row).instances.find? id =
      if row.instanceId = id then some row else s.instances.find? id := by
  unfold comesOnline
  simp only [Table.find?_upsert]
  split
  · cases found : s.instances.find? row.instanceId with
    | none => rfl
    | some old =>
        have key : old.instanceId = row.instanceId := Table.key_of_find? found
        simp only [replaceInstance, key]
  · rfl

/-- The end of a session closes the row of its instance id, if it bears its generation. -/
theorem find?_disconnectRelay (env : Env) (s : Store) (instanceId : String) (generation : Nat)
    (now : Int) (id : String) :
    (s.disconnectRelay env instanceId generation now).instances.find? id =
      (s.instances.find? id).map fun r =>
        if parseInstanceId env (.str instanceId) = .ok id ∧ r.connectionGeneration = generation then
          close (fun _ => some (asTimestamp now)) r
        else r := by
  have keep : ∀ p : InstanceRow → Prop, [DecidablePred p] →
      (∀ r, s.instances.find? id = some r → ¬ p r) → s.instances.find? id =
        (s.instances.find? id).map fun r =>
          if p r then close (fun _ => some (asTimestamp now)) r else r := by
    intro p _ none_
    cases found : s.instances.find? id with
    | none => rfl
    | some r => rw [Option.map_some, if_neg (none_ r found)]
  unfold disconnectRelay
  split
  · rename_i x failed
    refine keep _ fun r _ both => ?_
    rw [failed] at both
    cases both.1
  · rename_i name parsed
    unfold disconnectInstance
    split
    · rename_i absent
      refine keep _ fun r found both => ?_
      obtain rfl := Except.ok.inj (parsed.symm.trans both.1)
      rw [absent] at found
      cases found
    · rename_i row there
      split
      · rename_i other
        refine keep _ fun r found both => ?_
        obtain rfl := Except.ok.inj (parsed.symm.trans both.1)
        obtain rfl := Option.some.inj (there.symm.trans found)
        exact other both.2
      · refine (Table.find?_updateWhere _ _ _ (close_key _) _).trans ?_
        refine Option.map_congr fun r found => if_congr ?_ rfl rfl
        have key : r.instanceId = id := Table.key_of_find? found
        rw [parsed, Except.ok.injEq, key, Bool.and_eq_true, decide_eq_true_iff,
          decide_eq_true_iff, eq_comm]

/-- The row that a sweep leaves. -/
def reaped (staleBefore : Int) (r : InstanceRow) : InstanceRow :=
  if decide (r.state = .online) && decide (r.lastHeartbeatAt ≤ asTimestamp staleBefore) then
    close (fun r => r.disconnectedAt.or (some r.lastHeartbeatAt)) r
  else r

theorem find?_markStaleInstances (s : Store) (staleBefore : Int) (id : String) :
    (s.markStaleInstances staleBefore).instances.find? id =
      (s.instances.find? id).map (reaped staleBefore) :=
  Table.find?_updateWhere _ _ _ (close_key _) _

/-! ### Operations that leave the instances alone -/

theorem issueToken_instances {rawToken : String}
    {connectorId capabilityProfile displayLabel : Json} {expires now : Int}
    (issued : s.issueToken env rawToken connectorId capabilityProfile displayLabel expires now =
      .ok s') : s'.instances = s.instances := by
  obtain ⟨_, _, _, _, _, _, _, _, _, rfl⟩ := issueToken_ok issued
  rfl

theorem createChallenge_instances {challenge : Challenge} {now : Int}
    (created : s.createChallenge env challenge now = some s') : s'.instances = s.instances := by
  obtain ⟨_, _, rfl⟩ := createChallenge_ok created
  rfl

theorem rename_instances {connectorId : String} {displayLabel : Json}
    (renamed : s.rename env connectorId displayLabel = .ok s') : s'.instances = s.instances := by
  unfold rename at renamed
  split at renamed
  · cases renamed
  · split at renamed
    · cases renamed
    · split at renamed
      · cases renamed
      · cases renamed
        rfl

theorem handleEnroll_instances {message : Json} {now : Int} {result : Except Exc String}
    (done : s.handleEnroll env message now = (s', result)) : s'.instances = s.instances := by
  cases handleEnroll_steps done with
  | refused | unchallenged | unverified => rfl
  | enrolled tokenOpen challengeOpen as =>
      rw [as.stored]
      rfl

/-- An authentication that fails leaves the instances alone. -/
theorem authenticateSession_error {generation : Nat} {challenge : Challenge} {message : Json}
    {now : Int} {x : Exc}
    (done : s.authenticateSession env generation challenge message now = (s', .error x)) :
    s'.instances = s.instances := by
  cases authenticateSession_steps done with
  | refused | unverified => rfl

/-- An authentication that gets through writes one row. -/
theorem authenticateSession_ok {generation : Nat} {challenge : Challenge} {message : Json}
    {now : Int} {session : AgentRelaySession}
    (done : s.authenticateSession env generation challenge message now = (s', .ok session)) :
    ∃ epoch, env.naturalColumn (field message "context_epoch") = some epoch ∧
      session.contextEpoch = field message "context_epoch" ∧
      s' = (s.useChallenge (env.text (field message "challenge_id")) now).comesOnline
        (onlineRow session.connectorId session.instanceId generation epoch now) := by
  obtain ⟨epoch, column, written⟩ := (authenticateSession_admits done).writes generation
  obtain ⟨row, challengeOpen, as⟩ := (authenticateSession_steps done).ok
  rw [done] at written
  exact ⟨epoch, column, as.contextEpoch, written⟩

end Store

/-! ## The row through an event -/

namespace System

variable {env : Env} {sys sys' : System} {e : Event}

/-- What the operation of an event can do to the row of an instance id. -/
inductive Touches (env : Env) (sys : System) (e : Event) (id : String) :
    Option InstanceRow → Prop
  | same : Touches env sys e id (sys.store.instances.find? id)
  | swept {r : InstanceRow} (free : e.conn? = none)
      (found : sys.store.instances.find? id = some r) (online : r.state = .online) :
      Touches env sys e id
        (some (Store.close (fun r => r.disconnectedAt.or (some r.lastHeartbeatAt)) r))
  | revoked {connectorId : String} {now : Int} {r : InstanceRow}
      (event : e = .revoke connectorId now) (found : sys.store.instances.find? id = some r)
      (online : r.state = .online) :
      Touches env sys e id (some (Store.close (fun _ => some (asTimestamp now)) r))
  | deleted {connectorId : String} {r : InstanceRow} (event : e = .delete connectorId)
      (found : sys.store.instances.find? id = some r) (own : r.connectorId = connectorId) :
      Touches env sys e id none
  | beaten {k : ConnId} {session : AgentRelaySession} {message : Json} {now : Int}
      {r : InstanceRow} {new : Json} (event : e = .receive k (.ok message) now)
      (here : sys.dispatcher.sessions.get? k = some session)
      (beats : Store.Beats env sys.store session.instanceId k (field message "context_epoch")
        id r new) :
      Touches env sys e id (some (Store.beat new (asTimestamp now) r))
  | online {k : ConnId} {phase : Phase} {challenge : Store.Challenge} {message : Json} {now : Int}
      {store : Store} {session : AgentRelaySession} {epoch : Json}
      (event : e = .receive k (.ok message) now) (here : sys.phases.get? k = some phase)
      (waits : phase.challenge? = some challenge)
      (done : sys.store.authenticateSession env k challenge message now = (store, .ok session))
      (isId : session.instanceId = id)
      (column : env.naturalColumn (field message "context_epoch") = some epoch) :
      Touches env sys e id
        (some (Store.onlineRow session.connectorId session.instanceId k epoch now))

/-- What the end of a handler can do to it afterwards. -/
inductive Shuts (env : Env) (sys : System) (id : String) (mid : Option InstanceRow) :
    Option ConnId → Option InstanceRow → Prop
  | same (who : Option ConnId) : Shuts env sys id mid who mid
  | closed {k : ConnId} {session : AgentRelaySession} {r : InstanceRow} (now : Int)
      (here : sys.dispatcher.sessions.get? k = some session)
      (parsed : parseInstanceId env (.str session.instanceId) = .ok id) (found : mid = some r)
      (generation : r.connectionGeneration = k) :
      Shuts env sys id mid (some k) (some (Store.close (fun _ => some (asTimestamp now)) r))

theorem Touches.kept {id : String} {row : Option InstanceRow}
    (found : sys.store.instances.find? id = row) : Touches env sys e id row := by
  rw [← found]
  exact .same

theorem touches_of_same {store : Store} (same : store.instances = sys.store.instances)
    (id : String) : Touches env sys e id (store.instances.find? id) := by
  rw [same]
  exact .same

theorem sweeps_touches {store : Store} (free : e.conn? = none)
    (swept : sys.store.Sweeps store) (id : String) :
    Touches env sys e id (store.instances.find? id) := by
  induction swept with
  | refl => exact .same
  | @tail mid last _ next ih =>
      obtain ⟨staleBefore, rfl⟩ := next
      rw [Store.find?_markStaleInstances]
      generalize mid.instances.find? id = row at ih
      cases ih with
      | same =>
          cases found : sys.store.instances.find? id with
          | none => exact .kept found
          | some r =>
              rw [Option.map_some]
              unfold Store.reaped
              split
              · rename_i overdue
                rw [Bool.and_eq_true, decide_eq_true_eq] at overdue
                exact .swept free found overdue.1
              · exact .kept found
      | swept _ found online => exact .swept free found online
      | revoked event found online => exact .revoked event found online
      | deleted event found own => exact .deleted event found own
      | beaten event => exact absurd (event ▸ free) (fun no => nomatch no)
      | online event => exact absurd (event ▸ free) (fun no => nomatch no)

theorem Performs.touches {store : Store} (performs : Performs env sys e store) (id : String) :
    Touches env sys e id (store.instances.find? id) := by
  cases performs with
  | nothing => exact .same
  | issues issued => exact touches_of_same (Store.issueToken_instances issued) id
  | renames renamed => exact touches_of_same (Store.rename_instances renamed) id
  | challenges asked created => exact touches_of_same (Store.createChallenge_instances created) id
  | enrolls phase type done => exact touches_of_same (Store.handleEnroll_instances done) id
  | sweeps free swept => exact sweeps_touches free swept id
  | revokes revoked =>
      unfold Store.revokeDevice at revoked
      split at revoked
      · cases revoked
      · cases revoked
        simp only [Table.find?_updateWhere]
        cases found : sys.store.instances.find? id with
        | none => exact .kept found
        | some r =>
            rw [Option.map_some]
            split
            · rename_i hit
              simp only [Bool.and_eq_true, decide_eq_true_eq] at hit
              have online : r.state = .online := by
                cases state : r.state with
                | online => rfl
                | offline => exact absurd state hit.2
              exact .revoked rfl found online
            · exact .kept found
  | deletes deleted =>
      unfold Store.deleteRevokedDevice at deleted
      split at deleted
      · cases deleted
      · split at deleted
        · cases deleted
        · cases deleted
          simp only [Table.find?_deleteWhere]
          cases found : sys.store.instances.find? id with
          | none => exact .kept found
          | some r =>
              rw [Option.filter_some]
              split
              · exact .kept found
              · rename_i hit
                simp only [Bool.not_eq_true', decide_eq_false_iff_not, not_not] at hit
                exact .deleted rfl found hit
  | @authenticates k phase challenge message now _ result here waits done =>
      cases result with
      | error x => exact touches_of_same (Store.authenticateSession_error done) id
      | ok session =>
          obtain ⟨epoch, column, _, rfl⟩ := Store.authenticateSession_ok done
          rw [Store.find?_comesOnline]
          split
          · rename_i isId
            exact .online rfl here waits done isId column
          · exact .same
  | beats here done =>
      rcases Store.handleHeartbeat_steps done with rfl | accepted
      · exact .same
      · obtain ⟨name, r, new, beats, rfl⟩ := Store.acceptHeartbeat_iff.mp accepted
        rw [Store.find?_beaten _ _ beats.found beats.generation beats.online]
        split
        · rename_i isId
          subst isId
          exact .beaten rfl here beats
        · exact .same

theorem Closes.shuts {store store' : Store} {who : Option ConnId}
    (closes : Closes env sys store who store') (id : String) :
    Shuts env sys id (store.instances.find? id) who (store'.instances.find? id) := by
  cases closes with
  | same => exact .same who
  | closed now here =>
      rw [Store.find?_disconnectRelay]
      cases found : store.instances.find? id with
      | none => exact .same _
      | some r =>
          rw [Option.map_some]
          split
          · rename_i hit
            exact .closed now here hit.1 rfl hit.2
          · exact .same _

/-- **What an event does to the row of an instance id.** -/
theorem step_row (stepped : sys.step env e = some sys') (id : String) :
    ∃ mid, Touches env sys e id mid ∧
      Shuts env sys id mid e.conn? (sys'.store.instances.find? id) := by
  obtain ⟨mid, performs, closes⟩ := step_operates stepped
  exact ⟨_, performs.touches id, closes.shuts id⟩

/-! ## Rows and sessions -/

/-- A session stays, up to its epoch. -/
theorem session_kept (stepped : sys.step env e = some sys') {k : ConnId}
    {session : AgentRelaySession} (was : sys.dispatcher.sessions.get? k = some session) :
    ∃ session', sys'.dispatcher.sessions.get? k = some session' ∧
      Dispatcher.SessionFrom session session' := by
  obtain ⟨plan, _, _, _, next⟩ := step_plan stepped
  split at next
  · exact ⟨session, next ▸ was, .refl session⟩
  · exact (Dispatcher.step_sessions next).kept was

/-- An authentication that gets through registers its session. -/
theorem step_joins (stepped : sys.step env e = some sys') {k : ConnId} {phase : Phase}
    {challenge : Store.Challenge} {message : Json} {now : Int} {store : Store}
    {session : AgentRelaySession} (event : e = .receive k (.ok message) now)
    (here : sys.phases.get? k = some phase) (waits : phase.challenge? = some challenge)
    (done : sys.store.authenticateSession env k challenge message now = (store, .ok session)) :
    Dispatcher.Joins sys.dispatcher sys'.dispatcher k session ∧
      sys'.phases = sys.phases.insert k .readying := by
  subst event
  obtain ⟨plan, planned, _, phases, next⟩ := step_plan stepped
  rw [plan_authenticated here waits done] at planned
  obtain rfl := Option.some.inj planned
  exact ⟨Dispatcher.step_register next, phases⟩

/-- What parses as an instance id is one. -/
theorem parseInstanceId_parsed {j : Json} {id : String} (parsed : parseInstanceId env j = .ok id) :
    parseInstanceId env (.str id) = .ok id := by
  obtain ⟨isStrip, matched⟩ := parsePattern_ok_iff.mp parsed
  refine parsePattern_ok_iff.mpr ⟨?_, matched⟩
  rw [text_str, isStrip, Py.strip_strip]

/-- A row bears the generation of a session with its connector and its instance id. -/
def Owned (env : Env) (sys : System) : Prop :=
  ∀ id r, sys.store.instances.find? id = some r →
    ∃ session, sys.dispatcher.sessions.get? r.connectionGeneration = some session ∧
      session.connectorId = r.connectorId ∧ session.instanceId = id ∧
      parseInstanceId env (.str id) = .ok id

theorem Owned.step (owned : Owned env sys) (stepped : sys.step env e = some sys') :
    Owned env sys' := by
  -- A row that keeps its connector and its generation keeps its session.
  have old : ∀ {id : String} {r : InstanceRow}, sys.store.instances.find? id = some r →
      ∀ {r' : InstanceRow}, r'.connectionGeneration = r.connectionGeneration →
      r'.connectorId = r.connectorId → ∃ session,
        sys'.dispatcher.sessions.get? r'.connectionGeneration = some session ∧
        session.connectorId = r'.connectorId ∧ session.instanceId = id ∧
        parseInstanceId env (.str id) = .ok id := by
    intro id r found r' generation connector
    obtain ⟨session, here, own, isId, parsed⟩ := owned id r found
    obtain ⟨session', here', from_⟩ := session_kept stepped here
    exact ⟨session', generation ▸ here', from_.connectorId.trans (own.trans connector.symm),
      from_.instanceId.trans isId, parsed⟩
  intro id r' found'
  obtain ⟨mid, touches, shuts⟩ := step_row stepped id
  have held : ∀ r, mid = some r → ∃ session,
      sys'.dispatcher.sessions.get? r.connectionGeneration = some session ∧
      session.connectorId = r.connectorId ∧ session.instanceId = id ∧
      parseInstanceId env (.str id) = .ok id := by
    intro r isRow
    cases touches with
    | same => exact old isRow rfl rfl
    | swept free found online =>
        cases isRow
        exact old found rfl rfl
    | revoked event found online =>
        cases isRow
        exact old found rfl rfl
    | deleted => cases isRow
    | beaten event here beats =>
        cases isRow
        exact old beats.found rfl rfl
    | online event here waits done isId column =>
        cases isRow
        have joins := (step_joins stepped event here waits done).1
        refine ⟨_, ?_, rfl, isId, ?_⟩
        · rw [joins.sessions]
          exact Dict.get?_insert_self _ _ _
        · exact isId ▸ parseInstanceId_parsed (Store.authenticateSession_admits done).instance_
  generalize e.conn? = who, sys'.store.instances.find? id = row at shuts found'
  cases shuts with
  | same => exact held r' found'
  | @closed k session r now here parsed isRow generation =>
      cases found'
      exact held r isRow

/-- **A row belongs to the session of its generation.** -/
theorem owned_of_reach {allow : System → Event → Prop} (reached : (system env).Reach allow sys) :
    Owned env sys :=
  reached.invariant (fun _ _ none_ => nomatch none_) fun _ owned _ stepped => owned.step stepped

end System

/-! ## A device that connects twice -/

namespace Sample

/-- The first device authenticates on a second connection. -/
def againFrame (instanceId signature : String) : Json :=
  .obj [("v", .int 1), ("type", .str "authenticate"),
    ("challenge_id", .str thirdChallenge.challengeId),
    ("challenge", .str thirdChallenge.challenge), ("connector_id", .str "pc-1"),
    ("instance_id", .str instanceId), ("context_epoch", .int 1), ("signature", .str signature)]

/-- With the instance id it serves under already. -/
def sameInstanceFrame : Json :=
  againFrame "i-1"
    "3LujgJ8bygaCp6EKBU_pjNaAQPvVMfr6l64O1DypKwZeLjg9kgDpMuTLAhySEq5MmA_xKBM72Hd4poMQaYa2Bw"

/-- With another instance id. -/
def otherInstanceFrame : Json :=
  againFrame "i-2"
    "SO5f95f8hJkpWKb2qJs_zG2idwP6LSUyO1NsgyKlOjoYe-QOCj-s71IgtZx9V4_PCvHrpFArr3c804YfGCsYBA"

/-- The first device serves, and serves on connection 1 as well. -/
def twice (frame : Json) : List Event :=
  serving ++ [.connect 1 thirdChallenge (second 6), .receive 1 (.ok frame) (second 7), .ready 1]

end Sample

end RemoteAgent
