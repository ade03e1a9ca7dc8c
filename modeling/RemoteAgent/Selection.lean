import RemoteAgent.Inventory

/-!
# The session that a lookup selects

A command without an instance id and a cancel look up the row of the connector with the
latest heartbeat, and then ask the registry for the session of that instance.
`registered_selected_iff`: for a registered session with a fresh row, this finds the session
exactly when its row leads the fresh rows of the connector.

* `foldl_laterBeat_iff`: which row the lookup answers.
* `replaced_session_beats`: a session that was replaced and still sends heartbeats takes the
  lookup away from the one that replaced it.
-/

open Wire Storage Transition

namespace RemoteAgent

namespace Store

variable {env : Env} {s : Store}

/-! ## The row with the latest heartbeat -/

theorem foldl_laterBeat_newer {best : InstanceRow} {rows : List InstanceRow}
    (newer : ∀ r ∈ rows, r.lastHeartbeatAt < best.lastHeartbeatAt) :
    rows.foldl laterBeat (some best) = some best := by
  induction rows with
  | nil => rfl
  | cons r rows ih =>
      have kept : laterBeat (some best) r = some best := by
        have below := newer r List.mem_cons_self
        simp only [laterBeat]
        rw [if_neg (by omega)]
      rw [List.foldl_cons, kept]
      exact ih fun r' mem => newer r' (List.mem_cons_of_mem _ mem)

/-- **The row that is answered**: none before it has a later heartbeat, and every one after it
has an earlier one. -/
theorem foldl_laterBeat_iff {rows : List InstanceRow} {best : InstanceRow} :
    rows.foldl laterBeat none = some best ↔ ∃ before after, rows = before ++ best :: after ∧
      (∀ r ∈ before, r.lastHeartbeatAt ≤ best.lastHeartbeatAt) ∧
      ∀ r ∈ after, r.lastHeartbeatAt < best.lastHeartbeatAt := by
  have split : ∀ rows : List InstanceRow, ∀ best, rows.foldl laterBeat none = some best →
      ∃ before after, rows = before ++ best :: after ∧
        (∀ r ∈ before, r.lastHeartbeatAt ≤ best.lastHeartbeatAt) ∧
        ∀ r ∈ after, r.lastHeartbeatAt < best.lastHeartbeatAt := by
    intro rows
    induction rows using List.reverseRecOn with
    | nil => exact fun _ none_ => nomatch none_
    | append_singleton rows last ih =>
        intro best is
        rw [List.foldl_append, List.foldl_cons, List.foldl_nil] at is
        cases earlier : rows.foldl laterBeat none with
        | none =>
            have empty : rows = [] := by
              have some_ := laterBeat_isSome rows none
              rw [earlier] at some_
              simpa using some_
            rw [earlier] at is
            obtain rfl := Option.some.inj is
            exact ⟨[], [], by rw [empty], fun r mem => absurd mem List.not_mem_nil,
              fun r mem => absurd mem List.not_mem_nil⟩
        | some old =>
            obtain ⟨before, after, rfl, above, below⟩ := ih old earlier
            rw [earlier] at is
            simp only [laterBeat] at is
            split at is
            · rename_i later
              obtain rfl := Option.some.inj is
              refine ⟨before ++ old :: after, [], rfl, fun r mem => ?_,
                fun r mem => absurd mem List.not_mem_nil⟩
              rcases List.mem_append.mp mem with mem | mem
              · exact (above r mem).trans later
              · rcases List.mem_cons.mp mem with rfl | mem
                · exact later
                · exact (below r mem).le.trans later
            · rename_i earlier
              obtain rfl := Option.some.inj is
              refine ⟨before, after ++ [last], by simp, above, fun r mem => ?_⟩
              rcases List.mem_append.mp mem with mem | isLast
              · exact below r mem
              · rw [List.mem_singleton.mp isLast]
                omega
  constructor
  · exact split rows best
  · rintro ⟨before, after, rfl, above, below⟩
    rw [List.foldl_append, List.foldl_cons]
    have led : laterBeat (before.foldl laterBeat none) best = some best := by
      cases earlier : before.foldl laterBeat none with
      | none => rfl
      | some old =>
          obtain ⟨older, _, rfl, _⟩ := split before old earlier
          simp only [laterBeat]
          rw [if_pos (above old (List.mem_append_right _ List.mem_cons_self))]
    rw [led]
    exact foldl_laterBeat_newer below

/-- Of the fresh rows of its connector, the row has the latest heartbeat, and of those with
that heartbeat it is the last. -/
def Leads (env : Env) (s : Store) (now : Int) (r : InstanceRow) : Prop :=
  ∃ before after, s.freshRows r.connectorId (freshAfter env now) = before ++ r :: after ∧
    (∀ r' ∈ before, r'.lastHeartbeatAt ≤ r.lastHeartbeatAt) ∧
    ∀ r' ∈ after, r'.lastHeartbeatAt < r.lastHeartbeatAt

theorem leads_iff {now : Int} {r : InstanceRow} :
    s.Leads env now r ↔ (s.latestOnlineInstance r.connectorId (freshAfter env now)).2 = some r := by
  rw [latestOnlineInstance_eq, foldl_laterBeat_iff]
  rfl

/-- The lookup without an instance id answers a fresh row of the connector. -/
theorem latest_fresh {connectorId : String} {cutoff : Int} {r : InstanceRow}
    (is : (s.latestOnlineInstance connectorId cutoff).2 = some r) :
    r ∈ s.freshRows connectorId cutoff := by
  rw [latestOnlineInstance_eq, foldl_laterBeat_iff] at is
  obtain ⟨before, after, split, _⟩ := is
  rw [split]
  exact List.mem_append_right _ List.mem_cons_self

theorem relaySession_latest (env : Env) (s : Store) (connectorId : String) (now : Int)
    {instanceId : Option String} (unnamed : instanceId.getD "" = "") :
    s.relaySession env connectorId instanceId now =
      .ok (s.latestOnlineInstance connectorId (freshAfter env now)) := by
  unfold relaySession
  split
  · rfl
  · rfl
  · rename_i named
    exact absurd unnamed named

end Store

namespace Dispatcher

variable {env : Env} {d : Dispatcher}

/-- What a command becomes once the registry has found its session. -/
theorem prepare_found {connectorId : String} {input : CommandInput} {row : Routing}
    {uuid : String} {now : Int} {k : ConnId} {session : AgentRelaySession}
    (found : d.getExact connectorId row.instanceId = some (k, session)) :
    d.prepare env connectorId input (some row) uuid now ≠ .error .deviceOffline ∧
      ∀ rq, d.prepare env connectorId input (some row) uuid now = .ok rq → rq.conn = k := by
  unfold prepare
  simp only [found]
  split
  · exact ⟨fun same => (nomatch same), fun _ same => (nomatch same)⟩
  · split
    · exact ⟨fun same => (nomatch same), fun _ same => (nomatch same)⟩
    · split
      · exact ⟨fun same => (nomatch same), fun _ same => (nomatch same)⟩
      · refine ⟨fun same => (nomatch same), fun rq same => ?_⟩
        rw [← Except.ok.inj same]

/-- A call that reaches `claim_request` keeps its request. -/
theorem claimAndSend_claimed (env : Env) (d : Dispatcher) (c : CallId) (rq : Request) :
    ∃ call o, (d.claimAndSend env c rq).calls.get? c = some call ∧ call.claimed? = some (rq, o) := by
  unfold claimAndSend
  dsimp only
  split
  · split
    · exact ⟨_, _, Dict.get?_insert_self _ _ _, rfl⟩
    · exact ⟨_, _, Dict.get?_insert_self _ _ _, rfl⟩
  · exact ⟨_, _, Dict.get?_insert_self _ _ _, rfl⟩

/-- A call has not failed for want of a session, and if it has reached `claim_request`, it is
a call on connection `k`. -/
def CallSelects (d : Dispatcher) (c : CallId) (k : ConnId) : Prop :=
  d.calls.get? c ≠ some (.refused (.agent .deviceOffline)) ∧
    ∀ call rq o, d.calls.get? c = some call → call.claimed? = some (rq, o) → rq.conn = k

theorem callSelects_of_refused {d : Dispatcher} {c : CallId} {e : Exc} {k : ConnId}
    (other : e ≠ .agent .deviceOffline) (refused : d.calls.get? c = some (.refused e)) :
    d.CallSelects c k := by
  refine ⟨fun offline => ?_, fun call rq o is claimed => ?_⟩
  · rw [refused] at offline
    cases offline
    exact other rfl
  · rw [refused] at is
    cases is
    cases claimed

theorem step_command_selects {d' : Dispatcher} {c : CallId} {connectorId : String}
    {input : CommandInput} {row : Routing} {uuid : String} {now : Int} {k : ConnId}
    {session : AgentRelaySession} (found : d.getExact connectorId row.instanceId = some (k, session))
    (step : d.step env (.command c connectorId input (some row) uuid now) = some d') :
    d'.CallSelects c k := by
  simp only [Dispatcher.step] at step
  split at step
  · cases step
  · obtain rfl := Option.some.inj step
    unfold deviceCommand
    split
    · rename_i e refused
      refine callSelects_of_refused ?_ (Dict.get?_insert_self _ _ _)
      rintro ⟨⟩
      exact (prepare_found found).1 refused
    · rename_i rq prepared
      obtain ⟨call, o, is, claimed⟩ := claimAndSend_claimed env d c rq
      refine ⟨fun offline => ?_, fun call' rq' o' is' claimed' => ?_⟩
      · cases is.symm.trans offline
        cases claimed
      · obtain rfl := Option.some.inj (is.symm.trans is')
        cases claimed.symm.trans claimed'
        exact (prepare_found found).2 rq prepared

theorem step_cancel_finds {d' : Dispatcher} {x : CancelId} {connectorId id : String} {row : Routing}
    {k : ConnId} {session : AgentRelaySession} {c : CallId}
    (found : d.getExact connectorId row.instanceId = some (k, session))
    (waiting : (d.pending k).get? id = some c)
    (step : d.step env (.cancelRequest x connectorId id (some row)) = some d') :
    d'.cancels.get? x = some (.sending c connectorId id) := by
  simp only [Dispatcher.step] at step
  split at step
  · cases step
  · obtain rfl := Option.some.inj step
    simp only [cancelRequest, found, waiting]
    exact Dict.get?_insert_self _ _ _

end Dispatcher

namespace System

variable {env : Env} {sys sys' : System}

/-! ## Commands and cancels -/

/-- Commands without an instance id and cancels find the session of connection `k`. -/
structure Selects (env : Env) (sys : System) (connectorId : String) (now : Int) (k : ConnId)
    (session : AgentRelaySession) : Prop where
  lookup : ∃ store row, sys.store.relaySession env connectorId none now = .ok (store, some row) ∧
    sys.dispatcher.getExact connectorId row.instanceId = some (k, session)
  command : ∀ c input uuid sys', parseConnectorId env (.str input.connectorId) = .ok connectorId →
    input.instanceId.getD "" = "" → sys.step env (.command c input uuid now) = some sys' →
    sys'.dispatcher.CallSelects c k
  cancel : ∀ x name requestId id c sys', parseConnectorId env (.str name) = .ok connectorId →
    parseUuid env (.str requestId) = .ok id → (sys.dispatcher.pending k).get? id = some c →
    sys.step env (.cancel x name requestId now) = some sys' →
    sys'.dispatcher.cancels.get? x = some (.sending c connectorId id)

/-- What a command does once the lookup has answered a row. -/
theorem commands_looked {c : CallId} {connectorId : String} {input : CommandInput} {uuid : String}
    {now : Int} {store : Store} {row : InstanceRow}
    (parsed : parseConnectorId env (.str input.connectorId) = .ok connectorId)
    (looked : sys.store.relaySession env connectorId input.instanceId now = .ok (store, some row)) :
    sys.commands env c input uuid now =
        ⟨sys.store, sys.phases, some (.refuse c (.agent .appAssertionConnectorMismatch))⟩ ∨
      sys.commands env c input uuid now =
        ⟨store, sys.phases, some (.command c connectorId input (some (routing row)) uuid now)⟩ := by
  unfold commands
  rw [parsed]
  dsimp only
  split
  · exact Or.inl rfl
  · rw [looked]
    exact Or.inr rfl

/-- And what a cancel does. -/
theorem cancels_looked {x : CancelId} {name requestId connectorId id : String} {now : Int}
    {store : Store} {row : InstanceRow}
    (parsed : parseConnectorId env (.str name) = .ok connectorId)
    (parsedId : parseUuid env (.str requestId) = .ok id)
    (looked : sys.store.relaySession env connectorId none now = .ok (store, some row)) :
    sys.cancels env x name requestId now =
      ⟨store, sys.phases, some (.cancelRequest x connectorId id (some (routing row)))⟩ := by
  unfold cancels
  rw [parsed]
  dsimp only
  rw [parsedId]
  dsimp only
  rw [looked]
  rfl

/-- Both lookups suffice for commands and cancels. -/
theorem selects_of_lookup {connectorId : String} {now : Int} {k : ConnId}
    {session : AgentRelaySession} {store : Store} {row : InstanceRow}
    (looked : sys.store.relaySession env connectorId none now = .ok (store, some row))
    (found : sys.dispatcher.getExact connectorId row.instanceId = some (k, session)) :
    Selects env sys connectorId now k session where
  lookup := ⟨store, row, looked, found⟩
  command := by
    intro c input uuid sys' parsed unnamed stepped
    obtain ⟨plan, planned, _, _, next⟩ := step_plan stepped
    have looked : sys.store.relaySession env connectorId input.instanceId now =
        .ok (store, some row) := by
      rw [Store.relaySession_latest env _ _ _ unnamed, ← looked]
      exact (Store.relaySession_latest env _ _ _ rfl).symm
    have is : sys.commands env c input uuid now = plan := Option.some.inj planned
    rcases commands_looked parsed looked with refused | taken
    · obtain rfl := is.symm.trans refused
      simp only [Dispatcher.step] at next
      split at next
      · cases next
      · rw [← Option.some.inj next]
        exact Dispatcher.callSelects_of_refused (e := .agent .appAssertionConnectorMismatch)
          (fun same => by cases same) (Dict.get?_insert_self _ _ _)
    · obtain rfl := is.symm.trans taken
      exact Dispatcher.step_command_selects found next
  cancel := by
    intro x name requestId id c sys' parsed parsedId waiting stepped
    obtain ⟨plan, planned, _, _, next⟩ := step_plan stepped
    have is : sys.cancels env x name requestId now = plan := Option.some.inj planned
    obtain rfl := is.symm.trans (cancels_looked parsed parsedId looked)
    exact Dispatcher.step_cancel_finds found waiting next

/-- **Selection.**  In every state that can be reached, a registered session is the one that
commands without an instance id and cancels find, exactly when its own row leads the fresh rows
of its connector. -/
theorem registered_selected_iff {env : Env} {sys : System}
    (reached : (system env).Reach Machine.anyStep sys) {connectorId : String} {now : Int}
    {k : ConnId} {session : AgentRelaySession} {r : InstanceRow}
    (registered : sys.dispatcher.registry.get? connectorId = some k)
    (here : sys.dispatcher.sessions.get? k = some session)
    (row : sys.store.instances.find? session.instanceId = some r)
    (own : r.connectionGeneration = k) :
    Selects env sys connectorId now k session ↔ sys.store.Leads env now r := by
  have key : r.instanceId = session.instanceId := Table.key_of_find? row
  have connector : r.connectorId = connectorId := by
    have wired := Dispatcher.wired_of_reach ((system_simulates env).reach_any reached)
    have is := wired.registered connectorId k registered
    unfold Dispatcher.connectorOf at is
    obtain ⟨session', here', isConnector, _⟩ := owned_of_reach reached _ r row
    rw [own, here] at here'
    obtain rfl := Option.some.inj here'
    rw [here] at is
    exact isConnector.symm.trans (Option.some.inj is)
  rw [Store.leads_iff, connector]
  constructor
  · intro selects
    obtain ⟨store, row', looked, found⟩ := selects.lookup
    rw [Store.relaySession_latest env _ _ _ rfl] at looked
    have latest := congrArg Prod.snd (Except.ok.inj looked)
    have mem := (Store.mem_freshRows.mp (Store.latest_fresh latest)).1
    have same : row'.instanceId = session.instanceId := by
      simp only [Dispatcher.getExact, registered, here] at found
      split at found
      · rename_i same
        exact same.symm
      · cases found
    have isRow : row' = r :=
      Table.eq_of_key mem (Table.mem_of_find? row) (same.trans key.symm)
    rw [← isRow]
    exact latest
  · intro latest
    have looked : sys.store.relaySession env connectorId none now =
        .ok ((sys.store.latestOnlineInstance connectorId (Store.freshAfter env now)).1, some r) := by
      rw [Store.relaySession_latest env _ _ _ rfl, ← latest]
    have found : sys.dispatcher.getExact connectorId r.instanceId = some (k, session) := by
      simp only [Dispatcher.getExact, registered, here, key, ↓reduceIte]
    exact selects_of_lookup looked found

/-- A call was refused for want of a session. -/
def offline : Option Call → Bool
  | some (.refused (.agent .deviceOffline)) => true
  | _ => false

theorem offline_iff {call : Option Call} :
    offline call = true ↔ call = some (.refused (.agent .deviceOffline)) := by
  constructor
  · intro failed
    unfold offline at failed
    split at failed
    · rfl
    · cases failed
  · rintro rfl
    rfl

/-- The second session of the sample device is found while it has the later heartbeat. -/
theorem registered_selected_iff_later : ∃ (sys : System) (session : AgentRelaySession),
    (system Sample.env).Reach Machine.anyStep sys ∧
    sys.dispatcher.registry.get? "pc-1" = some 1 ∧
    Selects Sample.env sys "pc-1" (Sample.second 10) 1 session := by
  obtain ⟨sys, reached, checked⟩ := Machine.Reach.exists_of_exec (M := system Sample.env) .init
    (Sample.twice Sample.otherInstanceFrame) (fun sys : System =>
      decide (sys.dispatcher.registry.get? "pc-1" = some 1) &&
      ((sys.store.latestOnlineInstance "pc-1"
        (Store.freshAfter Sample.env (Sample.second 10))).2.any fun r : InstanceRow =>
          decide (r.connectorId = "pc-1" ∧ r.connectionGeneration = 1))) (by decide +kernel)
  obtain ⟨registered, latest⟩ := Bool.and_eq_true_iff.mp checked
  have registered := of_decide_eq_true registered
  obtain ⟨r, is, checked⟩ := (Option.any_eq_true _ _).mp latest
  obtain ⟨connector, own⟩ := of_decide_eq_true checked
  have found := Table.mem_iff_find?.mp (Store.mem_freshRows.mp (Store.latest_fresh is)).1
  obtain ⟨session, here, _, isId, _⟩ := owned_of_reach reached _ r found
  rw [own] at here
  rw [← connector] at is
  exact ⟨sys, session, reached, registered,
    (registered_selected_iff reached registered here (isId ▸ found) own).mpr (Store.leads_iff.mpr is)⟩

/-- **A session that was replaced still draws the lookup to itself** as long as it sends
heartbeats, and a command for the connector fails although its session is live. -/
theorem replaced_session_beats : ∃ (sys sys' : System) (session : AgentRelaySession),
    (system Sample.env).Reach Machine.anyStep sys ∧
    sys.dispatcher.registry.get? "pc-1" = some 1 ∧
    sys.dispatcher.sessions.get? 1 = some session ∧
    (∃ r, sys.store.instances.find? session.instanceId = some r ∧ r.connectionGeneration = 1 ∧
      Store.isFresh (Store.freshAfter Sample.env (Sample.second 10)) r = true) ∧
    sys.step Sample.env (.command 0 (Sample.command "k-1" false) (Sample.uuid 0) (Sample.second 10)) =
      some sys' ∧
    sys'.dispatcher.calls.get? 0 = some (.refused (.agent .deviceOffline)) ∧
    ¬ Selects Sample.env sys "pc-1" (Sample.second 10) 1 session := by
  obtain ⟨sys, reached, checked⟩ := Machine.Reach.exists_of_exec (M := system Sample.env) .init
    (Sample.twice Sample.otherInstanceFrame ++
      [.receive 0 (.ok (Sample.heartbeatFrame 2)) (Sample.second 9)]) (fun sys : System =>
      decide (sys.dispatcher.registry.get? "pc-1" = some 1) &&
      ((sys.store.instances.find? "i-2").any fun r : InstanceRow =>
        decide (r.connectionGeneration = 1) &&
          Store.isFresh (Store.freshAfter Sample.env (Sample.second 10)) r) &&
      (sys.step Sample.env (.command 0 (Sample.command "k-1" false) (Sample.uuid 0)
        (Sample.second 10))).any fun sys' : System => offline (sys'.dispatcher.calls.get? 0))
    (by decide +kernel)
  obtain ⟨both, command⟩ := Bool.and_eq_true_iff.mp checked
  obtain ⟨registered, row⟩ := Bool.and_eq_true_iff.mp both
  have registered := of_decide_eq_true registered
  obtain ⟨r, found, checked⟩ := (Option.any_eq_true _ _).mp row
  obtain ⟨own, fresh⟩ := Bool.and_eq_true_iff.mp checked
  have own := of_decide_eq_true own
  obtain ⟨sys', stepped, failed⟩ := (Option.any_eq_true _ _).mp command
  have refused := offline_iff.mp failed
  obtain ⟨session, here, _, isId, _⟩ := owned_of_reach reached _ r found
  rw [own] at here
  refine ⟨sys, sys', session, reached, registered, here, ⟨r, isId ▸ found, own, fresh⟩, stepped,
    refused, fun selects => ?_⟩
  have parsed : parseConnectorId Sample.env (.str (Sample.command "k-1" false).connectorId) =
      .ok "pc-1" := by decide +kernel
  exact (selects.command 0 _ _ sys' parsed rfl stepped).1 refused

end System

end RemoteAgent
