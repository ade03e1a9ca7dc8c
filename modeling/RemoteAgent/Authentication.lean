import RemoteAgent.Enrollment
import RemoteAgent.Routing

/-!
# Authenticated sessions

`sessions_authenticated`: in every run, a session enters the registry by one
authentication frame on its own connection.  The challenge of the frame was issued on that
connection and on no other, had not expired and had been accepted by no frame before; the
key of the enrolled device row verifies the signature over what the session holds; and the
instance row is written with the generation of the connection.
-/

open Wire Storage Transition

namespace RemoteAgent

open Dispatcher (field)

namespace System

variable {env : Env} {sys sys' : System} {e : Event} {past : History}

/-! ## The frame behind a registration -/

theorem teardown_act {store : Store} {k k' : ConnId} {now : Int} {session : AgentRelaySession} :
    (sys.teardown env store k now).act ≠ some (.register k' session) := by
  unfold teardown
  split
  · exact fun act => nomatch act
  · exact fun act => nomatch act

theorem raises_act {store : Store} {k k' : ConnId} {stage : HandshakeStage} {x : Exc} {now : Int}
    {session : AgentRelaySession} :
    (sys.raises env store k stage x now).act ≠ some (.register k' session) := by
  cases x with
  | agent x => exact fun act => nomatch act
  | protocol => exact fun act => nomatch act
  | escape => exact teardown_act

/-- An accepted authentication frame: the tables it leaves and the session it makes. -/
structure Authenticates (env : Env) (sys : System) (e : Event) (store : Store) (k : ConnId)
    (session : AgentRelaySession) (challenge : Store.Challenge) (message : Json) (now : Int) :
    Prop where
  event : e = .receive k (.ok message) now
  waits : ∃ phase, sys.phases.get? k = some phase ∧ phase.challenge? = some challenge
  done : sys.store.authenticateSession env k challenge message now = (store, .ok session)

theorem authenticates_register {k k' : ConnId} {phase : Phase} {challenge : Store.Challenge}
    {message : Json} {now : Int} {session : AgentRelaySession}
    (here : sys.phases.get? k = some phase) (waits : phase.challenge? = some challenge)
    (act : (sys.authenticates env k challenge message now).act = some (.register k' session)) :
    k' = k ∧ Authenticates env sys (.receive k (.ok message) now)
      (sys.authenticates env k challenge message now).store k session challenge message now := by
  unfold authenticates at act ⊢
  split at act
  · exact absurd act raises_act
  · rename_i store made done
    cases act
    exact ⟨rfl, rfl, ⟨phase, here, waits⟩, done⟩

theorem receives_register {k k' : ConnId} {frame : Except Exc Json} {now : Int} {plan : Plan}
    {session : AgentRelaySession} (received : sys.receives env k frame now = some plan)
    (act : plan.act = some (.register k' session)) :
    ∃ challenge message, Authenticates env sys (.receive k frame now) plan.store k' session
      challenge message now := by
  unfold receives at received
  split at received
  · rename_i challenge phase
    split at received
    · cases received
      exact absurd act raises_act
    · rename_i message
      cases received
      unfold handshakes at act ⊢
      split at act
      · split at act
        · exact absurd act raises_act
        · cases act
      · rename_i type
        rw [if_neg type]
        obtain ⟨rfl, authenticates⟩ := authenticates_register phase rfl act
        exact ⟨challenge, message, authenticates⟩
  · rename_i challenge phase
    split at received
    · cases received
      exact absurd act raises_act
    · rename_i message
      cases received
      obtain ⟨rfl, authenticates⟩ := authenticates_register phase rfl act
      exact ⟨challenge, message, authenticates⟩
  · split at received
    · cases received
    · split at received
      · cases received
        exact absurd act raises_act
      · cases received
        unfold serves at act
        split at act
        · split at act
          · exact absurd act raises_act
          · cases act
        · split at act
          · split at act
            · exact absurd act raises_act
            · cases act
          · exact absurd act raises_act
  · cases received

theorem challenges_act {k k' : ConnId} {challenge : Store.Challenge}
    {next : Store.Challenge → Phase} {now : Int} {session : AgentRelaySession} :
    (sys.challenges env k challenge next now).act ≠ some (.register k' session) := by
  unfold challenges
  split
  · exact teardown_act
  · exact fun act => nomatch act

/-- **Only an accepted authentication frame registers a session.** -/
theorem plan_register {plan : Plan} (planned : sys.plan env e = some plan) {k : ConnId}
    {session : AgentRelaySession} (act : plan.act = some (.register k session)) :
    ∃ challenge message now, Authenticates env sys e plan.store k session challenge message
      now := by
  cases e with
  | rejectUpgrade k₀ upgrade =>
      obtain ⟨_, _, rfl⟩ := rejectsUpgrade_finishes planned
      cases act
  | connect k₀ challenge now =>
      have planned : sys.connects env k₀ challenge now = some plan := planned
      unfold connects at planned
      split at planned
      · cases planned
      · cases planned
        exact absurd act challenges_act
  | receive k₀ frame now =>
      obtain ⟨challenge, message, authenticates⟩ := receives_register planned act
      exact ⟨challenge, message, now, authenticates⟩
  | handshakeTimeout k₀ now =>
      have planned : sys.timesOut env k₀ now = some plan := planned
      unfold timesOut at planned
      split at planned
      · cases planned
        exact absurd act raises_act
      · cases planned
        exact absurd act raises_act
      · cases planned
  | rechallenge k₀ challenge now =>
      have planned : sys.rechallenges env k₀ challenge now = some plan := planned
      unfold rechallenges at planned
      split at planned
      · cases planned
        exact absurd act challenges_act
      · cases planned
  | ready k₀ =>
      have planned : sys.readies env k₀ none = some plan := planned
      unfold readies at planned
      split at planned
      · cases planned
        cases act
      · cases planned
  | readyFailed k₀ now =>
      have planned : sys.readies env k₀ (some now) = some plan := planned
      unfold readies at planned
      split at planned
      · cases planned
        exact absurd act raises_act
      · cases planned
  | finish k₀ now => exact absurd (ends_teardown planned ▸ act) teardown_act
  | disconnect k₀ now => exact absurd (ends_teardown planned ▸ act) teardown_act
  | command c input uuid now =>
      obtain rfl := Option.some.inj planned
      unfold commands at act
      split at act
      · cases act
      · split at act
        · cases act
        · split at act <;> cases act
  | cancel x connectorId requestId now =>
      obtain rfl := Option.some.inj planned
      unfold cancels at act
      split at act
      · cases act
      · split at act
        · cases act
        · split at act <;> cases act
  | issueToken | revoke | delete | rename | deviceStatus | operatorDevices | onlineAgents
  | delivered | sendFailed | expire | cancelTask | resume | cancelSent | cancelFailed =>
      obtain rfl := Option.some.inj planned
      cases act

/-! ## Every run -/

/-- At this moment a session is placed in the registry. -/
def Places (m : Machine.Moment System Event) (k : ConnId) (session : AgentRelaySession) : Prop :=
  Dispatcher.Joins m.before.dispatcher m.after.dispatcher k session

/-- A session that joins the dispatcher was authenticated in this step. -/
theorem step_places (stepped : sys.step env e = some sys') {k : ConnId}
    {session : AgentRelaySession}
    (joins : Dispatcher.Joins sys.dispatcher sys'.dispatcher k session) :
    ∃ challenge message now, Authenticates env sys e sys'.store k session challenge message
      now := by
  have here : sys'.dispatcher.sessions.get? k = some session := by
    rw [joins.sessions, Dict.get?_insert_self]
  obtain ⟨plan, planned, store, _, next⟩ := step_plan stepped
  split at next
  · rw [next, joins.free] at here
    cases here
  · rename_i a act
    rcases (Dispatcher.step_sessions next).cases here with ⟨_, was, _⟩ | ⟨rfl, _⟩
    · rw [joins.free] at was
      cases was
    · rw [store]
      exact plan_register planned act

/-- **What is behind a session**: the frame that authenticated it.  `past` is what
happened before. -/
structure AuthenticatedBy (env : Env) (past : History) (m : Machine.Moment System Event)
    (k : ConnId) (session : AgentRelaySession) (message : Json) (now : Int) : Prop where
  received : m.event = .receive k (.ok message) now
  type : hasType message "authenticate" = true
  accepted : Accepts env m message
  challenge : ∃ m₁ ∈ past, ∃ challenge issuedAt, Challenges env m₁ k challenge issuedAt ∧
    field message "challenge_id" = .str challenge.challengeId ∧
    field message "challenge" = .str challenge.challenge ∧
    asTimestamp now < asTimestamp (plusSeconds issuedAt Store.challengeSeconds)
  /-- No challenge of another connection has the id. -/
  own : ∀ m₁ ∈ past, ∀ k' challenge issuedAt, Challenges env m₁ k' challenge issuedAt →
    challenge.challengeId = env.text (field message "challenge_id") → k' = k
  /-- No frame was accepted with the challenge before, on any connection. -/
  fresh : ∀ m₁ ∈ past, ∀ message', Accepts env m₁ message' →
    env.text (field message' "challenge_id") ≠ env.text (field message "challenge_id")
  device : ∃ device payload, m.before.store.getDevice session.connectorId = some device ∧
    device.enrollmentState = .enrolled ∧
    relayAuthPayload env (field message "challenge_id") (field message "challenge")
      (.str session.connectorId) (.str session.instanceId) session.contextEpoch = .ok payload ∧
    verifyEd25519 env (.str device.publicKey) payload (field message "signature") = true
  row : ∃ row ∈ m.after.store.instances, row.instanceId = session.instanceId ∧
    row.connectorId = session.connectorId ∧ row.connectionGeneration = k ∧ row.state = .online

/-- What holds of the sessions of a run. -/
structure SessionsAuthenticated (env : Env) (past : History) (sys : System) : Prop where
  placed : ∀ before m after k session, past = before ++ m :: after → Places m k session →
    ∃ message now, AuthenticatedBy env before m k session message now
  registered : ∀ connectorId k, sys.dispatcher.registry.get? connectorId = some k →
    ∃ before m after session, past = before ++ m :: after ∧ Places m k session ∧
      session.connectorId = connectorId

/-- The row of a session that has just been authenticated. -/
theorem authenticatedAs_row {s s' : Store} {generation : Nat} {challenge : Store.Challenge}
    {message : Json} {session : AgentRelaySession}
    (as : Store.AuthenticatedAs env s s' generation challenge message session) :
    ∃ row ∈ s'.instances, row.instanceId = session.instanceId ∧
      row.connectorId = session.connectorId ∧ row.connectionGeneration = generation ∧
      row.state = .online := by
  obtain ⟨row, instanceId, connector, isGeneration, online, rfl⟩ := as.stored
  cases found : s.instances.find? row.instanceId with
  | none =>
      refine ⟨row, Table.mem_upsert.mpr (Or.inr ?_), instanceId, connector, isGeneration, online⟩
      rw [found]
  | some old =>
      refine ⟨Store.replaceInstance row old, Table.mem_upsert.mpr (Or.inr ?_), ?_, connector,
        isGeneration, online⟩
      · rw [found]
      · exact (Table.key_of_find? found).trans instanceId

/-- An authentication frame that gets through is accepted. -/
theorem Authenticates.accepts {store : Store} {k : ConnId} {session : AgentRelaySession}
    {challenge : Store.Challenge} {message : Json} {now : Int}
    (authenticates : Authenticates env sys e store k session challenge message now) :
    sys.accepts env k message now = true := by
  obtain ⟨phase, here, waits⟩ := authenticates.waits
  exact accepts_iff.mpr (Or.inr ⟨phase, challenge, session, here, waits,
    congrArg Prod.snd authenticates.done⟩)

/-- **Every session was authenticated on its own connection.** -/
theorem placed_authenticated {before after : History} {m : Machine.Moment System Event}
    (run : (system env).Run (before ++ m :: after) sys) {k : ConnId}
    {session : AgentRelaySession} (places : Places m k session) :
    ∃ message now, AuthenticatedBy env before m k session message now := by
  obtain ⟨runBefore, stepped⟩ := run.upTo
  obtain ⟨challenge, message, now, authenticates⟩ := step_places stepped places
  obtain ⟨phase, here, waits⟩ := authenticates.waits
  obtain ⟨m₁, mem₁, issuedAt, issued⟩ := phase_challenged runBefore here waits
  obtain ⟨row, challengeOpen, as⟩ := (Store.authenticateSession_steps authenticates.done).ok
  have sameId : env.text (field message "challenge_id") = challenge.challengeId := by
    rw [as.challengeId, text_str]
  have accepted : Accepts env m message := ⟨k, now, authenticates.event, authenticates.accepts⟩
  -- The row of the open challenge is the one that was inserted for this connection.
  have unexpired : asTimestamp now < asTimestamp (plusSeconds issuedAt Store.challengeSeconds) := by
    obtain ⟨m₂, mem₂, k₂, challenge₂, issuedAt₂, issued₂, asIs⟩ :=
      challenge_issued runBefore challengeOpen.found
    have id₂ : row.challengeId = challenge₂.challengeId := congrArg ChallengeRow.challengeId asIs
    have same : challenge.challengeId = challenge₂.challengeId := by
      rw [← id₂, ← sameId]
      exact (Table.key_of_find? challengeOpen.found).symm
    obtain rfl := Machine.Run.spends_eq (P := ChallengeKnown) challengeKnown_stays runBefore
      mem₁ mem₂ issued.spends (same ▸ issued₂.spends)
    cases issued.asked.symm.trans issued₂.asked
    have expires : row.expiresAt = asTimestamp (plusSeconds issuedAt Store.challengeSeconds) :=
      congrArg ChallengeRow.expiresAt asIs
    exact expires ▸ challengeOpen.unexpired
  refine ⟨message, now, authenticates.event, as.type, accepted,
    ⟨m₁, mem₁, challenge, issuedAt, issued, as.challengeId, as.challenge, unexpired⟩,
    ?_, ?_, as.device, authenticatedAs_row as⟩
  · intro m₂ mem₂ k₂ challenge₂ issuedAt₂ issued₂ same
    exact (challenge_issued_once runBefore mem₂ mem₁ issued₂ issued (same.trans sameId)).1
  · rintro m₂ mem₂ message₂ ⟨k₂, now₂, event₂, accepted₂⟩ same
    have once := List.pairwise_append.mp (challenges_spent_once run)
    refine once.2.2 m₂ mem₂ m List.mem_cons_self _
      (accepts_spends (runBefore.step_of_mem mem₂) event₂ accepted₂) ?_
    rw [same]
    exact accepts_spends stepped authenticates.event authenticates.accepts

/-- **Authenticated sessions only.**  In every run, every session that is ever placed in
the registry belongs to a connection on which an authentication frame was accepted: its
challenge was issued on that connection only, unexpired and never accepted before; the
enrolled row of the connector has the key that verifies its signature; and the instance
row bears the generation of the connection. -/
theorem sessions_authenticated {env : Env} {past : History} {sys : System}
    (run : (system env).Run past sys) : SessionsAuthenticated env past sys where
  placed := by
    rintro before m after k session rfl places
    exact placed_authenticated run places
  registered := by
    intro connectorId k found
    have origin := run.origin (x := (connectorId, k))
      (P := fun sys x => sys.dispatcher.registry.get? x.1 = some x.2)
      (Q := fun _ m x => ∃ session, Places m x.2 session ∧ session.connectorId = x.1)
      (by intro x none_; cases none_) ?_ found
    · obtain ⟨before, m, after, split, session, places, same⟩ := origin
      exact ⟨before, m, after, session, split, places, same⟩
    · rintro _ s t e ⟨connectorId, k⟩ _ stepped found
      obtain ⟨plan, _, _, _, next⟩ := step_plan stepped
      split at next
      · exact Or.inl (next ▸ found)
      · rcases (Dispatcher.step_effect next).registered_cases found with old | placed
        · exact Or.inl old
        · exact Or.inr placed

/-- The sample device, once it serves. -/
theorem sessions_authenticated_serving :
    ∃ (env : Env) (past : History) (sys : System) (k : ConnId),
      sys.dispatcher.registry.get? "pc-1" = some k ∧ SessionsAuthenticated env past sys := by
  have run : (system Sample.env).Run [] init := .init
  have holds : ((system Sample.env).exec init Sample.serving).any
      (fun sys : System => decide (sys.dispatcher.registry.get? "pc-1" = some 0)) = true := by
    decide +kernel
  obtain ⟨sys, ended, registered⟩ := (Option.any_eq_true _ _).mp holds
  exact ⟨Sample.env, _, sys, 0, of_decide_eq_true registered,
    sessions_authenticated (run.of_exec ended)⟩

end System

end RemoteAgent
