import RemoteAgent.Handshake

/-!
# Tokens and challenges over a run

A token or a challenge is a row that is inserted once, consumed at most once and never
removed.

* `token_issued`, `challenge_issued`: every row was inserted by a moment of the run.
* `tokens_spent_once`, `challenges_spent_once`: no two moments consume one row, and
  `challenge_issued_once`: no two moments issue one challenge id.
* `phase_challenged`: the challenge that a connection waits for was issued on it.
-/

open Wire Storage Transition

namespace RemoteAgent

abbrev History := List (Machine.Moment System Event)

namespace System

variable {env : Env} {sys sys' : System} {e : Event}

/-- A run and two events more. -/
theorem run_then {past : History} {s s₁ s₂ : System} {e₁ e₂ : Event} (run : (system env).Run past s)
    (first : s.step env e₁ = some s₁) (second : s₁.step env e₂ = some s₂) :
    (system env).Run (past ++ [⟨s, e₁, s₁⟩] ++ [⟨s₁, e₂, s₂⟩]) s₂ :=
  .step (.step run first) second

/-! ## What a step does to the two tables -/

/-- An event that issues a token, with its row. -/
def Issues (env : Env) (e : Event) (row : TokenRow) : Prop :=
  ∃ rawToken connectorId capabilityProfile displayLabel expires now,
    e = .issueToken rawToken connectorId capabilityProfile displayLabel expires now ∧
    row.tokenHash = env.sha256 rawToken ∧ env.textColumn connectorId = some row.connectorId ∧
    env.textColumn capabilityProfile = some row.capabilityProfile ∧
    row.expiresAt = asTimestamp (plusSeconds now expires) ∧ row.consumedAt = none

inductive TokenEffect (env : Env) (e : Event) (s s' : Store) : Prop where
  | same (tokens : s'.tokens = s.tokens)
  | issued (row : TokenRow) (issues : Issues env e row)
      (inserted : s.tokens.insert? row = some s'.tokens)
  | used (tokenHash : String) (now : Int) (tokens : s'.tokens = (s.useToken tokenHash now).tokens)

/-- The row of a challenge. -/
def challengeRow (env : Env) (challenge : Store.Challenge) (now : Int) : ChallengeRow where
  challengeId := challenge.challengeId
  challengeHash := env.sha256 challenge.challenge
  expiresAt := asTimestamp (plusSeconds now Store.challengeSeconds)
  consumedAt := none

inductive ChallengeEffect (env : Env) (e : Event) (s s' : Store) : Prop where
  | same (challenges : s'.challenges = s.challenges)
  | issued (k : ConnId) (challenge : Store.Challenge) (now : Int)
      (asked : e.challenge? = some (k, challenge, now))
      (inserted : s.challenges.insert? (challengeRow env challenge now) = some s'.challenges)
  | used (challengeId : String) (now : Int)
      (challenges : s'.challenges = (s.useChallenge challengeId now).challenges)

theorem createChallenge_inserts {s s' : Store} {challenge : Store.Challenge} {now : Int}
    (created : s.createChallenge env challenge now = some s') :
    s.challenges.insert? (challengeRow env challenge now) = some s'.challenges ∧
      s'.tokens = s.tokens := by
  obtain ⟨challenges, inserted, rfl⟩ := Store.createChallenge_ok created
  exact ⟨inserted, rfl⟩

theorem issueToken_inserts {s s' : Store} {rawToken : String}
    {connectorId capabilityProfile displayLabel : Json} {expires now : Int}
    (issued : s.issueToken env rawToken connectorId capabilityProfile displayLabel expires now =
      .ok s') :
    s'.challenges = s.challenges ∧ ∃ row, Issues env
      (.issueToken rawToken connectorId capabilityProfile displayLabel expires now) row ∧
      s.tokens.insert? row = some s'.tokens := by
  obtain ⟨_, row, _, hash, isConnector, isProfile, expiry, unconsumed, inserted, rfl⟩ :=
    Store.issueToken_ok issued
  exact ⟨rfl, row, ⟨_, _, _, _, _, _, rfl, hash, isConnector, isProfile, expiry, unconsumed⟩,
    inserted⟩

/-- **What an operation does to the tokens and to the challenges.** -/
theorem Performs.tickets {store : Store} (performs : Performs env sys e store) :
    TokenEffect env e sys.store store ∧ ChallengeEffect env e sys.store store := by
  cases performs with
  | nothing => exact ⟨.same rfl, .same rfl⟩
  | issues issued =>
      obtain ⟨challenges, row, issues, inserted⟩ := issueToken_inserts issued
      exact ⟨.issued row issues inserted, .same challenges⟩
  | revokes revoked =>
      unfold Store.revokeDevice at revoked
      split at revoked
      · cases revoked
      · cases revoked
        exact ⟨.same rfl, .same rfl⟩
  | deletes deleted =>
      unfold Store.deleteRevokedDevice at deleted
      split at deleted
      · cases deleted
      · split at deleted
        · cases deleted
        · cases deleted
          exact ⟨.same rfl, .same rfl⟩
  | renames renamed =>
      unfold Store.rename at renamed
      split at renamed
      · cases renamed
      · split at renamed
        · cases renamed
        · split at renamed
          · cases renamed
          · cases renamed
            exact ⟨.same rfl, .same rfl⟩
  | sweeps free swept => exact ⟨.same (sweeps_tokens swept), .same (sweeps_challenges swept)⟩
  | challenges asked created =>
      obtain ⟨inserted, tokens⟩ := createChallenge_inserts created
      exact ⟨.same tokens, .issued _ _ _ asked inserted⟩
  | enrolls phase type done =>
      cases Store.handleEnroll_steps done with
      | refused x => exact ⟨.same rfl, .same rfl⟩
      | unchallenged tokenOpen closed => exact ⟨.used _ _ rfl, .same rfl⟩
      | unverified x tokenOpen challengeOpen => exact ⟨.used _ _ rfl, .used _ _ rfl⟩
      | enrolled tokenOpen challengeOpen as =>
          rw [as.stored]
          exact ⟨.used _ _ rfl, .used _ _ rfl⟩
  | authenticates here waits done =>
      cases Store.authenticateSession_steps done with
      | refused x => exact ⟨.same rfl, .same rfl⟩
      | unverified x own challengeOpen => exact ⟨.same rfl, .used _ _ rfl⟩
      | authenticated challengeOpen as =>
          obtain ⟨_, _, _, _, _, rfl⟩ := as.stored
          exact ⟨.same rfl, .used _ _ rfl⟩
  | beats here done =>
      rcases Store.handleHeartbeat_steps done with rfl | accepted
      · exact ⟨.same rfl, .same rfl⟩
      · obtain ⟨_, _, _, rfl⟩ := Store.acceptHeartbeat_ok accepted
        exact ⟨.same rfl, .same rfl⟩

theorem step_tickets (stepped : sys.step env e = some sys') :
    TokenEffect env e sys.store sys'.store ∧ ChallengeEffect env e sys.store sys'.store := by
  obtain ⟨mid, performs, closes⟩ := step_operates stepped
  obtain ⟨_, tokens, challenges⟩ := closes.same_tables
  obtain ⟨tokenEffect, challengeEffect⟩ := performs.tickets
  constructor
  · cases tokenEffect with
    | same same => exact .same (tokens.trans same)
    | issued row issues inserted => exact .issued row issues (tokens ▸ inserted)
    | used tokenHash now used => exact .used tokenHash now (tokens.trans used)
  · cases challengeEffect with
    | same same => exact .same (challenges.trans same)
    | issued k challenge now asked inserted =>
        exact .issued k challenge now asked (challenges ▸ inserted)
    | used challengeId now used => exact .used challengeId now (challenges.trans used)

/-! ## Rows stay, and stay consumed -/

/-- A token row as it was issued. -/
def asIssued (row : TokenRow) : TokenRow := { row with consumedAt := none }

/-- A challenge row as it was issued. -/
def asChallenged (row : ChallengeRow) : ChallengeRow := { row with consumedAt := none }

theorem TokenEffect.kept {s s' : Store} (effect : TokenEffect env e s s') {x : String}
    {row : TokenRow} (found : s.tokens.find? x = some row) :
    ∃ row', s'.tokens.find? x = some row' ∧ asIssued row' = asIssued row ∧
      (row.consumedAt.isSome = true → row'.consumedAt.isSome = true) := by
  cases effect with
  | same tokens => exact ⟨row, tokens ▸ found, rfl, id⟩
  | issued new issues inserted =>
      obtain ⟨absent, lookup⟩ := Table.find?_insert? inserted
      rw [lookup]
      split
      · rename_i same
        rw [same, found] at absent
        cases absent
      · exact ⟨row, found, rfl, id⟩
  | used tokenHash now tokens =>
      rw [tokens]
      unfold Store.useToken
      simp only [Table.find?_updateWhere, found, Option.map_some]
      split
      · exact ⟨_, rfl, rfl, fun _ => rfl⟩
      · exact ⟨_, rfl, rfl, id⟩

theorem TokenEffect.from {s s' : Store} (effect : TokenEffect env e s s') {x : String}
    {row' : TokenRow} (found : s'.tokens.find? x = some row') :
    (∃ row, s.tokens.find? x = some row ∧ asIssued row' = asIssued row) ∨
      (Issues env e row' ∧ x = row'.tokenHash ∧ s.tokens.find? x = none) := by
  cases effect with
  | same tokens => exact Or.inl ⟨row', tokens ▸ found, rfl⟩
  | issued new issues inserted =>
      obtain ⟨absent, lookup⟩ := Table.find?_insert? inserted
      rw [lookup] at found
      split at found
      · rename_i same
        obtain rfl := Option.some.inj found
        exact Or.inr ⟨issues, same.symm, same ▸ absent⟩
      · exact Or.inl ⟨row', found, rfl⟩
  | used tokenHash now tokens =>
      rw [tokens] at found
      unfold Store.useToken at found
      simp only [Table.find?_updateWhere, Option.map_eq_some_iff] at found
      obtain ⟨row, was, rfl⟩ := found
      refine Or.inl ⟨row, was, ?_⟩
      split <;> rfl

theorem ChallengeEffect.kept {s s' : Store} (effect : ChallengeEffect env e s s') {x : String}
    {row : ChallengeRow} (found : s.challenges.find? x = some row) :
    ∃ row', s'.challenges.find? x = some row' ∧ asChallenged row' = asChallenged row ∧
      (row.consumedAt.isSome = true → row'.consumedAt.isSome = true) := by
  cases effect with
  | same challenges => exact ⟨row, challenges ▸ found, rfl, id⟩
  | issued k challenge now asked inserted =>
      obtain ⟨absent, lookup⟩ := Table.find?_insert? inserted
      rw [lookup]
      split
      · rename_i same
        rw [same, found] at absent
        cases absent
      · exact ⟨row, found, rfl, id⟩
  | used challengeId now challenges =>
      rw [challenges]
      unfold Store.useChallenge
      simp only [Table.find?_updateWhere, found, Option.map_some]
      split
      · exact ⟨_, rfl, rfl, fun _ => rfl⟩
      · exact ⟨_, rfl, rfl, id⟩

theorem ChallengeEffect.from {s s' : Store} (effect : ChallengeEffect env e s s') {x : String}
    {row' : ChallengeRow} (found : s'.challenges.find? x = some row') :
    (∃ row, s.challenges.find? x = some row ∧ asChallenged row' = asChallenged row) ∨
      ∃ k challenge now, e.challenge? = some (k, challenge, now) ∧ x = challenge.challengeId ∧
        s.challenges.find? x = none ∧ row' = challengeRow env challenge now := by
  cases effect with
  | same challenges => exact Or.inl ⟨row', challenges ▸ found, rfl⟩
  | issued k challenge now asked inserted =>
      obtain ⟨absent, lookup⟩ := Table.find?_insert? inserted
      rw [lookup] at found
      split at found
      · rename_i same
        obtain rfl := Option.some.inj found
        exact Or.inr ⟨k, challenge, now, asked, same.symm, same ▸ absent, rfl⟩
      · exact Or.inl ⟨row', found, rfl⟩
  | used challengeId now challenges =>
      rw [challenges] at found
      unfold Store.useChallenge at found
      simp only [Table.find?_updateWhere, Option.map_eq_some_iff] at found
      obtain ⟨row, was, rfl⟩ := found
      refine Or.inl ⟨row, was, ?_⟩
      split <;> rfl

/-! ## Every run -/

/-- The token of this hash has been consumed. -/
def TokenSpent (sys : System) (tokenHash : String) : Prop :=
  ∃ row, sys.store.tokens.find? tokenHash = some row ∧ row.consumedAt.isSome = true

/-- The challenge of this id has been consumed. -/
def ChallengeSpent (sys : System) (challengeId : String) : Prop :=
  ∃ row, sys.store.challenges.find? challengeId = some row ∧ row.consumedAt.isSome = true

/-- The challenge of this id has been issued. -/
def ChallengeKnown (sys : System) (challengeId : String) : Prop :=
  ∃ row, sys.store.challenges.find? challengeId = some row

theorem tokenSpent_stays {x : String} (stepped : (system env).step sys e = some sys')
    (spent : TokenSpent sys x) : TokenSpent sys' x := by
  obtain ⟨row, found, consumed⟩ := spent
  obtain ⟨row', found', _, stays⟩ := (step_tickets stepped).1.kept found
  exact ⟨row', found', stays consumed⟩

theorem challengeSpent_stays {x : String} (stepped : (system env).step sys e = some sys')
    (spent : ChallengeSpent sys x) : ChallengeSpent sys' x := by
  obtain ⟨row, found, consumed⟩ := spent
  obtain ⟨row', found', _, stays⟩ := (step_tickets stepped).2.kept found
  exact ⟨row', found', stays consumed⟩

theorem challengeKnown_stays {x : String} (stepped : (system env).step sys e = some sys')
    (known : ChallengeKnown sys x) : ChallengeKnown sys' x := by
  obtain ⟨row, found⟩ := known
  obtain ⟨row', found', _⟩ := (step_tickets stepped).2.kept found
  exact ⟨row', found'⟩

variable {past : History}

/-- **A token is consumed at most once.** -/
theorem tokens_spent_once (run : (system env).Run past sys) :
    past.Pairwise fun m m' => ∀ x, m.Spends TokenSpent x → ¬ m'.Spends TokenSpent x :=
  Machine.Run.once (P := TokenSpent) tokenSpent_stays run

/-- **A challenge is consumed at most once**, by enrollments and authentications
together. -/
theorem challenges_spent_once (run : (system env).Run past sys) :
    past.Pairwise fun m m' => ∀ x, m.Spends ChallengeSpent x → ¬ m'.Spends ChallengeSpent x :=
  Machine.Run.once (P := ChallengeSpent) challengeSpent_stays run

/-- A moment at which the operator issues a token. -/
structure IssuesToken (env : Env) (m : Machine.Moment System Event) (row : TokenRow) : Prop where
  issues : Issues env m.event row
  fresh : m.before.store.tokens.find? row.tokenHash = none
  stored : m.after.store.tokens.find? row.tokenHash = some row

/-- **Every token was issued.** -/
theorem token_issued (run : (system env).Run past sys) {x : String} {row : TokenRow}
    (found : sys.store.tokens.find? x = some row) :
    ∃ m ∈ past, IssuesToken env m (asIssued row) := by
  have origin := run.origin (x := (x, asIssued row)) (Q := fun _ m x => IssuesToken env m x.2)
    (P := fun sys x => ∃ row, sys.store.tokens.find? x.1 = some row ∧ asIssued row = x.2)
    (fun _ none_ => by obtain ⟨_, found, _⟩ := none_; cases found) ?_ ⟨row, found, rfl⟩
  · obtain ⟨before, m, after, rfl, issues⟩ := origin
    exact ⟨m, List.mem_append_right _ List.mem_cons_self, issues⟩
  · rintro _ s t e ⟨x, issued⟩ _ stepped ⟨row', found', rfl⟩
    rcases (step_tickets stepped).1.from found' with ⟨row₀, was, same⟩ | ⟨issues, rfl, fresh⟩
    · exact Or.inl ⟨row₀, was, same.symm⟩
    · have asIs : asIssued row' = row' := by
        obtain ⟨_, _, _, _, _, _, _, _, _, _, _, unconsumed⟩ := issues
        unfold asIssued
        rw [← unconsumed]
      refine Or.inr ?_
      simp only [asIs]
      exact ⟨issues, fresh, found'⟩

/-- A moment at which the server issues a challenge on a connection. -/
structure Challenges (env : Env) (m : Machine.Moment System Event) (k : ConnId)
    (challenge : Store.Challenge) (now : Int) : Prop where
  asked : m.event.challenge? = some (k, challenge, now)
  fresh : m.before.store.challenges.find? challenge.challengeId = none
  stored : m.after.store.challenges.find? challenge.challengeId =
    some (challengeRow env challenge now)

/-- **Every challenge was issued.** -/
theorem challenge_issued (run : (system env).Run past sys) {x : String} {row : ChallengeRow}
    (found : sys.store.challenges.find? x = some row) :
    ∃ m ∈ past, ∃ k challenge now, Challenges env m k challenge now ∧
      asChallenged row = challengeRow env challenge now := by
  have origin := run.origin (x := (x, asChallenged row))
    (Q := fun _ m x => ∃ k challenge now, Challenges env m k challenge now ∧
      x.2 = challengeRow env challenge now)
    (P := fun sys x => ∃ row, sys.store.challenges.find? x.1 = some row ∧ asChallenged row = x.2)
    (fun _ none_ => by obtain ⟨_, found, _⟩ := none_; cases found) ?_ ⟨row, found, rfl⟩
  · obtain ⟨before, m, after, rfl, brought⟩ := origin
    exact ⟨m, List.mem_append_right _ List.mem_cons_self, brought⟩
  · rintro _ s t e ⟨x, issued⟩ _ stepped ⟨row', found', rfl⟩
    rcases (step_tickets stepped).2.from found' with
      ⟨row₀, was, same⟩ | ⟨k, challenge, now, asked, rfl, fresh, rfl⟩
    · exact Or.inl ⟨row₀, was, same.symm⟩
    · exact Or.inr ⟨k, challenge, now, ⟨asked, fresh, found'⟩, rfl⟩

theorem Challenges.spends {m : Machine.Moment System Event} {k : ConnId}
    {challenge : Store.Challenge} {now : Int} (challenges : Challenges env m k challenge now) :
    m.Spends ChallengeKnown challenge.challengeId := by
  refine ⟨?_, _, challenges.stored⟩
  rintro ⟨row, found⟩
  rw [challenges.fresh] at found
  cases found

/-- **A challenge id is issued at one moment only**, on one connection and with one
value. -/
theorem challenge_issued_once (run : (system env).Run past sys)
    {m m' : Machine.Moment System Event} (mem : m ∈ past) (mem' : m' ∈ past) {k k' : ConnId}
    {challenge challenge' : Store.Challenge} {now now' : Int}
    (issued : Challenges env m k challenge now) (issued' : Challenges env m' k' challenge' now')
    (same : challenge.challengeId = challenge'.challengeId) : k = k' ∧ challenge = challenge' := by
  obtain rfl := Machine.Run.spends_eq (P := ChallengeKnown) challengeKnown_stays run mem mem'
    issued.spends (same ▸ issued'.spends)
  cases issued.asked.symm.trans issued'.asked
  exact ⟨rfl, rfl⟩

/-! ## The challenge that a connection waits for -/

/-- The handler of a connection no longer waits for a challenge. -/
def Moved (plan : Plan) (k : ConnId) : Prop :=
  ∀ phase, plan.phases.get? k = some phase → phase.challenge? = none

theorem moved_insert {phases : Dict ConnId Phase} {store : Store} {k : ConnId} {phase : Phase}
    {act : Option Act} (idle : phase.challenge? = none) :
    Moved ⟨store, phases.insert k phase, act⟩ k := by
  intro phase' here
  rw [Dict.get?_insert_self] at here
  cases here
  exact idle

theorem teardown_moved {store : Store} {k : ConnId} {now : Int} :
    Moved (sys.teardown env store k now) k := by
  unfold teardown
  split
  · exact moved_insert rfl
  · exact moved_insert rfl

theorem raises_moved {store : Store} {k : ConnId} {stage : HandshakeStage} {x : Exc}
    {now : Int} : Moved (sys.raises env store k stage x now) k := by
  cases x with
  | agent x => exact moved_insert rfl
  | protocol => exact moved_insert rfl
  | escape => exact teardown_moved

theorem authenticates_moved {k : ConnId} {challenge : Store.Challenge} {message : Json}
    {now : Int} : Moved (sys.authenticates env k challenge message now) k := by
  unfold authenticates
  split
  · exact raises_moved
  · exact moved_insert rfl

theorem handshakes_moved {k : ConnId} {challenge : Store.Challenge} {message : Json}
    {now : Int} : Moved (sys.handshakes env k challenge message now) k := by
  unfold handshakes
  split
  · split
    · exact raises_moved
    · exact moved_insert rfl
  · exact authenticates_moved

/-- A frame answers the challenge, or comes when none is waited for. -/
theorem receives_moved {k : ConnId} {frame : Except Exc Json} {now : Int} {plan : Plan}
    (received : sys.receives env k frame now = some plan) : Moved plan k := by
  unfold receives at received
  split at received
  · split at received
    · cases received
      exact raises_moved
    · cases received
      exact handshakes_moved
  · split at received
    · cases received
      exact raises_moved
    · cases received
      exact authenticates_moved
  · rename_i serving
    split at received
    · cases received
    · split at received
      · cases received
        exact raises_moved
      · cases received
        have kept : ∀ {store : Store} {act : Option Act}, Moved ⟨store, sys.phases, act⟩ k := by
          intro store act phase here
          cases here.symm.trans serving
          rfl
        unfold serves
        split
        · split
          · exact raises_moved
          · exact kept
        · split
          · split
            · exact raises_moved
            · exact kept
          · exact raises_moved
  · cases received

/-- What is known of a handler that is left waiting for a challenge. -/
def Waits (env : Env) (sys : System) (e : Event) (k : ConnId) (plan : Plan) : Prop :=
  ∀ phase challenge, plan.phases.get? k = some phase → phase.challenge? = some challenge →
    sys.phases.get? k = some phase ∨ ∃ now, e.challenge? = some (k, challenge, now) ∧
      sys.store.createChallenge env challenge now = some plan.store

theorem Moved.waits {plan : Plan} {k : ConnId} (moved : Moved plan k) :
    Waits env sys e k plan := by
  intro phase challenge here waits
  rw [moved phase here] at waits
  cases waits

theorem challenges_waits {k : ConnId} {challenge : Store.Challenge}
    {next : Store.Challenge → Phase} {now : Int}
    (asked : e.challenge? = some (k, challenge, now))
    (isNext : (next challenge).challenge? = some challenge) :
    Waits env sys e k (sys.challenges env k challenge next now) := by
  unfold challenges
  split
  · exact teardown_moved.waits
  · rename_i store created
    intro phase challenge' here waits
    rw [Dict.get?_insert_self] at here
    cases here
    cases isNext.symm.trans waits
    exact Or.inr ⟨now, asked, created⟩

/-- **A handler that waits for a challenge waited for it before, or has just been sent
it.** -/
theorem plan_waits {plan : Plan} (planned : sys.plan env e = some plan) (k : ConnId) :
    Waits env sys e k plan := by
  cases own : e.conn? with
  | none =>
      intro phase challenge here waits
      rw [(plan_unconnected planned own).phases] at here
      exact Or.inl here
  | some k₀ =>
      by_cases same : k = k₀
      · subst same
        cases e with
        | rejectUpgrade k₀ upgrade =>
            cases own
            obtain ⟨_, _, rfl⟩ := rejectsUpgrade_finishes planned
            exact (moved_insert rfl).waits
        | connect k₀ challenge now =>
            cases own
            have planned : sys.connects env k challenge now = some plan := planned
            unfold connects at planned
            split at planned
            · cases planned
            · cases planned
              exact challenges_waits rfl rfl
        | receive k₀ frame now =>
            cases own
            exact (receives_moved planned).waits
        | handshakeTimeout k₀ now =>
            cases own
            have planned : sys.timesOut env k now = some plan := planned
            unfold timesOut at planned
            split at planned
            · cases planned
              exact raises_moved.waits
            · cases planned
              exact raises_moved.waits
            · cases planned
        | rechallenge k₀ challenge now =>
            cases own
            have planned : sys.rechallenges env k challenge now = some plan := planned
            unfold rechallenges at planned
            split at planned
            · cases planned
              exact challenges_waits rfl rfl
            · cases planned
        | ready k₀ =>
            cases own
            have planned : sys.readies env k none = some plan := planned
            unfold readies at planned
            split at planned
            · cases planned
              exact (moved_insert rfl).waits
            · cases planned
        | readyFailed k₀ now =>
            cases own
            have planned : sys.readies env k (some now) = some plan := planned
            unfold readies at planned
            split at planned
            · cases planned
              exact raises_moved.waits
            · cases planned
        | finish k₀ now =>
            cases own
            exact ends_teardown planned ▸ teardown_moved.waits
        | disconnect k₀ now =>
            cases own
            exact ends_teardown planned ▸ teardown_moved.waits
        | _ => cases own
      · intro phase challenge here waits
        rw [(plan_confined planned own).phases k same] at here
        exact Or.inl here

/-- **The challenge that a connection waits for was issued on it.** -/
theorem phase_challenged (run : (system env).Run past sys) {k : ConnId} {phase : Phase}
    {challenge : Store.Challenge} (here : sys.phases.get? k = some phase)
    (waits : phase.challenge? = some challenge) :
    ∃ m ∈ past, ∃ now, Challenges env m k challenge now := by
  have origin := run.origin (x := (k, challenge))
    (Q := fun _ m x => ∃ now, Challenges env m x.1 x.2 now)
    (P := fun sys x => ∃ phase, sys.phases.get? x.1 = some phase ∧ phase.challenge? = some x.2)
    (fun _ none_ => by obtain ⟨_, found, _⟩ := none_; cases found) ?_ ⟨phase, here, waits⟩
  · obtain ⟨before, m, after, rfl, challenged⟩ := origin
    exact ⟨m, List.mem_append_right _ List.mem_cons_self, challenged⟩
  · rintro _ s t e ⟨k, challenge⟩ _ stepped ⟨phase, here, waits⟩
    obtain ⟨plan, planned, store, phases, _⟩ := step_plan stepped
    rw [phases] at here
    rcases plan_waits planned k phase challenge here waits with old | ⟨now, asked, created⟩
    · exact Or.inl ⟨phase, old, waits⟩
    · obtain ⟨absent, lookup⟩ := Table.find?_insert? (createChallenge_inserts created).1
      refine Or.inr ⟨now, asked, absent, ?_⟩
      simp only [store, lookup]
      exact if_pos rfl

/-! ## What an accepted frame consumes -/

theorem find?_useToken {s : Store} {rawToken : Json} {connectorId : String} {now : Int}
    {row : TokenRow} (isOpen : Store.TokenOpen env s rawToken connectorId now row) :
    (s.useToken (env.sha256 (env.text rawToken)) now).tokens.find?
        (env.sha256 (env.text rawToken)) =
      some { row with consumedAt := some (asTimestamp now) } := by
  unfold Store.useToken
  simp only [Table.find?_updateWhere, isOpen.found, Option.map_some]
  rw [if_pos]
  rw [Table.key_of_find? isOpen.found, isOpen.unconsumed]
  simp only [decide_true, Option.isNone_none, Bool.and_self]

theorem find?_useChallenge {s : Store} {challengeId challenge : Json} {now : Int}
    {row : ChallengeRow} (isOpen : Store.ChallengeOpen env s challengeId challenge now row) :
    (s.useChallenge (env.text challengeId) now).challenges.find? (env.text challengeId) =
      some { row with consumedAt := some (asTimestamp now) } := by
  unfold Store.useChallenge
  simp only [Table.find?_updateWhere, isOpen.found, Option.map_some]
  rw [if_pos]
  rw [Table.key_of_find? isOpen.found, isOpen.unconsumed]
  simp only [decide_true, Option.isNone_none, Bool.and_self]

/-- An open challenge that the tables afterwards have consumed is consumed by the step. -/
theorem spends_challenge {challengeId challenge : Json} {now : Int} {row : ChallengeRow}
    (isOpen : Store.ChallengeOpen env sys.store challengeId challenge now row)
    (used : sys'.store.challenges =
      (sys.store.useChallenge (env.text challengeId) now).challenges) :
    Machine.Moment.Spends ChallengeSpent ⟨sys, e, sys'⟩ (env.text challengeId) := by
  constructor
  · rintro ⟨row', found, consumed⟩
    cases isOpen.found.symm.trans found
    rw [isOpen.unconsumed] at consumed
    cases consumed
  · refine ⟨{ row with consumedAt := some (asTimestamp now) }, ?_, rfl⟩
    simp only [used]
    exact find?_useChallenge isOpen

theorem spends_token {rawToken : Json} {connectorId : String} {now : Int} {row : TokenRow}
    (isOpen : Store.TokenOpen env sys.store rawToken connectorId now row)
    (used : sys'.store.tokens =
      (sys.store.useToken (env.sha256 (env.text rawToken)) now).tokens) :
    Machine.Moment.Spends TokenSpent ⟨sys, e, sys'⟩ (env.sha256 (env.text rawToken)) := by
  constructor
  · rintro ⟨row', found, consumed⟩
    cases isOpen.found.symm.trans found
    rw [isOpen.unconsumed] at consumed
    cases consumed
  · refine ⟨{ row with consumedAt := some (asTimestamp now) }, ?_, rfl⟩
    simp only [used]
    exact find?_useToken isOpen

/-- What the tables before and after an accepted enrollment are. -/
theorem step_enrolled (stepped : sys.step env e = some sys') {k : ConnId}
    {challenge : Store.Challenge} {message : Json} {now : Int} {connectorId : String}
    (event : e = .receive k (.ok message) now)
    (phase : sys.phases.get? k = some (.challenging challenge))
    (type : hasType message "enroll" = true)
    (isOk : (sys.store.handleEnroll env message now).2 = .ok connectorId) :
    sys.store.handleEnroll env message now = (sys'.store, .ok connectorId) := by
  have done : sys.store.handleEnroll env message now =
      ((sys.store.handleEnroll env message now).1, .ok connectorId) := Prod.ext rfl isOk
  obtain ⟨plan, planned, store, _, _⟩ := step_plan stepped
  rw [event, plan_enrolled phase type done] at planned
  cases planned
  rw [store]
  exact done

/-- What the tables before and after an accepted authentication are. -/
theorem step_authenticated (stepped : sys.step env e = some sys') {k : ConnId} {phase : Phase}
    {challenge : Store.Challenge} {message : Json} {now : Int} {session : AgentRelaySession}
    (event : e = .receive k (.ok message) now) (here : sys.phases.get? k = some phase)
    (waits : phase.challenge? = some challenge)
    (isOk : (sys.store.authenticateSession env k challenge message now).2 = .ok session) :
    sys.store.authenticateSession env k challenge message now = (sys'.store, .ok session) := by
  have done : sys.store.authenticateSession env k challenge message now =
      ((sys.store.authenticateSession env k challenge message now).1, .ok session) :=
    Prod.ext rfl isOk
  obtain ⟨plan, planned, store, _, _⟩ := step_plan stepped
  rw [event, plan_authenticated here waits done] at planned
  cases planned
  rw [store]
  exact done

/-- **A frame that is accepted consumes its challenge.** -/
theorem accepts_spends (stepped : sys.step env e = some sys') {k : ConnId} {message : Json}
    {now : Int} (event : e = .receive k (.ok message) now)
    (accepted : sys.accepts env k message now = true) :
    Machine.Moment.Spends ChallengeSpent ⟨sys, e, sys'⟩
      (env.text (Dispatcher.field message "challenge_id")) := by
  rcases accepts_iff.mp accepted with ⟨challenge, connectorId, phase, type, isOk⟩ |
    ⟨phase, challenge, session, here, waits, isOk⟩
  · obtain ⟨token, row, device, _, challengeOpen, as⟩ :=
      (Store.handleEnroll_steps (step_enrolled stepped event phase type isOk)).ok
    refine spends_challenge challengeOpen ?_
    rw [as.stored]
    rfl
  · obtain ⟨row, challengeOpen, as⟩ := (Store.authenticateSession_steps
      (step_authenticated stepped event here waits isOk)).ok
    refine spends_challenge challengeOpen ?_
    obtain ⟨_, _, _, _, _, stored⟩ := as.stored
    rw [stored]

end System

end RemoteAgent
