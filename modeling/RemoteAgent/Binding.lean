import RemoteAgent.Enrollment

/-!
# Handshake frames and their connections

An authentication frame is compared with the challenge of its own connection; an
enrollment frame is compared with the table of all challenges.

* `handshake_bound_iff`: a handshake frame keeps to its connection, unless it enrolls with
  an open token and the unconsumed challenge of another connection.
* `enroll_frame_crosses`: such a frame is accepted.
-/

open Wire Storage Transition

namespace RemoteAgent

open Dispatcher (field)

namespace Store

variable {env : Env} {s : Store}

/-! ## How far an enrollment frame gets -/

/-- An enrollment frame that gets as far as its token, and finds it open. -/
structure UsesToken (env : Env) (s : Store) (message : Json) (now : Int) : Prop where
  complete : requireKeys message enrollKeys ["platform"] = .ok ()
  version : Py.eqInt env.floats (field message "v") protocolVersion = true
  platform : ∃ platform, validatePlatform env (.str (platformOf env message)) = .ok platform
  token : ∃ connectorId row, parseConnectorId env (field message "connector_id") =
    .ok connectorId ∧ TokenOpen env s (field message "enrollment_token") connectorId now row

/-- A frame that finds no open token is refused and changes nothing. -/
theorem handleEnroll_unused {message : Json} {now : Int}
    (unused : ¬ UsesToken env s message now) :
    ∃ x, s.handleEnroll env message now = (s, .error x) := by
  cases done : s.handleEnroll env message now with
  | mk s' result =>
      unfold handleEnroll at done
      split at done
      · cases done
        exact ⟨_, rfl⟩
      · rename_i complete
        split at done
        · cases done
          exact ⟨_, rfl⟩
        · rename_i version
          unfold completeEnrollment at done
          split at done
          · cases done
            exact ⟨_, rfl⟩
          · rename_i connectorId parsed
            split at done
            · cases done
              exact ⟨_, rfl⟩
            · rename_i platform isPlatform
              split at done
              · rename_i used
                cases done
                rw [consumeEnrollmentToken_refused used fun _ same => nomatch same]
                exact ⟨_, rfl⟩
              · rename_i used
                cases done
                rw [consumeEnrollmentToken_refused used fun _ same => nomatch same]
                exact ⟨_, rfl⟩
              · rename_i used
                cases done
                rw [consumeEnrollmentToken_refused used fun _ same => nomatch same]
                exact ⟨_, rfl⟩
              · rename_i used
                cases done
                rw [consumeEnrollmentToken_refused used fun _ same => nomatch same]
                exact ⟨_, rfl⟩
              · rename_i row used
                exact absurd ⟨complete, by simpa using version, ⟨platform, isPlatform⟩,
                  connectorId, row, parsed, (consumeEnrollmentToken_accepted.mp used).1⟩ unused

/-- A frame that finds an open token consumes it, whatever becomes of the enrollment. -/
theorem handleEnroll_uses {message : Json} {now : Int} (uses : UsesToken env s message now) :
    (s.handleEnroll env message now).1.tokens =
      (s.useToken (env.sha256 (env.text (field message "enrollment_token"))) now).tokens := by
  obtain ⟨platform, isPlatform⟩ := uses.platform
  obtain ⟨connectorId, row, parsed, isOpen⟩ := uses.token
  have used := consumeEnrollmentToken_accepted.mpr ⟨isOpen, rfl⟩
  unfold handleEnroll
  simp only [uses.complete, uses.version, Bool.not_true, Bool.false_eq_true, ↓reduceIte]
  unfold completeEnrollment
  simp only [parsed, isPlatform, used]
  split
  · rfl
  · rename_i consumed
    obtain ⟨_, _, rfl⟩ := consumeChallenge_eq_some.mp consumed
    split
    · rfl
    · rename_i verified
      obtain ⟨device, as⟩ := enrollVerified_ok verified
      rw [as.stored]
      rfl

/-- Consuming an open token changes the tokens. -/
theorem useToken_ne {rawToken : Json} {connectorId : String} {now : Int} {row : TokenRow}
    (isOpen : TokenOpen env s rawToken connectorId now row) :
    (s.useToken (env.sha256 (env.text rawToken)) now).tokens ≠ s.tokens := by
  intro same
  have used := System.find?_useToken isOpen
  rw [same, isOpen.found] at used
  have consumed := congrArg TokenRow.consumedAt (Option.some.inj used)
  rw [isOpen.unconsumed] at consumed
  cases consumed

end Store

namespace System

variable {env : Env} {sys sys' : System} {e : Event} {past : History}

/-! ## The tables after a handshake frame -/

theorem raises_store {store : Store} {k : ConnId} {stage : HandshakeStage} {x : Exc} {now : Int}
    (free : sys.dispatcher.sessions.get? k = none) :
    (sys.raises env store k stage x now).store = store := by
  cases x with
  | agent x => rfl
  | protocol => rfl
  | escape =>
      show (sys.teardown env store k now).store = store
      unfold teardown
      rw [free]

theorem authenticates_store {k : ConnId} {challenge : Store.Challenge} {message : Json}
    {now : Int} (free : sys.dispatcher.sessions.get? k = none) :
    (sys.authenticates env k challenge message now).store =
      (sys.store.authenticateSession env k challenge message now).1 := by
  unfold authenticates
  split
  · rename_i store x refused
    rw [refused]
    exact raises_store free
  · rename_i store session accepted
    rw [accepted]

/-- A connection that waits for a challenge to be answered has no session. -/
theorem Linked.free (linked : Linked sys) {k : ConnId} {phase : Phase}
    {challenge : Store.Challenge} (here : sys.phases.get? k = some phase)
    (waits : phase.challenge? = some challenge) : sys.dispatcher.sessions.get? k = none := by
  have fits := linked k
  rw [here] at fits
  cases phase with
  | challenging | authenticating => exact Option.map_eq_none_iff.mp fits
  | enrolled | readying | serving | closing | finished => cases waits

/-- A connection that has not been accepted has no session. -/
theorem Linked.absent (linked : Linked sys) {k : ConnId} (absent : sys.phases.get? k = none) :
    sys.dispatcher.sessions.get? k = none := by
  have fits := linked k
  rw [absent] at fits
  exact Option.map_eq_none_iff.mp fits

/-- A frame that the handler takes for an enrollment. -/
def TakesEnroll (phase : Phase) (message : Json) : Prop :=
  (∃ challenge, phase = .challenging challenge) ∧ hasType message "enroll" = true

/-- A handshake frame that is no enrollment is taken for an authentication. -/
theorem receives_authenticates {k : ConnId} {phase : Phase} {challenge : Store.Challenge}
    {message : Json} {now : Int} (here : sys.phases.get? k = some phase)
    (waits : phase.challenge? = some challenge) (other : ¬ TakesEnroll phase message) :
    sys.receives env k (.ok message) now =
      some (sys.authenticates env k challenge message now) := by
  unfold receives
  rw [here]
  cases phase with
  | challenging ch =>
      cases waits
      simp only [handshakes, if_neg fun type => other ⟨⟨challenge, rfl⟩, type⟩]
  | authenticating ch =>
      cases waits
      rfl
  | enrolled | readying | serving | closing | finished => cases waits

/-- **The tables after a handshake frame** are those of its operation. -/
theorem step_handshake (linked : Linked sys) {k : ConnId} {message : Json} {now : Int}
    (stepped : sys.step env (.receive k (.ok message) now) = some sys') {phase : Phase}
    {challenge : Store.Challenge} (here : sys.phases.get? k = some phase)
    (waits : phase.challenge? = some challenge) :
    (TakesEnroll phase message ∧ sys'.store = (sys.store.handleEnroll env message now).1) ∨
      (¬ TakesEnroll phase message ∧
        sys'.store = (sys.store.authenticateSession env k challenge message now).1) := by
  have free := linked.free here waits
  obtain ⟨plan, planned, store, _, _⟩ := step_plan stepped
  have planned : sys.receives env k (.ok message) now = some plan := planned
  rw [store]
  by_cases takes : TakesEnroll phase message
  · obtain ⟨⟨own, rfl⟩, type⟩ := takes
    unfold receives handshakes at planned
    simp only [here, type, ↓reduceIte] at planned
    cases planned
    refine Or.inl ⟨⟨⟨own, rfl⟩, type⟩, ?_⟩
    split
    · rename_i enrolled refused
      rw [refused]
      exact raises_store free
    · rename_i enrolled accepted
      rw [accepted]
  · rw [receives_authenticates here waits takes] at planned
    cases planned
    exact Or.inr ⟨takes, authenticates_store free⟩

/-! ## Frames and the challenges they carry -/

/-- A frame carries a challenge: its id and its value. -/
structure Carries (env : Env) (message : Json) (challenge : Store.Challenge) : Prop where
  challengeId : env.text (field message "challenge_id") = challenge.challengeId
  value : env.text (field message "challenge") = challenge.challenge

/-- A frame on a connection carries a challenge that was issued on another connection and
has not been consumed. -/
def Foreign (env : Env) (past : History) (sys : System) (k : ConnId) (message : Json) : Prop :=
  ∃ m ∈ past, ∃ k' challenge issuedAt, k' ≠ k ∧ Challenges env m k' challenge issuedAt ∧
    Carries env message challenge ∧ ¬ ChallengeSpent sys challenge.challengeId

/-- A frame of the handshake is bound to its connection: it is accepted only with a
challenge that was issued there, and refused, with nothing consumed, if it carries an
unconsumed one of another connection. -/
structure Bound (env : Env) (past : History) (m : Machine.Moment System Event) (k : ConnId)
    (message : Json) (now : Int) : Prop where
  own : m.before.accepts env k message now = true → ∃ m₁ ∈ past, ∃ challenge issuedAt,
    Challenges env m₁ k challenge issuedAt ∧ Carries env message challenge
  foreign : Foreign env past m.before k message →
    m.before.accepts env k message now = false ∧ m.after.store = m.before.store

/-- A frame enrolls with an open token and an unconsumed challenge of another
connection. -/
structure Strays (env : Env) (past : History) (sys : System) (k : ConnId) (message : Json)
    (now : Int) : Prop where
  challenging : ∃ challenge, sys.phases.get? k = some (.challenging challenge)
  type : hasType message "enroll" = true
  uses : Store.UsesToken env sys.store message now
  foreign : Foreign env past sys k message

/-- An authentication frame that is not refused carries the challenge of its
connection. -/
theorem authenticateSession_foreign (run : (system env).Run past sys) {k : ConnId}
    {phase : Phase} {challenge : Store.Challenge} {message : Json}
    (here : sys.phases.get? k = some phase) (waits : phase.challenge? = some challenge)
    (foreign : Foreign env past sys k message) (now : Int) :
    ∃ x, sys.store.authenticateSession env k challenge message now = (sys.store, .error x) := by
  obtain ⟨m, mem, k', challenge', issuedAt, other, issued, carries, _⟩ := foreign
  obtain ⟨m₁, mem₁, issuedAt₁, issued₁⟩ := phase_challenged run here waits
  have differ : field message "challenge_id" ≠ .str challenge.challengeId := by
    intro same
    have sameId : challenge'.challengeId = challenge.challengeId := by
      rw [← carries.challengeId, same, text_str]
    exact other (challenge_issued_once run mem mem₁ issued issued₁ sameId).1
  cases done : sys.store.authenticateSession env k challenge message now with
  | mk s' result =>
      cases Store.authenticateSession_steps done with
      | refused x => exact ⟨x, rfl⟩
      | unverified x own challengeOpen => exact absurd own.1 differ
      | authenticated challengeOpen as => exact absurd as.challengeId differ

/-- The challenge that an accepted frame carries is open. -/
theorem accepts_open {k : ConnId} {message : Json} {now : Int}
    (accepted : sys.accepts env k message now = true) :
    ∃ row, Store.ChallengeOpen env sys.store (field message "challenge_id")
      (field message "challenge") now row := by
  rcases accepts_iff.mp accepted with ⟨_, connectorId, _, _, isOk⟩ |
    ⟨_, challenge, session, _, _, isOk⟩
  · have done : sys.store.handleEnroll env message now =
        ((sys.store.handleEnroll env message now).1, .ok connectorId) := Prod.ext rfl isOk
    obtain ⟨_, row, _, _, isOpen, _⟩ := (Store.handleEnroll_steps done).ok
    exact ⟨row, isOpen⟩
  · have done : sys.store.authenticateSession env k challenge message now =
        ((sys.store.authenticateSession env k challenge message now).1, .ok session) :=
      Prod.ext rfl isOk
    obtain ⟨row, isOpen, _⟩ := (Store.authenticateSession_steps done).ok
    exact ⟨row, isOpen⟩

/-- **A handshake frame keeps to its connection, or it strays**, in every run. -/
theorem handshake_bound_iff {env : Env} (collisionFree : Function.Injective env.sha256)
    {before after : History} {m : Machine.Moment System Event} {sys : System}
    (run : (system env).Run (before ++ m :: after) sys) {k : ConnId} {message : Json} {now : Int}
    (event : m.event = .receive k (.ok message) now) {phase : Phase}
    {challenge : Store.Challenge} (here : m.before.phases.get? k = some phase)
    (waits : phase.challenge? = some challenge) :
    Bound env before m k message now ↔ ¬ Strays env before m.before k message now := by
  obtain ⟨runBefore, stepped⟩ := run.upTo
  have linked := linked_of_reach runBefore.reach
  have stepped : m.before.step env (.receive k (.ok message) now) = some m.after :=
    event ▸ stepped
  constructor
  · -- An open token is consumed, so the frame does not leave the tables alone.
    intro bound strays
    obtain ⟨own, challenging⟩ := strays.challenging
    have same := (bound.foreign strays.foreign).2
    rcases step_handshake linked stepped here waits with ⟨_, store⟩ | ⟨other, _⟩
    · obtain ⟨connectorId, row, _, isOpen⟩ := strays.uses.token
      refine Store.useToken_ne isOpen ?_
      rw [← Store.handleEnroll_uses strays.uses, ← store, same]
    · cases here.symm.trans challenging
      exact other ⟨⟨own, rfl⟩, strays.type⟩
  · intro keeps
    have refuses : Foreign env before m.before k message →
        m.before.accepts env k message now = false ∧ m.after.store = m.before.store := by
      intro foreign
      rcases step_handshake linked stepped here waits with ⟨takes, store⟩ | ⟨other, store⟩
      · obtain ⟨⟨own, rfl⟩, type⟩ := takes
        have unused : ¬ Store.UsesToken env m.before.store message now := fun uses =>
          keeps ⟨⟨own, here⟩, type, uses, foreign⟩
        obtain ⟨x, refused⟩ := Store.handleEnroll_unused unused
        rw [refused] at store
        refine ⟨?_, store⟩
        unfold accepts
        simp only [here, type, ↓reduceIte, refused, Except.isOk, Except.toBool]
      · obtain ⟨x, refused⟩ := authenticateSession_foreign runBefore here waits foreign now
        rw [refused] at store
        refine ⟨?_, store⟩
        unfold accepts
        cases phase with
        | challenging own =>
            cases waits
            have type : hasType message "enroll" = false := by
              simpa using fun type => other ⟨⟨challenge, rfl⟩, type⟩
            simp only [here, type, Bool.false_eq_true, ↓reduceIte, refused, Except.isOk,
              Except.toBool]
        | authenticating own =>
            cases waits
            simp only [here, refused, Except.isOk, Except.toBool]
        | enrolled | readying | serving | closing | finished => cases waits
    refine ⟨fun accepted => ?_, refuses⟩
    -- The challenge of an accepted frame was issued somewhere; elsewhere it is foreign.
    obtain ⟨row, isOpen⟩ := accepts_open accepted
    obtain ⟨m₁, mem₁, k₁, challenge₁, issuedAt, issued, sameId, same, _⟩ :=
      challengeOpen_issued collisionFree runBefore isOpen
    by_cases elsewhere : k₁ = k
    · subst elsewhere
      exact ⟨m₁, mem₁, challenge₁, issuedAt, issued, sameId, same⟩
    · have unspent : ¬ ChallengeSpent m.before challenge₁.challengeId := by
        rintro ⟨row', found, consumed⟩
        rw [← sameId, isOpen.found] at found
        cases found
        rw [isOpen.unconsumed] at consumed
        cases consumed
      have refused := (refuses ⟨m₁, mem₁, k₁, challenge₁, issuedAt, elsewhere, issued,
        ⟨sameId, same⟩, unspent⟩).1
      rw [accepted] at refused
      cases refused

def isAuthenticating (sys : System) (k : ConnId) : Bool :=
  match sys.phases.get? k with
  | some (.authenticating _) => true
  | _ => false

def isChallenging (sys : System) (k : ConnId) (challenge : Store.Challenge) : Bool :=
  match sys.phases.get? k with
  | some (.challenging issued) => decide (issued = challenge)
  | _ => false

/-- The sample device answers its second challenge, on the connection it came on. -/
theorem handshake_bound_iff_serving : ∃ (env : Env) (before : History)
    (m : Machine.Moment System Event), m.before.accepts env 0 Sample.authenticateFrame
      (Sample.second 4) = true ∧ Bound env before m 0 Sample.authenticateFrame
        (Sample.second 4) := by
  have holds : ((system Sample.env).exec init (Sample.serving.take 4)).any
      (fun sys : System => sys.accepts Sample.env 0 Sample.authenticateFrame (Sample.second 4) &&
        sys.isAuthenticating 0) = true := by decide +kernel
  obtain ⟨sys, ended, checked⟩ := (Option.any_eq_true _ _).mp holds
  obtain ⟨accepted, phase⟩ := Bool.and_eq_true_iff.mp checked
  have run := (Machine.Run.init (M := system Sample.env)).of_exec ended
  unfold isAuthenticating at phase
  split at phase
  · rename_i challenge here
    have later : ¬ TakesEnroll (.authenticating challenge) Sample.authenticateFrame := by
      rintro ⟨⟨_, challenging⟩, _⟩
      cases challenging
    obtain ⟨sys', stepped⟩ := Option.isSome_iff_exists.mp (receive_answered
      (linked_of_reach run.reach) (receives_authenticates here rfl later))
    refine ⟨Sample.env, (system Sample.env).history init (Sample.serving.take 4),
      ⟨sys, .receive 0 (.ok Sample.authenticateFrame) (Sample.second 4), sys'⟩, accepted, ?_⟩
    refine (handshake_bound_iff Sample.sha256_injective (.step run stepped) rfl here rfl).mpr ?_
    rintro ⟨⟨_, challenging⟩, _, _, _⟩
    cases here.symm.trans challenging
  · cases phase

end System

namespace Sample

/-- A token is issued, and connections 0 and 1 are sent a challenge each. -/
def challenged : List Event :=
  [.issueToken rawToken (.str "pc-1") (.str "full_agent") (.str "PC 1") 600 (second 0),
    .connect 0 firstChallenge (second 1), .connect 1 secondChallenge (second 1)]

end Sample

namespace System

/-- **The enrollment frame for connection 0 enrolls its device on connection 1.** -/
theorem enroll_frame_crosses : ∃ (env : Env) (before : History)
    (m : Machine.Moment System Event), Function.Injective env.sha256 ∧
      (system env).Run (before ++ [m]) m.after ∧
      m.event = .receive 1 (.ok Sample.enrollFrame) (Sample.second 2) ∧
      Foreign env before m.before 1 Sample.enrollFrame ∧
      m.before.accepts env 1 Sample.enrollFrame (Sample.second 2) = true ∧
      ¬ Bound env before m 1 Sample.enrollFrame (Sample.second 2) := by
  have holds : ((system Sample.env).exec init Sample.challenged).any
      (fun sys : System => sys.accepts Sample.env 1 Sample.enrollFrame (Sample.second 2) &&
        (sys.step Sample.env (.receive 1 (.ok Sample.enrollFrame) (Sample.second 2))).isSome &&
        (sys.store.challenges.find? Sample.firstChallenge.challengeId).any
          (fun row : ChallengeRow => row.consumedAt.isNone) &&
        sys.isChallenging 0 Sample.firstChallenge) = true := by decide +kernel
  obtain ⟨sys, ended, checked⟩ := (Option.any_eq_true _ _).mp holds
  obtain ⟨both, phase⟩ := Bool.and_eq_true_iff.mp checked
  obtain ⟨taken, unconsumed⟩ := Bool.and_eq_true_iff.mp both
  obtain ⟨accepted, taken⟩ := Bool.and_eq_true_iff.mp taken
  obtain ⟨sys', stepped⟩ := Option.isSome_iff_exists.mp taken
  have run := (Machine.Run.init (M := system Sample.env)).of_exec ended
  unfold isChallenging at phase
  split at phase
  · rename_i challenge here
    obtain rfl := of_decide_eq_true phase
    obtain ⟨m₀, mem, issuedAt, issued⟩ := phase_challenged run here rfl
    have foreign : Foreign Sample.env ([] ++ (system Sample.env).history init Sample.challenged)
        sys 1 Sample.enrollFrame := by
      refine ⟨m₀, mem, 0, _, issuedAt, by decide, issued, ⟨rfl, rfl⟩, ?_⟩
      rintro ⟨row, found, consumed⟩
      rw [found] at unconsumed
      cases at_ : row.consumedAt with
      | none =>
          rw [at_] at consumed
          cases consumed
      | some t =>
          rw [Option.any_some, at_] at unconsumed
          cases unconsumed
    refine ⟨Sample.env, _, ⟨sys, _, sys'⟩, Sample.sha256_injective, .step run stepped, rfl,
      foreign, accepted, fun bound => ?_⟩
    have refused := (bound.foreign foreign).1
    rw [accepted] at refused
    cases refused
  · cases phase

end System

end RemoteAgent
