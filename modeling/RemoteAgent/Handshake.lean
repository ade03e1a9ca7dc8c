import RemoteAgent.Operations

/-!
# What a handshake frame consumes and checks

An enrollment consumes its token, then its challenge, then checks the signature; an
authentication consumes its challenge, then checks the signature.  A frame that fails
later has used up what was consumed before (`completeEnrollment_steps`,
`authenticateSession_steps`); one that gets through has passed every check
(`EnrolledAs`, `AuthenticatedAs`).
-/

open Wire Storage Transition

namespace RemoteAgent

open Dispatcher (field)

namespace Store

variable {env : Env} {s s' : Store}

/-! ## Tokens and challenges -/

/-- A token that an enrollment of a connector may use. -/
structure TokenOpen (env : Env) (s : Store) (rawToken : Json) (connectorId : String) (now : Int)
    (row : TokenRow) : Prop where
  found : s.tokens.find? (env.sha256 (env.text rawToken)) = some row
  connector : row.connectorId = connectorId
  unconsumed : row.consumedAt = none
  unexpired : asTimestamp now < row.expiresAt

theorem TokenRow.stamp_key (now : Int) (r : TokenRow) :
    { r with consumedAt := some (asTimestamp now) }.tokenHash = r.tokenHash :=
  consume_key _ r

/-- The tables after a token is consumed. -/
def useToken (s : Store) (tokenHash : String) (now : Int) : Store :=
  let tokens := s.tokens.updateWhere
    (fun r => decide (r.tokenHash = tokenHash) && r.consumedAt.isNone)
    (fun r => { r with consumedAt := some (asTimestamp now) }) (TokenRow.stamp_key now)
  { s with tokens := tokens }

/-- `consume_enrollment_token_detailed` accepts the open tokens. -/
theorem consumeEnrollmentToken_accepted {rawToken : Json} {connectorId : String} {now : Int}
    {row : TokenRow} :
    s.consumeEnrollmentToken env rawToken connectorId now = (s', .accepted row) ↔
      TokenOpen env s rawToken connectorId now row ∧
        s' = s.useToken (env.sha256 (env.text rawToken)) now := by
  unfold consumeEnrollmentToken
  simp only
  constructor
  · intro used
    split at used
    · cases used
    · rename_i row₀ found
      split at used
      · cases used
      · rename_i connector
        split at used
        · cases used
        · rename_i unconsumed
          split at used
          · cases used
          · rename_i unexpired
            cases used
            exact ⟨⟨found, not_not.mp connector,
              Option.not_isSome_iff_eq_none.mp unconsumed, Int.not_le.mp unexpired⟩, rfl⟩
  · rintro ⟨isOpen, rfl⟩
    rw [isOpen.found]
    simp only [isOpen.connector, ne_eq, not_true_eq_false, ↓reduceIte, isOpen.unconsumed,
      Option.isSome_none, Bool.false_eq_true, Int.not_le.mpr isOpen.unexpired]
    rfl

/-- A token that is not accepted is left as it was. -/
theorem consumeEnrollmentToken_refused {rawToken : Json} {connectorId : String} {now : Int}
    {status : TokenStatus}
    (used : s.consumeEnrollmentToken env rawToken connectorId now = (s', status))
    (refused : ∀ row, status ≠ .accepted row) : s' = s := by
  unfold consumeEnrollmentToken at used
  simp only at used
  split at used
  · cases used
    rfl
  · split at used
    · cases used
      rfl
    · split at used
      · cases used
        rfl
      · split at used
        · cases used
          rfl
        · cases used
          exact absurd rfl (refused _)

/-- A challenge that a handshake frame may answer. -/
structure ChallengeOpen (env : Env) (s : Store) (challengeId challenge : Json) (now : Int)
    (row : ChallengeRow) : Prop where
  found : s.challenges.find? (env.text challengeId) = some row
  hash : row.challengeHash = env.sha256 (env.text challenge)
  unconsumed : row.consumedAt = none
  unexpired : asTimestamp now < row.expiresAt

theorem ChallengeRow.stamp_key (now : Int) (r : ChallengeRow) :
    { r with consumedAt := some (asTimestamp now) }.challengeId = r.challengeId :=
  consume_key _ r

/-- The tables after a challenge is consumed. -/
def useChallenge (s : Store) (challengeId : String) (now : Int) : Store :=
  let challenges := s.challenges.updateWhere
    (fun r => decide (r.challengeId = challengeId) && r.consumedAt.isNone)
    (fun r => { r with consumedAt := some (asTimestamp now) }) (ChallengeRow.stamp_key now)
  { s with challenges := challenges }

/-- `consume_challenge` accepts the open challenges. -/
theorem consumeChallenge_eq_some {challengeId challenge : Json} {now : Int} :
    s.consumeChallenge env challengeId challenge now = some s' ↔
      ∃ row, ChallengeOpen env s challengeId challenge now row ∧
        s' = s.useChallenge (env.text challengeId) now := by
  unfold consumeChallenge
  constructor
  · intro used
    split at used
    · cases used
    · rename_i row found
      split at used
      · cases used
      · rename_i holds
        cases used
        simp only [Bool.or_eq_true, decide_eq_true_eq, not_or, Option.not_isSome_iff_eq_none,
          Int.not_le, not_not] at holds
        exact ⟨row, ⟨found, holds.2, holds.1.1, holds.1.2⟩, rfl⟩
  · rintro ⟨row, isOpen, rfl⟩
    rw [isOpen.found]
    simp only [isOpen.unconsumed, Option.isSome_none, Bool.false_or,
      decide_eq_false (Int.not_le.mpr isOpen.unexpired), isOpen.hash, ne_eq, not_true_eq_false,
      decide_false, Bool.false_eq_true, ↓reduceIte]
    rfl

/-! ## Enrollment -/

/-- What an enrollment that succeeds has checked, and the row it adds; `s` are the
tables with the token and the challenge consumed. -/
structure EnrolledAs (env : Env) (s s' : Store) (token : TokenRow)
    (challengeId challenge : Json) (connectorId : String)
    (enrollmentToken publicKey signature : Json) (row : DeviceRow) : Prop where
  signed : ∃ payload, enrollmentPayload env challengeId challenge (.str connectorId)
    enrollmentToken publicKey = .ok payload ∧
      verifyEd25519 env publicKey payload signature = true
  absent : s.getDevice connectorId = none
  connector : row.connectorId = connectorId
  publicKey : env.textColumn publicKey = some row.publicKey
  profile : CapabilityProfile.ofName? token.capabilityProfile = some row.capabilityProfile
  state : row.enrollmentState = .enrolled
  stored : s' = { s with devices := s.devices.insertOrIgnore row }

theorem enrollDevice_ok {connectorId label profile platform : String} {publicKey : Json}
    {now : Int} (enrolled : s.enrollDevice env connectorId publicKey label profile platform now =
      .ok (some s')) :
    ∃ row : DeviceRow, row.connectorId = connectorId ∧
      env.textColumn publicKey = some row.publicKey ∧
      CapabilityProfile.ofName? profile = some row.capabilityProfile ∧
      row.enrollmentState = .enrolled ∧
      s' = { s with devices := s.devices.insertOrIgnore row } := by
  unfold enrollDevice at enrolled
  split at enrolled
  · cases enrolled
  · rename_i granted isProfile
    split at enrolled
    · cases enrolled
    · split at enrolled
      · cases enrolled
      · rename_i key isKey
        cases enrolled
        exact ⟨_, rfl, isKey, isProfile, rfl, rfl⟩

theorem enrollVerified_ok {token : TokenRow} {challengeId challenge enrollmentToken : Json}
    {connectorId platform : String} {publicKey signature : Json} {now : Int}
    (enrolled : s.enrollVerified env token challengeId challenge connectorId enrollmentToken
      publicKey signature platform now = .ok s') :
    ∃ row, EnrolledAs env s s' token challengeId challenge connectorId enrollmentToken publicKey
      signature row := by
  unfold enrollVerified at enrolled
  split at enrolled
  · cases enrolled
  · rename_i payload isPayload
    split at enrolled
    · cases enrolled
    · rename_i verified
      split at enrolled
      · cases enrolled
      · rename_i absent
        split at enrolled
        · cases enrolled
        · cases enrolled
        · rename_i stored
          cases enrolled
          obtain ⟨row, connector, key, profile, state, rfl⟩ := enrollDevice_ok stored
          exact ⟨row, ⟨payload, isPayload, by simpa using verified⟩, absent, connector, key,
            profile, state, rfl⟩

/-- The members of an enrollment frame that the checks read, and the time. -/
structure EnrollRequest where
  challengeId : Json
  challenge : Json
  enrollmentToken : Json
  publicKey : Json
  signature : Json
  now : Int

/-- **How far an enrollment gets.**  It is refused and nothing is consumed; or its token
is consumed and its challenge is not accepted; or both are consumed and a check fails;
or the device is enrolled. -/
inductive EnrollSteps (env : Env) (s : Store) (r : EnrollRequest) :
    Store → Except Exc String → Prop
  | refused (x : Exc) : EnrollSteps env s r s (.error x)
  | unchallenged {connectorId : String} {token : TokenRow}
      (tokenOpen : TokenOpen env s r.enrollmentToken connectorId r.now token)
      (closed : ∀ row, ¬ ChallengeOpen env s r.challengeId r.challenge r.now row) :
      EnrollSteps env s r (s.useToken (env.sha256 (env.text r.enrollmentToken)) r.now)
        (.error (.agent .invalidChallenge))
  | unverified (x : Exc) {connectorId : String} {token : TokenRow} {row : ChallengeRow}
      (tokenOpen : TokenOpen env s r.enrollmentToken connectorId r.now token)
      (challengeOpen : ChallengeOpen env s r.challengeId r.challenge r.now row) :
      EnrollSteps env s r ((s.useToken (env.sha256 (env.text r.enrollmentToken)) r.now).useChallenge
        (env.text r.challengeId) r.now) (.error x)
  | enrolled {connectorId : String} {token : TokenRow} {row : ChallengeRow} {device : DeviceRow}
      {s' : Store}
      (tokenOpen : TokenOpen env s r.enrollmentToken connectorId r.now token)
      (challengeOpen : ChallengeOpen env s r.challengeId r.challenge r.now row)
      (enrolledAs : EnrolledAs env
        ((s.useToken (env.sha256 (env.text r.enrollmentToken)) r.now).useChallenge
          (env.text r.challengeId) r.now) s' token r.challengeId r.challenge connectorId
        r.enrollmentToken r.publicKey r.signature device) :
      EnrollSteps env s r s' (.ok connectorId)

/-- What an enrollment that gets through has passed. -/
theorem EnrollSteps.ok {r : EnrollRequest} {connectorId : String}
    (steps : EnrollSteps env s r s' (.ok connectorId)) :
    ∃ token row device, TokenOpen env s r.enrollmentToken connectorId r.now token ∧
      ChallengeOpen env s r.challengeId r.challenge r.now row ∧
      EnrolledAs env ((s.useToken (env.sha256 (env.text r.enrollmentToken)) r.now).useChallenge
        (env.text r.challengeId) r.now) s' token r.challengeId r.challenge connectorId
        r.enrollmentToken r.publicKey r.signature device := by
  cases steps with
  | enrolled tokenOpen challengeOpen as => exact ⟨_, _, _, tokenOpen, challengeOpen, as⟩

/-- Consuming a token leaves the challenges alone. -/
theorem challengeOpen_useToken {challengeId challenge : Json} {now now' : Int} {hash : String}
    {row : ChallengeRow} :
    ChallengeOpen env (s.useToken hash now') challengeId challenge now row ↔
      ChallengeOpen env s challengeId challenge now row :=
  ⟨fun h => ⟨h.found, h.hash, h.unconsumed, h.unexpired⟩,
    fun h => ⟨h.found, h.hash, h.unconsumed, h.unexpired⟩⟩

theorem completeEnrollment_steps {challengeId challenge connectorId token publicKey signature
    platform : Json} {now : Int} {result : Except Exc String}
    (done : s.completeEnrollment env challengeId challenge connectorId token publicKey signature
      platform now = (s', result)) :
    EnrollSteps env s ⟨challengeId, challenge, token, publicKey, signature, now⟩ s' result := by
  unfold completeEnrollment at done
  split at done
  · cases done
    exact .refused _
  · split at done
    · cases done
      exact .refused _
    · split at done
      · rename_i used
        cases done
        rw [consumeEnrollmentToken_refused used fun _ same => nomatch same]
        exact .refused _
      · rename_i used
        cases done
        rw [consumeEnrollmentToken_refused used fun _ same => nomatch same]
        exact .refused _
      · rename_i used
        cases done
        rw [consumeEnrollmentToken_refused used fun _ same => nomatch same]
        exact .refused _
      · rename_i used
        cases done
        rw [consumeEnrollmentToken_refused used fun _ same => nomatch same]
        exact .refused _
      · rename_i used
        obtain ⟨tokenOpen, rfl⟩ := consumeEnrollmentToken_accepted.mp used
        split at done
        · rename_i closed
          cases done
          refine .unchallenged tokenOpen fun row isOpen => ?_
          have accepted := closed.symm.trans
            (consumeChallenge_eq_some.mpr ⟨row, challengeOpen_useToken.mpr isOpen, rfl⟩)
          cases accepted
        · rename_i consumed
          obtain ⟨row, isOpen, rfl⟩ := consumeChallenge_eq_some.mp consumed
          have challengeOpen := challengeOpen_useToken.mp isOpen
          split at done
          · cases done
            exact .unverified _ tokenOpen challengeOpen
          · rename_i verified
            cases done
            obtain ⟨device, enrolledAs⟩ := enrollVerified_ok verified
            exact .enrolled tokenOpen challengeOpen enrolledAs

end Store

/-- The members of an `enroll` frame. -/
def enrollRequest (message : Json) (now : Int) : Store.EnrollRequest where
  challengeId := field message "challenge_id"
  challenge := field message "challenge"
  enrollmentToken := field message "enrollment_token"
  publicKey := field message "public_key"
  signature := field message "signature"
  now := now

namespace Store

variable {env : Env} {s s' : Store}

theorem handleEnroll_steps {message : Json} {now : Int} {result : Except Exc String}
    (done : s.handleEnroll env message now = (s', result)) :
    EnrollSteps env s (enrollRequest message now) s' result := by
  unfold handleEnroll at done
  split at done
  · cases done
    exact .refused _
  · split at done
    · cases done
      exact .refused _
    · exact completeEnrollment_steps done

/-! ## Authentication -/

/-- What an authentication that succeeds has checked, and the row it writes; `s` are the
tables with the challenge consumed. -/
structure AuthenticatedAs (env : Env) (s s' : Store) (generation : Nat) (challenge : Challenge)
    (message : Json) (session : AgentRelaySession) : Prop where
  type : hasType message "authenticate" = true
  challengeId : field message "challenge_id" = .str challenge.challengeId
  challenge : field message "challenge" = .str challenge.challenge
  contextEpoch : session.contextEpoch = field message "context_epoch"
  device : ∃ device payload, s.getDevice session.connectorId = some device ∧
    device.enrollmentState = .enrolled ∧
    relayAuthPayload env (field message "challenge_id") (field message "challenge")
      (.str session.connectorId) (.str session.instanceId) session.contextEpoch = .ok payload ∧
    verifyEd25519 env (.str device.publicKey) payload (field message "signature") = true
  stored : ∃ row : InstanceRow, row.instanceId = session.instanceId ∧
    row.connectorId = session.connectorId ∧ row.connectionGeneration = generation ∧
    row.state = .online ∧ s' = { s with
      instances := s.instances.upsert row (replaceInstance row) (replaceInstance_key row) }

/-- **How far an authentication gets.**  It is refused and nothing is consumed, or its
challenge is consumed and a check fails, or the session is authenticated. -/
inductive AuthenticateSteps (env : Env) (s : Store) (generation : Nat) (challenge : Challenge)
    (message : Json) (now : Int) : Store → Except Exc AgentRelaySession → Prop
  | refused (x : Exc) : AuthenticateSteps env s generation challenge message now s (.error x)
  | unverified (x : Exc) {row : ChallengeRow}
      (own : field message "challenge_id" = .str challenge.challengeId ∧
        field message "challenge" = .str challenge.challenge)
      (challengeOpen : ChallengeOpen env s (field message "challenge_id")
        (field message "challenge") now row) :
      AuthenticateSteps env s generation challenge message now
        (s.useChallenge (env.text (field message "challenge_id")) now) (.error x)
  | authenticated {row : ChallengeRow} {s' : Store} {session : AgentRelaySession}
      (challengeOpen : ChallengeOpen env s (field message "challenge_id")
        (field message "challenge") now row)
      (as : AuthenticatedAs env (s.useChallenge (env.text (field message "challenge_id")) now) s'
        generation challenge message session) :
      AuthenticateSteps env s generation challenge message now s' (.ok session)

/-- What an authentication that gets through has passed. -/
theorem AuthenticateSteps.ok {generation : Nat} {challenge : Challenge} {message : Json}
    {now : Int} {session : AgentRelaySession}
    (steps : AuthenticateSteps env s generation challenge message now s' (.ok session)) :
    ∃ row, ChallengeOpen env s (field message "challenge_id") (field message "challenge") now row ∧
      AuthenticatedAs env (s.useChallenge (env.text (field message "challenge_id")) now) s'
        generation challenge message session := by
  cases steps with
  | authenticated challengeOpen as => exact ⟨_, challengeOpen, as⟩

theorem upsertPresence_ok {connectorId instanceId : String} {generation : Nat} {epoch : Json}
    {capabilities : List String} {now : Int}
    (accepted : s.upsertPresence env connectorId instanceId generation epoch capabilities now =
      .ok (some s')) :
    ∃ row : InstanceRow, row.instanceId = instanceId ∧ row.connectorId = connectorId ∧
      row.connectionGeneration = generation ∧ row.state = .online ∧ s' = { s with
        instances := s.instances.upsert row (replaceInstance row) (replaceInstance_key row) } := by
  unfold upsertPresence at accepted
  split at accepted
  · cases accepted
  · split at accepted
    · cases accepted
    · split at accepted
      · cases accepted
      · split at accepted
        · cases accepted
        · cases accepted
          exact ⟨_, rfl, rfl, rfl, rfl, rfl⟩

/-- The checks of `authenticate_relay` after the challenge. -/
theorem authenticateVerified_ok {challengeId challenge : Json} {connectorId instanceId : String}
    {epoch signature : Json} {generation : Nat} {capabilities : List String} {now : Int}
    (accepted : s.authenticateVerified env challengeId challenge connectorId instanceId epoch
      signature generation capabilities now = .ok s') :
    (∃ device payload, s.getDevice connectorId = some device ∧
      device.enrollmentState = .enrolled ∧
      relayAuthPayload env challengeId challenge (.str connectorId) (.str instanceId) epoch =
        .ok payload ∧ verifyEd25519 env (.str device.publicKey) payload signature = true) ∧
    ∃ row : InstanceRow, row.instanceId = instanceId ∧ row.connectorId = connectorId ∧
      row.connectionGeneration = generation ∧ row.state = .online ∧ s' = { s with
        instances := s.instances.upsert row (replaceInstance row) (replaceInstance_key row) } := by
  unfold authenticateVerified at accepted
  split at accepted
  · cases accepted
  · rename_i device found
    split at accepted
    · cases accepted
    · rename_i enrolled
      split at accepted
      · cases accepted
      · rename_i payload isPayload
        split at accepted
        · cases accepted
        · rename_i verified
          split at accepted
          · cases accepted
          · cases accepted
          · rename_i stored
            cases accepted
            exact ⟨⟨device, payload, found, not_not.mp enrolled, isPayload,
              by simpa using verified⟩, upsertPresence_ok stored⟩

theorem authenticateSession_steps {generation : Nat} {challenge : Challenge} {message : Json}
    {now : Int} {result : Except Exc AgentRelaySession}
    (done : s.authenticateSession env generation challenge message now = (s', result)) :
    AuthenticateSteps env s generation challenge message now s' result := by
  unfold authenticateSession at done
  split at done
  · cases done
    exact .refused _
  · split at done
    · cases done
      exact .refused _
    · rename_i checked
      simp only [Bool.or_eq_true, Bool.not_eq_true', not_or, Bool.not_eq_false] at checked
      obtain ⟨⟨⟨_, type⟩, sameId⟩, same⟩ := checked
      have ownId := Py.eqStr_iff.mp sameId
      have own := Py.eqStr_iff.mp same
      split at done
      · rename_i s₁ x refused
        cases done
        unfold authenticateRelay at refused
        split at refused
        · cases refused
          exact .refused _
        · split at refused
          · cases refused
            exact .refused _
          · split at refused
            · cases refused
              exact .refused _
            · rename_i consumed
              obtain ⟨row, isOpen, rfl⟩ := consumeChallenge_eq_some.mp consumed
              split at refused
              · cases refused
                exact .unverified _ ⟨ownId, own⟩ isOpen
              · cases refused
      · rename_i s₁ identity accepted
        unfold authenticateRelay at accepted
        split at accepted
        · cases accepted
        · split at accepted
          · cases accepted
          · split at accepted
            · cases accepted
            · rename_i consumed
              obtain ⟨row, isOpen, rfl⟩ := consumeChallenge_eq_some.mp consumed
              split at accepted
              · cases accepted
              · rename_i verified
                cases accepted
                obtain ⟨⟨device, payload, found, enrolled, isPayload, signed⟩, instance_⟩ :=
                  authenticateVerified_ok verified
                obtain ⟨new, instanceId, connector, isGeneration, online, stored⟩ := instance_
                have kept := found
                unfold getDevice at kept
                rw [show (s.useChallenge (env.text (field message "challenge_id")) now).devices =
                  s₁.devices from (congrArg Store.devices stored).symm] at kept
                rw [show s₁.getDevice _ = some device from kept] at done
                cases done
                exact .authenticated isOpen ⟨type, ownId, own, rfl,
                  ⟨device, payload, found, enrolled, isPayload, signed⟩,
                  new, instanceId, connector, isGeneration, online, stored⟩

/-- An authentication leaves the devices alone. -/
theorem AuthenticateSteps.devices {generation : Nat} {challenge : Challenge} {message : Json}
    {now : Int} {result : Except Exc AgentRelaySession}
    (steps : AuthenticateSteps env s generation challenge message now s' result) :
    s'.devices = s.devices := by
  cases steps with
  | refused x => rfl
  | unverified x own challengeOpen => rfl
  | authenticated challengeOpen as =>
      obtain ⟨_, _, _, _, _, rfl⟩ := as.stored
      rfl

end Store

namespace System

variable {env : Env} {sys : System}

/-- Whether `handle` accepts a frame of the handshake. -/
def accepts (env : Env) (sys : System) (k : ConnId) (message : Json) (now : Int) : Bool :=
  match sys.phases.get? k with
  | some (.challenging challenge) =>
      if hasType message "enroll" then (sys.store.handleEnroll env message now).2.isOk
      else (sys.store.authenticateSession env k challenge message now).2.isOk
  | some (.authenticating challenge) =>
      (sys.store.authenticateSession env k challenge message now).2.isOk
  | _ => false

theorem isOk_iff {ε α : Type} {x : Except ε α} : x.isOk = true ↔ ∃ a, x = .ok a := by
  cases x with
  | error e =>
      constructor
      · exact fun no => nomatch no
      · rintro ⟨_, no⟩
        cases no
  | ok a => exact ⟨fun _ => ⟨a, rfl⟩, fun _ => rfl⟩

/-- A frame that authenticates is not of type `enroll`. -/
theorem not_enroll {s s' : Store} {k : ConnId} {challenge : Store.Challenge} {message : Json}
    {now : Int} {session : AgentRelaySession}
    (done : s.authenticateSession env k challenge message now = (s', .ok session)) :
    hasType message "enroll" = false := by
  cases Store.authenticateSession_steps done with
  | authenticated challengeOpen as =>
      have type := Py.eqStr_iff.mp as.type
      unfold hasType
      rw [type]
      rfl

/-- A frame is accepted as an enrollment or as an authentication. -/
theorem accepts_iff {k : ConnId} {message : Json} {now : Int} :
    sys.accepts env k message now = true ↔
      (∃ challenge connectorId, sys.phases.get? k = some (.challenging challenge) ∧
        hasType message "enroll" = true ∧
        (sys.store.handleEnroll env message now).2 = .ok connectorId) ∨
      ∃ phase challenge session, sys.phases.get? k = some phase ∧
        phase.challenge? = some challenge ∧
        (sys.store.authenticateSession env k challenge message now).2 = .ok session := by
  unfold accepts
  constructor
  · intro accepted
    split at accepted
    · rename_i challenge phase
      split at accepted
      · rename_i type
        obtain ⟨connectorId, isOk⟩ := isOk_iff.mp accepted
        exact Or.inl ⟨challenge, connectorId, phase, type, isOk⟩
      · obtain ⟨session, isOk⟩ := isOk_iff.mp accepted
        exact Or.inr ⟨_, challenge, session, phase, rfl, isOk⟩
    · rename_i challenge phase
      obtain ⟨session, isOk⟩ := isOk_iff.mp accepted
      exact Or.inr ⟨_, challenge, session, phase, rfl, isOk⟩
    · cases accepted
  · rintro (⟨challenge, connectorId, phase, type, isOk⟩ |
      ⟨phase, challenge, session, here, waits, isOk⟩)
    · rw [phase]
      simp only [type, ↓reduceIte, isOk, Except.isOk, Except.toBool]
    · cases phase with
      | challenging ch =>
          cases waits
          have notEnroll := not_enroll (Prod.ext rfl isOk)
          rw [here]
          simp only [notEnroll, Bool.false_eq_true, ↓reduceIte, isOk, Except.isOk, Except.toBool]
      | authenticating ch =>
          cases waits
          rw [here]
          simp only [isOk, Except.isOk, Except.toBool]
      | enrolled | readying | serving | closing | finished => cases waits

/-- The plan of an enrollment that succeeds. -/
theorem plan_enrolled {k : ConnId} {challenge : Store.Challenge} {message : Json} {now : Int}
    {store : Store} {connectorId : String}
    (phase : sys.phases.get? k = some (.challenging challenge))
    (type : hasType message "enroll" = true)
    (done : sys.store.handleEnroll env message now = (store, .ok connectorId)) :
    sys.plan env (.receive k (.ok message) now) =
      some ⟨store, sys.phases.insert k (.enrolled connectorId), none⟩ := by
  show sys.receives env k (.ok message) now = _
  unfold receives handshakes
  simp only [phase, type, ↓reduceIte, done]

/-- The plan of an authentication that succeeds. -/
theorem plan_authenticated {k : ConnId} {phase : Phase} {challenge : Store.Challenge}
    {message : Json} {now : Int} {store : Store} {session : AgentRelaySession}
    (here : sys.phases.get? k = some phase) (waits : phase.challenge? = some challenge)
    (done : sys.store.authenticateSession env k challenge message now = (store, .ok session)) :
    sys.plan env (.receive k (.ok message) now) =
      some ⟨store, sys.phases.insert k .readying, some (.register k session)⟩ := by
  have authenticated : sys.authenticates env k challenge message now =
      ⟨store, sys.phases.insert k .readying, some (.register k session)⟩ := by
    unfold authenticates
    simp only [done]
  show sys.receives env k (.ok message) now = _
  unfold receives
  cases phase with
  | challenging ch =>
      cases waits
      unfold handshakes
      simp only [here, not_enroll done, Bool.false_eq_true, ↓reduceIte, authenticated]
  | authenticating ch =>
      cases waits
      simp only [here, authenticated]
  | enrolled | readying | serving | closing | finished => cases waits

end System

end RemoteAgent
