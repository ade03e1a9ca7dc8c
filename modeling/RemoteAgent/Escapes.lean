import RemoteAgent.Teardown

/-!
# Frames that escape the error contract

`handle` turns an `AgentError`, a `ProtocolError` and a `ValueError` into a diagnostic; any
other exception leaves it.

* `FrameEscapes`: the frames that make it leave with such an exception.  In each case
  every check that is made has passed before a value meets an operation that its type, or
  its range, does not allow.
* `frame_contract`: in every reachable state the text of a frame ends the handler without a
  diagnostic exactly if it is one of them, or is nested too deep to be read.  Every other
  text is answered by a diagnostic under a code of `RELAY_ERROR_CODES`, or the handler goes
  on.
* `handlers_end`: how the handlers of a run have ended.
-/

open Wire Storage Transition

namespace RemoteAgent

open Dispatcher (field)

/-! ## Diagnostics -/

/-- The code of a diagnostic is one of `RELAY_ERROR_CODES`. -/
def Diagnoses (diagnostic : Json) : Prop :=
  ∃ code ∈ RelayErrorCode.all, diagnostic.get? "code" = some (.str code.value)

theorem RelayErrorCode.mem_all (code : RelayErrorCode) : code ∈ RelayErrorCode.all := by
  cases code <;> decide

theorem diagnoses_relayDiagnostic (raw : String) (stage : HandshakeStage) :
    Diagnoses (relayDiagnostic raw stage) := ⟨_, RelayErrorCode.mem_all _, rfl⟩

/-! ## Errors that are caught -/

theorem parsePattern_error {env : Env} {normal : String → String} {ok : String → Bool} {j : Json}
    {x : Exc} (failed : parsePattern env normal ok j = .error x) : x = .protocol := by
  unfold parsePattern at failed
  dsimp only at failed
  split at failed
  · cases failed
  · exact (Except.error.inj failed).symm

theorem parseUuid_error {env : Env} {j : Json} {x : Exc} (failed : parseUuid env j = .error x) :
    x = .protocol := by
  unfold parseUuid at failed
  split at failed
  · cases failed
  · exact (Except.error.inj failed).symm

theorem requireKeys_error {value : Json} {required optional : List String} {x : Exc}
    (failed : requireKeys value required optional = .error x) : x = .protocol := by
  unfold requireKeys at failed
  split at failed
  · dsimp only at failed
    split at failed
    · cases failed
    · exact (Except.error.inj failed).symm
  · exact (Except.error.inj failed).symm

theorem enrollmentPayload_error {env : Env}
    {challengeId challenge connectorId enrollmentToken publicKey : Json} {x : Exc}
    (failed : enrollmentPayload env challengeId challenge connectorId enrollmentToken publicKey =
      .error x) : x = .protocol := by
  unfold enrollmentPayload at failed
  cases id : parseUuid env challengeId with
  | error x' =>
      rw [id] at failed
      cases failed
      exact parseUuid_error id
  | ok id' =>
      cases connector : parseConnectorId env connectorId with
      | error x' =>
          rw [id, connector] at failed
          cases failed
          exact parsePattern_error connector
      | ok connector' =>
          rw [id, connector] at failed
          cases failed

theorem relayAuthPayload_error {env : Env}
    {challengeId challenge connectorId instanceId contextEpoch : Json} {x : Exc}
    (failed : relayAuthPayload env challengeId challenge connectorId instanceId contextEpoch =
      .error x) : x = .protocol := by
  unfold relayAuthPayload at failed
  cases id : parseUuid env challengeId with
  | error x' =>
      rw [id] at failed
      cases failed
      exact parseUuid_error id
  | ok id' =>
      cases connector : parseConnectorId env connectorId with
      | error x' =>
          rw [id, connector] at failed
          cases failed
          exact parsePattern_error connector
      | ok connector' =>
          cases instance_ : parseInstanceId env instanceId with
          | error x' =>
              rw [id, connector, instance_] at failed
              cases failed
              exact parsePattern_error instance_
          | ok instance' =>
              rw [id, connector, instance_] at failed
              cases failed

namespace Store

variable {env : Env} {s : Store}

/-! ## Enrollment -/

/-- An enrollment frame whose checks all pass, for a token of an unknown profile or with a
public key that no text column stores. -/
structure EnrollEscapes (env : Env) (s : Store) (message : Json) (now : Int) : Prop where
  complete : requireKeys message enrollKeys ["platform"] = .ok ()
  version : Py.eqInt env.floats (field message "v") protocolVersion = true
  platform : ∃ platform, validatePlatform env (.str (platformOf env message)) = .ok platform
  passed : ∃ connectorId token ticket payload,
    parseConnectorId env (field message "connector_id") = .ok connectorId ∧
    TokenOpen env s (field message "enrollment_token") connectorId now token ∧
    ChallengeOpen env s (field message "challenge_id") (field message "challenge") now ticket ∧
    enrollmentPayload env (field message "challenge_id") (field message "challenge")
      (.str connectorId) (field message "enrollment_token") (field message "public_key") =
        .ok payload ∧
    verifyEd25519 env (field message "public_key") payload (field message "signature") = true ∧
    s.getDevice connectorId = none ∧
    (CapabilityProfile.ofName? token.capabilityProfile = none ∨
      env.textColumn (field message "public_key") = none)

theorem enrollDevice_escape {connectorId label profile platform : String} {publicKey : Json}
    {now : Int} (absent : s.getDevice connectorId = none) :
    s.enrollDevice env connectorId publicKey label profile platform now = .error .escape ↔
      CapabilityProfile.ofName? profile = none ∨ env.textColumn publicKey = none := by
  unfold enrollDevice
  rw [absent]
  cases CapabilityProfile.ofName? profile with
  | none => simp only [true_or]
  | some granted =>
      cases env.textColumn publicKey with
      | none => simp only [or_true]
      | some key => simp only [reduceCtorEq, or_self]

theorem enrollDevice_error {connectorId label profile platform : String} {publicKey : Json}
    {now : Int} {x : Exc} (failed : s.enrollDevice env connectorId publicKey label profile platform
      now = .error x) : x = .escape := by
  unfold enrollDevice at failed
  split at failed
  · exact (Except.error.inj failed).symm
  · split at failed
    · cases failed
    · split at failed
      · exact (Except.error.inj failed).symm
      · cases failed

theorem enrollVerified_escape {token : TokenRow} {challengeId challenge enrollmentToken : Json}
    {connectorId platform : String} {publicKey signature : Json} {now : Int} :
    s.enrollVerified env token challengeId challenge connectorId enrollmentToken publicKey
        signature platform now = .error .escape ↔
      ∃ payload, enrollmentPayload env challengeId challenge (.str connectorId) enrollmentToken
          publicKey = .ok payload ∧
        verifyEd25519 env publicKey payload signature = true ∧ s.getDevice connectorId = none ∧
        (CapabilityProfile.ofName? token.capabilityProfile = none ∨
          env.textColumn publicKey = none) := by
  unfold enrollVerified
  constructor
  · intro escaped
    split at escaped
    · rename_i x failed
      cases escaped
      cases enrollmentPayload_error failed
    · rename_i payload isPayload
      split at escaped
      · cases escaped
      · rename_i verified
        split at escaped
        · cases escaped
        · rename_i absent
          split at escaped
          · rename_i x failed
            obtain rfl := enrollDevice_error failed
            exact ⟨payload, isPayload, by simpa using verified, absent,
              (enrollDevice_escape absent).mp failed⟩
          · cases escaped
          · cases escaped
  · rintro ⟨payload, isPayload, verified, absent, unfit⟩
    have failed : s.enrollDevice env connectorId publicKey token.displayLabel
        token.capabilityProfile platform now = .error .escape :=
      (enrollDevice_escape absent).mpr unfit
    simp only [isPayload, verified, Bool.not_true, Bool.false_eq_true, ↓reduceIte, absent, failed]

/-- **When an enrollment frame escapes.** -/
theorem handleEnroll_escape {message : Json} {now : Int} :
    (s.handleEnroll env message now).2 = .error .escape ↔ EnrollEscapes env s message now := by
  constructor
  · intro escaped
    unfold handleEnroll at escaped
    split at escaped
    · rename_i x failed
      cases escaped
      cases requireKeys_error failed
    · rename_i complete
      split at escaped
      · cases escaped
      · rename_i version
        unfold completeEnrollment at escaped
        split at escaped
        · rename_i x failed
          cases escaped
          cases parsePattern_error failed
        · rename_i connectorId connector
          split at escaped
          · rename_i x failed
            cases escaped
            cases parsePattern_error failed
          · rename_i platform isPlatform
            split at escaped
            · cases escaped
            · cases escaped
            · cases escaped
            · cases escaped
            · rename_i token used
              obtain ⟨tokenOpen, rfl⟩ := consumeEnrollmentToken_accepted.mp used
              split at escaped
              · cases escaped
              · rename_i consumed
                obtain ⟨ticket, isOpen, rfl⟩ := consumeChallenge_eq_some.mp consumed
                split at escaped
                · rename_i x failed
                  cases escaped
                  obtain ⟨payload, isPayload, verified, absent, unfit⟩ :=
                    enrollVerified_escape.mp failed
                  exact ⟨complete, by simpa using version, ⟨platform, isPlatform⟩, connectorId,
                    token, ticket, payload, connector, tokenOpen,
                    challengeOpen_useToken.mp isOpen, isPayload, verified, absent, unfit⟩
                · cases escaped
  · rintro ⟨complete, version, ⟨platform, isPlatform⟩, connectorId, token, ticket, payload,
      connector, tokenOpen, challengeOpen, isPayload, verified, absent, unfit⟩
    have used := consumeEnrollmentToken_accepted.mpr ⟨tokenOpen, rfl⟩
    have consumed : (s.useToken (env.sha256 (env.text (field message "enrollment_token")))
        now).consumeChallenge env (field message "challenge_id") (field message "challenge") now =
          some _ := consumeChallenge_eq_some.mpr
      ⟨ticket, challengeOpen_useToken.mpr challengeOpen, rfl⟩
    have failed : ((s.useToken (env.sha256 (env.text (field message "enrollment_token")))
        now).useChallenge (env.text (field message "challenge_id")) now).enrollVerified env token
          (field message "challenge_id") (field message "challenge") connectorId
          (field message "enrollment_token") (field message "public_key")
          (field message "signature") platform now = .error .escape :=
      enrollVerified_escape.mpr ⟨payload, isPayload, verified, absent, unfit⟩
    unfold handleEnroll completeEnrollment
    simp only [complete, version, Bool.not_true, Bool.false_eq_true, ↓reduceIte, connector,
      isPlatform, used, consumed, failed]

/-! ## Authentication -/

/-- An authentication frame whose checks all pass, with a context epoch that the column does
not store. -/
structure AuthenticateEscapes (env : Env) (s : Store) (challenge : Challenge) (message : Json)
    (now : Int) : Prop where
  complete : requireKeys message authenticateKeys [] = .ok ()
  version : Py.eqInt env.floats (field message "v") protocolVersion = true
  type : hasType message "authenticate" = true
  challengeId : field message "challenge_id" = .str challenge.challengeId
  challenge : field message "challenge" = .str challenge.challenge
  unused : ∃ ticket, ChallengeOpen env s (field message "challenge_id") (field message "challenge")
    now ticket
  passed : ∃ connectorId instanceId device payload,
    parseConnectorId env (field message "connector_id") = .ok connectorId ∧
    parseInstanceId env (field message "instance_id") = .ok instanceId ∧
    s.getDevice connectorId = some device ∧ device.enrollmentState = .enrolled ∧
    relayAuthPayload env (field message "challenge_id") (field message "challenge")
      (.str connectorId) (.str instanceId) (field message "context_epoch") = .ok payload ∧
    verifyEd25519 env (.str device.publicKey) payload (field message "signature") = true
  epoch : env.naturalColumn (field message "context_epoch") = none

theorem authenticateVerified_escape {challengeId challenge contextEpoch signature : Json}
    {connectorId instanceId : String} {generation : Nat} {now : Int} :
    s.authenticateVerified env challengeId challenge connectorId instanceId contextEpoch signature
        generation [] now = .error .escape ↔
      (∃ device payload, s.getDevice connectorId = some device ∧
        device.enrollmentState = .enrolled ∧
        relayAuthPayload env challengeId challenge (.str connectorId) (.str instanceId)
          contextEpoch = .ok payload ∧
        verifyEd25519 env (.str device.publicKey) payload signature = true) ∧
      env.naturalColumn contextEpoch = none := by
  unfold authenticateVerified
  constructor
  · intro escaped
    split at escaped
    · cases escaped
    · rename_i device found
      split at escaped
      · cases escaped
      · rename_i enrolled
        split at escaped
        · rename_i x failed
          cases escaped
          cases relayAuthPayload_error failed
        · rename_i payload isPayload
          split at escaped
          · cases escaped
          · rename_i verified
            rw [upsertPresence_eq env found (not_not.mp enrolled)] at escaped
            cases column : env.naturalColumn contextEpoch with
            | none =>
                exact ⟨⟨device, payload, found, not_not.mp enrolled, isPayload,
                  by simpa using verified⟩, rfl⟩
            | some epoch =>
                rw [column] at escaped
                cases escaped
  · rintro ⟨⟨device, payload, found, enrolled, isPayload, verified⟩, column⟩
    simp only [found, enrolled, ne_eq, not_true_eq_false, ↓reduceIte, isPayload, verified,
      Bool.not_true, Bool.false_eq_true, upsertPresence_eq env found enrolled, column]

/-- **When an authentication frame escapes.** -/
theorem authenticateSession_escape {generation : Nat} {challenge : Challenge} {message : Json}
    {now : Int} : (s.authenticateSession env generation challenge message now).2 =
      .error .escape ↔ AuthenticateEscapes env s challenge message now := by
  constructor
  · intro escaped
    cases done : s.authenticateSession env generation challenge message now with
    | mk s' result =>
        rw [done] at escaped
        have escaped : result = .error .escape := escaped
        subst escaped
        unfold authenticateSession at done
        split at done
        · rename_i x failed
          cases done
          cases requireKeys_error failed
        · rename_i complete
          split at done
          · cases done
          · rename_i checked
            simp only [Bool.or_eq_true, Bool.not_eq_true', not_or, Bool.not_eq_false] at checked
            obtain ⟨⟨⟨version, type⟩, sameId⟩, same⟩ := checked
            split at done
            · rename_i s₁ x refused
              cases done
              unfold authenticateRelay at refused
              split at refused
              · rename_i x' failed
                cases refused
                cases parsePattern_error failed
              · rename_i connectorId connector
                split at refused
                · rename_i x' failed
                  cases refused
                  cases parsePattern_error failed
                · rename_i instanceId instance_
                  split at refused
                  · cases refused
                  · rename_i consumed
                    obtain ⟨ticket, isOpen, rfl⟩ := consumeChallenge_eq_some.mp consumed
                    split at refused
                    · rename_i x' failed
                      cases refused
                      obtain ⟨⟨device, payload, found, enrolled, isPayload, verified⟩, column⟩ :=
                        authenticateVerified_escape.mp failed
                      exact ⟨complete, version, type, Py.eqStr_iff.mp sameId, Py.eqStr_iff.mp same,
                        ⟨ticket, isOpen⟩, ⟨connectorId, instanceId, device, payload, connector,
                          instance_, found, enrolled, isPayload, verified⟩, column⟩
                    · cases refused
            · -- The device of an identity is there.
              rename_i s₁ identity accepted
              unfold authenticateRelay at accepted
              split at accepted
              · cases accepted
              · split at accepted
                · cases accepted
                · split at accepted
                  · cases accepted
                  · split at accepted
                    · cases accepted
                    · rename_i verified
                      cases accepted
                      obtain ⟨⟨device, payload, found, _⟩, row, _, _, _, _, rfl⟩ :=
                        authenticateVerified_ok verified
                      split at done
                      · rename_i absent
                        cases found.symm.trans absent
                      · cases done
  · intro escapes
    obtain ⟨ticket, isOpen⟩ := escapes.unused
    obtain ⟨connectorId, instanceId, device, payload, connector, instance_, found, enrolled,
      isPayload, verified⟩ := escapes.passed
    have consumed := consumeChallenge_eq_some.mpr ⟨ticket, isOpen, rfl⟩
    have failed : (s.useChallenge (env.text (field message "challenge_id")) now).authenticateVerified
        env (field message "challenge_id") (field message "challenge") connectorId instanceId
        (field message "context_epoch") (field message "signature") generation [] now =
          .error .escape :=
      authenticateVerified_escape.mpr ⟨⟨device, payload, found, enrolled, isPayload, verified⟩,
        escapes.epoch⟩
    unfold authenticateSession authenticateRelay
    simp only [escapes.complete, escapes.version, escapes.type, Bool.not_true, Bool.false_or,
      Py.eqStr_iff.mpr escapes.challengeId, Py.eqStr_iff.mpr escapes.challenge,
      Bool.false_eq_true, ↓reduceIte, connector, instance_, consumed, failed]

/-! ## Heartbeats -/

/-- A heartbeat frame for the current row of its session, with a context epoch that cannot be
compared with the stored one, or not be stored, or not be compared with the session's. -/
structure HeartbeatEscapes (env : Env) (s : Store) (generation : Nat) (session : AgentRelaySession)
    (message : Json) : Prop where
  complete : requireKeys message heartbeatKeys [] = .ok ()
  version : Py.eqInt env.floats (field message "v") protocolVersion = true
  current : ∃ name r, parseInstanceId env (.str session.instanceId) = .ok name ∧
    s.instances.find? name = some r ∧ r.state = .online ∧ r.connectionGeneration = generation ∧
    (storedEpoch env r.contextEpoch = .error .escape ∨
      ∃ stored, storedEpoch env r.contextEpoch = .ok stored ∧
        (Py.lt env.floats (field message "context_epoch") (.int stored) = none ∨
          (Py.lt env.floats (field message "context_epoch") (.int stored) = some false ∧
            (env.naturalColumn (field message "context_epoch") = none ∨
              Py.max env.floats session.contextEpoch (field message "context_epoch") = none))))

theorem heartbeat_escape {instanceId : String} {generation : Nat} {epoch : Json} {now : Int} :
    s.heartbeat env instanceId generation epoch now = .error .escape ↔
      ∃ r, s.instances.find? instanceId = some r ∧ r.state = .online ∧
        r.connectionGeneration = generation ∧
        (storedEpoch env r.contextEpoch = .error .escape ∨
          ∃ stored, storedEpoch env r.contextEpoch = .ok stored ∧
            (Py.lt env.floats epoch (.int stored) = none ∨
              (Py.lt env.floats epoch (.int stored) = some false ∧
                env.naturalColumn epoch = none))) := by
  unfold heartbeat
  constructor
  · intro escaped
    split at escaped
    · cases escaped
    · rename_i r found
      split at escaped
      · cases escaped
      · rename_i current
        rw [not_or, not_not, not_not] at current
        refine ⟨r, found, current.1, current.2, ?_⟩
        split at escaped
        · rename_i x failed
          cases escaped
          exact Or.inl failed
        · rename_i stored isStored
          refine Or.inr ⟨stored, isStored, ?_⟩
          split at escaped
          · rename_i incomparable
            exact Or.inl incomparable
          · cases escaped
          · rename_i notBefore
            split at escaped
            · rename_i column
              exact Or.inr ⟨notBefore, column⟩
            · cases escaped
  · rintro ⟨r, found, online, isGeneration, unfit⟩
    simp only [found, online, isGeneration, ne_eq, not_true_eq_false, or_self, ↓reduceIte]
    rcases unfit with failed | ⟨stored, isStored, incomparable | ⟨notBefore, column⟩⟩
    · simp only [failed]
    · simp only [isStored, incomparable]
    · simp only [isStored, notBefore, column]

/-- **When a heartbeat frame escapes.** -/
theorem handleHeartbeat_escape {generation : Nat} {session : AgentRelaySession} {message : Json}
    {now : Int} : (s.handleHeartbeat env generation session message now).2 = .error .escape ↔
      HeartbeatEscapes env s generation session message := by
  constructor
  · intro escaped
    unfold handleHeartbeat at escaped
    split at escaped
    · rename_i x failed
      cases escaped
      cases requireKeys_error failed
    · rename_i complete
      split at escaped
      · cases escaped
      · rename_i version
        have version : Py.eqInt env.floats (field message "v") protocolVersion = true := by
          simpa using version
        split at escaped
        · rename_i x failed
          cases escaped
          unfold acceptHeartbeat at failed
          split at failed
          · rename_i x' bad
            cases failed
            cases parsePattern_error bad
          · rename_i name parsed
            split at failed
            · rename_i x' beats
              cases failed
              obtain ⟨r, found, online, isGeneration, unfit⟩ := heartbeat_escape.mp beats
              refine ⟨complete, version, name, r, parsed, found, online, isGeneration, ?_⟩
              rcases unfit with failed | ⟨stored, isStored, incomparable | ⟨notBefore, column⟩⟩
              · exact Or.inl failed
              · exact Or.inr ⟨stored, isStored, Or.inl incomparable⟩
              · exact Or.inr ⟨stored, isStored, Or.inr ⟨notBefore, Or.inl column⟩⟩
            · cases failed
            · cases failed
        · rename_i s' accepted
          obtain ⟨name, r, new, beats, _⟩ := acceptHeartbeat_iff.mp accepted
          obtain ⟨stored, isStored, notBefore⟩ := beats.notBefore
          split at escaped
          · rename_i incomparable
            exact ⟨complete, version, name, r, beats.parsed, beats.found, beats.online,
              beats.generation, Or.inr ⟨stored, isStored, Or.inr ⟨notBefore, Or.inr incomparable⟩⟩⟩
          · cases escaped
  · rintro ⟨complete, version, name, r, parsed, found, online, isGeneration, unfit⟩
    have refused : s.heartbeat env name generation (field message "context_epoch") now =
        .error .escape → (s.handleHeartbeat env generation session message now).2 =
          .error .escape := by
      intro escaped
      unfold handleHeartbeat acceptHeartbeat
      simp only [complete, version, Bool.not_true, Bool.false_eq_true, ↓reduceIte, parsed, escaped]
    rcases unfit with failed | ⟨stored, isStored, incomparable | ⟨notBefore, unfit⟩⟩
    · exact refused (heartbeat_escape.mpr ⟨r, found, online, isGeneration, Or.inl failed⟩)
    · exact refused (heartbeat_escape.mpr
        ⟨r, found, online, isGeneration, Or.inr ⟨stored, isStored, Or.inl incomparable⟩⟩)
    · cases column : env.naturalColumn (field message "context_epoch") with
      | none =>
          exact refused (heartbeat_escape.mpr ⟨r, found, online, isGeneration,
            Or.inr ⟨stored, isStored, Or.inr ⟨notBefore, column⟩⟩⟩)
      | some new =>
          have incomparable := unfit.resolve_left (by rw [column]; exact Option.some_ne_none new)
          have accepted : s.acceptHeartbeat env session.instanceId generation
              (field message "context_epoch") now = .ok (s.beaten name generation new now) :=
            acceptHeartbeat_iff.mpr ⟨name, r, new, ⟨parsed, found, isGeneration, online,
              ⟨stored, isStored, notBefore⟩, column⟩, rfl⟩
          unfold handleHeartbeat
          simp only [complete, version, Bool.not_true, Bool.false_eq_true, ↓reduceIte, accepted,
            incomparable]

end Store

namespace Dispatcher

variable {env : Env} {d : Dispatcher}

/-! ## Responses -/

/-- A response frame to a call that waits, with a status that is not hashable. -/
structure ResponseEscapes (env : Env) (d : Dispatcher) (k : ConnId) (connectorId : String)
    (message : Json) : Prop where
  complete : requireKeys message responseKeys [] = .ok ()
  version : Py.eqInt env.floats (field message "v") protocolVersion = true
  connector : Py.eqStr (field message "connector_id") connectorId = true
  waited : ∃ c, (d.pending k).get? (env.text (field message "request_id")) = some c ∧
    (d.future c).done = false
  status : (∃ xs, field message "status" = .arr xs) ∨ ∃ fs, field message "status" = .obj fs

theorem responseStatus_escape {status : Json} :
    responseStatus status = .error .escape ↔
      (∃ xs, status = .arr xs) ∨ ∃ fs, status = .obj fs := by
  cases status with
  | arr xs => exact iff_of_true rfl (Or.inl ⟨xs, rfl⟩)
  | obj fs => exact iff_of_true rfl (Or.inr ⟨fs, rfl⟩)
  | null | bool | int | float | str =>
      refine iff_of_false ?_ ?_
      · unfold responseStatus
        simp only
        split
        · exact fun same => nomatch same
        · split <;> exact fun same => nomatch same
      · rintro (⟨xs, same⟩ | ⟨fs, same⟩) <;> cases same

/-- **When a response frame escapes.** -/
theorem receiveResponse_escape {k : ConnId} {connectorId : String} {message : Json} :
    d.receiveResponse env k connectorId message = .error .escape ↔
      ResponseEscapes env d k connectorId message := by
  constructor
  · intro escaped
    unfold receiveResponse at escaped
    split at escaped
    · rename_i x failed
      cases escaped
      cases requireKeys_error failed
    · rename_i complete
      split at escaped
      · cases escaped
      · rename_i checked
        simp only [Bool.or_eq_true, Bool.not_eq_true', not_or, Bool.not_eq_false] at checked
        split at escaped
        · cases escaped
        · rename_i c pending
          split at escaped
          · cases escaped
          · rename_i undone
            split at escaped
            · rename_i x failed
              cases escaped
              exact ⟨complete, checked.1, checked.2, ⟨c, pending, by simpa using undone⟩,
                responseStatus_escape.mp failed⟩
            · cases escaped
  · rintro ⟨complete, version, connector, ⟨c, pending, undone⟩, status⟩
    unfold receiveResponse
    simp only [complete, version, connector, Bool.not_true, Bool.or_self, Bool.false_eq_true,
      ↓reduceIte, pending, undone, responseStatus_escape.mpr status]

end Dispatcher

/-! ## The handler -/

/-- The handler waits for a frame. -/
def Phase.awaits : Phase → Bool
  | .challenging _ | .authenticating _ | .serving => true
  | _ => false

/-- The handler goes on, or is about to close the connection after a diagnostic. -/
def Phase.Contracted : Phase → Prop
  | .closing diagnostic => Diagnoses diagnostic
  | .finished => False
  | _ => True

namespace System

variable {env : Env} {sys sys' : System} {e : Event} {k : ConnId}

/-- **The frames that escape.** -/
inductive FrameEscapes (env : Env) (sys : System) (k : ConnId) (message : Json) (now : Int) : Prop
  | enrolls {challenge : Store.Challenge} (phase : sys.phases.get? k = some (.challenging challenge))
      (type : hasType message "enroll" = true)
      (escapes : Store.EnrollEscapes env sys.store message now)
  | authenticates {phase : Phase} {challenge : Store.Challenge}
      (here : sys.phases.get? k = some phase) (waits : phase.challenge? = some challenge)
      (escapes : Store.AuthenticateEscapes env sys.store challenge message now)
  | beats {session : AgentRelaySession} (phase : sys.phases.get? k = some .serving)
      (here : sys.dispatcher.sessions.get? k = some session)
      (type : hasType message "heartbeat" = true)
      (escapes : Store.HeartbeatEscapes env sys.store k session message)
  | responds {session : AgentRelaySession} (phase : sys.phases.get? k = some .serving)
      (here : sys.dispatcher.sessions.get? k = some session)
      (type : hasType message "response" = true)
      (escapes : Dispatcher.ResponseEscapes env sys.dispatcher k session.connectorId message)

/-- A message of one type is of no other. -/
theorem hasType_unique {message : Json} {name name' : String} (type : hasType message name = true)
    (other : name ≠ name') : hasType message name' = false := by
  unfold hasType at type ⊢
  rw [Py.eqStr_iff.mp type]
  exact decide_eq_false other

/-- The handler finishes at once exactly where `escapes` holds; else it keeps the contract. -/
def Settles (plan : Plan) (k : ConnId) (escapes : Prop) : Prop :=
  (escapes ∧ plan.phases.get? k = some .finished) ∨
    (¬ escapes ∧ ∃ phase, plan.phases.get? k = some phase ∧ phase.Contracted)

theorem Settles.congr {plan : Plan} {escapes escapes' : Prop} (settles : Settles plan k escapes)
    (same : escapes ↔ escapes') : Settles plan k escapes' := by
  rcases settles with ⟨holds, finished⟩ | ⟨fails, goesOn⟩
  · exact Or.inl ⟨same.mp holds, finished⟩
  · exact Or.inr ⟨fun holds => fails (same.mpr holds), goesOn⟩

/-- The handler goes on. -/
theorem Settles.goesOn {plan : Plan} {escapes : Prop} {phase : Phase} (fails : ¬ escapes)
    (here : plan.phases.get? k = some phase) (contracted : phase.Contracted) :
    Settles plan k escapes := Or.inr ⟨fails, phase, here, contracted⟩

theorem teardown_finished {store : Store} {now : Int} :
    (sys.teardown env store k now).phases.get? k = some .finished := by
  unfold teardown
  split <;> exact Dict.get?_insert_self _ _ _

theorem raises_settles {store : Store} {stage : HandshakeStage} {x : Exc} {now : Int} :
    Settles (sys.raises env store k stage x now) k (x = .escape) := by
  cases x with
  | escape => exact Or.inl ⟨rfl, teardown_finished⟩
  | agent x =>
      exact .goesOn (fun same => nomatch same) (Dict.get?_insert_self _ _ _)
        (diagnoses_relayDiagnostic _ _)
  | protocol =>
      exact .goesOn (fun same => nomatch same) (Dict.get?_insert_self _ _ _)
        (diagnoses_relayDiagnostic _ _)

/-- An exception that is raised by an operation. -/
theorem raises_settles_of {store : Store} {stage : HandshakeStage} {x : Exc} {now : Int}
    {α : Type} {result : Except Exc α} {escapes : Prop} (failed : result = .error x)
    (iff : result = .error .escape ↔ escapes) :
    Settles (sys.raises env store k stage x now) k escapes := by
  refine raises_settles.congr ?_
  rw [← iff, failed, Except.error.injEq]

theorem not_escapes_of_ok {α : Type} {result : Except Exc α} {a : α} {escapes : Prop}
    (isOk : result = .ok a) (iff : result = .error .escape ↔ escapes) : ¬ escapes := by
  intro holds
  cases isOk.symm.trans (iff.mpr holds)

theorem authenticates_settles {challenge : Store.Challenge} {message : Json} {now : Int} :
    Settles (sys.authenticates env k challenge message now) k
      (Store.AuthenticateEscapes env sys.store challenge message now) := by
  have iff : (sys.store.authenticateSession env k challenge message now).2 = .error .escape ↔
      Store.AuthenticateEscapes env sys.store challenge message now :=
    Store.authenticateSession_escape
  unfold authenticates
  cases done : sys.store.authenticateSession env k challenge message now with
  | mk store result =>
      rw [done] at iff
      cases result with
      | error x => exact raises_settles_of rfl iff
      | ok session =>
          exact .goesOn (not_escapes_of_ok rfl iff) (Dict.get?_insert_self _ _ _) trivial

theorem enrolls_settles {message : Json} {now : Int} :
    Settles (match sys.store.handleEnroll env message now with
      | (store, .error e) => sys.raises env store k .enrollment e now
      | (store, .ok connectorId) => ⟨store, sys.phases.insert k (.enrolled connectorId), none⟩) k
      (Store.EnrollEscapes env sys.store message now) := by
  have iff : (sys.store.handleEnroll env message now).2 = .error .escape ↔
      Store.EnrollEscapes env sys.store message now := Store.handleEnroll_escape
  cases done : sys.store.handleEnroll env message now with
  | mk store result =>
      rw [done] at iff
      cases result with
      | error x => exact raises_settles_of rfl iff
      | ok connectorId =>
          exact .goesOn (not_escapes_of_ok rfl iff) (Dict.get?_insert_self _ _ _) trivial

/-- The first frame of a connection. -/
theorem handshakes_settles {challenge : Store.Challenge} {message : Json} {now : Int}
    (phase : sys.phases.get? k = some (.challenging challenge)) :
    Settles (sys.handshakes env k challenge message now) k
      (FrameEscapes env sys k message now) := by
  unfold handshakes
  split
  · rename_i type
    refine enrolls_settles.congr ⟨.enrolls phase type, fun escapes => ?_⟩
    cases escapes with
    | enrolls _ _ escapes => exact escapes
    | authenticates _ _ escapes =>
        cases (hasType_unique type (by decide)).symm.trans escapes.type
    | beats serving => cases phase.symm.trans serving
    | responds serving => cases phase.symm.trans serving
  · rename_i other
    refine authenticates_settles.congr ⟨.authenticates phase rfl, fun escapes => ?_⟩
    cases escapes with
    | enrolls _ type => exact absurd type other
    | authenticates here waits escapes =>
        cases phase.symm.trans here
        cases waits
        exact escapes
    | beats serving => cases phase.symm.trans serving
    | responds serving => cases phase.symm.trans serving

/-- The frame after an enrollment. -/
theorem second_settles {challenge : Store.Challenge} {message : Json} {now : Int}
    (phase : sys.phases.get? k = some (.authenticating challenge)) :
    Settles (sys.authenticates env k challenge message now) k
      (FrameEscapes env sys k message now) := by
  refine authenticates_settles.congr ⟨.authenticates phase rfl, fun escapes => ?_⟩
  cases escapes with
  | enrolls challenging => cases phase.symm.trans challenging
  | authenticates here waits escapes =>
      cases phase.symm.trans here
      cases waits
      exact escapes
  | beats serving => cases phase.symm.trans serving
  | responds serving => cases phase.symm.trans serving

/-- A frame of a session. -/
theorem serves_settles {session : AgentRelaySession} {message : Json} {now : Int}
    (phase : sys.phases.get? k = some .serving)
    (here : sys.dispatcher.sessions.get? k = some session) :
    Settles (sys.serves env k session message now) k (FrameEscapes env sys k message now) := by
  -- a session waits for no challenge
  have noChallenge : ∀ {p : Phase} {challenge : Store.Challenge},
      sys.phases.get? k = some p → p.challenge? ≠ some challenge := by
    intro p challenge isPhase waits
    cases phase.symm.trans isPhase
    cases waits
  unfold serves
  split
  · rename_i type
    have iff : (sys.store.handleHeartbeat env k session message now).2 = .error .escape ↔
        Store.HeartbeatEscapes env sys.store k session message := Store.handleHeartbeat_escape
    have same : Store.HeartbeatEscapes env sys.store k session message ↔
        FrameEscapes env sys k message now := by
      refine ⟨.beats phase here type, fun escapes => ?_⟩
      cases escapes with
      | enrolls challenging => cases phase.symm.trans challenging
      | authenticates isPhase waits => exact absurd waits (noChallenge isPhase)
      | beats _ isSession _ escapes =>
          cases here.symm.trans isSession
          exact escapes
      | responds _ _ other => cases (hasType_unique type (by decide)).symm.trans other
    cases done : sys.store.handleHeartbeat env k session message now with
    | mk store result =>
        rw [done] at iff
        cases result with
        | error x => exact (raises_settles_of rfl iff).congr same
        | ok epoch => exact .goesOn (same.not.mp (not_escapes_of_ok rfl iff)) phase trivial
  · rename_i noBeat
    split
    · rename_i type
      have iff : sys.dispatcher.receiveResponse env k session.connectorId message =
          .error .escape ↔ Dispatcher.ResponseEscapes env sys.dispatcher k session.connectorId
            message := Dispatcher.receiveResponse_escape
      have same : Dispatcher.ResponseEscapes env sys.dispatcher k session.connectorId message ↔
          FrameEscapes env sys k message now := by
        refine ⟨.responds phase here type, fun escapes => ?_⟩
        cases escapes with
        | enrolls challenging => cases phase.symm.trans challenging
        | authenticates isPhase waits => exact absurd waits (noChallenge isPhase)
        | beats _ _ other => exact absurd other noBeat
        | responds _ isSession _ escapes =>
            cases here.symm.trans isSession
            exact escapes
      cases done : sys.dispatcher.receiveResponse env k session.connectorId message with
      | error x => exact (raises_settles_of done iff).congr same
      | ok result => exact .goesOn (same.not.mp (not_escapes_of_ok done iff)) phase trivial
    · rename_i noResponse
      refine raises_settles.congr (iff_of_false (fun same => nomatch same) fun escapes => ?_)
      cases escapes with
      | enrolls challenging => cases phase.symm.trans challenging
      | authenticates isPhase waits => exact absurd waits (noChallenge isPhase)
      | beats _ _ type => exact absurd type noBeat
      | responds _ _ type => exact absurd type noResponse

/-- A frame that is a message. -/
theorem message_settles {message : Json} {now : Int} {plan : Plan}
    (planned : sys.receives env k (.ok message) now = some plan) :
    Settles plan k (FrameEscapes env sys k message now) := by
  unfold receives at planned
  split at planned
  · rename_i challenge phase
    cases planned
    exact handshakes_settles phase
  · rename_i challenge phase
    cases planned
    exact second_settles phase
  · rename_i phase
    split at planned
    · cases planned
    · rename_i session here
      cases planned
      exact serves_settles phase here
  · cases planned

/-- A frame that is not a message. -/
theorem unread_settles {x : Exc} {now : Int} {plan : Plan}
    (planned : sys.receives env k (.error x) now = some plan) : Settles plan k (x = .escape) := by
  unfold receives at planned
  split at planned
  · cases planned
    exact raises_settles
  · cases planned
    exact raises_settles
  · split at planned
    · cases planned
    · cases planned
      exact raises_settles
  · cases planned

/-- A handler that waits takes any frame. -/
theorem receives_isSome (linked : Linked sys) {phase : Phase}
    (here : sys.phases.get? k = some phase) (awaits : phase.awaits = true)
    (frame : Except Exc Json) (now : Int) : ∃ plan, sys.receives env k frame now = some plan := by
  unfold receives
  rw [here]
  cases phase with
  | challenging challenge =>
      cases frame with
      | error x => exact ⟨_, rfl⟩
      | ok message => exact ⟨_, rfl⟩
  | authenticating challenge =>
      cases frame with
      | error x => exact ⟨_, rfl⟩
      | ok message => exact ⟨_, rfl⟩
  | serving =>
      have fits := linked k
      rw [here] at fits
      cases isSession : sys.dispatcher.sessions.get? k with
      | none =>
          refine absurd ?_ fits
          unfold Dispatcher.connectorOf
          rw [isSession]
          rfl
      | some session =>
          cases frame with
          | error x => exact ⟨_, rfl⟩
          | ok message => exact ⟨_, rfl⟩
  | enrolled | readying | closing | finished => cases awaits

/-- **The texts that escape.** -/
inductive TextEscapes (env : Env) (sys : System) (k : ConnId) (text : ScalarText) (now : Int) : Prop
  /-- The text is nested too deep to be read. -/
  | deep (fits : text.text.utf8ByteSize ≤ relayMaxMessageBytes)
      (deep : env.tooDeep text.text = true)
  | message {message : Json} (isRead : receiveMessage env text = .ok message)
      (escapes : FrameEscapes env sys k message now)

theorem receives_settles {text : ScalarText} {now : Int} {plan : Plan}
    (planned : sys.receives env k (receiveMessage env text) now = some plan) :
    Settles plan k (TextEscapes env sys k text now) := by
  cases isRead : receiveMessage env text with
  | error x =>
      rw [isRead] at planned
      refine (unread_settles planned).congr ⟨?_, fun escapes => ?_⟩
      · rintro rfl
        obtain ⟨fits, deep⟩ := receiveMessage_escape_iff.mp isRead
        exact .deep fits deep
      · cases escapes with
        | deep fits deep =>
            exact Except.error.inj (isRead.symm.trans (receiveMessage_escape_iff.mpr ⟨fits, deep⟩))
        | message same => cases isRead.symm.trans same
  | ok message =>
      rw [isRead] at planned
      refine (message_settles planned).congr ⟨.message isRead, fun escapes => ?_⟩
      cases escapes with
      | deep fits deep => cases isRead.symm.trans (receiveMessage_escape_iff.mpr ⟨fits, deep⟩)
      | message same escapes =>
          cases isRead.symm.trans same
          exact escapes

/-- **A frame ends the handler without a diagnostic exactly if it escapes.**  In every
reachable state a handler that waits for a frame takes any text.  It is finished at once for
the texts of `TextEscapes` only; after every other text it goes on, or closes the connection
with a diagnostic under a code of `RELAY_ERROR_CODES`. -/
theorem frame_contract (env : Env) (reached : (system env).Reach Machine.anyStep sys)
    {phase : Phase} (here : sys.phases.get? k = some phase) (awaits : phase.awaits = true)
    (text : ScalarText) (now : Int) :
    ∃ sys', sys.step env (.receive k (receiveMessage env text) now) = some sys' ∧
      ((TextEscapes env sys k text now ∧ sys'.phases.get? k = some .finished) ∨
        (¬ TextEscapes env sys k text now ∧
          ∃ phase', sys'.phases.get? k = some phase' ∧ phase'.Contracted)) := by
  have linked := linked_of_reach reached
  obtain ⟨plan, received⟩ := receives_isSome linked here awaits (receiveMessage env text) now
  obtain ⟨sys', stepped⟩ := Option.isSome_iff_exists.mp (receive_answered linked received)
  obtain ⟨plan', planned, _, phases, _⟩ := step_plan stepped
  cases received.symm.trans planned
  exact ⟨sys', stepped, phases ▸ receives_settles received⟩

def isServing (sys : System) (k : ConnId) : Bool :=
  match sys.phases.get? k with
  | some .serving => true
  | _ => false

/-- A heartbeat whose epoch is a text. -/
def textBeat : ScalarText where
  text := (Json.obj [("v", .int 1), ("type", .str "heartbeat"), ("context_epoch", .str "1")]).dumps
  isPaired := by decide +kernel

/-- A heartbeat that cannot be compared with the stored epoch ends the sample handler. -/
theorem frame_contract_heartbeat : ∃ sys sys' : System,
    sys.phases.get? 0 = some .serving ∧
    TextEscapes Sample.env sys 0 textBeat (Sample.second 10) ∧
    sys.step Sample.env (.receive 0 (receiveMessage Sample.env textBeat) (Sample.second 10)) =
      some sys' ∧
    sys'.phases.get? 0 = some .finished := by
  obtain ⟨sys, reached, holds⟩ := Machine.Reach.exists_of_exec (M := system Sample.env) .init
    Sample.serving (fun sys => sys.isServing 0 &&
      ((sys.step Sample.env (.receive 0 (receiveMessage Sample.env textBeat)
        (Sample.second 10))).any (isFinished · 0))) (by decide +kernel)
  simp only [Bool.and_eq_true] at holds
  obtain ⟨serves, ends⟩ := holds
  unfold isServing at serves
  split at serves
  · rename_i serving
    obtain ⟨sys', stepped, cases_⟩ :=
      frame_contract Sample.env reached serving rfl textBeat (Sample.second 10)
    rw [stepped] at ends
    have finished := isFinished_iff.mp ends
    rcases cases_ with ⟨escapes, _⟩ | ⟨_, phase, here, contracted⟩
    · exact ⟨sys, sys', serving, escapes, stepped, finished⟩
    · cases here.symm.trans finished
      exact contracted.elim
  · cases serves

/-! ## How handlers end -/

/-- Every diagnostic that a handler is about to send bears a code of `RELAY_ERROR_CODES`. -/
def Diagnosed (sys : System) : Prop :=
  ∀ k diagnostic, sys.phases.get? k = some (.closing diagnostic) → Diagnoses diagnostic

/-- How the handler of connection `k` ended at a moment of a run. -/
inductive Ended (env : Env) (k : ConnId) (m : Machine.Moment System Event) : Prop
  /-- The connection has been closed after a diagnostic. -/
  | diagnosed {diagnostic : Json} {now : Int} (event : m.event = .finish k now)
      (closing : m.before.phases.get? k = some (.closing diagnostic))
      (diagnoses : Diagnoses diagnostic)
  | gone {now : Int} (event : m.event = .disconnect k now)
  /-- The connection is not secure, and has been closed. -/
  | refused {upgrade : Upgrade} (event : m.event = .rejectUpgrade k upgrade)
      (insecure : isSecureConnection env upgrade = false)
  /-- A frame without a text has arrived, or one that is nested too deep to be read. -/
  | unread {now : Int} (event : m.event = .receive k (.error .escape) now)
  | escaped {message : Json} {now : Int} (event : m.event = .receive k (.ok message) now)
      (escapes : FrameEscapes env m.before k message now)
  /-- The id of a new challenge is taken. -/
  | reused {challenge : Store.Challenge} {now : Int}
      (asked : m.event.challenge? = some (k, challenge, now))
      (taken : m.before.store.createChallenge env challenge now = none)

/-- What one event does to the phase of its handler. -/
inductive PhaseMoves (env : Env) (sys : System) (e : Event) (k : ConnId) (plan : Plan) : Prop
  | stays (same : plan.phases.get? k = sys.phases.get? k)
  | goesOn {phase : Phase} (here : plan.phases.get? k = some phase) (contracted : phase.Contracted)
  | ends (finished : plan.phases.get? k = some .finished)
      (ended : Diagnosed sys → ∀ sys', Ended env k ⟨sys, e, sys'⟩)

theorem challenges_moves {challenge : Store.Challenge} {next : Store.Challenge → Phase}
    {now : Int} (asked : e.challenge? = some (k, challenge, now))
    (contracted : (next challenge).Contracted) :
    PhaseMoves env sys e k (sys.challenges env k challenge next now) := by
  unfold challenges
  split
  · rename_i taken
    exact .ends teardown_finished fun _ _ => .reused asked taken
  · exact .goesOn (Dict.get?_insert_self _ _ _) contracted

theorem raises_moves {store : Store} {stage : HandshakeStage} {x : AgentCode} {now : Int} :
    PhaseMoves env sys e k (sys.raises env store k stage (.agent x) now) :=
  .goesOn (Dict.get?_insert_self _ _ _) (diagnoses_relayDiagnostic _ _)

theorem receives_moves {frame : Except Exc Json} {now : Int} {plan : Plan}
    (planned : sys.receives env k frame now = some plan) :
    PhaseMoves env sys (.receive k frame now) k plan := by
  cases frame with
  | error x =>
      rcases unread_settles planned with ⟨rfl, finished⟩ | ⟨_, phase, here, contracted⟩
      · exact .ends finished fun _ _ => .unread rfl
      · exact .goesOn here contracted
  | ok message =>
      rcases message_settles planned with ⟨escapes, finished⟩ | ⟨_, phase, here, contracted⟩
      · exact .ends finished fun _ _ => .escaped rfl escapes
      · exact .goesOn here contracted

theorem plan_moves {plan : Plan} (planned : sys.plan env e = some plan) (own : e.conn? = some k) :
    PhaseMoves env sys e k plan := by
  cases e with
  | rejectUpgrade k₀ upgrade =>
      cases own
      obtain ⟨_, insecure, rfl⟩ := rejectsUpgrade_finishes planned
      exact .ends (Dict.get?_insert_self _ _ _) fun _ _ => .refused rfl insecure
  | connect k₀ challenge now =>
      cases own
      have planned : sys.connects env k challenge now = some plan := planned
      unfold connects at planned
      split at planned
      · cases planned
      · cases planned
        exact challenges_moves rfl trivial
  | receive k₀ frame now =>
      cases own
      exact receives_moves planned
  | handshakeTimeout k₀ now =>
      cases own
      have planned : sys.timesOut env k now = some plan := planned
      unfold timesOut at planned
      split at planned
      · cases planned
        exact raises_moves
      · cases planned
        exact raises_moves
      · cases planned
  | rechallenge k₀ challenge now =>
      cases own
      have planned : sys.rechallenges env k challenge now = some plan := planned
      unfold rechallenges at planned
      split at planned
      · cases planned
        exact challenges_moves rfl trivial
      · cases planned
  | ready k₀ =>
      cases own
      have planned : sys.readies env k none = some plan := planned
      unfold readies at planned
      split at planned
      · cases planned
        exact .goesOn (Dict.get?_insert_self _ _ _) trivial
      · cases planned
  | readyFailed k₀ now =>
      cases own
      have planned : sys.readies env k (some now) = some plan := planned
      unfold readies at planned
      split at planned
      · cases planned
        exact raises_moves
      · cases planned
  | finish k₀ now =>
      cases own
      have planned : sys.ends env k true now = some plan := planned
      have is := ends_teardown planned
      unfold ends at planned
      split at planned
      · cases planned
      · rename_i diagnostic closing
        exact .ends (is ▸ teardown_finished) fun diagnosed _ =>
          .diagnosed rfl closing (diagnosed k diagnostic closing)
      · cases planned
  | disconnect k₀ now =>
      cases own
      exact .ends (ends_teardown planned ▸ teardown_finished) fun _ _ => .gone rfl
  | _ => cases own

/-- **A step on the phase of any handler.** -/
theorem step_moves (stepped : sys.step env e = some sys') (k : ConnId) :
    ∃ plan, sys'.phases = plan.phases ∧ PhaseMoves env sys e k plan := by
  obtain ⟨plan, planned, _, phases, _⟩ := step_plan stepped
  refine ⟨plan, phases, ?_⟩
  cases own : e.conn? with
  | none => exact .stays (by rw [(plan_unconnected planned own).phases])
  | some k₀ =>
      by_cases same : k = k₀
      · subst same
        exact plan_moves planned own
      · exact .stays ((plan_confined planned own).phases k same)

theorem Diagnosed.step (diagnosed : Diagnosed sys) (stepped : sys.step env e = some sys') :
    Diagnosed sys' := by
  intro k diagnostic closing
  obtain ⟨plan, phases, moves⟩ := step_moves stepped k
  rw [phases] at closing
  cases moves with
  | stays same => exact diagnosed k diagnostic (same ▸ closing)
  | goesOn here contracted =>
      cases here.symm.trans closing
      exact contracted
  | ends finished ended => cases finished.symm.trans closing

theorem diagnosed_of_reach (reached : (system env).Reach Machine.anyStep sys) : Diagnosed sys :=
  reached.invariant (fun _ _ closing => by cases closing)
    fun _ diagnosed _ stepped => diagnosed.step stepped

/-- **How the handlers of a run end.**  A handler that has finished has closed its connection
after a diagnostic under a code of `RELAY_ERROR_CODES`, or its peer was gone, or its upgrade
was not secure, or its last frame escaped, or the id of its challenge was taken. -/
theorem handlers_end (env : Env) {past : History} (run : (system env).Run past sys)
    (finished : sys.phases.get? k = some .finished) :
    ∃ before m after, past = before ++ m :: after ∧ Ended env k m ∧
      m.before.phases.get? k ≠ some .finished ∧ m.after.phases.get? k = some .finished := by
  refine run.origin (P := fun s k => s.phases.get? k = some .finished)
    (Q := fun _ m k => Ended env k m ∧ m.before.phases.get? k ≠ some .finished ∧
      m.after.phases.get? k = some .finished) (fun _ ended => by cases ended) ?_ finished
  intro past s t e k run stepped finished
  by_cases was : s.phases.get? k = some .finished
  · exact Or.inl was
  · refine Or.inr ⟨?_, was, finished⟩
    obtain ⟨plan, phases, moves⟩ := step_moves stepped k
    cases moves with
    | stays same => exact absurd (same ▸ phases ▸ finished) was
    | goesOn here contracted =>
        cases here.symm.trans (phases ▸ finished)
        exact contracted.elim
    | ends _ ended => exact ended (diagnosed_of_reach run.reach) t

/-- The sample handler ends with such a heartbeat. -/
theorem handlers_end_heartbeat : ∃ (past : History) (sys : System)
    (m : Machine.Moment System Event), (system Sample.env).Run past sys ∧ m ∈ past ∧
      Ended Sample.env 0 m ∧ m.after.phases.get? 0 = some .finished := by
  have holds : ((system Sample.env).exec System.init (Sample.serving ++
      [.receive 0 (receiveMessage Sample.env textBeat) (Sample.second 10)])).any
        (isFinished · 0) = true := by
    decide +kernel
  obtain ⟨sys, ended, finished⟩ := (Option.any_eq_true _ _).mp holds
  have run := Machine.Run.of_exec (M := system Sample.env) .init ended
  obtain ⟨before, m, after, is, ended, _, finished⟩ :=
    handlers_end Sample.env run (isFinished_iff.mp finished)
  exact ⟨_, sys, m, run, is ▸ List.mem_append_right before List.mem_cons_self, ended, finished⟩

end System

end RemoteAgent
