import RemoteAgent.Provenance

/-!
# Enrollment

`enrollment_authentic`: in every run, a device row was created by one enrollment frame.
Its token was issued for that connector, and not used up or expired; its challenge was
issued by the server, and not used up or expired; and the row's key verifies the
signature over the payload that binds them.  No step changes the key or the profile of a
row afterwards, no token enrolls twice, and no challenge is accepted twice.
-/

open Wire Storage Transition

namespace RemoteAgent

open Dispatcher (field)

/-! ## Keys are texts -/

/-- A key that verifies a signature is the text of 32 bytes in base64, which takes 43
characters; `repr` of a float takes no more than 24. -/
structure KeyTexts (env : Env) : Prop where
  verified : ∀ key payload signature, env.ed25519 key payload signature = true → 43 ≤ key.length
  float : ∀ f, (env.floats.repr f).length ≤ 24

theorem length_trimBoth (p : Char → Bool) (cs : List Char) :
    (Py.trimBoth p cs).length ≤ cs.length := by
  unfold Py.trimBoth
  rw [List.length_reverse]
  calc ((cs.dropWhile p).reverse.dropWhile p).length
      ≤ (cs.dropWhile p).reverse.length := (List.dropWhile_sublist p).length_le
    _ = (cs.dropWhile p).length := List.length_reverse
    _ ≤ cs.length := (List.dropWhile_sublist p).length_le

theorem length_strip (s : String) : (Py.strip s).length ≤ s.length := by
  unfold Py.strip
  rw [String.length_ofList, ← String.length_toList]
  exact length_trimBoth _ _

/-- **The key in the row is the key that was verified.**  A key of another type than a
text either is too short or is stored as the text it is verified as. -/
theorem verifyEd25519_column {env : Env} (keys : KeyTexts env) {publicKey : Json}
    {payload : String} {signature : Json} {stored : String}
    (verified : verifyEd25519 env publicKey payload signature = true)
    (column : env.textColumn publicKey = some stored) :
    verifyEd25519 env (.str stored) payload signature = true := by
  have long : 43 ≤ (env.text publicKey).length :=
    (keys.verified _ _ _ verified).trans (length_strip _)
  have same : env.text publicKey = env.text (.str stored) := by
    rw [text_str]
    unfold Env.text Py.strOrEmpty at long ⊢
    split at long
    · rename_i truthy
      rw [if_pos truthy]
      cases publicKey with
      | null => cases column
      | bool b =>
          cases b with
          | false => exact absurd (show 43 ≤ "False".length from long) (by decide)
          | true => exact absurd (show 43 ≤ "True".length from long) (by decide)
      | int i =>
          have column : (if isSqlInteger i then some (String.ofList (intText i)) else none) =
            some stored := column
          split at column
          · exact Option.some.inj column
          · cases column
      | float f =>
          have short := keys.float f
          simp only [Py.str] at long
          omega
      | str s => exact Option.some.inj column
      | arr xs => cases column
      | obj fs => cases column
    · simp at long
  unfold verifyEd25519 at verified ⊢
  rwa [← same]

namespace System

variable {env : Env} {sys sys' : System} {e : Event} {past : History}

/-! ## The enrollment of a row -/

/-- At this moment a frame enrolls a device. -/
structure Enrolls (env : Env) (m : Machine.Moment System Event) (message : Json) (now : Int)
    (connectorId : String) : Prop where
  frame : ∃ k challenge, m.event = .receive k (.ok message) now ∧
    m.before.phases.get? k = some (.challenging challenge) ∧ hasType message "enroll" = true
  completed : m.before.store.handleEnroll env message now = (m.after.store, .ok connectorId)

/-- What is behind an enrollment: the token that was issued for the connector, the
challenge that was issued, and the signature; `past` is what happened before. -/
structure Authentic (env : Env) (past : History) (m : Machine.Moment System Event)
    (message : Json) (now : Int) (connectorId publicKey : String) (profile : CapabilityProfile) :
    Prop where
  token : ∃ m₀ ∈ past, ∃ connector granted label seconds issuedAt name,
    m₀.event = .issueToken (env.text (field message "enrollment_token")) connector granted label
      seconds issuedAt ∧
    env.textColumn connector = some connectorId ∧
    env.textColumn granted = some name ∧ CapabilityProfile.ofName? name = some profile ∧
    asTimestamp now < asTimestamp (plusSeconds issuedAt seconds)
  tokenSpent : m.Spends TokenSpent (env.sha256 (env.text (field message "enrollment_token")))
  challenge : ∃ m₁ ∈ past, ∃ k challenge issuedAt, Challenges env m₁ k challenge issuedAt ∧
    env.text (field message "challenge_id") = challenge.challengeId ∧
    env.text (field message "challenge") = challenge.challenge ∧
    asTimestamp now < asTimestamp (plusSeconds issuedAt Store.challengeSeconds)
  challengeSpent : m.Spends ChallengeSpent (env.text (field message "challenge_id"))
  signed : ∃ payload, enrollmentPayload env (field message "challenge_id")
    (field message "challenge") (.str connectorId) (field message "enrollment_token")
    (field message "public_key") = .ok payload ∧
    verifyEd25519 env (.str publicKey) payload (field message "signature") = true

/-- Behind an open token is the moment that issued it. -/
theorem tokenOpen_issued (collisionFree : Function.Injective env.sha256)
    (run : (system env).Run past sys) {rawToken : Json} {connectorId : String} {now : Int}
    {row : TokenRow} (isOpen : Store.TokenOpen env sys.store rawToken connectorId now row) :
    ∃ m₀ ∈ past, ∃ connector granted label seconds issuedAt,
      m₀.event = .issueToken (env.text rawToken) connector granted label seconds issuedAt ∧
      env.textColumn connector = some connectorId ∧
      env.textColumn granted = some row.capabilityProfile ∧
      asTimestamp now < asTimestamp (plusSeconds issuedAt seconds) := by
  obtain ⟨m₀, mem, issued⟩ := token_issued run isOpen.found
  obtain ⟨raw, connector, granted, label, seconds, issuedAt, event, hash, isConnector, isGranted,
    expires, _⟩ := issued.issues
  have key : row.tokenHash = env.sha256 (env.text rawToken) := Table.key_of_find? isOpen.found
  have same : raw = env.text rawToken := collisionFree (hash.symm.trans key)
  subst same
  refine ⟨m₀, mem, connector, granted, label, seconds, issuedAt, event, ?_, isGranted, ?_⟩
  · rw [← isOpen.connector]
    exact isConnector
  · rw [← expires]
    exact isOpen.unexpired

/-- Behind an open challenge is the moment that issued it. -/
theorem challengeOpen_issued (collisionFree : Function.Injective env.sha256)
    (run : (system env).Run past sys) {challengeId value : Json} {now : Int} {row : ChallengeRow}
    (isOpen : Store.ChallengeOpen env sys.store challengeId value now row) :
    ∃ m₁ ∈ past, ∃ k challenge issuedAt, Challenges env m₁ k challenge issuedAt ∧
      env.text challengeId = challenge.challengeId ∧ env.text value = challenge.challenge ∧
      asTimestamp now < asTimestamp (plusSeconds issuedAt Store.challengeSeconds) := by
  obtain ⟨m₁, mem, k, challenge, issuedAt, issued, same⟩ := challenge_issued run isOpen.found
  have id : row.challengeId = challenge.challengeId := congrArg ChallengeRow.challengeId same
  have hash : row.challengeHash = env.sha256 challenge.challenge :=
    congrArg ChallengeRow.challengeHash same
  have expires : row.expiresAt = asTimestamp (plusSeconds issuedAt Store.challengeSeconds) :=
    congrArg ChallengeRow.expiresAt same
  exact ⟨m₁, mem, k, challenge, issuedAt, issued,
    (Table.key_of_find? isOpen.found).symm.trans id,
    collisionFree (isOpen.hash.symm.trans hash), expires ▸ isOpen.unexpired⟩

/-- **Every operation but an enrollment only ages the device rows**; an enrollment also
adds its own. -/
theorem step_devices (stepped : sys.step env e = some sys') {new : DeviceRow}
    (mem : new ∈ sys'.store.devices) :
    (∃ old ∈ sys.store.devices, Store.DeviceFrom old new) ∨
      ∃ message now token row, Enrolls env ⟨sys, e, sys'⟩ message now new.connectorId ∧
        sys.store.getDevice new.connectorId = none ∧
        Store.TokenOpen env sys.store (field message "enrollment_token") new.connectorId now
          token ∧
        Store.ChallengeOpen env sys.store (field message "challenge_id")
          (field message "challenge") now row ∧
        Store.EnrolledAs env
          ((sys.store.useToken (env.sha256 (env.text (field message "enrollment_token")))
            now).useChallenge (env.text (field message "challenge_id")) now) sys'.store token
          (field message "challenge_id") (field message "challenge") new.connectorId
          (field message "enrollment_token") (field message "public_key")
          (field message "signature") new := by
  obtain ⟨mid, performs, closes⟩ := step_operates stepped
  rw [closes.same_tables.1] at mem
  cases performs with
  | nothing => exact Or.inl ⟨new, mem, .refl new⟩
  | issues issued => exact Or.inl ((Store.issueToken_aged issued).devices new mem)
  | revokes revoked => exact Or.inl ((Store.revokeDevice_aged revoked).devices new mem)
  | deletes deleted => exact Or.inl ((Store.deleteRevokedDevice_aged deleted).devices new mem)
  | renames renamed => exact Or.inl ((Store.rename_aged renamed).devices new mem)
  | sweeps free swept => exact Or.inl ⟨new, sweeps_devices swept ▸ mem, .refl new⟩
  | challenges asked created =>
      exact Or.inl ((Store.createChallenge_aged created).devices new mem)
  | authenticates here waits done =>
      exact Or.inl ⟨new, (Store.authenticateSession_steps done).devices ▸ mem, .refl new⟩
  | beats here done => exact Or.inl ((handleHeartbeat_aged done).devices new mem)
  | @enrolls k challenge message now store result phase type done =>
      cases result with
      | error x =>
          rcases handleEnroll_cases done with ⟨_, _, aged⟩ | ⟨_, isOk, _⟩
          · exact Or.inl (aged.devices new mem)
          · cases isOk
      | ok connectorId =>
          have completed := step_enrolled stepped rfl phase type (congrArg Prod.snd done)
          obtain rfl : mid = sys'.store := congrArg Prod.fst (done.symm.trans completed)
          obtain ⟨token, row, device, tokenOpen, challengeOpen, as⟩ :=
            (Store.handleEnroll_steps done).ok
          have stored := as.stored
          rw [stored] at mem
          rcases Table.mem_insertOrIgnore.mp mem with old | ⟨rfl, _⟩
          · exact Or.inl ⟨new, old, .refl new⟩
          · obtain rfl := as.connector
            exact Or.inr ⟨message, now, token, row,
              ⟨⟨k, challenge, rfl, phase, type⟩, completed⟩, as.absent, tokenOpen,
              challengeOpen, as⟩

theorem Enrolls.spends {m : Machine.Moment System Event} {message : Json} {now : Int}
    {connectorId : String} (enrolls : Enrolls env m message now connectorId) :
    m.Spends TokenSpent (env.sha256 (env.text (field message "enrollment_token"))) := by
  obtain ⟨token, row, device, tokenOpen, _, as⟩ := (Store.handleEnroll_steps enrolls.completed).ok
  refine spends_token tokenOpen ?_
  rw [as.stored]
  rfl

/-- **Every device row was enrolled at a moment of the run.** -/
theorem device_enrolled (collisionFree : Function.Injective env.sha256) (keys : KeyTexts env)
    (run : (system env).Run past sys) {row : DeviceRow} (mem : row ∈ sys.store.devices) :
    ∃ before m after message now, past = before ++ m :: after ∧
      Enrolls env m message now row.connectorId ∧
      Authentic env before m message now row.connectorId row.publicKey
        row.capabilityProfile := by
  have origin := run.origin (x := (row.connectorId, row.publicKey, row.capabilityProfile))
    (P := fun sys x => ∃ row ∈ sys.store.devices,
      (row.connectorId, row.publicKey, row.capabilityProfile) = x)
    (Q := fun before m x => ∃ message now, Enrolls env m message now x.1 ∧
      Authentic env before m message now x.1 x.2.1 x.2.2)
    (fun _ none_ => by obtain ⟨_, mem, _⟩ := none_; cases mem) ?_ ⟨row, mem, rfl⟩
  · obtain ⟨before, m, after, split, message, now, enrolls, authentic⟩ := origin
    exact ⟨before, m, after, message, now, split, enrolls, authentic⟩
  · rintro before s t e _ runBefore stepped ⟨new, memNew, rfl⟩
    rcases step_devices stepped memNew with ⟨old, memOld, from_⟩ |
      ⟨message, now, token, challenge, enrolls, _, tokenOpen, challengeOpen, as⟩
    · refine Or.inl ⟨old, memOld, ?_⟩
      rw [from_.connectorId, from_.publicKey, from_.capabilityProfile]
    · refine Or.inr ⟨message, now, enrolls, ?_⟩
      obtain ⟨m₀, mem₀, connector, granted, label, seconds, issuedAt, event, isConnector,
        isGranted, unexpired⟩ := tokenOpen_issued collisionFree runBefore tokenOpen
      obtain ⟨payload, isPayload, verified⟩ := as.signed
      refine ⟨⟨m₀, mem₀, connector, granted, label, seconds, issuedAt, _, event, isConnector,
        isGranted, as.profile, unexpired⟩, enrolls.spends,
        challengeOpen_issued collisionFree runBefore challengeOpen, ?_,
        payload, isPayload, verifyEd25519_column keys verified as.publicKey⟩
      refine spends_challenge challengeOpen ?_
      rw [as.stored]
      rfl

/-- A step changes neither the key nor the profile of a row. -/
theorem device_kept (stepped : sys.step env e = some sys') {old new : DeviceRow}
    (memOld : old ∈ sys.store.devices) (memNew : new ∈ sys'.store.devices)
    (same : old.connectorId = new.connectorId) :
    new.publicKey = old.publicKey ∧ new.capabilityProfile = old.capabilityProfile := by
  rcases step_devices stepped memNew with ⟨was, memWas, from_⟩ | ⟨_, _, _, _, _, absent, _⟩
  · obtain rfl := Table.eq_of_key memOld memWas (same.trans from_.connectorId)
    exact ⟨from_.publicKey, from_.capabilityProfile⟩
  · exact absurd same (Table.find?_eq_none_iff.mp absent old memOld)

/-- At this moment a frame of the handshake is accepted. -/
def Accepts (env : Env) (m : Machine.Moment System Event) (message : Json) : Prop :=
  ∃ k now, m.event = .receive k (.ok message) now ∧ m.before.accepts env k message now = true

/-- What holds of the enrollments of a run. -/
structure EnrollmentsSound (env : Env) (past : History) (sys : System) : Prop where
  authentic : ∀ row ∈ sys.store.devices, ∃ before m after message now,
    past = before ++ m :: after ∧ Enrolls env m message now row.connectorId ∧
    Authentic env before m message now row.connectorId row.publicKey row.capabilityProfile
  kept : ∀ m ∈ past, ∀ old ∈ m.before.store.devices, ∀ new ∈ m.after.store.devices,
    old.connectorId = new.connectorId →
    new.publicKey = old.publicKey ∧ new.capabilityProfile = old.capabilityProfile
  tokenOnce : past.Pairwise fun m m' => ∀ message now connectorId message' now' connectorId',
    Enrolls env m message now connectorId → Enrolls env m' message' now' connectorId' →
    env.text (field message "enrollment_token") ≠ env.text (field message' "enrollment_token")
  challengeOnce : past.Pairwise fun m m' => ∀ message message', Accepts env m message →
    Accepts env m' message' →
    env.text (field message "challenge_id") ≠ env.text (field message' "challenge_id")

/-- **Enrollment authenticity and single use.**  In every run, every device row was
created by one enrollment with a token issued for its connector, a challenge of the
server and a signature by its key; its key and profile never change; no token enrolls
twice and no challenge is accepted twice. -/
theorem enrollment_authentic {env : Env} (collisionFree : Function.Injective env.sha256)
    (keys : KeyTexts env) {past : History} {sys : System} (run : (system env).Run past sys) :
    EnrollmentsSound env past sys where
  authentic := fun _ mem => device_enrolled collisionFree keys run mem
  kept := fun _ mem _ memOld _ memNew same =>
    device_kept (run.step_of_mem mem) memOld memNew same
  tokenOnce := by
    refine (tokens_spent_once run).imp fun {m m'} once => ?_
    intro message now connectorId message' now' connectorId' enrolls enrolls' same
    refine once _ enrolls.spends ?_
    rw [same]
    exact enrolls'.spends
  challengeOnce := by
    refine (challenges_spent_once run).imp_of_mem fun {m m'} mem mem' once => ?_
    rintro message message' ⟨k, now, event, accepted⟩ ⟨k', now', event', accepted'⟩ same
    refine once _ (accepts_spends (run.step_of_mem mem) event accepted) ?_
    rw [same]
    exact accepts_spends (run.step_of_mem mem') event' accepted'

/-- The sample device, where only its own key verifies and no text of a float is long. -/
theorem enrollment_authentic_serving :
    ∃ (env : Env) (past : History) (sys : System) (row : DeviceRow), row ∈ sys.store.devices ∧
      (system env).Run past sys ∧ EnrollmentsSound env past sys := by
  let env : Env := { Sample.env with
    ed25519 := fun key _ _ => decide (key = Sample.publicKey)
    floats := { Sample.env.floats with repr := fun f => String.ofList (f.text.take 24) } }
  have keys : KeyTexts env := by
    constructor
    · intro key payload signature verified
      rw [of_decide_eq_true verified]
      decide
    · intro f
      show (String.ofList (f.text.take 24)).length ≤ 24
      rw [String.length_ofList]
      exact List.length_take_le 24 f.text
  have run : (system env).Run [] init := .init
  have holds : ((system env).exec init Sample.serving).any
      (fun sys => !sys.store.devices.rows.isEmpty) = true := by decide +kernel
  obtain ⟨sys, ended, enrolled⟩ := (Option.any_eq_true _ _).mp holds
  have served := run.of_exec ended
  cases rows : sys.store.devices.rows with
  | nil =>
      rw [rows] at enrolled
      cases enrolled
  | cons row rest =>
      have mem : row ∈ sys.store.devices.rows := rows ▸ List.mem_cons_self
      exact ⟨env, _, sys, row, mem, served,
        enrollment_authentic Sample.sha256_injective keys served⟩

end System

end RemoteAgent
