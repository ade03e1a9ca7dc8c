import RemoteAgent.Enrollment

/-!
# Redeeming a token

An enrollment token is stored with the texts that the operator gave; an enrollment compares
them with the normal form of its connector id, and looks the profile up.
`issued_redeemable_iff`: a token that was issued can be redeemed, for the profile that was
asked for, exactly when the connector id was given in normal form and the profile is one of
the three.

* `token_kept`: an issued token keeps what it was issued for.
* `unknownProfile_consumes`: with an unknown profile, an enrollment that is correct otherwise
  fails, after its token and its challenge have been consumed.
-/

open Wire Storage Transition

namespace RemoteAgent

namespace Store

variable {env : Env} {s s' : Store}

/-- An enrollment that gets through is for the normal form of its connector id. -/
theorem completeEnrollment_parsed {challengeId challenge id token publicKey signature
    platform : Json} {now : Int} {name : String}
    (done : s.completeEnrollment env challengeId challenge id token publicKey signature platform
      now = (s', .ok name)) : parseConnectorId env id = .ok name := by
  unfold completeEnrollment at done
  split at done
  · cases done
  · rename_i parsed
    split at done
    · cases done
    · split at done
      · cases done
      · cases done
      · cases done
      · cases done
      · split at done
        · cases done
        · split at done
          · cases done
          · cases done
            exact parsed

/-- **An enrollment with an open token and an open challenge**, a correct signature and a
profile that is known gets through. -/
theorem completeEnrollment_ok {challengeId challenge id platform signature : Json}
    {rawToken publicKey name checked payload : String} {token : TokenRow} {row : ChallengeRow}
    {profile : CapabilityProfile} {now : Int}
    (parsed : parseConnectorId env id = .ok name) (platformOk : validatePlatform env platform = .ok checked)
    (tokenOpen : TokenOpen env s (.str rawToken) name now token)
    (challengeOpen : ChallengeOpen env s challengeId challenge now row)
    (isPayload : enrollmentPayload env challengeId challenge (.str name) (.str rawToken)
      (.str publicKey) = .ok payload)
    (signed : verifyEd25519 env (.str publicKey) payload signature = true)
    (absent : s.getDevice name = none)
    (known : CapabilityProfile.ofName? token.capabilityProfile = some profile) :
    ∃ s' device, s.completeEnrollment env challengeId challenge id (.str rawToken) (.str publicKey)
        signature platform now = (s', .ok name) ∧
      s'.getDevice name = some device ∧ device.capabilityProfile = profile := by
  have consumed := consumeEnrollmentToken_accepted.mpr ⟨tokenOpen, rfl⟩
  have stillOpen : ChallengeOpen env (s.useToken (env.sha256 (env.text (.str rawToken))) now)
      challengeId challenge now row := challengeOpen_useToken.mpr challengeOpen
  have answered := consumeChallenge_eq_some.mpr ⟨row, stillOpen, rfl⟩
  have absent : ((s.useToken (env.sha256 (env.text (.str rawToken))) now).useChallenge
      (env.text challengeId) now).getDevice name = none := absent
  unfold completeEnrollment
  simp only [parsed, platformOk, consumed, answered]
  unfold enrollVerified enrollDevice
  simp only [isPayload, signed, absent, known, Env.textColumn, Bool.not_true, Bool.false_eq_true,
    ↓reduceIte]
  have added : ∀ (stored : Table DeviceRow.connectorId) (device : DeviceRow),
      stored.find? name = none → device.connectorId = name →
      (stored.insertOrIgnore device).find? name = some device := by
    intro stored device none_ same
    rw [Table.find?_insertOrIgnore, none_, Option.none_or, if_pos same]
  exact ⟨_, _, rfl, added _ _ absent rfl, rfl⟩

end Store

namespace System

variable {env : Env} {sys sys' : System} {e : Event} {past : History}

/-! ## From the issue to the enrollment -/

/-- **An issued token keeps what it was issued for.** -/
theorem token_kept (run : (system env).Run past sys) {m : Machine.Moment System Event}
    (mem : m ∈ past) {x : String} {row : TokenRow}
    (found : m.after.store.tokens.find? x = some row) :
    ∃ row', sys.store.tokens.find? x = some row' ∧ asIssued row' = asIssued row := by
  have stays := run.spent (P := fun sys (x : String × TokenRow) =>
    ∃ row', sys.store.tokens.find? x.1 = some row' ∧ asIssued row' = x.2) ?_ m mem (x, asIssued row)
    ⟨row, found, rfl⟩
  · exact stays
  · rintro s t e ⟨x, issued⟩ stepped ⟨row', was, same⟩
    obtain ⟨row'', now_, kept, _⟩ := (step_tickets stepped).1.kept was
    exact ⟨row'', now_, kept.trans same⟩

/-- A token that `issue_enrollment_token` returned. -/
structure Returned (env : Env) (m : Machine.Moment System Event) (rawToken : String)
    (connectorId capabilityProfile : Json) (seconds issuedAt : Int) : Prop where
  issued : ∃ displayLabel,
    m.event = .issueToken rawToken connectorId capabilityProfile displayLabel seconds issuedAt ∧
    ∃ s, m.before.store.issueToken env rawToken connectorId capabilityProfile displayLabel seconds
      issuedAt = .ok s

/-- The row of a token that was returned, while nobody has used it. -/
theorem Returned.row (run : (system env).Run past sys) {m : Machine.Moment System Event}
    (mem : m ∈ past) {rawToken : String} {connectorId capabilityProfile : Json}
    {seconds issuedAt : Int}
    (returned : Returned env m rawToken connectorId capabilityProfile seconds issuedAt)
    (unspent : ¬ TokenSpent sys (env.sha256 rawToken)) :
    ∃ row, sys.store.tokens.find? (env.sha256 rawToken) = some row ∧
      env.textColumn connectorId = some row.connectorId ∧
      env.textColumn capabilityProfile = some row.capabilityProfile ∧
      row.expiresAt = asTimestamp (plusSeconds issuedAt seconds) ∧ row.consumedAt = none := by
  obtain ⟨label, event, s, done⟩ := returned.issued
  obtain ⟨_, row, issues, inserted⟩ := issueToken_inserts done
  obtain ⟨plan, planned, stored, _⟩ := step_plan (run.step_of_mem mem)
  have after : m.after.store = s := by
    rw [event] at planned
    obtain rfl := Option.some.inj planned
    rw [stored]
    show m.before.orSame _ = s
    rw [done]
    rfl
  obtain ⟨_, _, _, _, _, _, same, hash, isConnector, isProfile, expires, _⟩ := issues
  cases same
  have found : m.after.store.tokens.find? (env.sha256 rawToken) = some row := by
    rw [after, (Table.find?_insert? inserted).2, if_pos hash]
  obtain ⟨row', found', kept⟩ := token_kept run mem found
  have connector : (asIssued row').connectorId = (asIssued row).connectorId := by rw [kept]
  have profile : (asIssued row').capabilityProfile = (asIssued row).capabilityProfile := by rw [kept]
  have expiry : (asIssued row').expiresAt = (asIssued row).expiresAt := by rw [kept]
  have connector : row'.connectorId = row.connectorId := connector
  have profile : row'.capabilityProfile = row.capabilityProfile := profile
  rw [← connector] at isConnector
  rw [← profile] at isProfile
  refine ⟨row', found', isConnector, isProfile, expiry.trans expires, ?_⟩
  cases consumed : row'.consumedAt with
  | none => rfl
  | some t => exact absurd ⟨row', found', by rw [consumed]; rfl⟩ unspent

/-! ## Redeeming -/

/-- An enrollment that is correct but for what the token was issued with: the device presents
the connector id that the operator named, in any letter case, an open challenge, a platform
and a correct signature, and the connector is not enrolled. -/
structure Presents (env : Env) (sys : System) (named : Json) (rawToken : String)
    (challengeId challenge id : Json) (publicKey : String) (signature platform : Json) (now : Int) :
    Prop where
  same : ∀ text, env.textColumn named = some text →
    Py.lower (Py.strip (env.text id)) = Py.lower (Py.strip text)
  challengeOpen : ∃ row, Store.ChallengeOpen env sys.store challengeId challenge now row
  platformOk : ∃ checked, validatePlatform env platform = .ok checked
  signed : ∀ name, parseConnectorId env id = .ok name → ∃ payload,
    enrollmentPayload env challengeId challenge (.str name) (.str rawToken) (.str publicKey) =
      .ok payload ∧ verifyEd25519 env (.str publicKey) payload signature = true
  absent : ∀ name, parseConnectorId env id = .ok name → sys.store.getDevice name = none

/-- The enrollment succeeds and grants the profile that was asked for. -/
def Redeems (env : Env) (sys : System) (requested : Json) (rawToken : String)
    (challengeId challenge id : Json) (publicKey : String) (signature platform : Json) (now : Int) :
    Prop :=
  ∃ s' name device, sys.store.completeEnrollment env challengeId challenge id (.str rawToken)
      (.str publicKey) signature platform now = (s', .ok name) ∧
    s'.getDevice name = some device ∧
    env.textColumn requested = some device.capabilityProfile.name

/-- The connector id was given in its normal form, and the profile is one of the three. -/
structure Redeemable (env : Env) (connectorId capabilityProfile : Json) : Prop where
  normal : ∀ text, env.textColumn connectorId = some text →
    parseConnectorId env (.str text) = .ok text
  known : ∀ text, env.textColumn capabilityProfile = some text →
    ∃ profile, CapabilityProfile.ofName? text = some profile

theorem ofName?_name {text : String} {profile : CapabilityProfile}
    (known : CapabilityProfile.ofName? text = some profile) : profile.name = text := by
  unfold CapabilityProfile.ofName? at known
  have named := List.find?_some known
  exact of_decide_eq_true named

/-- Texts that are one but for letter case and blanks around them parse alike. -/
theorem parseConnectorId_same {id : Json} {text : String}
    (same : Py.lower (Py.strip (env.text id)) = Py.lower (Py.strip text)) :
    parseConnectorId env id = parseConnectorId env (.str text) := by
  unfold parseConnectorId parsePattern
  simp only [text_str, same]

/-- **Redeeming.**  A token that was returned, and is neither used nor expired, can be redeemed
by an enrollment that is correct, for the profile that was asked for, exactly when the
connector id was given in its normal form and the profile is one of the three. -/
theorem issued_redeemable_iff {env : Env} {past : History} {sys : System}
    (run : (system env).Run past sys) {m : Machine.Moment System Event} (mem : m ∈ past)
    {rawToken : String} {connectorId capabilityProfile : Json} {seconds issuedAt : Int}
    (returned : Returned env m rawToken connectorId capabilityProfile seconds issuedAt)
    (unspent : ¬ TokenSpent sys (env.sha256 rawToken)) {now : Int}
    (unexpired : asTimestamp now < asTimestamp (plusSeconds issuedAt seconds))
    {challengeId challenge id : Json} {publicKey : String} {signature platform : Json}
    (presents : Presents env sys connectorId rawToken challengeId challenge id publicKey signature
      platform now) :
    Redeems env sys capabilityProfile rawToken challengeId challenge id publicKey signature platform
        now ↔ Redeemable env connectorId capabilityProfile := by
  obtain ⟨row, found, isConnector, isProfile, expires, unconsumed⟩ :=
    returned.row run mem unspent
  have found : sys.store.tokens.find? (env.sha256 (env.text (.str rawToken))) = some row := by
    rw [text_str]
    exact found
  have parses := parseConnectorId_same (presents.same _ isConnector)
  constructor
  · rintro ⟨s', name, device, done, _, _⟩
    obtain ⟨token, challenge, device', tokenOpen, _, as⟩ := (Store.completeEnrollment_steps done).ok
    obtain rfl := Option.some.inj (found.symm.trans tokenOpen.found)
    have parsed := Store.completeEnrollment_parsed done
    refine ⟨fun text isText => ?_, fun text isText => ?_⟩
    · obtain rfl := Option.some.inj (isConnector.symm.trans isText)
      rw [← parses, parsed, tokenOpen.connector]
    · obtain rfl := Option.some.inj (isProfile.symm.trans isText)
      exact ⟨_, as.profile⟩
  · rintro ⟨normal, known⟩
    have normal := normal _ isConnector
    obtain ⟨profile, isKnown⟩ := known _ isProfile
    have parsed := parses.trans normal
    obtain ⟨payload, isPayload, signed⟩ := presents.signed _ parsed
    obtain ⟨challengeRow, challengeOpen⟩ := presents.challengeOpen
    obtain ⟨checked, platformOk⟩ := presents.platformOk
    have tokenOpen : Store.TokenOpen env sys.store (.str rawToken) row.connectorId now row := by
      refine ⟨found, rfl, unconsumed, ?_⟩
      rw [expires]
      exact unexpired
    obtain ⟨s', device, done, added, granted⟩ := Store.completeEnrollment_ok parsed platformOk
      tokenOpen challengeOpen isPayload signed (presents.absent _ parsed) isKnown
    refine ⟨s', _, device, done, added, ?_⟩
    rw [granted, ofName?_name isKnown]
    exact isProfile

/-! ## Runs -/

/-- What the sample device answers to a challenge, naming its connector in capitals. -/
def enrolls (sys : System) : Store × Except Exc String :=
  sys.store.completeEnrollment Sample.env (.str Sample.firstChallenge.challengeId)
    (.str Sample.firstChallenge.challenge) (.str "PC-1") (.str Sample.rawToken)
    (.str Sample.publicKey) (.str Sample.enrollSignature) (.str "Windows 11") (Sample.second 2)

/-- A token is issued and a connection challenged, and the enrollment answers `P`. -/
def tokenRun (connectorId profile : String) (P : Store × Except Exc String → Bool) : Bool :=
  (init.step Sample.env (.issueToken Sample.rawToken (.str connectorId) (.str profile) (.str "PC 1")
    600 (Sample.second 0))).any fun s₁ : System =>
      (init.store.issueToken Sample.env Sample.rawToken (.str connectorId) (.str profile)
        (.str "PC 1") 600 (Sample.second 0)).toOption.isSome &&
      (s₁.step Sample.env (.connect 0 Sample.firstChallenge (Sample.second 1))).any
        fun sys : System =>
          ((sys.store.tokens.find? (Sample.env.sha256 Sample.rawToken)).all fun row =>
            row.consumedAt.isNone) &&
          ((sys.store.challenges.find? Sample.firstChallenge.challengeId).any fun row =>
            decide (row.challengeHash = Sample.env.sha256 Sample.firstChallenge.challenge ∧
              row.consumedAt = none ∧ asTimestamp (Sample.second 2) < row.expiresAt)) &&
          (sys.store.getDevice "pc-1").isNone && P (enrolls sys)

/-- After such a run the enrollment is correct, but for what the token was issued with. -/
theorem tokenRun_presents (connectorId profile : String) (P : Store × Except Exc String → Bool)
    (folds : Py.lower (Py.strip connectorId) = "pc-1")
    (checked : tokenRun connectorId profile P = true) :
    ∃ (past : History) (sys : System) (m : Machine.Moment System Event),
      (system Sample.env).Run past sys ∧ m ∈ past ∧
      Returned Sample.env m Sample.rawToken (.str connectorId) (.str profile) 600 (Sample.second 0) ∧
      ¬ TokenSpent sys (Sample.env.sha256 Sample.rawToken) ∧
      Presents Sample.env sys (.str connectorId) Sample.rawToken
        (.str Sample.firstChallenge.challengeId) (.str Sample.firstChallenge.challenge)
        (.str "PC-1") Sample.publicKey (.str Sample.enrollSignature) (.str "Windows 11")
        (Sample.second 2) ∧
      P (enrolls sys) = true := by
  obtain ⟨s₁, first, checked⟩ := (Option.any_eq_true _ _).mp checked
  obtain ⟨issued, checked⟩ := Bool.and_eq_true_iff.mp checked
  obtain ⟨sys, second, checked⟩ := (Option.any_eq_true _ _).mp checked
  obtain ⟨checked, holds⟩ := Bool.and_eq_true_iff.mp checked
  obtain ⟨checked, absent⟩ := Bool.and_eq_true_iff.mp checked
  obtain ⟨unspent, challenged⟩ := Bool.and_eq_true_iff.mp checked
  have run := run_then .init first second
  have parsed : parseConnectorId Sample.env (.str "PC-1") = .ok "pc-1" := by decide +kernel
  refine ⟨_, sys, ⟨init, _, s₁⟩, run, List.mem_append_left _ (List.mem_singleton_self _),
    ⟨_, rfl, ?_⟩, ?_, ⟨?_, ?_, ⟨"Windows 11", by decide +kernel⟩, ?_, ?_⟩, holds⟩
  · cases done : init.store.issueToken Sample.env Sample.rawToken (.str connectorId) (.str profile)
        (.str "PC 1") 600 (Sample.second 0) with
    | ok s => exact ⟨s, rfl⟩
    | error x =>
        rw [done] at issued
        cases issued
  · rintro ⟨row, found, spent⟩
    rw [found] at unspent
    have unspent : row.consumedAt.isNone = true := unspent
    rw [Option.isNone_iff_eq_none.mp unspent] at spent
    cases spent
  · intro text isText
    obtain rfl := Option.some.inj isText
    rw [folds, text_str]
    decide +kernel
  · obtain ⟨row, found, is⟩ := (Option.any_eq_true _ _).mp challenged
    obtain ⟨hash, unconsumed, unexpired⟩ := of_decide_eq_true is
    exact ⟨row, by rwa [text_str], by rwa [text_str], unconsumed, unexpired⟩
  · intro name isName
    obtain rfl := Except.ok.inj (parsed.symm.trans isName)
    have signs : (enrollmentPayload Sample.env (.str Sample.firstChallenge.challengeId)
        (.str Sample.firstChallenge.challenge) (.str "pc-1") (.str Sample.rawToken)
        (.str Sample.publicKey)).toOption.isSome = true := by decide +kernel
    cases payload : enrollmentPayload Sample.env (.str Sample.firstChallenge.challengeId)
        (.str Sample.firstChallenge.challenge) (.str "pc-1") (.str Sample.rawToken)
        (.str Sample.publicKey) with
    | ok text => exact ⟨text, rfl, rfl⟩
    | error x =>
        rw [payload] at signs
        cases signs
  · intro name isName
    obtain rfl := Except.ok.inj (parsed.symm.trans isName)
    exact Option.isNone_iff_eq_none.mp absent

/-- A token for `pc-1` with a known profile is redeemed by a device that writes `PC-1`. -/
theorem issued_redeemable_iff_capitals : ∃ sys : System,
    Redeems Sample.env sys (.str "full_agent") Sample.rawToken
      (.str Sample.firstChallenge.challengeId) (.str Sample.firstChallenge.challenge) (.str "PC-1")
      Sample.publicKey (.str Sample.enrollSignature) (.str "Windows 11") (Sample.second 2) := by
  obtain ⟨past, sys, m, run, mem, returned, unspent, presents, _⟩ :=
    tokenRun_presents "pc-1" "full_agent" (fun _ => true) (by decide +kernel) (by decide +kernel)
  refine ⟨sys, (issued_redeemable_iff run mem returned unspent (by decide) presents).mpr ?_⟩
  constructor
  · intro text isText
    obtain rfl := Option.some.inj isText
    decide +kernel
  · intro text isText
    obtain rfl := Option.some.inj isText
    exact ⟨.fullAgent, by decide⟩

/-- **Two tokens that were returned and cannot be redeemed**: one with an unknown profile, where
the enrollment fails after its token and its challenge have been consumed, and one for a
connector id in capitals. -/
theorem unknownProfile_consumes :
    (∃ (past : History) (sys : System) (m : Machine.Moment System Event),
      (system Sample.env).Run past sys ∧ m ∈ past ∧
      Returned Sample.env m Sample.rawToken (.str "pc-1") (.str "admin") 600 (Sample.second 0) ∧
      ¬ TokenSpent sys (Sample.env.sha256 Sample.rawToken) ∧
      Presents Sample.env sys (.str "pc-1") Sample.rawToken
        (.str Sample.firstChallenge.challengeId) (.str Sample.firstChallenge.challenge)
        (.str "PC-1") Sample.publicKey (.str Sample.enrollSignature) (.str "Windows 11")
        (Sample.second 2) ∧
      (enrolls sys).2 = .error .escape ∧
      ∃ row, (enrolls sys).1.tokens.find? (Sample.env.sha256 Sample.rawToken) = some row ∧
        row.consumedAt.isSome = true) ∧
    ∃ (past : History) (sys : System) (m : Machine.Moment System Event),
      (system Sample.env).Run past sys ∧ m ∈ past ∧
      Returned Sample.env m Sample.rawToken (.str "PC-1") (.str "full_agent") 600
        (Sample.second 0) ∧
      ¬ TokenSpent sys (Sample.env.sha256 Sample.rawToken) ∧
      Presents Sample.env sys (.str "PC-1") Sample.rawToken
        (.str Sample.firstChallenge.challengeId) (.str Sample.firstChallenge.challenge)
        (.str "PC-1") Sample.publicKey (.str Sample.enrollSignature) (.str "Windows 11")
        (Sample.second 2) ∧
      (enrolls sys).2 = .error (.agent .connectorIdMismatch) := by
  constructor
  · obtain ⟨past, sys, m, run, mem, returned, unspent, presents, holds⟩ :=
      tokenRun_presents "pc-1" "admin" (fun answer => decide (answer.2 = .error .escape) &&
          (answer.1.tokens.find? (Sample.env.sha256 Sample.rawToken)).any fun row =>
            row.consumedAt.isSome)
        (by decide +kernel) (by decide +kernel)
    obtain ⟨escapes, spent⟩ := Bool.and_eq_true_iff.mp holds
    exact ⟨past, sys, m, run, mem, returned, unspent, presents, of_decide_eq_true escapes,
      (Option.any_eq_true _ _).mp spent⟩
  · obtain ⟨past, sys, m, run, mem, returned, unspent, presents, holds⟩ :=
      tokenRun_presents "PC-1" "full_agent"
        (fun answer => decide (answer.2 = .error (.agent .connectorIdMismatch)))
        (by decide +kernel) (by decide +kernel)
    exact ⟨past, sys, m, run, mem, returned, unspent, presents, of_decide_eq_true holds⟩

end System

end RemoteAgent
