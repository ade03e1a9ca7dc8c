import RemoteAgent.Service

/-!
# What the operations of the store can do to devices and instances

Every operation but two only ages the rows of the tables (`Aged`): a device keeps
its key and its profile and is never enrolled again, and an instance keeps its
identity and never comes back online.  The two are `enrollDevice`, which adds one
device, and `upsertPresence`, which brings one instance of an enrolled device
online (`Online`).

`completeEnrollment_cases` and `authenticateRelay_cases` say so of the two paths of
the handshake, with everything else they write aged.
-/

open Wire Storage

namespace RemoteAgent.Store

/-! ## Ageing -/

/-- A device row after an operation that enrolls none. -/
structure DeviceFrom (old new : DeviceRow) : Prop where
  connectorId : new.connectorId = old.connectorId
  publicKey : new.publicKey = old.publicKey
  capabilityProfile : new.capabilityProfile = old.capabilityProfile
  enrolled : new.enrollmentState = .enrolled → old.enrollmentState = .enrolled

/-- An instance row after an operation that brings none online. -/
structure InstanceFrom (old new : InstanceRow) : Prop where
  instanceId : new.instanceId = old.instanceId
  connectorId : new.connectorId = old.connectorId
  generation : new.connectionGeneration = old.connectionGeneration
  online : new.state = .online → old.state = .online

/-- Every row comes from an older one. -/
structure Aged (s s' : Store) : Prop where
  devices : ∀ new ∈ s'.devices, ∃ old ∈ s.devices, DeviceFrom old new
  instances : ∀ new ∈ s'.instances, ∃ old ∈ s.instances, InstanceFrom old new

theorem DeviceFrom.refl (r : DeviceRow) : DeviceFrom r r := ⟨rfl, rfl, rfl, id⟩

theorem InstanceFrom.refl (r : InstanceRow) : InstanceFrom r r := ⟨rfl, rfl, rfl, id⟩

theorem DeviceFrom.trans {a b c : DeviceRow} (first : DeviceFrom a b) (second : DeviceFrom b c) :
    DeviceFrom a c where
  connectorId := second.connectorId.trans first.connectorId
  publicKey := second.publicKey.trans first.publicKey
  capabilityProfile := second.capabilityProfile.trans first.capabilityProfile
  enrolled := fun enrolled => first.enrolled (second.enrolled enrolled)

theorem InstanceFrom.trans {a b c : InstanceRow} (first : InstanceFrom a b)
    (second : InstanceFrom b c) : InstanceFrom a c where
  instanceId := second.instanceId.trans first.instanceId
  connectorId := second.connectorId.trans first.connectorId
  generation := second.generation.trans first.generation
  online := fun online => first.online (second.online online)

theorem Aged.refl (s : Store) : Aged s s where
  devices := fun r mem => ⟨r, mem, .refl r⟩
  instances := fun r mem => ⟨r, mem, .refl r⟩

theorem Aged.trans {a b c : Store} (first : Aged a b) (second : Aged b c) : Aged a c where
  devices := by
    intro new mem
    obtain ⟨mid, memMid, later⟩ := second.devices new mem
    obtain ⟨old, memOld, earlier⟩ := first.devices mid memMid
    exact ⟨old, memOld, earlier.trans later⟩
  instances := by
    intro new mem
    obtain ⟨mid, memMid, later⟩ := second.instances new mem
    obtain ⟨old, memOld, earlier⟩ := first.instances mid memMid
    exact ⟨old, memOld, earlier.trans later⟩

/-- An operation on tokens or challenges. -/
theorem Aged.of_same {s s' : Store} (devices : s'.devices = s.devices)
    (instances : s'.instances = s.instances) : Aged s s' where
  devices := fun r mem => ⟨r, devices ▸ mem, .refl r⟩
  instances := fun r mem => ⟨r, instances ▸ mem, .refl r⟩

/-- An update that ages the rows it is applied to ages the table. -/
theorem instances_updateWhere {t : Table InstanceRow.instanceId} {p : InstanceRow → Bool}
    {f : InstanceRow → InstanceRow} (keeps : ∀ r, (f r).instanceId = r.instanceId)
    (ages : ∀ r, InstanceFrom r (f r)) :
    ∀ new ∈ t.updateWhere p f keeps, ∃ old ∈ t, InstanceFrom old new := by
  intro new mem
  obtain ⟨old, memOld, rfl⟩ := Table.mem_updateWhere.mp mem
  refine ⟨old, memOld, ?_⟩
  split
  · exact ages old
  · exact .refl old

theorem devices_updateWhere {t : Table DeviceRow.connectorId} {p : DeviceRow → Bool}
    {f : DeviceRow → DeviceRow} (keeps : ∀ r, (f r).connectorId = r.connectorId)
    (ages : ∀ r, DeviceFrom r (f r)) :
    ∀ new ∈ t.updateWhere p f keeps, ∃ old ∈ t, DeviceFrom old new := by
  intro new mem
  obtain ⟨old, memOld, rfl⟩ := Table.mem_updateWhere.mp mem
  refine ⟨old, memOld, ?_⟩
  split
  · exact ages old
  · exact .refl old

theorem close_from (disconnectedAt : InstanceRow → Option Int) (r : InstanceRow) :
    InstanceFrom r (close disconnectedAt r) := ⟨rfl, rfl, rfl, fun online => nomatch online⟩

theorem beat_from (contextEpoch : Json) (at_ : Int) (r : InstanceRow) :
    InstanceFrom r (beat contextEpoch at_ r) := ⟨rfl, rfl, rfl, id⟩

/-! ### The operations -/

variable {env : Env} {s s' : Store}

/-- A token is issued for a time that there is, as one new row. -/
theorem issueToken_ok {rawToken : String} {connectorId capabilityProfile displayLabel : Json}
    {expires now : Int}
    (issued : s.issueToken env rawToken connectorId capabilityProfile displayLabel expires now =
      .ok s') :
    (plusSeconds? now expires).isSome ∧ ∃ row tokens,
      row.tokenHash = env.sha256 rawToken ∧
      env.textColumn connectorId = some row.connectorId ∧
      env.textColumn capabilityProfile = some row.capabilityProfile ∧
      row.expiresAt = asTimestamp (plusSeconds now expires) ∧ row.consumedAt = none ∧
      s.tokens.insert? row = some tokens ∧ s' = { s with tokens := tokens } := by
  unfold issueToken at issued
  split at issued
  · cases issued
  · rename_i new stored
    cases issued
    unfold issueEnrollmentToken at stored
    simp only [Option.bind_eq_bind, Option.bind_eq_some_iff, Option.pure_def, Option.some.injEq]
      at stored
    obtain ⟨expiry, sum, connector, isConnector, profile, isProfile, label, _, tokens, inserted,
      rfl⟩ := stored
    obtain rfl := plusSeconds?_some sum
    exact ⟨by rw [sum]; rfl, _, tokens, rfl, isConnector, isProfile, rfl, rfl, inserted, rfl⟩

theorem issueToken_aged {rawToken : String} {connectorId capabilityProfile displayLabel : Json}
    {expires now : Int}
    (issued : s.issueToken env rawToken connectorId capabilityProfile displayLabel expires now =
      .ok s') : Aged s s' := by
  obtain ⟨_, _, _, _, _, _, _, _, _, rfl⟩ := issueToken_ok issued
  exact .of_same rfl rfl

/-- A challenge is created as one new row. -/
theorem createChallenge_ok {challenge : Challenge} {now : Int}
    (created : s.createChallenge env challenge now = some s') :
    ∃ challenges, s.challenges.insert? {
        challengeId := challenge.challengeId
        challengeHash := env.sha256 challenge.challenge
        expiresAt := asTimestamp (plusSeconds now challengeSeconds)
        consumedAt := none } = some challenges ∧
      s' = { s with challenges := challenges } := by
  unfold createChallenge at created
  obtain ⟨challenges, inserted, rest⟩ := Option.bind_eq_some_iff.mp created
  exact ⟨challenges, inserted, (Option.some.inj rest).symm⟩

theorem createChallenge_aged {challenge : Challenge} {now : Int}
    (created : s.createChallenge env challenge now = some s') : Aged s s' := by
  obtain ⟨_, _, rfl⟩ := createChallenge_ok created
  exact .of_same rfl rfl

theorem consumeEnrollmentToken_same (env : Env) (s : Store) (rawToken : Json)
    (connectorId : String) (now : Int) :
    (s.consumeEnrollmentToken env rawToken connectorId now).1.devices = s.devices ∧
      (s.consumeEnrollmentToken env rawToken connectorId now).1.instances = s.instances := by
  unfold consumeEnrollmentToken
  simp only
  split
  · exact ⟨rfl, rfl⟩
  · split
    · exact ⟨rfl, rfl⟩
    · split
      · exact ⟨rfl, rfl⟩
      · split <;> exact ⟨rfl, rfl⟩

theorem consumeChallenge_same {challengeId challenge : Json} {now : Int}
    (consumed : s.consumeChallenge env challengeId challenge now = some s') :
    s'.devices = s.devices ∧ s'.instances = s.instances := by
  unfold consumeChallenge at consumed
  split at consumed
  · cases consumed
  · split at consumed
    · cases consumed
    · cases consumed
      exact ⟨rfl, rfl⟩

theorem revokeDevice_aged {connectorId : String} {now : Int}
    (revoked : s.revokeDevice connectorId now = some s') : Aged s s' := by
  unfold revokeDevice at revoked
  split at revoked
  · cases revoked
  · cases revoked
    exact ⟨devices_updateWhere (DeviceRow.revoke_key _) fun _ =>
        ⟨rfl, rfl, rfl, fun enrolled => nomatch enrolled⟩,
      instances_updateWhere (close_key _) (close_from _)⟩

theorem deleteRevokedDevice_aged {connectorId : String}
    (deleted : s.deleteRevokedDevice connectorId = .ok s') : Aged s s' := by
  unfold deleteRevokedDevice at deleted
  split at deleted
  · cases deleted
  · split at deleted
    · cases deleted
    · cases deleted
      exact ⟨fun r mem => ⟨r, (Table.mem_deleteWhere.mp mem).1, .refl r⟩,
        fun r mem => ⟨r, (Table.mem_deleteWhere.mp mem).1, .refl r⟩⟩

theorem rename_aged {connectorId : String} {label : Json}
    (renamed : s.rename env connectorId label = .ok s') : Aged s s' := by
  unfold rename at renamed
  split at renamed
  · cases renamed
  · split at renamed
    · cases renamed
    · split at renamed
      · cases renamed
      · cases renamed
        exact ⟨devices_updateWhere (DeviceRow.rename_key _) fun _ => ⟨rfl, rfl, rfl, id⟩,
          fun r mem => ⟨r, mem, .refl r⟩⟩

theorem heartbeat_aged {instanceId : String} {generation : Nat} {epoch : Json} {now : Int}
    (beat : s.heartbeat env instanceId generation epoch now = .ok (some s')) : Aged s s' := by
  unfold heartbeat at beat
  split at beat
  · cases beat
  · split at beat
    · cases beat
    · split at beat
      · cases beat
      · split at beat
        · cases beat
        · cases beat
        · split at beat
          · cases beat
          · cases beat
            exact ⟨fun r mem => ⟨r, mem, .refl r⟩, instances_updateWhere (beat_key _ _) (beat_from _ _)⟩

theorem acceptHeartbeat_aged {instanceId : String} {generation : Nat} {epoch : Json} {now : Int}
    (beat : s.acceptHeartbeat env instanceId generation epoch now = .ok s') : Aged s s' := by
  unfold acceptHeartbeat at beat
  split at beat
  · cases beat
  · split at beat
    · cases beat
    · cases beat
    · rename_i accepted
      cases beat
      exact heartbeat_aged accepted

theorem disconnectInstance_aged (s : Store) (instanceId : String) (generation : Nat) (now : Int) :
    Aged s (s.disconnectInstance instanceId generation now) := by
  unfold disconnectInstance
  split
  · exact .refl s
  · split
    · exact .refl s
    · exact ⟨fun r mem => ⟨r, mem, .refl r⟩, instances_updateWhere (close_key _) (close_from _)⟩

theorem disconnectRelay_aged (env : Env) (s : Store) (instanceId : String) (generation : Nat)
    (now : Int) : Aged s (s.disconnectRelay env instanceId generation now) := by
  unfold disconnectRelay
  split
  · exact .refl s
  · exact disconnectInstance_aged s _ _ _

theorem markStaleInstances_aged (s : Store) (staleBefore : Int) :
    Aged s (s.markStaleInstances staleBefore) :=
  ⟨fun r mem => ⟨r, mem, .refl r⟩, instances_updateWhere (close_key _) (close_from _)⟩

theorem relaySession_aged {connectorId : String} {instanceId : Option String} {now : Int}
    {row : Option InstanceRow}
    (looked : s.relaySession env connectorId instanceId now = .ok (s', row)) : Aged s s' := by
  unfold relaySession at looked
  split at looked
  · cases looked
    exact markStaleInstances_aged s _
  · cases looked
    exact markStaleInstances_aged s _
  · split at looked
    · cases looked
    · cases looked
      exact markStaleInstances_aged s _

theorem deviceStatus_aged (env : Env) (s : Store) (connectorId : String) (now : Int) :
    Aged s (s.deviceStatus env connectorId now).1 := by
  unfold deviceStatus
  split
  · exact .refl s
  · exact markStaleInstances_aged s _

/-- Reading one status after another only sweeps. -/
theorem operatorDevices_aged (env : Env) (s : Store) (now : Int) :
    Aged s (s.operatorDevices env now).1 := by
  unfold operatorDevices
  refine List.foldlRecOn (motive := fun swept : Store × List (Except AgentCode DeviceStatus) =>
    Aged s swept.1) _ _ (.refl s) fun swept aged device _ => ?_
  exact aged.trans (deviceStatus_aged env swept.1 device.connectorId now)

theorem agentInventory_aged (env : Env) (s : Store) (now : Int) :
    Aged s (s.agentInventory env now).1 := markStaleInstances_aged s _

/-! ## Enrolling a device -/

/-- One device more, enrolled; the other rows aged. -/
structure Enrolls (s s' : Store) (connectorId : String) : Prop where
  absent : s.getDevice connectorId = none
  present : ∃ device, s'.getDevice connectorId = some device
  devices : ∀ new ∈ s'.devices, new.connectorId = connectorId ∨
    ∃ old ∈ s.devices, DeviceFrom old new
  instances : s'.instances = s.instances

theorem enrollDevice_enrolls {connectorId label profile platform : String} {publicKey : Json}
    {now : Int} (enrolled : s.enrollDevice env connectorId publicKey label profile platform now =
      .ok (some s')) : Enrolls s s' connectorId := by
  unfold enrollDevice at enrolled
  split at enrolled
  · cases enrolled
  · split at enrolled
    · cases enrolled
    · rename_i absent
      split at enrolled
      · cases enrolled
      · cases enrolled
        refine ⟨absent, ?_, fun new mem => ?_, rfl⟩
        · unfold getDevice
          rw [Table.find?_insertOrIgnore]
          unfold getDevice at absent
          rw [absent, Option.none_or]
          exact ⟨_, if_pos rfl⟩
        · rcases Table.mem_insertOrIgnore.mp mem with old | ⟨rfl, _⟩
          · exact Or.inr ⟨new, old, .refl new⟩
          · exact Or.inl rfl

theorem enrollVerified_enrolls {token : TokenRow} {challengeId challenge enrollmentToken : Json}
    {connectorId platform : String} {publicKey signature : Json} {now : Int}
    (enrolled : s.enrollVerified env token challengeId challenge connectorId enrollmentToken
      publicKey signature platform now = .ok s') : Enrolls s s' connectorId := by
  unfold enrollVerified at enrolled
  split at enrolled
  · cases enrolled
  · split at enrolled
    · cases enrolled
    · split at enrolled
      · cases enrolled
      · split at enrolled
        · cases enrolled
        · cases enrolled
        · rename_i stored
          cases enrolled
          exact enrollDevice_enrolls stored

/-- **An enrollment adds one device, or only ages the rows.** -/
theorem completeEnrollment_cases {challengeId challenge connectorId token publicKey signature
    platform : Json} {now : Int} {result : Except Exc String}
    (done : s.completeEnrollment env challengeId challenge connectorId token publicKey signature
      platform now = (s', result)) :
    (∃ e, result = .error e ∧ Aged s s') ∨
      ∃ connectorId, result = .ok connectorId ∧ Enrolls s s' connectorId := by
  unfold completeEnrollment at done
  split at done
  · cases done
    exact Or.inl ⟨_, rfl, .refl s⟩
  · rename_i connectorId' _
    split at done
    · cases done
      exact Or.inl ⟨_, rfl, .refl s⟩
    · have same := consumeEnrollmentToken_same env s token connectorId' now
      split at done
      · rename_i s₁ used
        rw [used] at same
        cases done
        exact Or.inl ⟨_, rfl, .of_same same.1 same.2⟩
      · rename_i s₁ used
        rw [used] at same
        cases done
        exact Or.inl ⟨_, rfl, .of_same same.1 same.2⟩
      · rename_i s₁ used
        rw [used] at same
        cases done
        exact Or.inl ⟨_, rfl, .of_same same.1 same.2⟩
      · rename_i s₁ used
        rw [used] at same
        cases done
        exact Or.inl ⟨_, rfl, .of_same same.1 same.2⟩
      · rename_i s₁ row used
        rw [used] at same
        split at done
        · cases done
          exact Or.inl ⟨_, rfl, .of_same same.1 same.2⟩
        · rename_i s₂ consumed
          have same₂ := consumeChallenge_same consumed
          have devices := same₂.1.trans same.1
          have instances := same₂.2.trans same.2
          split at done
          · cases done
            exact Or.inl ⟨_, rfl, .of_same devices instances⟩
          · rename_i s₃ verified
            cases done
            have enrolls := enrollVerified_enrolls verified
            refine Or.inr ⟨connectorId', rfl, ?_, enrolls.present, fun new mem => ?_, ?_⟩
            · have absent := enrolls.absent
              unfold getDevice at absent ⊢
              rwa [devices] at absent
            · rcases enrolls.devices new mem with now | ⟨old, memOld, aged⟩
              · exact Or.inl now
              · exact Or.inr ⟨old, devices ▸ memOld, aged⟩
            · exact enrolls.instances.trans instances

/-! ## Coming online -/

/-- One instance of an enrolled device written by a connection; the other rows are
as they were. -/
structure Online (s s' : Store) (connectorId instanceId : String) (generation : Nat)
    (device : DeviceRow) : Prop where
  found : s.getDevice connectorId = some device
  enrolled : device.enrollmentState = .enrolled
  devices : s'.devices = s.devices
  instances : ∀ new ∈ s'.instances, (new ∈ s.instances ∧ new.instanceId ≠ instanceId) ∨
    (new.instanceId = instanceId ∧ new.connectorId = connectorId ∧
      new.connectionGeneration = generation)

theorem upsertPresence_online {connectorId instanceId : String} {generation : Nat} {epoch : Json}
    {capabilities : List String} {now : Int}
    (accepted : s.upsertPresence env connectorId instanceId generation epoch capabilities now =
      .ok (some s')) : ∃ device, Online s s' connectorId instanceId generation device := by
  unfold upsertPresence at accepted
  split at accepted
  · cases accepted
  · rename_i device found
    split at accepted
    · cases accepted
    · rename_i enrolled
      split at accepted
      · cases accepted
      · split at accepted
        · cases accepted
        · cases accepted
          refine ⟨device, found, not_not.mp enrolled, rfl, fun new mem => ?_⟩
          rcases Table.mem_upsert.mp mem with old | isNew
          · exact Or.inl old
          · refine Or.inr ?_
            subst isNew
            split
            · rename_i old foundOld
              have key := Table.key_of_find? foundOld
              exact ⟨key, rfl, rfl⟩
            · exact ⟨rfl, rfl, rfl⟩

theorem authenticateVerified_online {challengeId challenge : Json}
    {connectorId instanceId : String} {epoch signature : Json} {generation : Nat}
    {capabilities : List String} {now : Int}
    (accepted : s.authenticateVerified env challengeId challenge connectorId instanceId epoch
      signature generation capabilities now = .ok s') :
    ∃ device, Online s s' connectorId instanceId generation device := by
  unfold authenticateVerified at accepted
  split at accepted
  · cases accepted
  · split at accepted
    · cases accepted
    · split at accepted
      · cases accepted
      · split at accepted
        · cases accepted
        · split at accepted
          · cases accepted
          · cases accepted
          · rename_i stored
            cases accepted
            exact upsertPresence_online stored

/-- **An authentication brings one instance of an enrolled device online, or only
ages the rows.** -/
theorem authenticateRelay_cases {challengeId challenge connectorId instanceId epoch
    signature : Json} {generation : Nat} {capabilities : List String} {now : Int}
    {result : Except Exc Identity}
    (done : s.authenticateRelay env challengeId challenge connectorId instanceId epoch signature
      generation capabilities now = (s', result)) :
    (∃ e, result = .error e ∧ Aged s s') ∨
      ∃ identity device, result = .ok identity ∧
        Online s s' identity.connectorId identity.instanceId generation device := by
  unfold authenticateRelay at done
  split at done
  · cases done
    exact Or.inl ⟨_, rfl, .refl s⟩
  · split at done
    · cases done
      exact Or.inl ⟨_, rfl, .refl s⟩
    · split at done
      · cases done
        exact Or.inl ⟨_, rfl, .refl s⟩
      · rename_i s₁ consumed
        obtain ⟨devices, instances⟩ := consumeChallenge_same consumed
        split at done
        · cases done
          exact Or.inl ⟨_, rfl, .of_same devices instances⟩
        · rename_i s₂ verified
          cases done
          obtain ⟨device, online⟩ := authenticateVerified_online verified
          refine Or.inr ⟨_, device, rfl, ?_, online.enrolled, online.devices.trans devices, ?_⟩
          · have found := online.found
            unfold getDevice at found ⊢
            rwa [devices] at found
          · exact fun new mem => (online.instances new mem).imp
              (fun old => ⟨instances ▸ old.1, old.2⟩) id

/-! ## Lookups -/

/-- The row a fold over `laterBeat` ends with is one of the rows. -/
theorem mem_of_laterBeat {rows : List InstanceRow} {best : Option InstanceRow} {r : InstanceRow}
    (found : rows.foldl laterBeat best = some r) : r ∈ rows ∨ best = some r := by
  induction rows generalizing best with
  | nil => exact Or.inr found
  | cons r₀ rows ih =>
      rcases ih found with later | is
      · exact Or.inl (List.mem_cons_of_mem _ later)
      · unfold laterBeat at is
        split at is
        · cases is
          exact Or.inl List.mem_cons_self
        · split at is
          · cases is
            exact Or.inl List.mem_cons_self
          · exact Or.inr is

theorem latestOnlineInstance_row {connectorId : String} {fresh : Int} {r : InstanceRow}
    (looked : s.latestOnlineInstance connectorId fresh = (s', some r)) :
    r ∈ s'.instances ∧ r.connectorId = connectorId ∧ r.state = .online := by
  obtain ⟨rfl, found⟩ := Prod.mk.inj looked
  rcases mem_of_laterBeat found with mem | none
  · obtain ⟨mem, holds⟩ := List.mem_filter.mp mem
    simp only [isFresh, Bool.and_eq_true, decide_eq_true_eq] at holds
    exact ⟨mem, holds.1, holds.2.1⟩
  · cases none

theorem exactOnlineInstance_row {connectorId instanceId : String} {fresh : Int} {r : InstanceRow}
    (looked : s.exactOnlineInstance connectorId instanceId fresh = (s', some r)) :
    r ∈ s'.instances ∧ r.connectorId = connectorId ∧ r.state = .online := by
  obtain ⟨rfl, found⟩ := Prod.mk.inj looked
  obtain ⟨stored, holds⟩ := Option.filter_eq_some_iff.mp found
  simp only [isFresh, Bool.and_eq_true, decide_eq_true_eq] at holds
  exact ⟨Table.mem_of_find? stored, holds.1, holds.2.1⟩

/-- **A command is routed to an instance of its own connector that is online.** -/
theorem relaySession_row {connectorId : String} {instanceId : Option String} {now : Int}
    {r : InstanceRow} (looked : s.relaySession env connectorId instanceId now = .ok (s', some r)) :
    ∃ old ∈ s.instances, InstanceFrom old r ∧ old.connectorId = connectorId ∧
      old.state = .online := by
  have aged := relaySession_aged looked
  have row : r ∈ s'.instances ∧ r.connectorId = connectorId ∧ r.state = .online := by
    unfold relaySession at looked
    split at looked
    · exact latestOnlineInstance_row (Except.ok.inj looked)
    · exact latestOnlineInstance_row (Except.ok.inj looked)
    · split at looked
      · cases looked
      · exact exactOnlineInstance_row (Except.ok.inj looked)
  obtain ⟨old, mem, from_⟩ := aged.instances r row.1
  exact ⟨old, mem, from_, from_.connectorId.symm.trans row.2.1, from_.online row.2.2⟩

end RemoteAgent.Store
