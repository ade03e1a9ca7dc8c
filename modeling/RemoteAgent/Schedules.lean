import RemoteAgent.Inventory
import RemoteAgent.Lib.Related

/-!
# Reads and liveness

Every read of liveness sweeps, and a heartbeat asks for a row that is still marked online,
so a read may decide whether a heartbeat is accepted.  A schedule is a list of timed calls of
the service, from devices and from readers.  Two schedules with one history of device calls
are compared through the run of that history alone, without reads: at every moment the tables
of the others are those of this run, save that rows which have fallen silent may be closed
already (`Lagging`).

* `liveness_by_history_iff`: the reads make no difference, to heartbeats or to what later
  reads answer, exactly when in the run without reads no heartbeat is accepted for a row that
  has fallen silent (`Steady`).
* `read_decides_heartbeat`: an inventory read after 76 seconds of silence, and none.
-/

open Wire Storage Transition

namespace RemoteAgent

/-! ## Schedules -/

/-- A call that changes the tables for a device. -/
inductive DeviceCall where
  | issueToken (rawToken : String) (connectorId capabilityProfile displayLabel : Json)
      (expiresInSeconds : Int)
  | issueChallenge (challenge : Store.Challenge)
  | completeEnrollment (challengeId challenge connectorId enrollmentToken publicKey signature
      platform : Json)
  | authenticateRelay (challengeId challenge connectorId instanceId contextEpoch signature : Json)
      (generation : Nat) (capabilities : List String)
  | heartbeat (instanceId : String) (generation : Nat) (contextEpoch : Json)
  | disconnectRelay (instanceId : String) (generation : Nat)
  | revokeDevice (connectorId : String)
  | deleteRevokedDevice (connectorId : String)
  | renameDevice (connectorId : String) (displayLabel : Json)

/-- A call that asks who is online. -/
inductive ReadCall where
  | deviceStatus (connectorId : String)
  | operatorDevices
  | onlineAgents
  | relaySession (connectorId : String) (instanceId : Option String)

/-- What a read answers. -/
inductive Reading where
  | status (answer : Except AgentCode Store.DeviceStatus)
  | devices (answer : List (Except AgentCode Store.DeviceStatus))
  | agents (answer : List Store.OnlineAgent)
  | routed (answer : Except Exc (Option InstanceRow))

inductive ServiceCall where
  | device (call : DeviceCall)
  | read (call : ReadCall)

/-- Calls with the readings of the clock they are made at. -/
abbrev Schedule := List (ServiceCall × Int)

namespace Store

/-- The tables after a call that changes them if it is accepted. -/
def orRefused (s : Store) : Option Store → Store × Bool
  | some s' => (s', true)
  | none => (s, false)

/-- The tables after a call for a device, and whether it was accepted. -/
def perform (env : Env) (s : Store) (now : Int) : DeviceCall → Store × Bool
  | .issueToken rawToken connectorId profile label expires =>
      s.orRefused (s.issueToken env rawToken connectorId profile label expires now).toOption
  | .issueChallenge challenge => s.orRefused (s.createChallenge env challenge now)
  | .completeEnrollment challengeId challenge connectorId token publicKey signature platform =>
      let (s', result) := s.completeEnrollment env challengeId challenge connectorId token
        publicKey signature platform now
      (s', result.isOk)
  | .authenticateRelay challengeId challenge connectorId instanceId epoch signature generation
      capabilities =>
      let (s', result) := s.authenticateRelay env challengeId challenge connectorId instanceId
        epoch signature generation capabilities now
      (s', result.isOk)
  | .heartbeat instanceId generation epoch =>
      s.orRefused (s.acceptHeartbeat env instanceId generation epoch now).toOption
  | .disconnectRelay instanceId generation =>
      (s.disconnectRelay env instanceId generation now, true)
  | .revokeDevice connectorId => s.orRefused (s.revokeDevice connectorId now)
  | .deleteRevokedDevice connectorId => s.orRefused (s.deleteRevokedDevice connectorId).toOption
  | .renameDevice connectorId label => s.orRefused (s.rename env connectorId label).toOption

/-- The tables after a read, and its answer. -/
def read (env : Env) (s : Store) (now : Int) : ReadCall → Store × Reading
  | .deviceStatus connectorId =>
      let (s', answer) := s.deviceStatus env connectorId now
      (s', .status answer)
  | .operatorDevices =>
      let (s', answer) := s.operatorDevices env now
      (s', .devices answer)
  | .onlineAgents =>
      let (s', answer) := s.agentInventory env now
      (s', .agents answer)
  | .relaySession connectorId instanceId =>
      match s.relaySession env connectorId instanceId now with
      | .ok (s', row) => (s', .routed (.ok row))
      | .error e => (s, .routed (.error e))

/-- The tables after a schedule, and which of its device calls were accepted. -/
def run (env : Env) (s : Store) : Schedule → Store × List Bool
  | [] => (s, [])
  | (.read call, now) :: rest => run env (s.read env now call).1 rest
  | (.device call, now) :: rest =>
      let (s', accepted) := s.perform env now call
      let (s', more) := run env s' rest
      (s', accepted :: more)

end Store

namespace Schedule

/-- The clock does not run backwards. -/
def Ordered (schedule : Schedule) : Prop := (schedule.map Prod.snd).Pairwise (· ≤ ·)

/-- The calls for devices. -/
def history (schedule : Schedule) : List (DeviceCall × Int) :=
  schedule.filterMap fun
    | (.device call, now) => some (call, now)
    | (.read _, _) => none

/-- A history without reads. -/
def alone (history : List (DeviceCall × Int)) : Schedule :=
  history.map fun (call, now) => (.device call, now)

end Schedule

/-! ## Rows that reads have closed -/

/-- A row, and what reads may have made of it: closed, if it has been silent since the cutoff. -/
def Lags (cutoff : Int) (r r' : InstanceRow) : Prop :=
  r' = r ∨ (r.lastHeartbeatAt ≤ cutoff ∧ ∃ at_, r' = Store.close (fun _ => at_) r)

namespace Lags

variable {cutoff cutoff' : Int} {r r' : InstanceRow}

theorem refl (cutoff : Int) (r : InstanceRow) : Lags cutoff r r := Or.inl rfl

theorem mono (later : cutoff ≤ cutoff') (lags : Lags cutoff r r') : Lags cutoff' r r' :=
  lags.imp id fun silent => ⟨Int.le_trans silent.1 later, silent.2⟩

theorem instanceId (lags : Lags cutoff r r') : r'.instanceId = r.instanceId := by
  obtain rfl | ⟨_, at_, rfl⟩ := lags <;> rfl

theorem connectorId (lags : Lags cutoff r r') : r'.connectorId = r.connectorId := by
  obtain rfl | ⟨_, at_, rfl⟩ := lags <;> rfl

theorem generation (lags : Lags cutoff r r') :
    r'.connectionGeneration = r.connectionGeneration := by
  obtain rfl | ⟨_, at_, rfl⟩ := lags <;> rfl

/-- A row that has been heard from since the cutoff is as it was. -/
theorem eq_of_heard (lags : Lags cutoff r r') (heard : cutoff < r.lastHeartbeatAt) : r' = r := by
  rcases lags with same | ⟨silent, _⟩
  · exact same
  · omega

/-- A row that is online is as it was. -/
theorem eq_of_online (lags : Lags cutoff r r') (online : r'.state = .online) : r' = r := by
  obtain same | ⟨_, at_, rfl⟩ := lags
  · exact same
  · cases online

/-- Whether a row is fresh does not show the difference. -/
theorem fresh {now : Int} (lags : Lags cutoff r r') (later : cutoff ≤ asTimestamp now) :
    Store.isFresh now r' = Store.isFresh now r ∧ (Store.isFresh now r = true → r' = r) := by
  obtain rfl | ⟨silent, at_, rfl⟩ := lags
  · exact ⟨rfl, fun _ => rfl⟩
  · have stale : Store.isFresh now r = false := by
      unfold Store.isFresh
      rw [Bool.and_eq_false_iff]
      exact Or.inr (decide_eq_false (by omega))
    rw [stale]
    exact ⟨rfl, fun no => nomatch no⟩

/-- Closing a row that was closed already. -/
theorem closed (disconnectedAt : Option Int) (lags : Lags cutoff r r') :
    Store.close (fun _ => disconnectedAt) r' = Store.close (fun _ => disconnectedAt) r := by
  obtain rfl | ⟨_, at_, rfl⟩ := lags <;> rfl

/-- What a sweep makes of the row. -/
theorem reaped (lags : Lags cutoff r r') {now : Int} (later : cutoff ≤ asTimestamp now) :
    Lags (asTimestamp now) r (Store.reaped now r') := by
  obtain rfl | ⟨silent, at_, rfl⟩ := lags
  · unfold Store.reaped
    split
    · rename_i overdue
      obtain ⟨_, silent⟩ := Bool.and_eq_true_iff.mp overdue
      exact Or.inr ⟨of_decide_eq_true silent, _, rfl⟩
    · exact .refl _ _
  · exact Or.inr ⟨by omega, at_, rfl⟩

/-- What a sweep makes of both rows. -/
theorem reaped_both (lags : Lags cutoff r r') {now : Int} (later : cutoff ≤ asTimestamp now) :
    Lags (asTimestamp now) (Store.reaped now r) (Store.reaped now r') := by
  obtain rfl | ⟨silent, at_, rfl⟩ := lags
  · exact .refl _ _
  · have overdue : r.lastHeartbeatAt ≤ asTimestamp now := by omega
    unfold Store.reaped
    split
    · exact Or.inr ⟨overdue, at_, rfl⟩
    · exact Or.inr ⟨overdue, at_, rfl⟩

end Lags

namespace Store

variable {env : Env} {now : Int}

/-! ## Calls that leave the instances alone -/

/-- The tables with other instances. -/
def withInstances (s : Store) (t : Table InstanceRow.instanceId) : Store := { s with instances := t }

section Frames

variable (s : Store) (t : Table InstanceRow.instanceId)

theorem issueToken_withInstances (rawToken : String)
    (connectorId capabilityProfile displayLabel : Json) (expires : Int) :
    (s.withInstances t).issueToken env rawToken connectorId capabilityProfile displayLabel expires
        now =
      (s.issueToken env rawToken connectorId capabilityProfile displayLabel expires now).map
        (withInstances · t) := by
  unfold issueToken issueEnrollmentToken
  cases plusSeconds? now expires with
  | none => rfl
  | some expiresAt =>
      cases env.textColumn connectorId with
      | none => rfl
      | some connectorId =>
          cases env.textColumn capabilityProfile with
          | none => rfl
          | some capabilityProfile =>
              cases env.textColumn displayLabel with
              | none => rfl
              | some displayLabel =>
                  simp only [withInstances, Option.bind_eq_bind, Option.bind_some]
                  cases s.tokens.insert? _ <;> rfl

theorem createChallenge_withInstances (challenge : Challenge) :
    (s.withInstances t).createChallenge env challenge now =
      (s.createChallenge env challenge now).map (withInstances · t) := by
  unfold createChallenge
  simp only [withInstances]
  cases s.challenges.insert? _ <;> rfl

theorem consumeEnrollmentToken_withInstances (rawToken : Json) (connectorId : String) :
    (s.withInstances t).consumeEnrollmentToken env rawToken connectorId now =
      (s.consumeEnrollmentToken env rawToken connectorId now).map (withInstances · t) id := by
  unfold consumeEnrollmentToken
  simp only [withInstances]
  split
  · rfl
  · split
    · rfl
    · split
      · rfl
      · split <;> rfl

theorem consumeChallenge_withInstances (challengeId challenge : Json) :
    (s.withInstances t).consumeChallenge env challengeId challenge now =
      (s.consumeChallenge env challengeId challenge now).map (withInstances · t) := by
  unfold consumeChallenge
  simp only [withInstances]
  split
  · rfl
  · split <;> rfl

theorem enrollDevice_withInstances (connectorId : String) (publicKey : Json)
    (displayLabel capabilityProfile platform : String) :
    (s.withInstances t).enrollDevice env connectorId publicKey displayLabel capabilityProfile
        platform now =
      (s.enrollDevice env connectorId publicKey displayLabel capabilityProfile platform now).map
        (Option.map (withInstances · t)) := by
  unfold enrollDevice getDevice
  simp only [withInstances]
  split
  · rfl
  · split
    · rfl
    · split <;> rfl

theorem enrollVerified_withInstances (token : TokenRow) (challengeId challenge : Json)
    (connectorId : String) (enrollmentToken publicKey signature : Json) (platform : String) :
    (s.withInstances t).enrollVerified env token challengeId challenge connectorId enrollmentToken
        publicKey signature platform now =
      (s.enrollVerified env token challengeId challenge connectorId enrollmentToken publicKey
        signature platform now).map (withInstances · t) := by
  have device : (s.withInstances t).getDevice connectorId = s.getDevice connectorId := rfl
  unfold enrollVerified
  rw [device, enrollDevice_withInstances]
  split
  · rfl
  · split
    · rfl
    · split
      · rfl
      · cases s.enrollDevice env connectorId publicKey token.displayLabel token.capabilityProfile
            platform now with
        | error e => rfl
        | ok enrolled => cases enrolled <;> rfl

theorem completeEnrollment_withInstances (challengeId challenge connectorId enrollmentToken
    publicKey signature platform : Json) :
    (s.withInstances t).completeEnrollment env challengeId challenge connectorId enrollmentToken
        publicKey signature platform now =
      (s.completeEnrollment env challengeId challenge connectorId enrollmentToken publicKey
        signature platform now).map (withInstances · t) id := by
  unfold completeEnrollment
  split
  · rfl
  · split
    · rfl
    · rw [consumeEnrollmentToken_withInstances]
      rcases s.consumeEnrollmentToken env enrollmentToken _ now with ⟨s₁, status⟩
      cases status with
      | accepted token =>
          simp only [Prod.map_apply, id_eq, consumeChallenge_withInstances]
          cases s₁.consumeChallenge env challengeId challenge now with
          | none => rfl
          | some s₂ =>
              simp only [Option.map_some, enrollVerified_withInstances]
              cases s₂.enrollVerified env token challengeId challenge _ enrollmentToken publicKey
                signature _ now <;> rfl
      | _ => rfl

theorem rename_withInstances (connectorId : String) (displayLabel : Json) :
    (s.withInstances t).rename env connectorId displayLabel =
      (s.rename env connectorId displayLabel).map (withInstances · t) := by
  have device : (s.withInstances t).getDevice connectorId = s.getDevice connectorId := rfl
  unfold rename
  rw [device]
  split
  · rfl
  · split
    · rfl
    · split <;> rfl

end Frames

variable {t : Int} {s s' : Store}

/-! ## Tables that reads have swept -/

/-- The second tables are the first, save that reads up to now may have closed silent rows. -/
inductive Lagging (env : Env) (now : Int) (s : Store) : Store → Prop
  | intro {instances : Table InstanceRow.instanceId}
      (lags : Table.Related (Lags (asTimestamp (freshAfter env now))) s.instances instances) :
      Lagging env now s (s.withInstances instances)

theorem cutoff_mono (later : t ≤ now) :
    asTimestamp (freshAfter env t) ≤ asTimestamp (freshAfter env now) := by
  refine asTimestamp_mono ?_
  unfold freshAfter plusSeconds
  omega

theorem Lagging.refl (s : Store) : Lagging env now s s := .intro (.refl (Lags.refl _) s.instances)

theorem Lagging.mono (later : t ≤ now) (lagging : Lagging env t s s') : Lagging env now s s' := by
  obtain ⟨lags⟩ := lagging
  exact .intro (lags.mono fun _ _ here => here.mono (cutoff_mono later))

/-- Two answers of a call: alike, with tables that lag. -/
def Follows (env : Env) (now : Int) (a b : Store × Bool) : Prop :=
  a.2 = b.2 ∧ Lagging env now a.1 b.1

theorem Lagging.orRefused {a b : Option Store} (lagging : Lagging env now s s')
    (alike : Option.Rel (Lagging env now) a b) :
    Follows env now (s.orRefused a) (s'.orRefused b) := by
  cases alike with
  | none => exact ⟨rfl, lagging⟩
  | some accepted => exact ⟨rfl, accepted⟩

/-! ### Sweeps -/

theorem Lagging.swept (lagging : Lagging env now s s') :
    Lagging env now s (s'.markStaleInstances (freshAfter env now)) := by
  obtain ⟨lags⟩ := lagging
  exact .intro (lags.updateRight (close_key _) fun _ _ here => here.reaped (Int.le_refl _))

theorem Lagging.swept_both (lagging : Lagging env now s s') :
    Lagging env now (s.markStaleInstances (freshAfter env now))
      (s'.markStaleInstances (freshAfter env now)) := by
  obtain ⟨lags⟩ := lagging
  exact .intro (s := s.markStaleInstances (freshAfter env now))
    (lags.updateWhere (close_key _) (close_key _) fun _ _ here => here.reaped_both (Int.le_refl _))

/-! ### Calls that write the instances -/

/-- A lookup by instance id. -/
theorem lags_find? {instances : Table InstanceRow.instanceId} {cutoff : Int}
    (lags : Table.Related (Lags cutoff) s.instances instances) (name : String) :
    (s.instances.find? name = none ∧ instances.find? name = none) ∨
      ∃ r r', s.instances.find? name = some r ∧ instances.find? name = some r' ∧
        Lags cutoff r r' :=
  lags.find?_cases (fun _ _ here => here.instanceId) name

/-- **A heartbeat that is in time is accepted of both, or of neither.** -/
theorem Lagging.heartbeat {instanceId : String} {generation : Nat} {epoch : Json}
    (lagging : Lagging env now s s')
    (inTime : ∀ name r new, Beats env s instanceId generation epoch name r new →
      asTimestamp (freshAfter env now) < r.lastHeartbeatAt) :
    Option.Rel (Lagging env now) (s.acceptHeartbeat env instanceId generation epoch now).toOption
      (s'.acceptHeartbeat env instanceId generation epoch now).toOption := by
  obtain ⟨lags⟩ := lagging
  rename_i instances
  cases accepted : s.acceptHeartbeat env instanceId generation epoch now with
  | ok s₁ =>
      obtain ⟨name, r, new, beats, rfl⟩ := acceptHeartbeat_iff.mp accepted
      have heard := inTime name r new beats
      have here : instances.find? name = some r := by
        rcases lags_find? lags name with ⟨absent, _⟩ | ⟨r₀, r', found, found', row⟩
        · rw [beats.found] at absent
          cases absent
        · rw [beats.found] at found
          cases found
          rw [found', row.eq_of_heard heard]
      have accepted' : (s.withInstances instances).acceptHeartbeat env instanceId generation epoch
          now = .ok ((s.withInstances instances).beaten name generation new now) :=
        acceptHeartbeat_iff.mpr ⟨name, r, new, { beats with found := here }, rfl⟩
      rw [accepted']
      refine .some (.intro (s := s.beaten name generation new now)
        (lags.attach.updateWhere (beat_key _ _) (beat_key _ _) fun r₀ r' both => ?_))
      obtain ⟨mem, row⟩ := both
      by_cases own : r₀.instanceId = name
      · have isRow : r₀ = r := Table.eq_of_key mem (Table.mem_of_find? beats.found)
          (own.trans (Table.key_of_find? beats.found).symm)
        rw [row.eq_of_heard (isRow ▸ heard)]
        exact .refl _ _
      · have own' : r'.instanceId ≠ name := fun same => own (row.instanceId.symm.trans same)
        rw [decide_eq_false own, decide_eq_false own']
        exact row
  | error e =>
      cases accepted' : (s.withInstances instances).acceptHeartbeat env instanceId generation epoch
          now with
      | error e' => exact .none
      | ok s₁ =>
          -- The row is online, so it is the row of the first tables, which would have accepted.
          obtain ⟨name, r', new, beats, rfl⟩ := acceptHeartbeat_iff.mp accepted'
          rcases lags_find? lags name with ⟨_, absent⟩ | ⟨r, r₀, found, found', row⟩
          · cases beats.found.symm.trans absent
          · obtain rfl := Option.some.inj (found'.symm.trans beats.found)
            obtain rfl := row.eq_of_online beats.online
            have accepts : s.acceptHeartbeat env instanceId generation epoch now =
                .ok (s.beaten name generation new now) :=
              acceptHeartbeat_iff.mpr ⟨name, _, new, { beats with found := found }, rfl⟩
            rw [accepts] at accepted
            cases accepted

theorem Lagging.disconnectRelay (lagging : Lagging env now s s') (instanceId : String)
    (generation : Nat) : Lagging env now (s.disconnectRelay env instanceId generation now)
      (s'.disconnectRelay env instanceId generation now) := by
  obtain ⟨lags⟩ := lagging
  rename_i instances
  unfold Store.disconnectRelay
  split
  · exact .intro lags
  · rename_i name parsed
    unfold disconnectInstance
    have own : (s.withInstances instances).instances.find? name = instances.find? name := rfl
    rw [own]
    rcases lags_find? lags name with ⟨absent, absent'⟩ | ⟨r, r', found, found', row⟩
    · rw [absent, absent']
      exact .intro lags
    · rw [found, found']
      simp only [row.generation]
      split
      · exact .intro lags
      · refine .intro (s := { s with instances := _ })
          (lags.updateWhere (close_key _) (close_key _) fun r₀ r₁ here => ?_)
        rw [here.instanceId, here.generation]
        split
        · rw [here.closed]
          exact .refl _ _
        · exact here

theorem Lagging.follows (lagging : Lagging env now s s') (accepted : Bool) :
    Follows env now (s, accepted) (s', accepted) := ⟨rfl, lagging⟩

/-- A revocation closes the rows that are still online. -/
theorem Lagging.revokeDevice (lagging : Lagging env now s s') (connectorId : String) :
    Option.Rel (Lagging env now) (s.revokeDevice connectorId now)
      (s'.revokeDevice connectorId now) := by
  obtain ⟨lags⟩ := lagging
  rename_i instances
  have device : (s.withInstances instances).getDevice connectorId = s.getDevice connectorId := rfl
  unfold Store.revokeDevice
  rw [device]
  split
  · exact .none
  · refine .some (.intro (s := { s with devices := _, instances := _ })
      (lags.updateWhere (close_key _) (close_key _) fun r r' here => ?_))
    rw [here.connectorId]
    rcases here with rfl | ⟨silent, at_, rfl⟩
    · exact .refl _ _
    · have closed : ∀ p : Bool, (if p && decide ((close (fun _ => at_) r).state ≠ .offline) then
          close (fun _ => some (asTimestamp now)) (close (fun _ => at_) r)
          else close (fun _ => at_) r) = close (fun _ => at_) r := by
        intro p
        cases p <;> rfl
      rw [closed]
      split
      · exact Or.inr ⟨silent, at_, rfl⟩
      · exact Or.inr ⟨silent, at_, rfl⟩

theorem Lagging.deleteRevokedDevice (lagging : Lagging env now s s') (connectorId : String) :
    Option.Rel (Lagging env now) (s.deleteRevokedDevice connectorId).toOption
      (s'.deleteRevokedDevice connectorId).toOption := by
  obtain ⟨lags⟩ := lagging
  rename_i instances
  have device : (s.withInstances instances).getDevice connectorId = s.getDevice connectorId := rfl
  unfold Store.deleteRevokedDevice
  rw [device]
  split
  · exact .none
  · split
    · exact .none
    · exact .some (.intro (s := { s with devices := _, instances := _ })
        (lags.deleteWhere fun r r' here => by rw [here.connectorId]))

theorem Lagging.comesOnline (lagging : Lagging env now s s') (row : InstanceRow) :
    Lagging env now (s.comesOnline row) (s'.comesOnline row) := by
  obtain ⟨lags⟩ := lagging
  refine .intro (s := s.comesOnline row) (lags.upsert (fun _ _ here => here.instanceId) (.refl _ row)
    fun old old' here _ => ?_)
  unfold replaceInstance
  rw [here.instanceId]
  exact .refl _ _

/-- The row that an authentication writes does not depend on the rows that are there. -/
theorem upsertPresence_withInstances (env : Env) (s : Store) (connectorId instanceId : String)
    (generation : Nat) (contextEpoch : Json) (capabilities : List String) (now : Int) :
    ∃ verdict : Except Exc (Option InstanceRow), ∀ instances,
      (s.withInstances instances).upsertPresence env connectorId instanceId generation contextEpoch
          capabilities now =
        verdict.map (Option.map (s.withInstances instances).comesOnline) := by
  unfold upsertPresence
  cases found : s.getDevice connectorId with
  | none => exact ⟨.ok none, fun t => by rw [show (s.withInstances t).getDevice connectorId = none from found]; rfl⟩
  | some device =>
      have found' : ∀ t, (s.withInstances t).getDevice connectorId = some device := fun _ => found
      simp only [found']
      split
      · exact ⟨.ok none, fun _ => rfl⟩
      · split
        · exact ⟨.ok none, fun _ => rfl⟩
        · cases env.naturalColumn contextEpoch with
          | none => exact ⟨.error .escape, fun _ => rfl⟩
          | some epoch => exact ⟨.ok (some _), fun _ => rfl⟩

theorem authenticateVerified_withInstances (env : Env) (s : Store) (challengeId challenge : Json)
    (connectorId instanceId : String) (contextEpoch signature : Json) (generation : Nat)
    (capabilities : List String) (now : Int) :
    ∃ verdict : Except Exc InstanceRow, ∀ instances,
      (s.withInstances instances).authenticateVerified env challengeId challenge connectorId
          instanceId contextEpoch signature generation capabilities now =
        verdict.map (s.withInstances instances).comesOnline := by
  obtain ⟨verdict, upserts⟩ := upsertPresence_withInstances env s connectorId instanceId generation
    contextEpoch capabilities now
  have device : ∀ t, (s.withInstances t).getDevice connectorId = s.getDevice connectorId :=
    fun _ => rfl
  unfold authenticateVerified
  simp only [device, upserts]
  split
  · exact ⟨.error _, fun _ => rfl⟩
  · split
    · exact ⟨.error _, fun _ => rfl⟩
    · split
      · exact ⟨.error _, fun _ => rfl⟩
      · split
        · exact ⟨.error _, fun _ => rfl⟩
        · cases verdict with
          | error e => exact ⟨.error _, fun _ => rfl⟩
          | ok row =>
              cases row with
              | none => exact ⟨.error _, fun _ => rfl⟩
              | some row => exact ⟨.ok row, fun _ => rfl⟩

theorem Lagging.authenticateRelay (lagging : Lagging env now s s') (challengeId challenge
    connectorId instanceId contextEpoch signature : Json) (generation : Nat)
    (capabilities : List String) :
    Follows env now (s.perform env now (.authenticateRelay challengeId challenge connectorId
        instanceId contextEpoch signature generation capabilities))
      (s'.perform env now (.authenticateRelay challengeId challenge connectorId instanceId
        contextEpoch signature generation capabilities)) := by
  obtain ⟨lags⟩ := lagging
  rename_i instances
  simp only [perform]
  unfold Store.authenticateRelay
  split
  · exact ⟨rfl, .intro lags⟩
  · split
    · exact ⟨rfl, .intro lags⟩
    · rename_i connector _ _ instance_ _
      rw [consumeChallenge_withInstances]
      cases consumed : s.consumeChallenge env challengeId challenge now with
      | none => exact ⟨rfl, .intro lags⟩
      | some s₁ =>
          have lags : Table.Related (Lags (asTimestamp (freshAfter env now))) s₁.instances
              instances := by
            rw [(consumeChallenge_same consumed).2]
            exact lags
          obtain ⟨verdict, verified⟩ := authenticateVerified_withInstances env s₁ challengeId
            challenge connector instance_ contextEpoch signature generation capabilities now
          have here := verified s₁.instances
          have there := verified instances
          rw [show s₁.withInstances s₁.instances = s₁ from rfl] at here
          simp only [Option.map_some, here, there]
          have close : Lagging env now s₁ (s₁.withInstances instances) := .intro lags
          cases verdict with
          | error e => exact close.follows false
          | ok row => exact (close.comesOnline row).follows true

theorem completeEnrollment_instances {challengeId challenge connectorId token publicKey signature
    platform : Json} {result : Except Exc String}
    (done : s.completeEnrollment env challengeId challenge connectorId token publicKey signature
      platform now = (s', result)) : s'.instances = s.instances := by
  cases completeEnrollment_steps done with
  | refused | unchallenged | unverified => rfl
  | enrolled tokenOpen challengeOpen as =>
      rw [as.stored]
      rfl

/-! ### Any call -/

/-- A heartbeat that is accepted finds a row that has not fallen silent. -/
def InTime (env : Env) (s : Store) (now : Int) : DeviceCall → Prop
  | .heartbeat instanceId generation epoch => ∀ name r new,
      Beats env s instanceId generation epoch name r new →
        asTimestamp (freshAfter env now) < r.lastHeartbeatAt
  | _ => True

/-- A call that leaves the instances alone. -/
theorem Lagging.orRefused_map {a : Option Store} {instances : Table InstanceRow.instanceId}
    (lags : Table.Related (Lags (asTimestamp (freshAfter env now))) s.instances instances)
    (kept : ∀ s', a = some s' → s'.instances = s.instances) :
    Follows env now (s.orRefused a)
      ((s.withInstances instances).orRefused (a.map (withInstances · instances))) := by
  cases a with
  | none => exact ⟨rfl, .intro lags⟩
  | some s' =>
      have lags : Table.Related (Lags (asTimestamp (freshAfter env now))) s'.instances instances := by
        rw [kept s' rfl]
        exact lags
      exact ⟨rfl, .intro lags⟩

theorem toOption_map {ε α β : Type} (x : Except ε α) (f : α → β) :
    (x.map f).toOption = x.toOption.map f := by
  cases x <;> rfl

theorem ok_of_toOption {ε α : Type} {x : Except ε α} {a : α} (is : x.toOption = some a) :
    x = .ok a := by
  cases x with
  | error e => cases is
  | ok b => rw [Option.some.inj is]

/-- **One call on tables that reads have swept.**  If it is in time where nothing was swept, it is
accepted of both or of neither, and the tables stay as close. -/
theorem Lagging.perform (lagging : Lagging env now s s') {call : DeviceCall}
    (inTime : s.InTime env now call) :
    Follows env now (s.perform env now call) (s'.perform env now call) := by
  cases call with
  | heartbeat instanceId generation epoch =>
      have alike := lagging.heartbeat inTime
      simp only [Store.perform]
      exact lagging.orRefused alike
  | disconnectRelay instanceId generation =>
      simp only [Store.perform]
      exact (lagging.disconnectRelay instanceId generation).follows true
  | revokeDevice connectorId =>
      have alike := lagging.revokeDevice connectorId
      simp only [Store.perform]
      exact lagging.orRefused alike
  | deleteRevokedDevice connectorId =>
      have alike := lagging.deleteRevokedDevice connectorId
      simp only [Store.perform]
      exact lagging.orRefused alike
  | authenticateRelay challengeId challenge connectorId instanceId epoch signature generation
      capabilities =>
      exact lagging.authenticateRelay challengeId challenge connectorId instanceId epoch signature
        generation capabilities
  | issueToken rawToken connectorId profile label expires =>
      obtain ⟨lags⟩ := lagging
      simp only [Store.perform, issueToken_withInstances, toOption_map]
      exact orRefused_map lags fun s' is => issueToken_instances (ok_of_toOption is)
  | issueChallenge challenge =>
      obtain ⟨lags⟩ := lagging
      simp only [Store.perform, createChallenge_withInstances]
      exact orRefused_map lags fun s' is => createChallenge_instances is
  | renameDevice connectorId label =>
      obtain ⟨lags⟩ := lagging
      simp only [Store.perform, rename_withInstances, toOption_map]
      exact orRefused_map lags fun s' is => rename_instances (ok_of_toOption is)
  | completeEnrollment challengeId challenge connectorId token publicKey signature platform =>
      obtain ⟨lags⟩ := lagging
      rename_i instances
      have frame := @completeEnrollment_withInstances env now s instances challengeId challenge
        connectorId token publicKey signature platform
      rcases done : s.completeEnrollment env challengeId challenge connectorId token publicKey
        signature platform now with ⟨s₁, result⟩
      rw [done] at frame
      have lags : Table.Related (Lags (asTimestamp (freshAfter env now))) s₁.instances
          instances := by
        rw [completeEnrollment_instances done]
        exact lags
      simp only [Store.perform, done, frame, Prod.map_apply, id_eq]
      exact ⟨rfl, .intro lags⟩

/-! ### Reads -/

theorem Lagging.getDevice (lagging : Lagging env now s s') (connectorId : String) :
    s'.getDevice connectorId = s.getDevice connectorId := by
  obtain ⟨_⟩ := lagging
  rfl

theorem Lagging.freshRows (lagging : Lagging env now s s') (connectorId : String) :
    s'.freshRows connectorId (freshAfter env now) = s.freshRows connectorId (freshAfter env now) := by
  obtain ⟨lags⟩ := lagging
  refine lags.filter_eq (fun r r' here => ?_) fun r r' here selected => ?_
  · rw [here.connectorId, (here.fresh (Int.le_refl _)).1]
  · exact (here.fresh (Int.le_refl _)).2 (Bool.and_eq_true_iff.mp selected).2

theorem Lagging.latest (lagging : Lagging env now s s') (connectorId : String) :
    (s'.latestOnlineInstance connectorId (freshAfter env now)).2 =
      (s.latestOnlineInstance connectorId (freshAfter env now)).2 := by
  rw [latestOnlineInstance_eq, latestOnlineInstance_eq, lagging.freshRows]

theorem Lagging.exact (lagging : Lagging env now s s') (connectorId instanceId : String) :
    (s'.exactOnlineInstance connectorId instanceId (freshAfter env now)).2 =
      (s.exactOnlineInstance connectorId instanceId (freshAfter env now)).2 := by
  unfold exactOnlineInstance
  have swept := lagging.swept_both
  generalize s.markStaleInstances (freshAfter env now) = a,
    s'.markStaleInstances (freshAfter env now) = b at swept ⊢
  obtain ⟨lags⟩ := swept
  rename_i instances
  have own : (a.withInstances instances).instances.find? instanceId = instances.find? instanceId :=
    rfl
  simp only [own]
  rcases lags_find? lags instanceId with ⟨absent, absent'⟩ | ⟨r, r', found, found', row⟩
  · rw [absent, absent']
  · rw [found, found']
    obtain ⟨alike, equal⟩ := row.fresh (Int.le_refl _)
    rw [Option.filter_some, Option.filter_some, row.connectorId, alike]
    split
    · rename_i selected
      rw [equal (Bool.and_eq_true_iff.mp selected).2]
    · rfl

/-- A status is the same, and leaves tables that are as close. -/
theorem Lagging.deviceStatus (lagging : Lagging env now s s') (connectorId : String) :
    (s'.deviceStatus env connectorId now).2 = (s.deviceStatus env connectorId now).2 ∧
      Lagging env now (s.deviceStatus env connectorId now).1
        (s'.deviceStatus env connectorId now).1 ∧
      Lagging env now s (s'.deviceStatus env connectorId now).1 := by
  have latest := lagging.latest connectorId
  unfold Store.deviceStatus
  rw [lagging.getDevice]
  split
  · exact ⟨rfl, lagging, lagging⟩
  · simp only [latest]
    exact ⟨trivial, lagging.swept_both, lagging.swept⟩

theorem Lagging.operatorDevices (lagging : Lagging env now s s') :
    (s'.operatorDevices env now).2 = (s.operatorDevices env now).2 ∧
      Lagging env now s (s'.operatorDevices env now).1 := by
  have fold : ∀ (devices : List DeviceRow) (a b : Store)
      (statuses : List (Except AgentCode DeviceStatus)), Lagging env now a b → Lagging env now s b →
      (devices.foldl (fun (s, statuses) device =>
        let (s, status) := s.deviceStatus env device.connectorId now
        (s, statuses ++ [status])) (b, statuses)).2 =
      (devices.foldl (fun (s, statuses) device =>
        let (s, status) := s.deviceStatus env device.connectorId now
        (s, statuses ++ [status])) (a, statuses)).2 ∧
      Lagging env now s (devices.foldl (fun (s, statuses) device =>
        let (s, status) := s.deviceStatus env device.connectorId now
        (s, statuses ++ [status])) (b, statuses)).1 := by
    intro devices
    induction devices with
    | nil => exact fun a b statuses _ own => ⟨rfl, own⟩
    | cons device devices ih =>
        intro a b statuses close own
        obtain ⟨same, after, _⟩ := close.deviceStatus device.connectorId
        obtain ⟨_, _, own⟩ := own.deviceStatus device.connectorId
        simp only [List.foldl_cons]
        rw [same]
        exact ih _ _ _ after own
  have devices : s'.devices = s.devices := by
    obtain ⟨_⟩ := lagging
    rfl
  unfold Store.operatorDevices
  rw [devices]
  exact fold _ s s' [] lagging lagging

theorem Lagging.agentInventory (lagging : Lagging env now s s') :
    (s'.agentInventory env now).2 = (s.agentInventory env now).2 := by
  have devices : s'.devices = s.devices := by
    obtain ⟨_⟩ := lagging
    rfl
  have joined : (s'.markStaleInstances (freshAfter env now)).joined (freshAfter env now) =
      (s.markStaleInstances (freshAfter env now)).joined (freshAfter env now) := by
    have rows : (s'.markStaleInstances (freshAfter env now)).devices =
        (s.markStaleInstances (freshAfter env now)).devices := devices
    unfold Store.joined
    rw [rows]
    simp only [lagging.swept_both.freshRows]
  unfold Store.agentInventory onlineAgents
  unfold Store.joined Store.freshRows at joined
  simp only [joined]

theorem Lagging.relaySession (lagging : Lagging env now s s') (connectorId : String)
    (instanceId : Option String) :
    (s'.read env now (.relaySession connectorId instanceId)).2 =
        (s.read env now (.relaySession connectorId instanceId)).2 ∧
      Lagging env now s (s'.read env now (.relaySession connectorId instanceId)).1 := by
  have looked : ∀ x y : Except Exc (Store × Option InstanceRow),
      (∃ a b, x = .ok a ∧ y = .ok b ∧ a.2 = b.2 ∧ Lagging env now s a.1) ∨
        (∃ e, x = .error e ∧ y = .error e) →
      (match x with
        | .ok (a, row) => (a, Reading.routed (.ok row))
        | .error e => (s', .routed (.error e))).2 =
      (match y with
        | .ok (b, row) => (b, Reading.routed (.ok row))
        | .error e => (s, .routed (.error e))).2 ∧
      Lagging env now s (match x with
        | .ok (a, row) => (a, Reading.routed (.ok row))
        | .error e => (s', .routed (.error e))).1 := by
    rintro x y (⟨⟨a, row⟩, ⟨b, row'⟩, rfl, rfl, same, own⟩ | ⟨e, rfl, rfl⟩)
    · obtain rfl : row = row' := same
      exact ⟨rfl, own⟩
    · exact ⟨rfl, lagging⟩
  refine looked _ _ ?_
  unfold Store.relaySession
  split
  · exact Or.inl ⟨_, _, rfl, rfl, lagging.latest connectorId, lagging.swept⟩
  · exact Or.inl ⟨_, _, rfl, rfl, lagging.latest connectorId, lagging.swept⟩
  · split
    · exact Or.inr ⟨_, rfl, rfl⟩
    · exact Or.inl ⟨_, _, rfl, rfl, lagging.exact connectorId _, lagging.swept⟩

/-- **Every read answers the same, and only sweeps.** -/
theorem Lagging.read (lagging : Lagging env now s s') (call : ReadCall) :
    (s'.read env now call).2 = (s.read env now call).2 ∧
      Lagging env now s (s'.read env now call).1 := by
  cases call with
  | deviceStatus connectorId =>
      obtain ⟨same, _, own⟩ := lagging.deviceStatus connectorId
      simp only [Store.read, same]
      exact ⟨trivial, own⟩
  | operatorDevices =>
      obtain ⟨same, own⟩ := lagging.operatorDevices
      simp only [Store.read, same]
      exact ⟨trivial, own⟩
  | onlineAgents =>
      simp only [Store.read, lagging.agentInventory]
      exact ⟨trivial, lagging.swept⟩
  | relaySession connectorId instanceId => exact lagging.relaySession connectorId instanceId

/-! ## Runs -/

/-- In the run of a history without reads, every call is in time. -/
def Steady (env : Env) (s : Store) (history : List (DeviceCall × Int)) : Prop :=
  ∀ past call now rest, history = past ++ (call, now) :: rest →
    (s.run env (Schedule.alone past)).1.InTime env now call

/-- Two schedules of which the same calls are accepted, and after which every read answers the
same, at every time that has not passed. -/
structure SameLiveness (env : Env) (s : Store) (first second : Schedule) : Prop where
  accepted : (s.run env first).2 = (s.run env second).2
  answered : ∀ now, (∀ c ∈ first ++ second, c.2 ≤ now) → ∀ call,
    ((s.run env first).1.read env now call).2 = ((s.run env second).1.read env now call).2

theorem run_read (env : Env) (s : Store) (call : ReadCall) (now : Int) (rest : Schedule) :
    s.run env ((.read call, now) :: rest) = (s.read env now call).1.run env rest := rfl

theorem run_device (env : Env) (s : Store) (call : DeviceCall) (now : Int) (rest : Schedule) :
    s.run env ((.device call, now) :: rest) =
      (((s.perform env now call).1.run env rest).1,
        (s.perform env now call).2 :: ((s.perform env now call).1.run env rest).2) := rfl

theorem Steady.cons {call : DeviceCall} {at_ : Int} {rest : List (DeviceCall × Int)}
    (steady : Steady env s ((call, at_) :: rest)) :
    s.InTime env at_ call ∧ Steady env (s.perform env at_ call).1 rest := by
  refine ⟨steady [] call at_ rest rfl, fun past later now more is => ?_⟩
  subst is
  exact steady ((call, at_) :: past) later now more rfl

/-- A schedule and its history alone, from tables that are close. -/
theorem run_lags {schedule : Schedule} (ordered : schedule.Ordered) (lagging : Lagging env t s s')
    (later : ∀ c ∈ schedule, t ≤ c.2) (steady : Steady env s schedule.history) :
    (s'.run env schedule).2 = (s.run env (Schedule.alone schedule.history)).2 ∧
      ∀ now, t ≤ now → (∀ c ∈ schedule, c.2 ≤ now) →
        Lagging env now (s.run env (Schedule.alone schedule.history)).1 (s'.run env schedule).1 := by
  induction schedule generalizing t s s' with
  | nil => exact ⟨rfl, fun now le _ => lagging.mono le⟩
  | cons c schedule ih =>
      obtain ⟨call, at_⟩ := c
      obtain ⟨before, tail⟩ := List.pairwise_cons.mp ordered
      have upcoming : ∀ c ∈ schedule, at_ ≤ c.2 := fun c mem =>
        before c.2 (List.mem_map_of_mem mem)
      have lagging := lagging.mono (later _ List.mem_cons_self)
      cases call with
      | read call =>
          obtain ⟨same, close⟩ := ih tail (lagging.read call).2 upcoming steady
          rw [run_read]
          exact ⟨same, fun now _ all => close now (all _ List.mem_cons_self)
            fun c mem => all c (List.mem_cons_of_mem _ mem)⟩
      | device call =>
          obtain ⟨inTime, steady⟩ := Steady.cons steady
          obtain ⟨alike, lagging⟩ := lagging.perform inTime
          obtain ⟨same, close⟩ := ih tail lagging upcoming steady
          have alone : Schedule.alone (Schedule.history ((.device call, at_) :: schedule)) =
              (.device call, at_) :: Schedule.alone (Schedule.history schedule) := rfl
          rw [alone, run_device, run_device, alike, same]
          exact ⟨rfl, fun now _ all => close now (all _ List.mem_cons_self)
            fun c mem => all c (List.mem_cons_of_mem _ mem)⟩

/-- A schedule and its history alone. -/
theorem run_alone {schedule : Schedule} (ordered : schedule.Ordered)
    (steady : Steady env s schedule.history) :
    (s.run env schedule).2 = (s.run env (Schedule.alone schedule.history)).2 ∧
      ∀ now, (∀ c ∈ schedule, c.2 ≤ now) →
        Lagging env now (s.run env (Schedule.alone schedule.history)).1 (s.run env schedule).1 := by
  cases schedule with
  | nil => exact ⟨rfl, fun now _ => .refl s⟩
  | cons c schedule =>
      have later : ∀ c' ∈ c :: schedule, c.2 ≤ c'.2 := by
        intro c' mem
        rcases List.mem_cons.mp mem with rfl | mem
        · exact Int.le_refl _
        · exact (List.pairwise_cons.mp ordered).1 c'.2 (List.mem_map_of_mem mem)
      obtain ⟨same, close⟩ := run_lags ordered (.refl s) later steady
      exact ⟨same, fun now all => close now (all c List.mem_cons_self) all⟩

theorem run_append (env : Env) (s : Store) (first second : Schedule) :
    s.run env (first ++ second) = ((((s.run env first).1).run env second).1,
      (s.run env first).2 ++ (((s.run env first).1).run env second).2) := by
  induction first generalizing s with
  | nil => rfl
  | cons c first ih =>
      obtain ⟨call, now⟩ := c
      cases call with
      | read call => exact ih _
      | device call =>
          rw [List.cons_append, run_device, run_device, ih]
          rfl

theorem history_alone (history : List (DeviceCall × Int)) :
    (Schedule.alone history).history = history := by
  unfold Schedule.history Schedule.alone
  rw [List.filterMap_map]
  exact List.filterMap_some

theorem alone_concat (past : List (DeviceCall × Int)) (call : DeviceCall) (now : Int) :
    Schedule.alone (past ++ [(call, now)]) = Schedule.alone past ++ [(.device call, now)] :=
  List.map_append

theorem alone_ordered {history : List (DeviceCall × Int)} :
    (Schedule.alone history).Ordered ↔ (history.map Prod.snd).Pairwise (· ≤ ·) := by
  unfold Schedule.Ordered Schedule.alone
  rw [List.map_map]
  rfl

/-- A heartbeat that is accepted after its row has fallen silent is refused after a read. -/
theorem read_refuses {instanceId : String} {generation : Nat} {epoch : Json} {name : String}
    {r : InstanceRow} {new : Json} (beats : Beats env s instanceId generation epoch name r new)
    (silent : r.lastHeartbeatAt ≤ asTimestamp (freshAfter env now)) :
    (s.perform env now (.heartbeat instanceId generation epoch)).2 = true ∧
      ((s.read env now .onlineAgents).1.perform env now
        (.heartbeat instanceId generation epoch)).2 = false := by
  have accepts : s.acceptHeartbeat env instanceId generation epoch now =
      .ok (s.beaten name generation new now) := acceptHeartbeat_iff.mpr ⟨name, r, new, beats, rfl⟩
  have swept : (s.read env now .onlineAgents).1 = s.markStaleInstances (freshAfter env now) := rfl
  constructor
  · simp only [perform, accepts]
    rfl
  · rw [swept]
    simp only [perform]
    cases accepted : (s.markStaleInstances (freshAfter env now)).acceptHeartbeat env instanceId
        generation epoch now with
    | error e => rfl
    | ok s₁ =>
        obtain ⟨name', r', new', beats', _⟩ := acceptHeartbeat_iff.mp accepted
        obtain rfl := Except.ok.inj (beats.parsed.symm.trans beats'.parsed)
        have found := beats'.found
        rw [find?_markStaleInstances, beats.found, Option.map_some, Option.some.injEq] at found
        have online := beats'.online
        rw [← found] at online
        unfold reaped at online
        rw [decide_eq_true beats.online, decide_eq_true silent] at online
        cases online

/-- **Reads and liveness.**  For every history of device calls under a clock that does not run
backwards, from any tables: whatever reads are put between the calls of each of its beginnings,
the same calls are accepted and the same answers given, exactly when in the run without reads
every heartbeat that is accepted is in time. -/
theorem liveness_by_history_iff (env : Env) (s : Store) {history : List (DeviceCall × Int)}
    (ordered : (history.map Prod.snd).Pairwise (· ≤ ·)) :
    (∀ past, past <+: history → ∀ first second : Schedule, first.Ordered → second.Ordered →
      first.history = past → second.history = past → SameLiveness env s first second) ↔
    Steady env s history := by
  constructor
  · rintro same past call now rest rfl
    cases call with
    | heartbeat instanceId generation epoch =>
        intro name r new beats
        by_contra silent
        have silent : r.lastHeartbeatAt ≤ asTimestamp (freshAfter env now) := by omega
        obtain ⟨accepted, refused⟩ := read_refuses beats silent
        -- The same past, then the heartbeat; and with an inventory read before it.
        generalize isCall : DeviceCall.heartbeat instanceId generation epoch = call
          at accepted refused same ordered
        have upTo : past ++ [(call, now)] <+: past ++ (call, now) :: rest :=
          ⟨rest, by simp only [List.append_assoc, List.cons_append, List.nil_append]⟩
        have clock := ordered.sublist (upTo.map Prod.snd).sublist
        have one := same (past ++ [(call, now)]) upTo
          (Schedule.alone past ++ [(.device call, now)])
          (Schedule.alone past ++ [(.read .onlineAgents, now), (.device call, now)])
          ?_ ?_ ?_ ?_
        · have alike := one.accepted
          rw [run_append, run_append, run_device, run_read, run_device, accepted, refused] at alike
          have alike := List.append_cancel_left alike
          cases alike
        · rw [← alone_concat, alone_ordered]
          exact clock
        · rw [List.map_append] at clock
          obtain ⟨before, _, last⟩ := List.pairwise_append.mp clock
          unfold Schedule.Ordered
          rw [List.map_append]
          refine List.pairwise_append.mpr ⟨alone_ordered.mpr before, ?_, ?_⟩
          · exact List.pairwise_pair.mpr (Int.le_refl now)
          · intro earlier mem later isNow
            have isNow : later = now := by simpa using isNow
            rw [isNow]
            unfold Schedule.alone at mem
            rw [List.map_map] at mem
            exact last earlier mem now (List.mem_singleton_self now)
        · rw [← alone_concat, history_alone]
        · have parts : Schedule.history
              (Schedule.alone past ++ [(.read .onlineAgents, now), (.device call, now)]) =
                Schedule.history (Schedule.alone past) ++ [(call, now)] := List.filterMap_append
          rw [parts, history_alone]
    | _ => exact trivial
  · rintro steady past ⟨rest, rfl⟩ first second ordered₁ ordered₂ rfl is₂
    have steady : Steady env s (Schedule.history first) := by
      intro before call now after is
      exact steady before call now (after ++ rest)
        (by rw [is, List.append_assoc, List.cons_append])
    obtain ⟨same₁, close₁⟩ := run_alone ordered₁ steady
    obtain ⟨same₂, close₂⟩ := run_alone ordered₂ (is₂ ▸ steady)
    rw [is₂] at same₂ close₂
    refine ⟨same₁.trans same₂.symm, fun now all call => ?_⟩
    have lags₁ := close₁ now fun c mem => all c (List.mem_append_left _ mem)
    have lags₂ := close₂ now fun c mem => all c (List.mem_append_right _ mem)
    rw [(lags₁.read call).1, (lags₂.read call).1]

/-! ## Runs -/

/-- A check that implies that a call is in time. -/
def inTime (env : Env) (s : Store) (now : Int) : DeviceCall → Bool
  | .heartbeat instanceId _ _ =>
      match parseInstanceId env (.str instanceId) with
      | .error _ => true
      | .ok name => (s.instances.find? name).all fun r =>
          decide (asTimestamp (freshAfter env now) < r.lastHeartbeatAt)
  | _ => true

/-- The check for every call of a history. -/
def steady (env : Env) (s : Store) : List (DeviceCall × Int) → Bool
  | [] => true
  | (call, now) :: rest => s.inTime env now call && steady env (s.perform env now call).1 rest

theorem inTime_sound {call : DeviceCall} (checked : s.inTime env now call = true) :
    s.InTime env now call := by
  cases call with
  | heartbeat instanceId generation epoch =>
      intro name r new beats
      unfold inTime at checked
      simp only [beats.parsed, beats.found, Option.all_some] at checked
      exact of_decide_eq_true checked
  | _ => exact trivial

theorem steady_sound {history : List (DeviceCall × Int)} (checked : s.steady env history = true) :
    Steady env s history := by
  induction history generalizing s with
  | nil =>
      intro past call now rest is
      cases past <;> cases is
  | cons c history ih =>
      obtain ⟨first, others⟩ := Bool.and_eq_true_iff.mp checked
      intro past call now rest is
      cases past with
      | nil =>
          cases is
          exact inTime_sound first
      | cons c' past =>
          cases is
          exact ih others past call now rest rfl

end Store

namespace Sample

/-- The first device enrolls, authenticates at second 4 and sends one heartbeat. -/
def presence (beatAt : Int) : List (DeviceCall × Int) :=
  [(.issueToken rawToken (.str "pc-1") (.str "full_agent") (.str "PC 1") 600, second 0),
    (.issueChallenge firstChallenge, second 1),
    (.completeEnrollment (.str firstChallenge.challengeId) (.str firstChallenge.challenge)
      (.str "pc-1") (.str rawToken) (.str publicKey) (.str enrollSignature) (.str "linux"), second 2),
    (.issueChallenge secondChallenge, second 3),
    (.authenticateRelay (.str secondChallenge.challengeId) (.str secondChallenge.challenge)
      (.str "pc-1") (.str "i-1") (.int 1) (.str authenticateSignature) 0 [], second 4),
    (.heartbeat "i-1" 0 (.int 2), second beatAt)]

end Sample

namespace Store

/-- A heartbeat after 15 seconds: the inventory asked for just before it makes no difference. -/
theorem liveness_by_history_iff_inTime : ∃ first second : Schedule,
    first.Ordered ∧ second.Ordered ∧ first.history = Sample.presence 19 ∧
    second.history = Sample.presence 19 ∧ first.length = 6 ∧ second.length = 7 ∧
    SameLiveness Sample.env Store.empty first second := by
  have clock : ((Sample.presence 19).map Prod.snd).Pairwise (· ≤ ·) := by decide +kernel
  have checked : Store.empty.steady Sample.env (Sample.presence 19) = true := by decide +kernel
  have ordered : (Schedule.alone (Sample.presence 19)).Ordered := by
    unfold Schedule.Ordered
    decide +kernel
  have ordered' : Schedule.Ordered ((Schedule.alone (Sample.presence 19)).take 5 ++
      (.read .onlineAgents, Sample.second 18) ::
        (Schedule.alone (Sample.presence 19)).drop 5) := by
    unfold Schedule.Ordered
    decide +kernel
  refine ⟨_, _, ordered, ordered', rfl, rfl, rfl, rfl, ?_⟩
  exact (liveness_by_history_iff Sample.env Store.empty clock).mpr (steady_sound checked) _
    (List.prefix_refl _) _ _ ordered ordered' rfl rfl

/-- **A read decides a heartbeat.**  After 76 seconds of silence the heartbeat is accepted, and
the device is online, unless somebody has asked for the inventory before. -/
theorem read_decides_heartbeat : ∃ first second : Schedule, first.Ordered ∧ second.Ordered ∧
    first.history = second.history ∧
    (Store.empty.run Sample.env first).2 = [true, true, true, true, true, true] ∧
    (Store.empty.run Sample.env second).2 = [true, true, true, true, true, false] ∧
    (Store.empty.run Sample.env first).1.reportsOnline Sample.env "pc-1" (Sample.second 81) = true ∧
    (Store.empty.run Sample.env second).1.reportsOnline Sample.env "pc-1" (Sample.second 81) =
      false ∧
    ¬ SameLiveness Sample.env Store.empty first second := by
  have ordered : (Schedule.alone (Sample.presence 80)).Ordered := by
    unfold Schedule.Ordered
    decide +kernel
  have ordered' : Schedule.Ordered ((Schedule.alone (Sample.presence 80)).take 5 ++
      (.read .onlineAgents, Sample.second 80) ::
        (Schedule.alone (Sample.presence 80)).drop 5) := by
    unfold Schedule.Ordered
    decide +kernel
  refine ⟨_, _, ordered, ordered', rfl, ?_⟩
  have first : (Store.empty.run Sample.env (Schedule.alone (Sample.presence 80))).2 =
      [true, true, true, true, true, true] := by decide +kernel
  have second : (Store.empty.run Sample.env ((Schedule.alone (Sample.presence 80)).take 5 ++
      (.read .onlineAgents, Sample.second 80) ::
        (Schedule.alone (Sample.presence 80)).drop 5)).2 =
      [true, true, true, true, true, false] := by decide +kernel
  refine ⟨first, second, by decide +kernel, by decide +kernel, fun same => ?_⟩
  have alike := same.accepted
  rw [first, second] at alike
  exact absurd alike (by decide)

end Store

end RemoteAgent
