import RemoteAgent.CapabilityCeiling
import RemoteAgent.Lib.References
import RemoteAgent.Lifecycle

/-!
# The tables of a run

The schema refers from `live_instances` to `remote_agent_devices`, and SQLite enforces it.
`tables_sound`: in every run the reference holds after each event, so that the check never
fails; only an enrolled device has an instance online; the two timestamps that are null
until an end is written are so exactly until then; and the inventory, which joins the two
tables and asks for enrolled devices again, leaves no live instance out.
-/

open Wire Storage Transition

namespace RemoteAgent

namespace Store

variable {env : Env} {s s' : Store}

/-- Every instance names a device. -/
def Referenced (s : Store) : Prop := s.instances.References InstanceRow.connectorId s.devices

/-- A device is revoked exactly if it has a time of revocation. -/
def Dated (s : Store) : Prop :=
  ∀ r ∈ s.devices, r.enrollmentState = .revoked ↔ r.revokedAt ≠ none

/-! ## References -/

theorem Referenced.aged (referenced : s.Referenced) (aged : Aged s s')
    (same : s'.devices = s.devices) : s'.Referenced := by
  unfold Referenced
  rw [same]
  refine Table.References.child_from referenced fun r' mem' => ?_
  obtain ⟨r, mem, from_⟩ := aged.instances r' mem'
  exact ⟨r, mem, from_.connectorId⟩

theorem Referenced.revoke {connectorId : String} {now : Int} (referenced : s.Referenced)
    (revoked : s.revokeDevice connectorId now = some s') : s'.Referenced := by
  unfold revokeDevice at revoked
  split at revoked
  · cases revoked
  · cases revoked
    refine Table.References.updateParent (Table.References.child_from referenced ?_) _ _
      (DeviceRow.revoke_key _)
    intro r' mem'
    obtain ⟨r, mem, from_⟩ := instances_updateWhere (close_key _) (close_from _) r' mem'
    exact ⟨r, mem, from_.connectorId⟩

theorem Referenced.delete {connectorId : String} (referenced : s.Referenced)
    (deleted : s.deleteRevokedDevice connectorId = .ok s') : s'.Referenced := by
  unfold deleteRevokedDevice at deleted
  split at deleted
  · cases deleted
  · split at deleted
    · cases deleted
    · cases deleted
      exact Table.References.cascade referenced connectorId

theorem Referenced.rename {connectorId : String} {label : Json} (referenced : s.Referenced)
    (renamed : s.rename env connectorId label = .ok s') : s'.Referenced := by
  unfold Store.rename at renamed
  split at renamed
  · cases renamed
  · split at renamed
    · cases renamed
    · split at renamed
      · cases renamed
      · cases renamed
        exact Table.References.updateParent referenced _ _ (DeviceRow.rename_key _)

theorem Referenced.enroll {r : EnrollRequest} {result : Except Exc String}
    (referenced : s.Referenced) (steps : EnrollSteps env s r s' result) : s'.Referenced := by
  cases steps with
  | refused x => exact referenced
  | unchallenged tokenOpen closed => exact referenced
  | unverified x tokenOpen challengeOpen => exact referenced
  | enrolled tokenOpen challengeOpen as =>
      rw [as.stored]
      exact Table.References.insertOrIgnore referenced _

theorem Referenced.authenticate {generation : Nat} {challenge : Challenge} {message : Json}
    {now : Int} {result : Except Exc AgentRelaySession} (referenced : s.Referenced)
    (steps : AuthenticateSteps env s generation challenge message now s' result) :
    s'.Referenced := by
  cases steps with
  | refused x => exact referenced
  | unverified x own challengeOpen => exact referenced
  | authenticated challengeOpen as =>
      obtain ⟨device, _, found, _⟩ := as.device
      obtain ⟨row, _, connector, _, _, rfl⟩ := as.stored
      refine Table.References.upsert referenced (replaceInstance_key row) (fun _ => rfl) ?_
      rw [connector]
      exact Option.isSome_iff_exists.mpr ⟨device, found⟩

/-! ## Times of revocation -/

theorem Dated.revoke {connectorId : String} {now : Int} (dated : s.Dated)
    (revoked : s.revokeDevice connectorId now = some s') : s'.Dated := by
  unfold revokeDevice at revoked
  split at revoked
  · cases revoked
  · cases revoked
    intro r mem
    have mem : r ∈ s.devices.updateWhere _ _ (DeviceRow.revoke_key _) := mem
    obtain ⟨old, memOld, rfl⟩ := Table.mem_updateWhere.mp mem
    split
    · exact iff_of_true rfl (Option.some_ne_none _)
    · exact dated old memOld

theorem Dated.delete {connectorId : String} (dated : s.Dated)
    (deleted : s.deleteRevokedDevice connectorId = .ok s') : s'.Dated := by
  unfold deleteRevokedDevice at deleted
  split at deleted
  · cases deleted
  · split at deleted
    · cases deleted
    · cases deleted
      exact fun r mem => dated r (Table.mem_deleteWhere.mp mem).1

theorem Dated.rename {connectorId : String} {label : Json} (dated : s.Dated)
    (renamed : s.rename env connectorId label = .ok s') : s'.Dated := by
  unfold Store.rename at renamed
  split at renamed
  · cases renamed
  · split at renamed
    · cases renamed
    · split at renamed
      · cases renamed
      · cases renamed
        intro r mem
        have mem : r ∈ s.devices.updateWhere _ _ (DeviceRow.rename_key _) := mem
        obtain ⟨old, memOld, rfl⟩ := Table.mem_updateWhere.mp mem
        split
        · exact dated old memOld
        · exact dated old memOld

/-- An enrolled device has no time of revocation. -/
theorem enrollDevice_dated {connectorId label profile platform : String} {publicKey : Json}
    {now : Int} (enrolled : s.enrollDevice env connectorId publicKey label profile platform now =
      .ok (some s')) (dated : s.Dated) : s'.Dated := by
  unfold enrollDevice at enrolled
  split at enrolled
  · cases enrolled
  · split at enrolled
    · cases enrolled
    · split at enrolled
      · cases enrolled
      · cases enrolled
        intro r mem
        rcases Table.mem_insertOrIgnore.mp mem with old | ⟨rfl, _⟩
        · exact dated r old
        · exact iff_of_false (fun same => nomatch same) (fun some_ => some_ rfl)

theorem Dated.of_devices (dated : s.Dated) (same : s'.devices = s.devices) : s'.Dated := by
  unfold Dated
  rw [same]
  exact dated

theorem Dated.enrollVerified {token : TokenRow} {challengeId challenge enrollmentToken : Json}
    {connectorId platform : String} {publicKey signature : Json} {now : Int} (dated : s.Dated)
    (enrolled : s.enrollVerified env token challengeId challenge connectorId enrollmentToken
      publicKey signature platform now = .ok s') : s'.Dated := by
  unfold Store.enrollVerified at enrolled
  split at enrolled
  · cases enrolled
  · split at enrolled
    · cases enrolled
    · split at enrolled
      · cases enrolled
      · split at enrolled
        · cases enrolled
        · cases enrolled
        · rename_i stored
          cases enrolled
          exact enrollDevice_dated stored dated

/-- An enrollment touches the devices only where it enrolls one. -/
theorem Dated.enroll {message : Json} {now : Int} {result : Except Exc String}
    (dated : s.Dated) (done : s.handleEnroll env message now = (s', result)) : s'.Dated := by
  unfold handleEnroll at done
  split at done
  · cases done
    exact dated
  · split at done
    · cases done
      exact dated
    · unfold completeEnrollment at done
      split at done
      · cases done
        exact dated
      · rename_i connectorId _
        split at done
        · cases done
          exact dated
        · have after : ∀ {s₁ : Store} {status : TokenStatus}, s.consumeEnrollmentToken env
              (Dispatcher.field message "enrollment_token") connectorId now = (s₁, status) →
                s₁.Dated := by
            intro s₁ status used
            have same := (consumeEnrollmentToken_same env s (Dispatcher.field message
              "enrollment_token") connectorId now).1
            rw [used] at same
            exact dated.of_devices same
          split at done
          · rename_i used
            cases done
            exact after used
          · rename_i used
            cases done
            exact after used
          · rename_i used
            cases done
            exact after used
          · rename_i used
            cases done
            exact after used
          · rename_i used
            have dated := after used
            split at done
            · cases done
              exact dated
            · rename_i consumed
              have dated := dated.of_devices (consumeChallenge_same consumed).1
              split at done
              · cases done
                exact dated
              · rename_i verified
                cases done
                exact dated.enrollVerified verified

/-! ## The inventory -/

/-- A sweep passes over the rows that are heard from after its cutoff. -/
theorem fresh_markStaleInstances (s : Store) (cutoff : Int) :
    (s.markStaleInstances cutoff).instances.rows.filter (isFresh cutoff) =
      s.instances.rows.filter (isFresh cutoff) := by
  have kept : ∀ r : InstanceRow, isFresh cutoff (reaped cutoff r) = isFresh cutoff r := by
    intro r
    unfold reaped
    split
    · rename_i overdue
      simp only [Bool.and_eq_true, decide_eq_true_eq] at overdue
      unfold isFresh
      rw [decide_eq_false (Int.not_lt.mpr overdue.2), Bool.and_false]
      rfl
    · rfl
  have same : ∀ r ∈ s.instances.rows.filter (isFresh cutoff), reaped cutoff r = r := by
    intro r mem
    have fresh := (List.mem_filter.mp mem).2
    unfold isFresh at fresh
    simp only [Bool.and_eq_true, decide_eq_true_eq] at fresh
    unfold reaped
    rw [decide_eq_false (Int.not_le.mpr fresh.2), Bool.and_false]
    rfl
  have filtered : (s.instances.rows.map (reaped cutoff)).filter (isFresh cutoff) =
      (s.instances.rows.filter (isFresh cutoff)).map (reaped cutoff) := by
    rw [List.filter_map]
    exact congrArg _ (List.filter_congr fun r _ => kept r)
  exact filtered.trans ((List.map_congr_left same).trans (List.map_id _))

/-- **The inventory lists every live instance once**, if each names an enrolled device. -/
theorem agentInventory_perm (env : Env) (referenced : s.Referenced)
    (attended : ∀ r ∈ s.instances, r.state = .online → ∃ device,
      s.getDevice r.connectorId = some device ∧ device.enrollmentState = .enrolled) (now : Int) :
    ((s.agentInventory env now).2.map OnlineAgent.deviceId).Perm
      ((s.instances.rows.filter (isFresh (freshAfter env now))).map InstanceRow.connectorId) := by
  have swept := referenced.aged (markStaleInstances_aged s (freshAfter env now)) rfl
  have joined := Table.join_perm swept (isFresh (freshAfter env now))
  rw [fresh_markStaleInstances] at joined
  -- Each pair of the join is a device with an instance of its own.
  have pairs : ∀ row ∈ ((s.markStaleInstances (freshAfter env now)).devices.rows.flatMap
      fun device => ((s.markStaleInstances (freshAfter env now)).instances.rows.filter fun r =>
        decide (r.connectorId = device.connectorId) && isFresh (freshAfter env now) r).map
          (device, ·)), row.1.connectorId = row.2.connectorId ∧
            row.1.enrollmentState = .enrolled := by
    intro row mem
    obtain ⟨device, memDevice, mem⟩ := List.mem_flatMap.mp mem
    obtain ⟨r, memRow, rfl⟩ := List.mem_map.mp mem
    obtain ⟨memRow, holds⟩ := List.mem_filter.mp memRow
    simp only [Bool.and_eq_true, decide_eq_true_eq] at holds
    refine ⟨holds.1.symm, ?_⟩
    have live : r ∈ s.instances.rows.filter (isFresh (freshAfter env now)) := by
      rw [← fresh_markStaleInstances]
      exact List.mem_filter.mpr ⟨memRow, holds.2⟩
    obtain ⟨memOld, fresh⟩ := List.mem_filter.mp live
    unfold isFresh at fresh
    simp only [Bool.and_eq_true, decide_eq_true_eq] at fresh
    obtain ⟨device', found, enrolled⟩ := attended r memOld fresh.1
    rw [holds.1] at found
    have here : s.getDevice device.connectorId = some device := Table.mem_iff_find?.mp memDevice
    rw [here] at found
    exact Option.some.inj found ▸ enrolled
  unfold agentInventory onlineAgents
  simp only [List.map_map]
  rw [List.filter_eq_self.mpr fun row mem => decide_eq_true (pairs row mem).2]
  refine ((List.perm_insertionSort _ _).map _).trans ?_
  refine List.Perm.trans (List.Perm.of_eq (List.map_congr_left fun row mem => ?_))
    ((List.map_map (f := Prod.snd)) ▸ joined.map InstanceRow.connectorId)
  exact (pairs row mem).1

end Store

namespace Store

variable {env : Env} {s s' : Store}

/-- What the schema asks of the two tables. -/
structure Sound (s : Store) : Prop where
  referenced : s.Referenced
  dated : s.Dated

theorem Sound.aged (sound : s.Sound) (aged : Aged s s') (same : s'.devices = s.devices) :
    s'.Sound := by
  refine ⟨sound.referenced.aged aged same, ?_⟩
  unfold Dated
  rw [same]
  exact sound.dated

end Store

namespace System

variable {env : Env} {sys sys' : System} {e : Event}

/-- **Every operation keeps what the schema asks.** -/
theorem Performs.sound {store : Store} (performs : Performs env sys e store)
    (sound : sys.store.Sound) : store.Sound := by
  cases performs with
  | nothing => exact sound
  | issues issued =>
      refine sound.aged (Store.issueToken_aged issued) ?_
      obtain ⟨_, _, _, _, _, _, _, _, _, rfl⟩ := Store.issueToken_ok issued
      rfl
  | revokes revoked => exact ⟨sound.referenced.revoke revoked, sound.dated.revoke revoked⟩
  | deletes deleted => exact ⟨sound.referenced.delete deleted, sound.dated.delete deleted⟩
  | renames renamed => exact ⟨sound.referenced.rename renamed, sound.dated.rename renamed⟩
  | sweeps free swept =>
      induction swept with
      | refl => exact sound
      | tail _ next ih =>
          obtain ⟨staleBefore, rfl⟩ := next
          exact ih.aged (Store.markStaleInstances_aged _ staleBefore) rfl
  | challenges asked created =>
      refine sound.aged (Store.createChallenge_aged created) ?_
      obtain ⟨_, _, rfl⟩ := Store.createChallenge_ok created
      rfl
  | enrolls phase type done =>
      exact ⟨sound.referenced.enroll (Store.handleEnroll_steps done), sound.dated.enroll done⟩
  | authenticates here waits done =>
      have steps := Store.authenticateSession_steps done
      refine ⟨sound.referenced.authenticate steps, ?_⟩
      unfold Store.Dated
      rw [steps.devices]
      exact sound.dated
  | beats here done =>
      rcases Store.handleHeartbeat_steps done with rfl | accepted
      · exact sound
      · refine sound.aged (Store.acceptHeartbeat_aged accepted) ?_
        obtain ⟨_, _, _, rfl⟩ := Store.acceptHeartbeat_ok accepted
        rfl

theorem sound_of_reach {allow : System → Event → Prop} (reached : (system env).Reach allow sys) :
    sys.store.Sound :=
  reached.invariant (I := fun sys => sys.store.Sound)
    ⟨Table.references_empty, fun _ mem => absurd mem List.not_mem_nil⟩
    fun _ sound _ stepped => by
      obtain ⟨mid, performs, closes⟩ := step_operates stepped
      exact (performs.sound sound).aged closes.aged closes.same_tables.1

/-- **The tables of a run.**  In every reachable state each instance names a device; only an
enrolled device has one online; revocations and disconnections are dated; and the inventory
lists the live instances, each once. -/
theorem tables_sound (env : Env) {sys : System}
    (reached : (system env).Reach Machine.anyStep sys) :
    sys.store.Referenced ∧ sys.store.Dated ∧
    (∀ r ∈ sys.store.instances, Timed r) ∧
    (∀ r ∈ sys.store.instances, r.state = .online → ∃ device,
      sys.store.getDevice r.connectorId = some device ∧ device.enrollmentState = .enrolled) ∧
    ∀ now, ((sys.store.agentInventory env now).2.map Store.OnlineAgent.deviceId).Perm
      ((sys.store.instances.rows.filter (Store.isFresh (Store.freshAfter env now))).map
        InstanceRow.connectorId) := by
  have sound := sound_of_reach reached
  have attended : ∀ r ∈ sys.store.instances, r.state = .online → ∃ device,
      sys.store.getDevice r.connectorId = some device ∧
        device.enrollmentState = .enrolled := by
    intro r mem online
    obtain ⟨device, found, enrolled, _⟩ := profiled_of_reach reached r mem online
    exact ⟨device, found, enrolled⟩
  exact ⟨sound.referenced, sound.dated,
    fun r mem => disconnected_iff_offline reached r.instanceId r (Table.mem_iff_find?.mp mem),
    attended, Store.agentInventory_perm env sound.referenced attended⟩

/-- The sample device serves, and the inventory lists it. -/
theorem tables_sound_serving : ∃ sys : System,
    (sys.store.agentInventory Sample.env (Sample.second 10)).2.map Store.OnlineAgent.deviceId =
      ["pc-1"] ∧ sys.store.Referenced := by
  obtain ⟨sys, reached, holds⟩ := Machine.Reach.exists_of_exec (M := system Sample.env) .init
    Sample.serving (fun sys => decide ((sys.store.instances.rows.filter
      (Store.isFresh (Store.freshAfter Sample.env (Sample.second 10)))).map
        InstanceRow.connectorId = ["pc-1"])) (by decide +kernel)
  obtain ⟨referenced, _, _, _, listed⟩ := tables_sound Sample.env reached
  have listed := listed (Sample.second 10)
  rw [of_decide_eq_true holds] at listed
  exact ⟨sys, List.perm_singleton.mp listed, referenced⟩

end System

end RemoteAgent
