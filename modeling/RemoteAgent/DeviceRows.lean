import RemoteAgent.Handshake
import RemoteAgent.Operations

/-!
# The row of a device through an event

`step_device` lists what an event can make of the row of one device: each change has an event
of its own, and everything else leaves the row as it is.
-/

open Wire Storage Transition

namespace RemoteAgent

variable {env : Env}

namespace Store

variable {s s' : Store}

theorem issueToken_devices {rawToken : String}
    {connectorId capabilityProfile displayLabel : Json} {expires now : Int}
    (issued : s.issueToken env rawToken connectorId capabilityProfile displayLabel expires now =
      .ok s') : s'.devices = s.devices := by
  obtain ⟨_, _, _, _, _, _, _, _, _, rfl⟩ := issueToken_ok issued
  rfl

theorem createChallenge_devices {challenge : Challenge} {now : Int}
    (created : s.createChallenge env challenge now = some s') : s'.devices = s.devices := by
  obtain ⟨_, _, rfl⟩ := createChallenge_ok created
  rfl

end Store

namespace System

variable {sys sys' : System} {e : Event}

/-- What an event makes of the row of a device. -/
inductive Changes (env : Env) (sys : System) (e : Event) (id : String) : Option DeviceRow → Prop
  | same : Changes env sys e id (sys.store.getDevice id)
  | revoked {r : DeviceRow} {now : Int} (event : e = .revoke id now)
      (was : sys.store.getDevice id = some r) :
      Changes env sys e id
        (some { r with enrollmentState := .revoked, revokedAt := some (asTimestamp now) })
  | deleted {r : DeviceRow} (event : e = .delete id) (was : sys.store.getDevice id = some r)
      (revoked : r.enrollmentState = .revoked) : Changes env sys e id none
  | renamed {r : DeviceRow} {displayLabel : Json} {label : String}
      (event : e = .rename id displayLabel)
      (valid : validateDisplayLabel env displayLabel = .ok label)
      (was : sys.store.getDevice id = some r) (enrolled : r.enrollmentState = .enrolled) :
      Changes env sys e id (some { r with displayLabel := label })
  | enrolled {r : DeviceRow} (frame : ∃ k message now, e = .receive k (.ok message) now)
      (absent : sys.store.getDevice id = none) (state : r.enrollmentState = .enrolled) :
      Changes env sys e id (some r)

theorem Changes.of_eq {store : Store} {id : String} {row : Option DeviceRow}
    (changes : Changes env sys e id row) (same : store.getDevice id = row) :
    Changes env sys e id (store.getDevice id) := same ▸ changes

/-- A device that an update passes over. -/
theorem changes_same {store : Store} {id : String}
    (same : store.getDevice id = sys.store.getDevice id) :
    Changes env sys e id (store.getDevice id) := same ▸ .same

theorem changes_of_devices {store : Store} (same : store.devices = sys.store.devices)
    (id : String) : Changes env sys e id (store.getDevice id) :=
  changes_same (congrArg (Table.find? · id) same)

theorem revokes_changes {connectorId : String} {now : Int} {store : Store}
    (revoked : sys.store.revokeDevice connectorId now = some store) (id : String) :
    Changes env sys (.revoke connectorId now) id (store.getDevice id) := by
  unfold Store.revokeDevice at revoked
  split at revoked
  · cases revoked
  · rename_i r found
    cases revoked
    by_cases own : id = connectorId
    · subst own
      have new := Table.find?_updateWhere_of (p := fun r : DeviceRow => decide (r.connectorId = id))
        (f := fun r => { r with
          enrollmentState := .revoked
          revokedAt := some (asTimestamp now) })
        (Store.DeviceRow.revoke_key _) found (decide_eq_true (Table.key_of_find? found))
      exact (Changes.revoked rfl found).of_eq new
    · refine changes_same (Table.find?_updateWhere_other (Store.DeviceRow.revoke_key _) fun r' found' => ?_)
      exact decide_eq_false fun same => own ((Table.key_of_find? found').symm.trans same)

theorem deletes_changes {connectorId : String} {store : Store}
    (deleted : sys.store.deleteRevokedDevice connectorId = .ok store) (id : String) :
    Changes env sys (.delete connectorId) id (store.getDevice id) := by
  unfold Store.deleteRevokedDevice at deleted
  split at deleted
  · cases deleted
  · rename_i r found
    split at deleted
    · cases deleted
    · rename_i revoked
      cases deleted
      have lookup : (sys.store.devices.deleteWhere
          fun r => decide (r.connectorId = connectorId)).find? id =
            (sys.store.devices.find? id).filter fun r => !decide (r.connectorId = connectorId) :=
        Table.find?_deleteWhere _ _ _
      by_cases own : id = connectorId
      · subst own
        have gone : (sys.store.devices.deleteWhere
            fun r => decide (r.connectorId = id)).find? id = none := by
          rw [lookup, show sys.store.devices.find? id = some r from found, Option.filter_some,
            if_neg (by rw [decide_eq_true (Table.key_of_find? found)]; decide)]
        exact (Changes.deleted rfl found (not_not.mp revoked)).of_eq gone
      · refine changes_same (lookup.trans ?_)
        cases there : sys.store.devices.find? id with
        | none => exact there.symm
        | some r' =>
            have other : r'.connectorId ≠ connectorId := fun same =>
              own ((Table.key_of_find? there).symm.trans same)
            rw [Option.filter_some, if_pos (by rw [decide_eq_false other]; rfl)]
            exact there.symm

theorem renames_changes {connectorId : String} {displayLabel : Json} {store : Store}
    (renamed : sys.store.rename env connectorId displayLabel = .ok store) (id : String) :
    Changes env sys (.rename connectorId displayLabel) id (store.getDevice id) := by
  unfold Store.rename at renamed
  split at renamed
  · cases renamed
  · rename_i label valid
    split at renamed
    · cases renamed
    · rename_i r found
      split at renamed
      · cases renamed
      · rename_i enrolled
        cases renamed
        by_cases own : id = connectorId
        · subst own
          have new := Table.find?_updateWhere_of
            (p := fun r : DeviceRow => decide (r.connectorId = id))
            (f := fun r => { r with displayLabel := label })
            (Store.DeviceRow.rename_key _) found (decide_eq_true (Table.key_of_find? found))
          exact (Changes.renamed rfl valid found (not_not.mp enrolled)).of_eq new
        · refine changes_same (Table.find?_updateWhere_other (Store.DeviceRow.rename_key _) fun r' found' => ?_)
          exact decide_eq_false fun same => own ((Table.key_of_find? found').symm.trans same)

/-- **What an event makes of the row of a device.** -/
theorem step_device (stepped : sys.step env e = some sys') (id : String) :
    Changes env sys e id (sys'.store.getDevice id) := by
  obtain ⟨mid, performs, closes⟩ := step_operates stepped
  rw [show sys'.store.getDevice id = mid.getDevice id from
    congrArg (Table.find? · id) closes.same_tables.1]
  cases performs with
  | nothing => exact .same
  | issues issued => exact changes_of_devices (Store.issueToken_devices issued) id
  | revokes revoked => exact revokes_changes revoked id
  | deletes deleted => exact deletes_changes deleted id
  | renames renamed => exact renames_changes renamed id
  | sweeps free swept => exact changes_of_devices (sweeps_devices swept) id
  | challenges asked created => exact changes_of_devices (Store.createChallenge_devices created) id
  | authenticates here waits done =>
      exact changes_of_devices (Store.authenticateSession_steps done).devices id
  | beats here done =>
      rcases Store.handleHeartbeat_steps done with rfl | accepted
      · exact .same
      · obtain ⟨_, _, _, rfl⟩ := Store.acceptHeartbeat_ok accepted
        exact .same
  | enrolls phase type done =>
      cases Store.handleEnroll_steps done with
      | refused x => exact .same
      | unchallenged tokenOpen closed => exact .same
      | unverified x tokenOpen challengeOpen => exact .same
      | @enrolled connectorId token row device _ tokenOpen challengeOpen as =>
          have stored := as.stored
          have lookup : mid.getDevice id = (sys.store.devices.find? id).or
              (if device.connectorId = id then some device else none) := by
            rw [stored]
            exact Table.find?_insertOrIgnore sys.store.devices device id
          by_cases own : device.connectorId = id
          · subst own
            have absent : sys.store.getDevice device.connectorId = none := as.connector ▸ as.absent
            rw [if_pos rfl, show sys.store.devices.find? device.connectorId = none from absent,
              Option.none_or] at lookup
            exact (Changes.enrolled ⟨_, _, _, rfl⟩ absent as.state).of_eq lookup
          · rw [if_neg own, Option.or_none] at lookup
            exact changes_same lookup

end System

end RemoteAgent
