import RemoteAgent.InstanceRows

/-!
# The inventories

`online_agents` joins the devices with their fresh rows; `device_status` takes the latest
fresh row of one device.  Both are read off `freshRows`, which a sweep with the same
cutoff leaves as they are.

* `mem_inventory`: the two always list the same devices.
* `inventories_agree_iff`: each device is listed once exactly when no enrolled device has
  two fresh rows.
-/

open Wire Storage Transition

namespace RemoteAgent

namespace Store

variable {env : Env} {s : Store} {connectorId : String} {cutoff now : Int}

/-! ## The fresh rows of a connector -/

/-- The online rows of a connector that were heard from after the cutoff. -/
def freshRows (s : Store) (connectorId : String) (cutoff : Int) : List InstanceRow :=
  s.instances.rows.filter fun r => decide (r.connectorId = connectorId) && isFresh cutoff r

theorem mem_freshRows {r : InstanceRow} : r ∈ s.freshRows connectorId cutoff ↔
    r ∈ s.instances ∧ r.connectorId = connectorId ∧ r.state = .online ∧
      asTimestamp cutoff < r.lastHeartbeatAt := by
  unfold freshRows isFresh
  simp only [List.mem_filter, Bool.and_eq_true, decide_eq_true_eq, Table.mem_rows]

theorem nodup_freshRows (s : Store) (connectorId : String) (cutoff : Int) :
    (s.freshRows connectorId cutoff).Nodup :=
  (List.Nodup.of_map _ s.instances.unique).filter _

/-- A row that a sweep closes was not fresh, and the others stay. -/
theorem reaped_fresh (cutoff : Int) (r : InstanceRow) :
    isFresh cutoff (reaped cutoff r) = isFresh cutoff r ∧
      (isFresh cutoff r = true → reaped cutoff r = r) := by
  unfold reaped
  split
  · rename_i overdue
    simp only [Bool.and_eq_true, decide_eq_true_eq] at overdue
    have stale : isFresh cutoff r = false := by
      unfold isFresh
      simp only [Bool.and_eq_false_iff, decide_eq_false_iff_not]
      exact Or.inr (by omega)
    rw [stale]
    exact ⟨rfl, fun no => nomatch no⟩
  · exact ⟨rfl, fun _ => rfl⟩

/-- **A sweep leaves the rows that are fresh at its cutoff as they are.** -/
theorem freshRows_swept (s : Store) (connectorId : String) (cutoff : Int) :
    (s.markStaleInstances cutoff).freshRows connectorId cutoff =
      s.freshRows connectorId cutoff := by
  have swept : (s.markStaleInstances cutoff).instances.rows = s.instances.rows.map (reaped cutoff) :=
    rfl
  have owner : ∀ r, (reaped cutoff r).connectorId = r.connectorId := by
    intro r
    unfold reaped
    split <;> rfl
  unfold freshRows
  rw [swept, List.filter_map]
  have same : (fun r => decide (r.connectorId = connectorId) && isFresh cutoff r) ∘ reaped cutoff =
      fun r => decide (r.connectorId = connectorId) && isFresh cutoff r := by
    funext r
    simp only [Function.comp_apply, owner, (reaped_fresh cutoff r).1]
  rw [same]
  conv_rhs => rw [← List.map_id' (s.instances.rows.filter _)]
  refine List.map_congr_left fun r mem => ?_
  have fresh := (Bool.and_eq_true_iff.mp (List.mem_filter.mp mem).2).2
  exact (reaped_fresh cutoff r).2 fresh

/-- The latest row is one of the fresh rows. -/
theorem latestOnlineInstance_eq (s : Store) (connectorId : String) (cutoff : Int) :
    (s.latestOnlineInstance connectorId cutoff).2 =
      (s.freshRows connectorId cutoff).foldl laterBeat none := by
  rw [← freshRows_swept]
  rfl

theorem laterBeat_isSome (rows : List InstanceRow) (best : Option InstanceRow) :
    (rows.foldl laterBeat best).isSome = true ↔ best.isSome = true ∨ rows ≠ [] := by
  induction rows generalizing best with
  | nil => simp only [List.foldl_nil, ne_eq, not_true_eq_false, or_false]
  | cons r rows ih =>
      have some_ : (laterBeat best r).isSome = true := by
        unfold laterBeat
        split
        · rfl
        · split <;> rfl
      rw [List.foldl_cons, ih]
      simp only [some_, true_or, ne_eq, reduceCtorEq, not_false_eq_true, or_true]

/-! ## The two inventories -/

/-- `device_status` reports a device online. -/
def reportsOnline (env : Env) (s : Store) (connectorId : String) (now : Int) : Bool :=
  match (s.deviceStatus env connectorId now).2 with
  | .ok status => decide (status.connectionState = .online)
  | .error _ => false

/-- The devices of the agent inventory. -/
def inventory (env : Env) (s : Store) (now : Int) : List String :=
  (s.agentInventory env now).2.map OnlineAgent.deviceId

theorem reportsOnline_iff : s.reportsOnline env connectorId now = true ↔
    (∃ device, s.getDevice connectorId = some device) ∧
      s.freshRows connectorId (freshAfter env now) ≠ [] := by
  unfold reportsOnline deviceStatus
  cases found : s.getDevice connectorId with
  | none => simp only [Bool.false_eq_true, reduceCtorEq, exists_false, false_and]
  | some device =>
      simp only [latestOnlineInstance_eq]
      have latest := laterBeat_isSome (s.freshRows connectorId (freshAfter env now)) none
      simp only [Option.isSome_none, Bool.false_eq_true, false_or] at latest
      rw [← latest]
      simp only [decide_eq_true_eq, Option.some.injEq, exists_eq', true_and]
      split
      · rename_i some_
        simp only [some_]
      · rename_i none_
        simp only [reduceCtorEq, none_]

/-- The entries of a device, if it is enrolled: one for each fresh row. -/
def entries (env : Env) (s : Store) (now : Int) (device : DeviceRow) : List String :=
  if device.enrollmentState = .enrolled then
    (s.freshRows device.connectorId (freshAfter env now)).map fun _ => device.connectorId
  else []

/-- Every device with each of its fresh rows. -/
def joined (s : Store) (cutoff : Int) : List (DeviceRow × InstanceRow) :=
  s.devices.rows.flatMap fun device => (s.freshRows device.connectorId cutoff).map (device, ·)

theorem inventory_perm (env : Env) (s : Store) (now : Int) :
    (s.inventory env now).Perm (s.devices.rows.flatMap (s.entries env now)) := by
  have listed : s.inventory env now =
      ((((s.markStaleInstances (freshAfter env now)).joined (freshAfter env now)).filter fun row =>
        decide (row.1.enrollmentState = .enrolled)).insertionSort agentOrder).map
          fun row => row.1.connectorId := by
    unfold inventory agentInventory
    simp only [List.map_map]
    rfl
  have own : ∀ device ∈ s.devices.rows,
      (((s.freshRows device.connectorId (freshAfter env now)).map (device, ·)).filter
        fun row => decide (row.1.enrollmentState = .enrolled)).map (fun row => row.1.connectorId) =
      s.entries env now device := by
    intro device _
    unfold entries
    rw [List.filter_map, List.map_map]
    simp only [Function.comp_def]
    split
    · rename_i enrolled
      rw [List.filter_eq_self.mpr fun r _ => decide_eq_true enrolled]
    · rename_i revoked
      rw [List.filter_eq_nil_iff.mpr fun r _ isEnrolled => revoked (of_decide_eq_true isEnrolled)]
      rfl
  rw [listed]
  refine ((List.perm_insertionSort agentOrder _).map _).trans (.of_eq ?_)
  unfold joined
  simp only [freshRows_swept]
  rw [List.filter_flatMap, List.map_flatMap]
  exact List.flatMap_congr own

/-- **The inventory lists the enrolled devices that `device_status` reports online.** -/
theorem mem_inventory : connectorId ∈ s.inventory env now ↔
    (∃ device, s.getDevice connectorId = some device ∧ device.enrollmentState = .enrolled) ∧
      s.reportsOnline env connectorId now = true := by
  rw [(inventory_perm env s now).mem_iff, List.mem_flatMap, reportsOnline_iff]
  unfold entries
  constructor
  · rintro ⟨device, mem, listed⟩
    split at listed
    · rename_i enrolled
      obtain ⟨r, fresh, rfl⟩ := List.mem_map.mp listed
      have found : s.getDevice device.connectorId = some device :=
        Table.find?_eq_some_iff.mpr ⟨mem, rfl⟩
      exact ⟨⟨device, found, enrolled⟩, ⟨device, found⟩, List.ne_nil_of_mem fresh⟩
    · cases listed
  · rintro ⟨⟨device, found, enrolled⟩, _, fresh⟩
    obtain ⟨mem, rfl⟩ := Table.find?_eq_some_iff.mp found
    obtain ⟨r, isFresh⟩ := List.exists_mem_of_ne_nil _ fresh
    refine ⟨device, mem, ?_⟩
    rw [if_pos enrolled]
    exact List.mem_map.mpr ⟨r, isFresh, rfl⟩

/-- No enrolled device has two fresh rows. -/
def OneFresh (env : Env) (s : Store) (now : Int) : Prop :=
  ∀ device ∈ s.devices, device.enrollmentState = .enrolled →
    ∀ r ∈ s.freshRows device.connectorId (freshAfter env now),
    ∀ r' ∈ s.freshRows device.connectorId (freshAfter env now), r = r'

/-- A list of distinct rows has one at most exactly when any two are equal. -/
theorem nodup_const {rows : List InstanceRow} (distinct : rows.Nodup) (x : String) :
    (rows.map fun _ => x).Nodup ↔ ∀ r ∈ rows, ∀ r' ∈ rows, r = r' := by
  rw [List.map_const', List.nodup_replicate]
  constructor
  · intro short r mem r' mem'
    match rows, short with
    | [], _ => cases mem
    | [r₀], _ => rw [List.mem_singleton.mp mem, List.mem_singleton.mp mem']
  · intro same
    match rows with
    | [] => exact Nat.zero_le 1
    | [_] => exact Nat.le_refl 1
    | r :: r' :: rest =>
        have equal := same r List.mem_cons_self r' (List.mem_cons_of_mem _ List.mem_cons_self)
        exact absurd (equal ▸ List.mem_cons_self) (List.nodup_cons.mp distinct).1

theorem nodup_inventory_iff : (s.inventory env now).Nodup ↔ s.OneFresh env now := by
  rw [(inventory_perm env s now).nodup_iff, List.nodup_flatMap]
  have apart : s.devices.rows.Pairwise fun d d' =>
      List.Disjoint (s.entries env now d) (s.entries env now d') := by
    refine (List.pairwise_map.mp s.devices.unique).imp fun {d d'} different => ?_
    intro x mem mem'
    unfold entries at mem mem'
    split at mem
    · split at mem'
      · obtain ⟨_, _, rfl⟩ := List.mem_map.mp mem
        obtain ⟨_, _, same⟩ := List.mem_map.mp mem'
        exact different same.symm
      · cases mem'
    · cases mem
  constructor
  · rintro ⟨each, _⟩ device mem enrolled
    have nodup := each device mem
    unfold entries at nodup
    rw [if_pos enrolled] at nodup
    exact (nodup_const (nodup_freshRows _ _ _) _).mp nodup
  · intro one
    refine ⟨fun device mem => ?_, apart⟩
    unfold entries
    split
    · rename_i enrolled
      exact (nodup_const (nodup_freshRows _ _ _) _).mpr (one device mem enrolled)
    · exact List.nodup_nil

/-- The enrolled devices that `device_status` reports online. -/
def liveDevices (env : Env) (s : Store) (now : Int) : List DeviceRow :=
  s.devices.rows.filter fun device =>
    decide (device.enrollmentState = .enrolled) && s.reportsOnline env device.connectorId now

/-- What the two inventories agree on. -/
structure InventoriesAgree (env : Env) (s : Store) (now : Int) : Prop where
  listed : ∀ connectorId, connectorId ∈ s.inventory env now ↔
    (∃ device, s.getDevice connectorId = some device ∧ device.enrollmentState = .enrolled) ∧
      s.reportsOnline env connectorId now = true
  once : (s.inventory env now).Nodup
  count : (s.inventory env now).length = (s.liveDevices env now).length

/-- An inventory that lists every device once has as many entries as there are devices. -/
theorem length_inventory (once : (s.inventory env now).Nodup) :
    (s.inventory env now).length = (s.liveDevices env now).length := by
  have distinct : ((s.liveDevices env now).map DeviceRow.connectorId).Nodup :=
    s.devices.unique.sublist (List.filter_sublist.map _)
  have same : ∀ connectorId, connectorId ∈ s.inventory env now ↔
      connectorId ∈ (s.liveDevices env now).map DeviceRow.connectorId := by
    intro connectorId
    rw [mem_inventory, List.mem_map]
    unfold liveDevices
    constructor
    · rintro ⟨⟨device, found, enrolled⟩, online⟩
      obtain ⟨mem, rfl⟩ := Table.find?_eq_some_iff.mp found
      exact ⟨device, List.mem_filter.mpr ⟨mem, by simp [enrolled, online]⟩, rfl⟩
    · rintro ⟨device, mem, rfl⟩
      obtain ⟨mem, both⟩ := List.mem_filter.mp mem
      obtain ⟨enrolled, online⟩ := Bool.and_eq_true_iff.mp both
      exact ⟨⟨device, Table.find?_eq_some_iff.mpr ⟨mem, rfl⟩, of_decide_eq_true enrolled⟩, online⟩
  rw [((List.perm_ext_iff_of_nodup once distinct).mpr same).length_eq, List.length_map]

/-- **The inventories.**  For all tables and every clock reading, `online_agents` lists the
enrolled devices that `device_status` reports online, and lists each once, so that its count
is their number, exactly when no enrolled device has two fresh rows. -/
theorem inventories_agree_iff (env : Env) (s : Store) (now : Int) :
    InventoriesAgree env s now ↔ s.OneFresh env now := by
  constructor
  · exact fun agree => nodup_inventory_iff.mp agree.once
  · intro one
    have once := nodup_inventory_iff.mpr one
    exact ⟨fun _ => mem_inventory, once, length_inventory once⟩

end Store

namespace System

/-- **A device with two live instances is counted twice.** -/
theorem two_instances_counted_twice : ∃ sys : System,
    (system Sample.env).Reach Machine.anyStep sys ∧
    sys.store.inventory Sample.env (Sample.second 9) = ["pc-1", "pc-1"] ∧
    sys.store.devices.rows.map DeviceRow.connectorId = ["pc-1"] ∧
    sys.store.reportsOnline Sample.env "pc-1" (Sample.second 9) = true ∧
    ¬ Store.InventoriesAgree Sample.env sys.store (Sample.second 9) := by
  obtain ⟨sys, reached, checked⟩ := Machine.Reach.exists_of_exec (M := system Sample.env) .init
    (Sample.twice Sample.otherInstanceFrame) (fun sys : System =>
      decide (sys.store.inventory Sample.env (Sample.second 9) = ["pc-1", "pc-1"] ∧
        sys.store.devices.rows.map DeviceRow.connectorId = ["pc-1"] ∧
        sys.store.reportsOnline Sample.env "pc-1" (Sample.second 9) = true)) (by decide +kernel)
  obtain ⟨listed, devices, online⟩ := of_decide_eq_true checked
  refine ⟨sys, reached, listed, devices, online, fun agree => ?_⟩
  have once := agree.once
  rw [listed] at once
  exact absurd once (by decide)

end System

end RemoteAgent
