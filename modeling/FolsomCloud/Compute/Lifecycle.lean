import FolsomCloud.Compute.Manager

set_option autoImplicit false

/-!
# Compute: the lifecycle operations (spec §4.1)

The public methods of `ComputeManager` that drive one instance through a power or
guest-state change.  Each has the shape of spec §4.1: the wrappers
`reverts_task_state` and `wrap_instance_fault`, the backend call, and a last write of
the new `vm_state`, the power state read back, and `task_state = None`.

Most of them end with `finishPowerChange` under an `expected_task_state` guard;
`resume_instance` and `reboot_instance` end with it unguarded (`none`), and that one
argument is where their behaviour under a concurrent writer differs: a `task_state`
written by another operation meanwhile is overwritten
(`resumeInstance_overwrites_concurrent_task_state`).
-/

namespace FolsomCloud.Compute.Manager

/-- The last step of the simple power actions: read the backend's power state and write
it with the new `vm_state`, clearing `task_state`, under the guard `expected`
(`none`: the write carries no `expected_task_state`). -/
def finishPowerChange (uuid : Nat) (vm : VmState)
    (expected : Option (List (Option TaskState))) : Op Unit := do
  let p ← getPowerState uuid
  discard <| instanceUpdate uuid
    { powerState := some p, vmState := some vm, taskState := some none, expected := expected }

/-- `driver.m`, falling back to `driver.fallback` when the backend raises
`NotImplementedError` (spec §6: "callers must fall back to a documented default"). -/
def driverWithFallback (m fallback : DriverMethod) (uuid : Nat) : Op Unit :=
  tryCatch (io (.driver m uuid)) fun ex =>
    match ex with
    | .notImplemented _ => io (.driver fallback uuid)
    | _ => throw ex

/-- `ComputeManager.stop_instance`. -/
def stopInstance (uuid : Nat) : Op Unit :=
  revertsTaskState (some uuid) <| wrapInstanceFault uuid do
    notifyAboutInstanceUsage uuid "power_off.start"
    io (.driver .powerOff uuid)
    finishPowerChange uuid .stopped (some [some .poweringOff, some .stopping])
    notifyAboutInstanceUsage uuid "power_off.end"

/-- `ComputeManager.start_instance`. -/
def startInstance (uuid : Nat) : Op Unit :=
  revertsTaskState (some uuid) <| wrapInstanceFault uuid do
    notifyAboutInstanceUsage uuid "power_on.start"
    io (.driver .powerOn uuid)
    finishPowerChange uuid .active (some [some .poweringOn, some .starting])
    notifyAboutInstanceUsage uuid "power_on.end"

/-- `ComputeManager.soft_delete_instance`; `kwInstance` as in `revertsTaskState`. -/
def softDeleteInstance (kwInstance : Option Nat) (uuid : Nat) : Op Unit :=
  revertsTaskState kwInstance <| wrapInstanceFault uuid do
    notifyAboutInstanceUsage uuid "soft_delete.start"
    driverWithFallback .softDelete .powerOff uuid
    finishPowerChange uuid .softDeleted (some [some .softDeleting])
    notifyAboutInstanceUsage uuid "soft_delete.end"

/-- `ComputeManager.restore_instance`; `kwInstance` as in `revertsTaskState`. -/
def restoreInstance (kwInstance : Option Nat) (uuid : Nat) : Op Unit :=
  revertsTaskState kwInstance <| wrapInstanceFault uuid do
    notifyAboutInstanceUsage uuid "restore.start"
    driverWithFallback .restore .powerOn uuid
    finishPowerChange uuid .active (some [some .restoring])
    notifyAboutInstanceUsage uuid "restore.end"

/-- `ComputeManager.power_off_instance`: `self.soft_delete_instance(context, instance)`,
the instance passed positionally. -/
def powerOffInstance (uuid : Nat) : Op Unit :=
  revertsTaskState (some uuid) <| wrapInstanceFault uuid (softDeleteInstance none uuid)

/-- `ComputeManager.power_on_instance`. -/
def powerOnInstance (uuid : Nat) : Op Unit :=
  revertsTaskState (some uuid) <| wrapInstanceFault uuid (restoreInstance none uuid)

/-- `reverts_task_state` around a call that passed the instance positionally does
nothing: its reset is the swallowed `KeyError`, and it re-raises what it caught. -/
theorem revertsTaskState_none {α : Type} (x : Op α) : revertsTaskState none x = x := by
  funext e w
  simp only [revertsTaskState, Op.tryCatch_apply, Op.bind_apply, Op.throw_apply, Op.pure_apply]
  rcases x e w with ⟨_ | _, w'⟩ <;> simp
  split <;> simp

/-- How the run `r'` of a compatibility alias relates to the run `r` of the operation it
calls: identical when the operation succeeds or raises `InstanceNotFound`; otherwise the
same exception, the same tables except one more fault record for the exception, and one
more `instance_fault_create` among the calls. -/
def RecordsFaultTwice (uuid : Nat) (r r' : Except Exc Unit × World) : Prop :=
  match r.1 with
  | .ok () => r' = r
  | .error ex =>
    if ex = .instanceNotFound then r' = r
    else r'.1 = r.1 ∧ r'.2.db = { r.2.db with faults := r.2.db.faults ++ [(uuid, ex)] } ∧
      ∃ pre post, r.2.calls = pre ++ post ∧
        r'.2.calls = pre ++ (.db "instance_fault_create" uuid, none) :: post

/-- `instance_update` reads and writes only the instance rows. -/
theorem Db.instanceUpdate_faults (db : Db) (f : List (Nat × Exc)) (uuid : Nat) (u : Update) :
    ({ db with faults := f } : Db).instanceUpdate uuid u =
      (db.instanceUpdate uuid u).map fun p => (p.1, { p.2 with faults := f }) := by
  unfold Db.instanceUpdate
  cases db.instances uuid with
  | none => rfl
  | some i => by_cases hd : i.deleted <;> by_cases hp : u.Permits i <;> simp [hd, hp, Db.setInstance, Except.map]

/-- A successful `instance_update` leaves the fault records as they were. -/
theorem Db.instanceUpdate_ok_faults {db db' : Db} {uuid : Nat} {u : Update} {i : Instance}
    (h : db.instanceUpdate uuid u = .ok (i, db')) : db'.faults = db.faults := by
  rcases db.instanceUpdate_cases uuid u with ⟨j, -, -, -, h'⟩ | ⟨_, -, -, -, h'⟩ | ⟨-, h'⟩ <;>
    rw [h'] at h <;> cases h
  rfl

section Alias

variable {e : Env} (uuid : Nat)
  (hf : ∀ n, e.fault n (.db "instance_fault_create" uuid) = none)
  (hu : ∀ n, e.fault n (.db "instance_update_and_get_original" uuid) = none)
  (hs : ∀ n, e.fault n (.updateUsage uuid) = none)
  (hq : ∀ n db, e.interfere n db = db)

/-- The world after the `task_state` reset of `reverts_task_state`, with its calls not
failing and no other writer: the write lands when the row allows it. -/
def resetWorld (w : World) : World :=
  match w.db.instanceUpdate uuid { taskState := some none } with
  | .ok (_, db) =>
    { db := db, clock := w.clock + 2,
      calls := w.calls ++
        [(.db "instance_update_and_get_original" uuid, none), (.updateUsage uuid, none)] }
  | .error _ =>
    { w with
      clock := w.clock + 1
      calls := w.calls ++ [(.db "instance_update_and_get_original" uuid, none)] }

include hu hs hq in
theorem revertsTaskState_error {α : Type} {y : Op α} {w w' : World} {ex : Exc}
    (hy : y e w = (.error ex, w')) :
    revertsTaskState (some uuid) y e w =
      (.error ex, if ex = .unexpectedTaskState then w' else resetWorld uuid w') := by
  simp only [revertsTaskState, resetWorld, Op.tryCatch_apply, hy]
  split
  · simp_all
  · simp only [instanceUpdate, Op.bind_apply, Op.discard_apply, Op.tryCatch_apply, Op.throw_apply,
      Op.pure_apply, io_apply, onDb, hu, hs, Option.elim_none, World.tick_db, hq]
    rcases hr : w'.db.instanceUpdate uuid { taskState := some none } with _ | ⟨_, db⟩ <;>
      simp [hr, World.tick, hu, hs, hq]

/-- The world after `wrap_instance_fault` records a failure, with the record's call not
failing and no other writer. -/
def faultWorld (ex : Exc) (w : World) : World :=
  { db := { w.db with faults := w.db.faults ++ [(uuid, ex)] }, clock := w.clock + 1,
    calls := w.calls ++ [(.db "instance_fault_create" uuid, none)] }

include hf hq in
theorem wrapInstanceFault_error {α : Type} {y : Op α} {w w' : World} {ex : Exc}
    (hy : y e w = (.error ex, w')) :
    wrapInstanceFault uuid y e w =
      (.error ex, if ex = .instanceNotFound then w' else faultWorld uuid ex w') := by
  by_cases h1 : ex = .instanceNotFound <;>
    simp [wrapInstanceFault, faultWorld, hy, h1, addInstanceFaultFromExc, onDb, hf, hq, World.tick]

include hf hu hs hq

theorem recordsFaultTwice_wrapInstanceFault (x : Op Unit) (w : World) :
    RecordsFaultTwice uuid (revertsTaskState (some uuid) x e w)
      (revertsTaskState (some uuid) (wrapInstanceFault uuid x) e w) := by
  rcases hx : x e w with ⟨ex | _, w'⟩
  case mk.ok => simp [RecordsFaultTwice, revertsTaskState, wrapInstanceFault, hx]
  rw [revertsTaskState_error uuid hu hs hq hx,
    revertsTaskState_error uuid hu hs hq (wrapInstanceFault_error uuid hf hq hx)]
  by_cases h1 : ex = .instanceNotFound
  · simp [RecordsFaultTwice, h1]
  simp only [RecordsFaultTwice, faultWorld, h1, if_false, true_and]
  split
  · exact ⟨rfl, w'.calls, [], by simp, by simp⟩
  · simp only [resetWorld, Db.instanceUpdate_faults]
    rcases hr : w'.db.instanceUpdate uuid { taskState := some none } with _ | ⟨_, db⟩
    · simp only [Except.map]
      exact ⟨trivial, w'.calls, _, rfl, by simp⟩
    · simp only [Except.map, Db.instanceUpdate_ok_faults hr]
      exact ⟨trivial, w'.calls, _, rfl, by simp⟩

end Alias

/-- The compatibility aliases are the canonical operations with the fault recorded twice.
`power_off_instance` (resp. `power_on_instance`) calls `soft_delete_instance`
(resp. `restore_instance`) with the instance passed positionally, under its own
`reverts_task_state` and `wrap_instance_fault`: the inner reset is a swallowed `KeyError`,
and the outer `wrap_instance_fault` records the exception a second time.  Under any
backend behaviour, `NotImplementedError` included, and any failure of the operation's own
calls, provided the fault record and the reset succeed and no other writer runs, the alias
returns or raises as the canonical operation, with the same rows and the same calls,
except for one more fault record and its `instance_fault_create` whenever the operation
fails with anything but `InstanceNotFound`. -/
theorem powerAliases_record_fault_twice (uuid : Nat) (e : Env) (w : World)
    (hf : ∀ n, e.fault n (.db "instance_fault_create" uuid) = none)
    (hu : ∀ n, e.fault n (.db "instance_update_and_get_original" uuid) = none)
    (hs : ∀ n, e.fault n (.updateUsage uuid) = none)
    (hq : ∀ n db, e.interfere n db = db) :
    RecordsFaultTwice uuid (softDeleteInstance (some uuid) uuid e w) (powerOffInstance uuid e w) ∧
    RecordsFaultTwice uuid (restoreInstance (some uuid) uuid e w) (powerOnInstance uuid e w) := by
  simp only [powerOffInstance, powerOnInstance, softDeleteInstance, restoreInstance,
    revertsTaskState_none]
  exact ⟨recordsFaultTwice_wrapInstanceFault uuid hf hu hs hq _ w,
    recordsFaultTwice_wrapInstanceFault uuid hf hu hs hq _ w⟩

/-- Instance 1, `SOFT_DELETING`, whose backend `soft_delete` raises: the aliases still
relate to the canonical operations as stated. -/
theorem powerAliases_on_backend_error :
    let i : Instance := { uuid := 1, vmState := some .active, taskState := some .softDeleting }
    let w : World := { db := { instances := fun u => if u = 1 then some i else none } }
    let e : Env :=
      { fault := fun _ c => if c = .driver .softDelete 1 then some (.other "libvirtError") else none }
    (∀ n, e.fault n (.db "instance_fault_create" 1) = none) ∧
    (∀ n, e.fault n (.db "instance_update_and_get_original" 1) = none) ∧
    (∀ n, e.fault n (.updateUsage 1) = none) ∧ (∀ n db, e.interfere n db = db) ∧
    RecordsFaultTwice 1 (softDeleteInstance (some 1) 1 e w) (powerOffInstance 1 e w) ∧
    RecordsFaultTwice 1 (restoreInstance (some 1) 1 e w) (powerOnInstance 1 e w) :=
  ⟨fun _ => rfl, fun _ => rfl, fun _ => rfl, fun _ _ => rfl,
    powerAliases_record_fault_twice 1 _ _ (fun _ => rfl) (fun _ => rfl) (fun _ => rfl)
      (fun _ _ => rfl)⟩

/-- The same run: `soft_delete_instance` records the backend's error once,
`power_off_instance` twice. -/
theorem powerOff_records_backend_error_twice :
    let i : Instance := { uuid := 1, vmState := some .active, taskState := some .softDeleting }
    let w : World := { db := { instances := fun u => if u = 1 then some i else none } }
    let ex := Exc.other "libvirtError"
    let e : Env := { fault := fun _ c => if c = .driver .softDelete 1 then some ex else none }
    (softDeleteInstance (some 1) 1 e w).2.db.faults = [(1, ex)] ∧
    (powerOffInstance 1 e w).2.db.faults = [(1, ex), (1, ex)] := by
  decide

/-- `ComputeManager.pause_instance`. -/
def pauseInstance (uuid : Nat) : Op Unit :=
  revertsTaskState (some uuid) <| wrapInstanceFault uuid do
    io (.driver .pause uuid)
    finishPowerChange uuid .paused (some [some .pausing])

/-- `ComputeManager.unpause_instance`. -/
def unpauseInstance (uuid : Nat) : Op Unit :=
  revertsTaskState (some uuid) <| wrapInstanceFault uuid do
    io (.driver .unpause uuid)
    finishPowerChange uuid .active (some [some .unpausing])

/-- `ComputeManager.suspend_instance`. -/
def suspendInstance (uuid : Nat) : Op Unit :=
  revertsTaskState (some uuid) <| wrapInstanceFault uuid do
    errorOutInstanceOnException uuid [] (io (.driver .suspend uuid))
    finishPowerChange uuid .suspended (some [some .suspending])
    notifyAboutInstanceUsage uuid "suspend"

/-- `ComputeManager.resume_instance`: its last write passes no `expected_task_state`. -/
def resumeInstance (uuid : Nat) : Op Unit :=
  revertsTaskState (some uuid) <| wrapInstanceFault uuid do
    io (.driver .resume uuid)
    finishPowerChange uuid .active none
    notifyAboutInstanceUsage uuid "resume"

/-- `resume_instance` overwrites a concurrent writer: whatever `task_state` `v` another
actor stores while the backend resumes the guest, the operation's last write replaces it
with `None`. -/
theorem resumeInstance_overwrites_concurrent_task_state (uuid : Nat) (i : Instance)
    (v : Option TaskState) (w : World) (hi : w.db.instances uuid = some i)
    (hd : i.deleted = false) :
    let e : Env := { interfere := fun n db =>
      if n = w.clock + 1 then
        match db.instances uuid with
        | some j => db.setInstance uuid { j with taskState := v }
        | none => db
      else db }
    ((resumeInstance uuid e w).2.db.instances uuid).map (·.taskState) = some none := by
  intro e
  simp [e, resumeInstance, revertsTaskState, wrapInstanceFault, finishPowerChange,
    getPowerState, readPower, observe, instanceUpdate, notifyAboutInstanceUsage, onDb,
    Db.instanceUpdate, hi, hd, Update.Permits, Nat.add_assoc]

/-- A delete (`task_state = DELETING`) landing while instance 1 resumes is overwritten. -/
theorem resumeInstance_overwrites_deleting :
    let i : Instance := { uuid := 1, vmState := some .suspended, taskState := some .resuming }
    let w : World := { db := { instances := fun u => if u = 1 then some i else none } }
    w.db.instances 1 = some i ∧ i.deleted = false ∧
    let e : Env := { interfere := fun n db =>
      if n = w.clock + 1 then
        match db.instances 1 with
        | some j => db.setInstance 1 { j with taskState := some .deleting }
        | none => db
      else db }
    ((resumeInstance 1 e w).2.db.instances 1).map (·.taskState) = some none :=
  ⟨rfl, rfl, resumeInstance_overwrites_concurrent_task_state 1 _ (some .deleting) _ rfl rfl⟩

/-- `ComputeManager._get_rescue_image_ref` and `_get_image_meta` of the result. -/
def getRescueImageMeta (uuid : Nat) : Op Unit := do
  io (.db "instance_system_metadata_get" uuid)
  io (.image uuid)

/-- `ComputeManager.rescue_instance`. -/
def rescueInstance (uuid : Nat) : Op Unit :=
  revertsTaskState (some uuid) <| wrapInstanceFault uuid do
    getInstanceNwInfo uuid
    getRescueImageMeta uuid
    errorOutInstanceOnException uuid [] (io (.driver .rescue uuid))
    finishPowerChange uuid .rescued (some [some .rescuing])

/-- `ComputeManager.unrescue_instance`. -/
def unrescueInstance (uuid : Nat) : Op Unit :=
  revertsTaskState (some uuid) <| wrapInstanceFault uuid do
    getInstanceNwInfo uuid
    errorOutInstanceOnException uuid [] (io (.driver .unrescue uuid))
    finishPowerChange uuid .active (some [some .unrescuing])

/-- `ComputeManager.reboot_instance`; `blockDeviceInfo` and `networkInfo` say whether
the caller passed them (RPC API 2.5 and later).  A failed backend reboot is recorded as
a fault and falls through to the last write, which carries no guard. -/
def rebootInstance (uuid : Nat) (blockDeviceInfo networkInfo : Bool) : Op Unit :=
  revertsTaskState (some uuid) <| wrapInstanceFault uuid do
    if !blockDeviceInfo then io (.db "block_device_mapping_get_all_by_instance" uuid)
    if !networkInfo then getInstanceNwInfo uuid
    notifyAboutInstanceUsage uuid "reboot.start"
    let p ← getPowerState uuid
    discard <| instanceUpdate uuid { powerState := some p, vmState := some .active }
    tryCatch (io (.driver .reboot uuid)) (addInstanceFaultFromExc uuid)
    finishPowerChange uuid .active none
    notifyAboutInstanceUsage uuid "reboot.end"

/-- `post_live_migration_at_destination` on host `host`; it has no wrappers. -/
def postLiveMigrationAtDestination (uuid : Nat) (host : String) : Op Unit := do
  io (.network .setupNetworksOnHost uuid)
  getInstanceNwInfo uuid
  io (.driver .postLiveMigrationAtDestination uuid)
  let p ← getPowerState uuid
  discard <| instanceUpdate uuid
    { host := some host, powerState := some p, vmState := some .active,
      taskState := some none, expected := some [some .migrating] }
  io (.network .setupNetworksOnHost uuid)

section Quiet

variable {e : Env} (he : ∀ n c, e.fault n c = none) (hq : ∀ n db, e.interfere n db = db)
include he hq

/-- With no call failing and no other writer, `post_live_migration_at_destination` on a
live row either restores it (`ACTIVE`, no task, on `host`), when the row is `MIGRATING`,
or raises `UnexpectedTaskStateError` from its guarded update and writes nothing. -/
theorem postLiveMigrationAtDestination_quiet (uuid : Nat) (host : String) (i : Instance)
    (w : World) (hi : w.db.instances uuid = some i) (hd : i.deleted = false) :
    let r := postLiveMigrationAtDestination uuid host e w
    (i.taskState = some .migrating → r.1 = .ok () ∧ ∃ j, r.2.db.instances uuid = some j ∧
      j.deleted = false ∧ j.vmState = some .active ∧ j.taskState = none ∧ j.host = host) ∧
    (i.taskState ≠ some .migrating → r.1 = .error .unexpectedTaskState ∧ r.2.db = w.db) := by
  by_cases hm : i.taskState = some .migrating <;>
  simp [postLiveMigrationAtDestination, getInstanceNwInfo, getPowerState, readPower, observe,
    instanceUpdate, onDb, Db.instanceUpdate, Update.Permits, he, hq, hi, hd, hm]

end Quiet

/-- `post_live_migration_at_destination` is not idempotent.  Called twice on a `MIGRATING`
instance, with every collaborator succeeding and no other writer, the first call restores
the instance (`ACTIVE`, no task, on `host`); the second finds `task_state = None`, so the
`expected_task_state=MIGRATING` guard of its update raises `UnexpectedTaskStateError`, and
it writes nothing. -/
theorem postLiveMigrationAtDestination_second_call_raises (uuid : Nat) (host : String)
    (i : Instance) (e : Env) (w : World) (he : ∀ n c, e.fault n c = none)
    (hq : ∀ n db, e.interfere n db = db) (hi : w.db.instances uuid = some i)
    (hd : i.deleted = false) (hm : i.taskState = some .migrating) :
    let r₁ := postLiveMigrationAtDestination uuid host e w
    let r₂ := postLiveMigrationAtDestination uuid host e r₁.2
    r₁.1 = .ok () ∧ (∃ j, r₁.2.db.instances uuid = some j ∧
      j.vmState = some .active ∧ j.taskState = none ∧ j.host = host) ∧
    r₂.1 = .error .unexpectedTaskState ∧ r₂.2.db = r₁.2.db := by
  obtain ⟨h₁, -⟩ := postLiveMigrationAtDestination_quiet he hq uuid host i w hi hd
  obtain ⟨hok, j, hj, hjd, hjv, hjt, hjh⟩ := h₁ hm
  obtain ⟨-, h₂⟩ := postLiveMigrationAtDestination_quiet he hq uuid host j _ hj hjd
  exact ⟨hok, ⟨j, hj, hjv, hjt, hjh⟩, h₂ (by simp [hjt])⟩

/-- Instance 1, `MIGRATING` to host `B`: the second call raises. -/
theorem postLiveMigrationAtDestination_twice_on_migrating :
    let i : Instance := { uuid := 1, vmState := some .active, taskState := some .migrating }
    let w : World := { db := { instances := fun u => if u = 1 then some i else none } }
    let e : Env := {}
    (∀ n c, e.fault n c = none) ∧ (∀ n db, e.interfere n db = db) ∧
    w.db.instances 1 = some i ∧ i.deleted = false ∧ i.taskState = some .migrating ∧
    let r₁ := postLiveMigrationAtDestination 1 "B" e w
    let r₂ := postLiveMigrationAtDestination 1 "B" e r₁.2
    r₁.1 = .ok () ∧ (∃ j, r₁.2.db.instances 1 = some j ∧
      j.vmState = some .active ∧ j.taskState = none ∧ j.host = "B") ∧
    r₂.1 = .error .unexpectedTaskState ∧ r₂.2.db = r₁.2.db :=
  ⟨fun _ _ => rfl, fun _ _ => rfl, rfl, rfl, rfl,
    postLiveMigrationAtDestination_second_call_raises 1 "B" _ _ _ (fun _ _ => rfl)
      (fun _ _ => rfl) rfl rfl rfl⟩

/-- Instance 1, `MIGRATING` to host `B`, every call succeeding and no other writer: the second
of two calls in succession raises `UnexpectedTaskStateError`. -/
theorem postLiveMigrationAtDestination_second_call_not_idempotent :
    let i : Instance := { uuid := 1, vmState := some .active, taskState := some .migrating }
    let w : World := { db := { instances := fun u => if u = 1 then some i else none } }
    (postLiveMigrationAtDestination 1 "B" {} (postLiveMigrationAtDestination 1 "B" {} w).2).1 =
      .error .unexpectedTaskState :=
  rfl

/-- The write that ends a password change, successful or not: `task_state = None` under
the guard `UPDATING_PASSWORD`. -/
def endPasswordUpdate (uuid : Nat) : Op Unit :=
  discard <| instanceUpdate uuid
    { taskState := some none, expected := some [some .updatingPassword] }

/-- The loop of `set_admin_password` with `k + 1` of its ten tries left (`i = 9 - k`): a
guest that is not running ends it; the backend's `NotImplementedError` and
`UnexpectedTaskStateError` end it; any other failure is retried after a sleep, and on the
last try marks the instance `ERROR` and raises an error that names no password. -/
def setAdminPasswordTries (uuid : Nat) (newPass : String) : Nat → Op Unit
  | 0 => pure ()
  | k + 1 => do
    let p ← getPowerState uuid
    if p ≠ .running then
      endPasswordUpdate uuid
      throw (.passwordSetFailed s!"Failed to set admin password. Instance {uuid} is not running")
    let retry ← tryCatch
      (do
        io (.driverSetAdminPassword uuid newPass)
        endPasswordUpdate uuid
        pure false)
      fun ex =>
        match ex with
        | .notImplemented _ => do
          endPasswordUpdate uuid
          throw (.passwordSetFailed "set_admin_password is not implemented by this driver.")
        | .unexpectedTaskState => throw ex
        | _ =>
          if k = 0 then do
            setInstanceErrorState uuid
            throw (.passwordSetFailed "error setting admin password")
          else do
            io .sleep
            pure true
    if retry then setAdminPasswordTries uuid newPass k

/-- `ComputeManager.set_admin_password`: with no password given, the one
`utils.generate_password` returns; at most ten tries. -/
def setAdminPassword (uuid : Nat) (newPass : Option String) : Op Unit :=
  revertsTaskState (some uuid) <| wrapInstanceFault uuid do
    let pass ← match newPass with
      | some p => pure p
      | none => observe fun e _ => e.password
    setAdminPasswordTries uuid pass 10

end FolsomCloud.Compute.Manager
