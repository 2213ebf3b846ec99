import FolsomCloud.Compute.States

set_option autoImplicit false

/-!
# Compute: the datastore and its compare-and-swap update (spec §3, §6)

The manager reaches the database through `nova.db`, which is not part of this
repository; what the manager relies on is in spec §3 ("`task_state` transitions are
compare-and-swap") and §6 ("update-and-return-original").  `Db.instanceUpdate` is that
contract: a missing or deleted row raises `InstanceNotFound`, a stored `task_state`
outside the expected set raises `UnexpectedTaskStateError` and writes nothing, and
otherwise the keyword arguments are written.

Rows are kept as functions from their key, so a write is `Function.update` and every
frame fact is one `simp` lemma; `uuids` lists the instance rows in creation order, for
the listings the periodic tasks iterate over.
-/

namespace FolsomCloud.Compute

/-- The keyword arguments of one `_instance_update` call: each column it sets, and
`expected_task_state` when the caller passes one (`some [none]` is
`expected_task_state=None`). -/
structure Update where
  vmState : Option VmState := none
  taskState : Option (Option TaskState) := none
  powerState : Option PowerState := none
  host : Option String := none
  /-- `instance_type_id`, `memory_mb`, `vcpus`, `root_gb`, `ephemeral_gb` of one type -/
  instanceType : Option InstanceType := none
  launchedAt : Option Nat := none
  terminatedAt : Option Nat := none
  expected : Option (List (Option TaskState)) := none
  deriving Repr

namespace Update

/-- The guard passes: no `expected_task_state` was given, or the stored value is in it. -/
def Permits (u : Update) (i : Instance) : Prop :=
  ∀ l, u.expected = some l → i.taskState ∈ l

instance (u : Update) (i : Instance) : Decidable (u.Permits i) :=
  match h : u.expected with
  | none => isTrue (fun l hl => by simp [h] at hl)
  | some l =>
    if hm : i.taskState ∈ l then isTrue (fun l' hl => by simp_all)
    else isFalse (fun hp => hm (hp l h))

/-- The row after the write: every column the call names takes its new value. -/
def apply (u : Update) (i : Instance) : Instance :=
  { i with
    vmState := u.vmState.elim i.vmState some
    taskState := u.taskState.getD i.taskState
    powerState := u.powerState.getD i.powerState
    host := u.host.getD i.host
    instanceTypeId := (u.instanceType.map (·.id)).getD i.instanceTypeId
    memoryMb := (u.instanceType.map (·.memoryMb)).getD i.memoryMb
    vcpus := (u.instanceType.map (·.vcpus)).getD i.vcpus
    rootGb := (u.instanceType.map (·.rootGb)).getD i.rootGb
    ephemeralGb := (u.instanceType.map (·.ephemeralGb)).getD i.ephemeralGb
    launchedAt := u.launchedAt.elim i.launchedAt some
    terminatedAt := u.terminatedAt.elim i.terminatedAt some }

@[simp] theorem apply_taskState (u : Update) (i : Instance) :
    (u.apply i).taskState = u.taskState.getD i.taskState := rfl

@[simp] theorem apply_vmState (u : Update) (i : Instance) :
    (u.apply i).vmState = u.vmState.elim i.vmState some := rfl

@[simp] theorem apply_powerState (u : Update) (i : Instance) :
    (u.apply i).powerState = u.powerState.getD i.powerState := rfl

@[simp] theorem apply_host (u : Update) (i : Instance) :
    (u.apply i).host = u.host.getD i.host := rfl

@[simp] theorem apply_uuid (u : Update) (i : Instance) : (u.apply i).uuid = i.uuid := rfl

@[simp] theorem apply_name (u : Update) (i : Instance) : (u.apply i).name = i.name := rfl

@[simp] theorem apply_deleted (u : Update) (i : Instance) :
    (u.apply i).deleted = i.deleted := rfl

/-- A write that names the resource columns of type `t` leaves exactly `t`'s. -/
theorem apply_resources_of_type (u : Update) (i : Instance) {t : InstanceType}
    (h : u.instanceType = some t) : (u.apply i).resources = t.resources := by
  simp [apply, Instance.resources, InstanceType.resources, h]

/-- A write that names no resource column keeps the instance's. -/
theorem apply_resources_of_none (u : Update) (i : Instance)
    (h : u.instanceType = none) : (u.apply i).resources = i.resources := by
  simp [apply, Instance.resources, h]

end Update

/-- The tables the manager touches. -/
structure Db where
  instances : Nat → Option Instance := fun _ => none
  /-- the uuids of the instance rows, in creation order -/
  uuids : List Nat := []
  instanceTypes : Nat → Option InstanceType := fun _ => none
  migrations : Nat → Option Migration := fun _ => none
  /-- the id the next `migration_create` assigns -/
  nextMigrationId : Nat := 0
  bdms : List Bdm := []
  /-- `instance_faults`: the uuid and the exception of each recorded fault -/
  faults : List (Nat × Exc) := []

namespace Db

/-- Overwrite the row of `uuid`. -/
def setInstance (db : Db) (uuid : Nat) (i : Instance) : Db :=
  { db with instances := Function.update db.instances uuid (some i) }

@[simp] theorem setInstance_instance_self (db : Db) (uuid : Nat) (i : Instance) :
    (db.setInstance uuid i).instances uuid = some i := by
  simp [setInstance]

@[simp] theorem setInstance_instance_ne (db : Db) {uuid u : Nat} (i : Instance)
    (h : u ≠ uuid) : (db.setInstance uuid i).instances u = db.instances u := by
  simp [setInstance, h]

@[simp] theorem setInstance_migration (db : Db) (uuid : Nat) (i : Instance) :
    (db.setInstance uuid i).migrations = db.migrations := rfl

@[simp] theorem setInstance_instanceTypes (db : Db) (uuid : Nat) (i : Instance) :
    (db.setInstance uuid i).instanceTypes = db.instanceTypes := rfl

/-- Modelled from the spec: `instance_update_and_get_original` (§3, §6), whose database
layer is not in this repository.  The row as written, or the exception. -/
def instanceUpdate (db : Db) (uuid : Nat) (u : Update) : Except Exc (Instance × Db) :=
  match db.instances uuid with
  | none => .error .instanceNotFound
  | some i =>
    if i.deleted then .error .instanceNotFound
    else if u.Permits i then .ok (u.apply i, db.setInstance uuid (u.apply i))
    else .error .unexpectedTaskState

/-- What `instanceUpdate` can do, said once: it writes the permitted row, or raises
with the database unchanged. -/
theorem instanceUpdate_cases (db : Db) (uuid : Nat) (u : Update) :
    (∃ i, db.instances uuid = some i ∧ i.deleted = false ∧ u.Permits i ∧
      db.instanceUpdate uuid u = .ok (u.apply i, db.setInstance uuid (u.apply i))) ∨
    (∃ i, db.instances uuid = some i ∧ i.deleted = false ∧ ¬ u.Permits i ∧
      db.instanceUpdate uuid u = .error .unexpectedTaskState) ∨
    (∀ i, db.instances uuid = some i → i.deleted = true) ∧
      db.instanceUpdate uuid u = .error .instanceNotFound := by
  unfold instanceUpdate
  cases h : db.instances uuid with
  | none => exact .inr (.inr ⟨by simp, rfl⟩)
  | some i =>
    by_cases hd : i.deleted
    · exact .inr (.inr ⟨by simp [hd], by simp [hd]⟩)
    · by_cases hp : u.Permits i
      · exact .inl ⟨i, rfl, by simpa using hd, hp, by simp [hd, hp]⟩
      · exact .inr (.inl ⟨i, rfl, by simpa using hd, hp, by simp [hd, hp]⟩)

/-- Overwrite the row of migration `id`. -/
def setMigration (db : Db) (id : Nat) (m : Migration) : Db :=
  { db with migrations := Function.update db.migrations id (some m) }

@[simp] theorem setMigration_instance (db : Db) (id : Nat) (m : Migration) :
    (db.setMigration id m).instances = db.instances := rfl

@[simp] theorem setMigration_instanceTypes (db : Db) (id : Nat) (m : Migration) :
    (db.setMigration id m).instanceTypes = db.instanceTypes := rfl

@[simp] theorem setMigration_migration_self (db : Db) (id : Nat) (m : Migration) :
    (db.setMigration id m).migrations id = some m := by
  simp [setMigration]

/-- `migration_create`: a new row under the next id. -/
def migrationCreate (db : Db) (mk : Nat → Migration) : Migration × Db :=
  let m := mk db.nextMigrationId
  (m, { db.setMigration db.nextMigrationId m with nextMigrationId := db.nextMigrationId + 1 })

/-- `migration_update` of the status column; a missing row raises `MigrationNotFound`. -/
def migrationUpdate (db : Db) (id : Nat) (status : MigrationStatus) :
    Except Exc (Migration × Db) :=
  match db.migrations id with
  | none => .error .migrationNotFound
  | some m => .ok ({ m with status }, db.setMigration id { m with status })

/-- Record `volume_id` on mapping `id` (`block_device_mapping_update`). -/
def setBdmVolume (db : Db) (id vid : Nat) : Db :=
  { db with bdms := db.bdms.map fun b => if b.id = id then { b with volumeId := some vid } else b }

end Db

end FolsomCloud.Compute
