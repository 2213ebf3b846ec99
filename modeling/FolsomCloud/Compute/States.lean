import Mathlib.Logic.Function.Basic

set_option autoImplicit false

/-!
# Compute: instance states, records and raised exceptions (spec §3)

The durable vocabulary of the compute manager (`nova/compute/manager.py`): the coarse
`vm_state`, the fine-grained `task_state` that concurrent operations use as a
compare-and-swap guard, the `power_state` the backend reports, and the rows the
manager reads and writes (instances, instance types, migrations, block-device
mappings).

Only the columns some modelled function reads or writes are kept; `MODEL_MAP.json`
lists the rest.  Identifiers are `Nat`s and host names are `String`s: the code only
ever compares them for equality.
-/

namespace FolsomCloud.Compute

/-- `nova.compute.vm_states`, the values the manager writes or tests. -/
inductive VmState where
  | active | building | stopped | paused | suspended | rescued | resized
  | softDeleted | deleted | error
  deriving DecidableEq, Repr, Inhabited

/-- `nova.compute.task_states`: the in-flight marker of an operation. -/
inductive TaskState where
  | scheduling | networking | blockDeviceMapping | spawning
  | imageSnapshot | imageBackup | updatingPassword
  | resizePrep | resizeMigrating | resizeMigrated | resizeFinish
  | resizeReverting | resizeConfirming
  | rebooting | rebuilding | rebuildBlockDeviceMapping | rebuildSpawning
  | pausing | unpausing | suspending | resuming | rescuing | unrescuing
  | poweringOff | poweringOn | stopping | starting
  | softDeleting | restoring | deleting | migrating
  deriving DecidableEq, Repr, Inhabited

/-- `nova.compute.power_state`, as the backend reports it. -/
inductive PowerState where
  | nostate | running | paused | shutdown | crashed | suspended
  deriving DecidableEq, Repr, Inhabited

/-- The exceptions a call can raise, distinguished as finely as the handlers of the
source distinguish them; `other` is any further exception, with its message. -/
inductive Exc where
  /-- `exception.UnexpectedTaskStateError`: the compare-and-swap guard failed -/
  | unexpectedTaskState
  /-- `exception.InstanceNotFound` -/
  | instanceNotFound
  /-- `exception.VolumeNotFound` -/
  | volumeNotFound
  /-- `exception.DiskNotFound` -/
  | diskNotFound
  /-- `exception.NetworkNotFound` -/
  | networkNotFound
  /-- `exception.MigrationNotFound` -/
  | migrationNotFound
  /-- `exception.InstanceTypeNotFound` -/
  | instanceTypeNotFound
  /-- `exception.InstanceTerminationFailure` -/
  | instanceTerminationFailure
  /-- `NotImplementedError`, with its message -/
  | notImplemented (msg : String)
  /-- `exception.Invalid` (an instance of that name already exists) -/
  | invalid
  /-- `exception.ImageTooLarge` -/
  | imageTooLarge
  /-- `exception.MigrationError`, with its message -/
  | migrationError (msg : String)
  /-- `exception.InstancePasswordSetFailed`, with its reason -/
  | passwordSetFailed (reason : String)
  /-- `exception.AggregateError` -/
  | aggregateError
  /-- `exception.InvalidAggregateAction`, with its reason -/
  | invalidAggregateAction (reason : String)
  /-- `exception.ImageRotationNotAllowed` -/
  | imageRotationNotAllowed
  /-- `exception.RotationRequiredForBackup` -/
  | rotationRequiredForBackup
  /-- `KeyError` on a missing dictionary key -/
  | keyError (key : String)
  /-- any other exception, with its message -/
  | other (msg : String)
  deriving DecidableEq, Repr, Inhabited

namespace Exc

/-- The exceptions `except exception.NotFound` catches. -/
def isNotFound : Exc → Bool
  | instanceNotFound | volumeNotFound | diskNotFound | networkNotFound
  | migrationNotFound | instanceTypeNotFound => true
  | _ => false

end Exc

/-- A row of `instance_types`. -/
structure InstanceType where
  id : Nat
  name : String
  memoryMb : Nat
  vcpus : Nat
  rootGb : Nat
  ephemeralGb : Nat
  deriving DecidableEq, Repr, Inhabited

/-- A row of `instances`, restricted to the columns the manager reads or writes. -/
structure Instance where
  uuid : Nat
  name : String := ""
  host : String := ""
  vmState : Option VmState := none
  taskState : Option TaskState := none
  powerState : PowerState := .nostate
  instanceTypeId : Nat := 0
  memoryMb : Nat := 0
  vcpus : Nat := 0
  rootGb : Nat := 0
  ephemeralGb : Nat := 0
  createdAt : Nat := 0
  launchedAt : Option Nat := none
  terminatedAt : Option Nat := none
  deleted : Bool := false
  deletedAt : Option Nat := none
  accessIpV4 : Option String := none
  accessIpV6 : Option String := none
  deriving DecidableEq, Repr, Inhabited

/-- The resource columns of an instance: what a resize changes and a revert restores. -/
def Instance.resources (i : Instance) : Nat × Nat × Nat × Nat × Nat :=
  (i.instanceTypeId, i.memoryMb, i.vcpus, i.rootGb, i.ephemeralGb)

/-- The resource columns an instance of type `t` carries. -/
def InstanceType.resources (t : InstanceType) : Nat × Nat × Nat × Nat × Nat :=
  (t.id, t.memoryMb, t.vcpus, t.rootGb, t.ephemeralGb)

/-- `migrations.status`. -/
inductive MigrationStatus where
  | preMigrating | migrating | postMigrating | finished | reverted | confirmed | error
  deriving DecidableEq, Repr, Inhabited

/-- The statuses spec §3 calls terminal. -/
def MigrationStatus.IsTerminal (s : MigrationStatus) : Prop :=
  s = .finished ∨ s = .reverted ∨ s = .error

instance (s : MigrationStatus) : Decidable s.IsTerminal :=
  inferInstanceAs (Decidable (_ ∨ _))

/-- A row of `migrations`. -/
structure Migration where
  id : Nat
  instanceUuid : Nat
  sourceCompute : String
  destCompute : String
  oldInstanceTypeId : Nat
  newInstanceTypeId : Nat
  status : MigrationStatus
  deriving DecidableEq, Repr, Inhabited

/-- A row of `block_device_mapping`. -/
structure Bdm where
  id : Nat
  instanceUuid : Nat
  deviceName : String := ""
  /-- `connection_info` holds the JSON of a connection (it is `None` until an attach
  completes) -/
  connectionInfo : Bool := false
  noDevice : Bool := false
  virtualName : Option String := none
  snapshotId : Option Nat := none
  volumeId : Option Nat := none
  deleteOnTermination : Bool := false
  deriving DecidableEq, Repr, Inhabited

/-- A mapping with a volume (`if bdm['volume_id']`; volume ids are non-empty). -/
def Bdm.hasVolume (b : Bdm) : Bool := b.volumeId.isSome

/-- The `retry` dictionary of `filter_properties`: its `num_attempts` entry when
present, and the names of its other keys (the scheduler also writes `hosts`). -/
structure Retry where
  numAttempts : Option Nat := none
  otherKeys : List String := []
  deriving DecidableEq, Repr, Inhabited

/-- Python truthiness of the `retry` dictionary: it has a key. -/
def Retry.truthy (r : Retry) : Bool := r.numAttempts.isSome || !r.otherKeys.isEmpty

/-- `filter_properties`, with the entry the manager reads. -/
structure FilterProperties where
  retry : Option Retry := none
  deriving DecidableEq, Repr, Inhabited

/-- `request_spec`: the `instance_uuids` entry the reschedule writes, and the names of
its other keys. -/
structure RequestSpec where
  instanceUuids : Option (List Nat) := none
  otherKeys : List String := []
  deriving DecidableEq, Repr, Inhabited

/-- Python truthiness of `request_spec`: it is present and has a key. -/
def RequestSpec.truthy : Option RequestSpec → Bool
  | none => false
  | some r => r.instanceUuids.isSome || !r.otherKeys.isEmpty

end FolsomCloud.Compute
