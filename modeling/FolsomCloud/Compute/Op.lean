import FolsomCloud.Compute.Datastore

set_option autoImplicit false

/-!
# Compute: calls, suspension points and the operation monad (spec §5, §6)

Every method of the manager is a sequence of calls to collaborators: the database,
the backend driver, the network and volume services, the notifier, the resource
tracker, the quota engine, the scheduler and the other compute hosts.  Spec §5: "Suspension
points are all I/O boundaries ... the design tolerates arbitrary delay or reordering
across them."  So each call is one suspension point, and an `Env` says, for the
`n`-th suspension point of a run:

* `interfere n`: the writes other actors make to the datastore while this one waits
  (an arbitrary function, so "every interleaving" is "every `interfere`");
* `fault n c`: whether call `c` raises there, and what.

`Op` threads a `World` (the datastore, the count of suspension points passed, and the
calls made so far) and returns a value or a raised exception; the world survives an
exception, since writes made before a raise are not undone.
-/

namespace FolsomCloud.Compute

/-- Outcomes of runs compare by value, so that a run on a given input evaluates. -/
instance instDecidableEqExcept {ε α : Type} [DecidableEq ε] [DecidableEq α] :
    DecidableEq (Except ε α) := fun x y =>
  match x, y with
  | .error a, .error b => decidable_of_iff (a = b) (by rw [Except.error.injEq])
  | .ok a, .ok b => decidable_of_iff (a = b) (by rw [Except.ok.injEq])
  | .error _, .ok _ => isFalse Except.noConfusion
  | .ok _, .error _ => isFalse Except.noConfusion

/-- Backend driver methods (`self.driver`). -/
inductive DriverMethod where
  | instanceExists | spawn | destroy | powerOff | powerOn | softDelete | restore
  | pause | unpause | suspend | resume | rescue | unrescue | reboot | snapshot
  | getInfo | migrateDiskAndPowerOff | finishMigration | finishRevertMigration
  | confirmMigration | getVolumeConnector | postLiveMigrationAtDestination | getHostIpAddr
  | listInstances | attachVolume | detachVolume
  | initHost | plugVifs | resumeStateOnHostBoot | ensureFilteringRulesForInstance
  | filterDeferApplyOn | filterDeferApplyOff | getNumInstances
  deriving DecidableEq, Repr

/-- Network service methods (`self.network_api`). -/
inductive NetworkMethod where
  | allocateForInstance | deallocateForInstance | getInstanceNwInfo
  | setupNetworksOnHost | teardownNetworksOnHost
  | migrateInstanceStart | migrateInstanceFinish
  deriving DecidableEq, Repr

/-- Volume service methods (`self.volume_api`). -/
inductive VolumeMethod where
  | get | getSnapshot | create | checkAttach | attach
  | terminateConnection | initializeConnection | detach | delete
  | unreserveVolume | rollDetaching
  deriving DecidableEq, Repr

/-- The arguments `_reschedule_or_reraise` hands back to the scheduler's `run_instance`. -/
structure BuildArgs where
  requestSpec : Option RequestSpec
  adminPassword : Option String
  injectedFiles : List String
  requestedNetworks : Option (List Nat)
  isFirstTime : Bool
  filterProperties : FilterProperties
  deriving DecidableEq, Repr

/-- The arguments `_reschedule_resize_or_reraise` hands back to the scheduler's
`prep_resize`. -/
structure ResizeArgs where
  instanceUuid : Nat
  instanceType : InstanceType
  requestSpec : RequestSpec
  filterProperties : FilterProperties
  reservations : List Nat
  deriving DecidableEq, Repr

/-- Casts of `compute_rpcapi` to a compute host, with the target host and the payload
the handler reads (`prep_resize` is cast by the scheduler, `revert_resize` and
`confirm_resize` by the API, the others by the manager). -/
inductive Cast where
  | prepResize (host : String) (inst : Instance) (instanceType : InstanceType)
      (reservations : List Nat) (requestSpec : Option RequestSpec)
      (filterProperties : Option FilterProperties)
  | resizeInstance (host : String) (uuid : Nat) (migration : Migration)
      (instanceType : InstanceType) (reservations : List Nat)
  | finishResize (host : String) (uuid : Nat) (migration : Migration) (reservations : List Nat)
  | revertResize (host : String) (uuid : Nat) (migration : Migration) (reservations : List Nat)
  | finishRevertResize (host : String) (uuid : Nat) (migration : Migration)
      (reservations : List Nat)
  | confirmResize (host : String) (uuid : Nat) (migration : Migration) (reservations : List Nat)
  deriving DecidableEq, Repr

/-- One call to a collaborator: one suspension point. -/
inductive Call where
  | db (method : String) (key : Nat)
  | driver (m : DriverMethod) (uuid : Nat)
  | driverSetAdminPassword (uuid : Nat) (password : String)
  /-- `driver.attach_volume` or `driver.detach_volume` of the disk at `mountpoint` of the
  guest of instance `uuid` -/
  | driverVolume (m : DriverMethod) (uuid : Nat) (mountpoint : String)
  | network (m : NetworkMethod) (uuid : Nat)
  | volume (m : VolumeMethod) (volumeId : Nat)
  /-- glance `show` of the image instance `uuid` boots (or rescues) from -/
  | image (uuid : Nat)
  /-- glance `detail` of the backups of instance `uuid` -/
  | imageDetail (uuid : Nat)
  | imageDelete (imageId : Nat)
  | notify (uuid : Nat) (event : String)
  | updateUsage (uuid : Nat)
  | instanceClaim (uuid : Nat)
  | abortInstanceClaim (uuid : Nat)
  | quotaCommit (reservations : List Nat)
  | quotaRollback (reservations : List Nat)
  | schedulerRunInstance (args : BuildArgs)
  | schedulerPrepResize (args : ResizeArgs)
  | cast (c : Cast)
  /-- `time.sleep` / `greenthread.sleep`: a suspension point that calls no one -/
  | sleep
  deriving DecidableEq, Repr

/-- What the rest of the system does at each suspension point. -/
structure Env where
  /-- what call `c` raises at the `n`-th suspension point, if anything -/
  fault : Nat → Call → Option Exc := fun _ _ => none
  /-- the writes of other actors that land just before the `n`-th suspension point -/
  interfere : Nat → Db → Db := fun _ db => db
  /-- the power state `driver.get_info` reports at the `n`-th suspension point -/
  power : Nat → PowerState := fun _ => .running
  /-- the password `utils.generate_password` returns -/
  password : String := ""
  /-- the backup image ids `image_service.detail` returns at the `n`-th suspension
  point, newest first -/
  backups : Nat → List Nat := fun _ => []
  /-- `driver.instance_exists` at the `n`-th suspension point -/
  instanceExists : Nat → Bool := fun _ => false
  /-- the `size` entry of the image metadata glance returns at the `n`-th suspension
  point, when it has one -/
  imageSize : Nat → Option Nat := fun _ => none
  /-- the id of the volume `volume_api.create` returns at the `n`-th suspension point -/
  newVolumeId : Nat → Nat := fun n => n
  /-- how many polls still find the volume created at the `n`-th suspension point in
  status `creating` -/
  creatingPolls : Nat → Nat := fun _ => 0
  /-- the guest names `driver.list_instances` returns at the `n`-th suspension point -/
  listInstances : Nat → List String := fun _ => []

/-- The state a run threads. -/
structure World where
  db : Db
  /-- suspension points passed so far: also the clock `timeutils.utcnow()` reads -/
  clock : Nat := 0
  /-- the calls made so far, in order, each with what it raised -/
  calls : List (Call × Option Exc) := []

/-- A manager computation. -/
def Op (α : Type) : Type := Env → World → Except Exc α × World

namespace Op

variable {α β : Type}

/-- Return `a` and change nothing. -/
protected def pure (a : α) : Op α := fun _ w => (.ok a, w)

/-- Run `x`, then `f` on its result; an exception skips `f`. -/
protected def bind (x : Op α) (f : α → Op β) : Op β := fun e w =>
  match x e w with
  | (.ok a, w') => f a e w'
  | (.error ex, w') => (.error ex, w')

/-- `raise ex`. -/
protected def throw (ex : Exc) : Op α := fun _ w => (.error ex, w)

/-- `try x except ex: h ex`, catching every exception. -/
protected def tryCatch (x : Op α) (h : Exc → Op α) : Op α := fun e w =>
  match x e w with
  | (.ok a, w') => (.ok a, w')
  | (.error ex, w') => h ex e w'

instance : Monad Op where
  pure := Op.pure
  bind := Op.bind

instance : MonadExceptOf Exc Op where
  throw := Op.throw
  tryCatch := Op.tryCatch

@[simp] theorem pure_apply (a : α) (e : Env) (w : World) :
    (pure a : Op α) e w = (.ok a, w) := rfl

@[simp] theorem bind_apply (x : Op α) (f : α → Op β) (e : Env) (w : World) :
    (x >>= f) e w = match x e w with
      | (.ok a, w') => f a e w'
      | (.error ex, w') => (.error ex, w') := rfl

@[simp] theorem map_apply (f : α → β) (x : Op α) (e : Env) (w : World) :
    (f <$> x) e w = match x e w with
      | (.ok a, w') => (.ok (f a), w')
      | (.error ex, w') => (.error ex, w') := rfl

@[simp] theorem discard_apply (x : Op α) (e : Env) (w : World) :
    (discard x) e w = match x e w with
      | (.ok _, w') => (.ok (), w')
      | (.error ex, w') => (.error ex, w') := rfl

@[simp] theorem throw_apply (ex : Exc) (e : Env) (w : World) :
    (throw ex : Op α) e w = (.error ex, w) := rfl

@[simp] theorem tryCatch_apply (x : Op α) (h : Exc → Op α) (e : Env) (w : World) :
    (tryCatch x h : Op α) e w = match x e w with
      | (.ok a, w') => (.ok a, w')
      | (.error ex, w') => h ex e w' := rfl

end Op

/-- The world after the suspension point of call `c`: the writes of others land, the
clock advances, and the call is recorded with what it raised. -/
def World.tick (w : World) (e : Env) (c : Call) : World :=
  { db := e.interfere w.clock w.db, clock := w.clock + 1,
    calls := w.calls ++ [(c, e.fault w.clock c)] }

/-- One suspension point: call `c` returns, or raises what `fault` says. -/
def io (c : Call) : Op Unit := fun e w =>
  ((e.fault w.clock c).elim (.ok ()) .error, w.tick e c)

@[simp] theorem io_apply (c : Call) (e : Env) (w : World) :
    io c e w = ((e.fault w.clock c).elim (.ok ()) .error, w.tick e c) := rfl

@[simp] theorem World.tick_db (w : World) (e : Env) (c : Call) :
    (w.tick e c).db = e.interfere w.clock w.db := rfl

@[simp] theorem World.tick_clock (w : World) (e : Env) (c : Call) :
    (w.tick e c).clock = w.clock + 1 := rfl

@[simp] theorem World.tick_calls (w : World) (e : Env) (c : Call) :
    (w.tick e c).calls = w.calls ++ [(c, e.fault w.clock c)] := rfl

/-- Apply a datastore operation to the current tables, with no suspension point of its
own (the `io` before it is the database call's). -/
def onDb {α : Type} (f : Db → Except Exc (α × Db)) : Op α := fun _ w =>
  match f w.db with
  | .ok (a, db') => (.ok a, { w with db := db' })
  | .error ex => (.error ex, w)

/-- `onDb` once applied; a plain lemma, so that an unapplied `onDb` inside a loop body is
left for the loop's own lemmas. -/
theorem onDb_apply {α : Type} (f : Db → Except Exc (α × Db)) (e : Env) (w : World) :
    onDb f e w = match f w.db with
      | .ok (a, db') => (.ok a, { w with db := db' })
      | .error ex => (.error ex, w) := rfl

/-- Read what the environment answers at the current suspension point, without
passing it. -/
def observe {α : Type} (f : Env → Nat → α) : Op α := fun e w => (.ok (f e w.clock), w)

/-- `timeutils.utcnow()`. -/
def now : Op Nat := fun _ w => (.ok w.clock, w)

/-- `try x finally f`: `f` runs whatever `x` did; an exception of `f` replaces `x`'s
outcome. -/
def tryFinally {α : Type} (x : Op α) (f : Op Unit) : Op α := fun e w =>
  match x e w with
  | (r, w') => match f e w' with
    | (.ok (), w'') => (r, w'')
    | (.error ex, w'') => (.error ex, w'')

/-- A Python `for` loop over `l` whose body returns nothing. -/
def forEach {α : Type} : List α → (α → Op Unit) → Op Unit
  | [], _ => pure ()
  | a :: l, f => do f a; forEach l f

@[simp] theorem forEach_nil {α : Type} (f : α → Op Unit) : forEach [] f = pure () := rfl

@[simp] theorem forEach_cons {α : Type} (a : α) (l : List α) (f : α → Op Unit) :
    forEach (a :: l) f = (do f a; forEach l f) := rfl

end FolsomCloud.Compute
