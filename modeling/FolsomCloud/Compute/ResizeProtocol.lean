import Mathlib.Logic.Relation
import Mathlib.Tactic.Set
import FolsomCloud.Compute.Resize
import FolsomCloud.Compute.Keeps

set_option autoImplicit false

/-!
# Compute: the two-host resize protocol (spec §4.4, §5)

The six resize handlers of `FolsomCloud.Compute.Resize`, run by the hosts the casts
address.  A `Cluster` is the shared datastore and call log, and the casts in flight; a
step delivers any message in flight to its host, which runs the handler to its end,
with every call free to raise (`Env.fault`).  The other actors of the resize, the API
and the scheduler, cast the first `prep_resize`, the reschedules, and the
`revert_resize` and `confirm_resize` that end a resize.

Results:

* no handler, on any path, writes a migration status other than pre-migrating,
  migrating, post-migrating, finished and reverted (`Reachable.migration_statuses_written`);
  a failed `resize_instance` leaves its migration `migrating` with nothing in flight
  (`resize_failure_leaves_migrating`);
* a failure of `resize_instance` after its cast of `finish_resize` rolls the
  reservations back on the source while the destination commits them
  (`resize_end_failure_commits_rolled_back_reservation`);
* the resize-then-revert scenario of spec §8, for every instance and pair of types
  (`resize_then_revert_restores`).
-/

namespace FolsomCloud.Compute

open Manager Op

/-! ## Messages and their handlers -/

/-- The host a cast is addressed to. -/
def Cast.host : Cast → String
  | .prepResize host .. | .resizeInstance host .. | .finishResize host ..
  | .revertResize host .. | .finishRevertResize host .. | .confirmResize host .. => host

/-- The method `ComputeManager` runs for a cast, on the host it is addressed to, with the
message's payload. -/
def Cast.handler (conf : Conf) : Cast → Op Unit
  | .prepResize host inst t r spec fp => Manager.prepResize conf host inst t r spec fp
  | .resizeInstance _ uuid m _ r => Manager.resizeInstance uuid m r
  | .finishResize _ uuid m r => Manager.finishResize uuid m r
  | .revertResize _ uuid m r => Manager.revertResize uuid m r
  | .finishRevertResize _ uuid m r => Manager.finishRevertResize uuid m r
  | .confirmResize _ uuid _ r => Manager.confirmResize uuid r

/-- The casts a run of calls sent: a `cast` that raised sent nothing. -/
def sentCasts (calls : List (Call × Option Exc)) : List Cast :=
  calls.filterMap fun
    | (.cast m, none) => some m
    | _ => none

@[simp] theorem sentCasts_nil : sentCasts [] = [] := rfl

@[simp] theorem sentCasts_append (l l' : List (Call × Option Exc)) :
    sentCasts (l ++ l') = sentCasts l ++ sentCasts l' := List.filterMap_append _ _ _

@[simp] theorem sentCasts_cons (x : Call × Option Exc) (l : List (Call × Option Exc)) :
    sentCasts (x :: l) = (match x with | (.cast m, none) => [m] | _ => []) ++ sentCasts l := by
  rcases x with ⟨c, _ | ex⟩ <;> cases c <;> rfl

/-- The connector loop sends no cast. -/
@[simp] theorem sentCasts_volumeCalls (uuid : Nat) (bdms : List Bdm) (m : VolumeMethod) :
    sentCasts ((volumeCalls uuid bdms m).map (·, none)) = [] := by
  have h : ∀ l : List Bdm, sentCasts ((l.flatMap fun b =>
      [Call.volume .get (b.volumeId.getD 0), .volume m (b.volumeId.getD 0)]).map (·, none)) =
      [] := by
    intro l; induction l <;> simp_all [List.flatMap_cons]
  unfold volumeCalls; split <;> simp [h]

/-- `e` with no writes of other actors between the calls: a handler is one step of the
protocol, and the other steps are the interleaving. -/
def Env.quiet (e : Env) : Env := { e with interfere := fun _ db => db }

@[simp] theorem Env.quiet_fault (e : Env) : e.quiet.fault = e.fault := rfl

@[simp] theorem Env.quiet_interfere (e : Env) (n : Nat) (db : Db) :
    e.quiet.interfere n db = db := rfl

/-! ## The cluster -/

/-- The shared world and the casts in flight. -/
structure Cluster where
  world : World
  inFlight : List Cast

/-- Modelled from the spec (§4.4; `compute/api.py` and the scheduler are not in this
repository): what the API and the scheduler do to a resize. -/
inductive Request where
  /-- the API marks the instance `RESIZE_PREP`, and the scheduler casts `prep_resize` to
  the host it picked -/
  | resize (host : String) (inst : Instance) (instanceType : InstanceType)
      (reservations : List Nat) (requestSpec : Option RequestSpec)
      (filterProperties : Option FilterProperties)
  /-- the scheduler answers a reschedule with `prep_resize` to another host -/
  | reschedule (host : String) (inst : Instance) (instanceType : InstanceType)
      (reservations : List Nat) (requestSpec : Option RequestSpec)
      (filterProperties : Option FilterProperties)
  /-- the API marks the instance `RESIZE_REVERTING` and casts `revert_resize` to the
  destination -/
  | revert (uuid : Nat) (migration : Migration) (reservations : List Nat)
  /-- the API casts `confirm_resize` to the source -/
  | confirm (uuid : Nat) (migration : Migration) (reservations : List Nat)

/-- Write the `task_state` of row `uuid`, if there is one. -/
def Db.markTask (db : Db) (uuid : Nat) (t : TaskState) : Db :=
  { db with
    instances := Function.update db.instances uuid
      ((db.instances uuid).map fun i => { i with taskState := some t }) }

@[simp] theorem Db.markTask_instances_self (db : Db) (uuid : Nat) (t : TaskState) :
    (db.markTask uuid t).instances uuid =
      (db.instances uuid).map fun i => { i with taskState := some t } := by
  simp [Db.markTask]

@[simp] theorem Db.markTask_migrations (db : Db) (uuid : Nat) (t : TaskState) :
    (db.markTask uuid t).migrations = db.migrations := rfl

@[simp] theorem Db.markTask_instanceTypes (db : Db) (uuid : Nat) (t : TaskState) :
    (db.markTask uuid t).instanceTypes = db.instanceTypes := rfl

namespace Cluster

variable (conf : Conf)

/-- The host of the `k`-th message in flight takes it and runs its handler, whose calls
raise as `e` says; the casts the handler sent join the messages in flight. -/
def deliver (c : Cluster) (k : Nat) (e : Env) : Cluster :=
  match c.inFlight[k]? with
  | none => c
  | some m =>
    let w := ((m.handler conf) e.quiet { c.world with calls := [] }).2
    { world := { w with calls := c.world.calls ++ w.calls },
      inFlight := c.inFlight.eraseIdx k ++ sentCasts w.calls }

/-- Modelled from the spec: a request of the API or the scheduler. -/
def request (c : Cluster) : Request → Cluster
  | .resize host inst t r spec fp =>
    { world := { c.world with db := c.world.db.markTask inst.uuid .resizePrep },
      inFlight := c.inFlight ++ [.prepResize host inst t r spec fp] }
  | .reschedule host inst t r spec fp =>
    { c with inFlight := c.inFlight ++ [.prepResize host inst t r spec fp] }
  | .revert uuid m r =>
    { world := { c.world with db := c.world.db.markTask uuid .resizeReverting },
      inFlight := c.inFlight ++ [.revertResize m.destCompute uuid m r] }
  | .confirm uuid m r =>
    { c with inFlight := c.inFlight ++ [.confirmResize m.sourceCompute uuid m r] }

end Cluster

/-- One step of the protocol: a delivery, or a request of the API or the scheduler. -/
inductive Step (conf : Conf) : Cluster → Cluster → Prop
  | deliver (c : Cluster) (k : Nat) (e : Env) : Step conf c (c.deliver conf k e)
  | request (c : Cluster) (q : Request) : Step conf c (c.request q)

/-- The clusters a run of the protocol can reach. -/
def Reachable (conf : Conf) : Cluster → Cluster → Prop := Relation.ReflTransGen (Step conf)

/-! ## One instance to resize

Instance 1, `m1.small` on host `A`; the API asks for `m1.medium` on host `B`, with the
quota reservation 7. -/

/-- `m1.small`. -/
def smallType : InstanceType :=
  { id := 1, name := "m1.small", memoryMb := 2048, vcpus := 1, rootGb := 20, ephemeralGb := 0 }

/-- `m1.medium`. -/
def mediumType : InstanceType :=
  { id := 2, name := "m1.medium", memoryMb := 4096, vcpus := 2, rootGb := 40, ephemeralGb := 0 }

/-- Instance 1, active on host `A`, with the columns of `smallType`. -/
def instanceA : Instance :=
  { uuid := 1, host := "A", vmState := some .active, instanceTypeId := 1, memoryMb := 2048,
    vcpus := 1, rootGb := 20 }

/-- The datastore holding `instanceA` and the two types. -/
def worldA : World :=
  { db := { instances := fun u => if u = 1 then some instanceA else none, uuids := [1],
            instanceTypes := fun t =>
              if t = 1 then some smallType else if t = 2 then some mediumType else none } }

/-- The API's request to resize `instanceA` to `mediumType` on `B`. -/
def resizeA : Cluster :=
  (Cluster.mk worldA []).request (.resize "B" instanceA mediumType [7] none none)

/-! ## Migration statuses

Every handler keeps "each migration row has a status some handler writes", whatever its
calls raise: the walk over its `do` block stops at its migration writes, which are
`pre-migrating` (create), `migrating`, `post-migrating`, `finished` and `reverted`.  No
path writes `error`. -/

/-- The statuses the resize handlers write: all but `confirmed` and `error`. -/
def MigrationStatus.isWritten : MigrationStatus → Bool
  | .confirmed | .error => false
  | _ => true

/-- Every migration row carries a status some handler writes. -/
def StatusesWritten (ms : Nat → Option Migration) : Prop :=
  ∀ id m, ms id = some m → m.status.isWritten = true

theorem statusesWritten_update {ms : Nat → Option Migration} (h : StatusesWritten ms) (id : Nat)
    {m : Migration} (hm : m.status.isWritten = true) :
    StatusesWritten (Function.update ms id (some m)) := by
  intro id' m' h'
  by_cases hid : id' = id
  · subst hid; simp at h'; subst h'; exact hm
  · rw [Function.update_noteq hid] at h'; exact h id' m' h'

namespace Manager


theorem keeps_migrationUpdate (id : Nat) {s : MigrationStatus} (hs : s.isWritten = true) :
    Keeps StatusesWritten (migrationUpdate id s) := by
  refine (keeps_io _).bind fun _ => keeps_onDb ?_
  intro db m db' h hw
  unfold Db.migrationUpdate at h
  split at h
  · cases h
  · cases h; exact statusesWritten_update hw id hs

theorem keeps_getInstanceType (id : Nat) : Keeps StatusesWritten (getInstanceType id) := by
  refine (keeps_io _).bind fun _ => keeps_onDb ?_
  intro db t db' h hw
  split at h <;> cases h; exact hw

theorem keeps_getInstanceVolumeBdms (uuid : Nat) :
    Keeps StatusesWritten (getInstanceVolumeBdms uuid) :=
  (keeps_io _).bind fun _ => keeps_onDb fun _ _ _ h hw => by cases h; exact hw

theorem keeps_volumeConnections (uuid : Nat) (bdms : List Bdm) (m : VolumeMethod) :
    Keeps StatusesWritten (volumeConnections uuid bdms m) := by
  unfold volumeConnections volumeConnection
  split
  · exact keeps_pure _
  · exact (keeps_io _).bind fun _ =>
      Keeps.forEach (fun _ => (keeps_io _).bind fun _ => keeps_io _) _

theorem keeps_notifyAboutInstanceUsage (uuid : Nat) (ev : String) :
    Keeps StatusesWritten (notifyAboutInstanceUsage uuid ev) := keeps_io _

theorem keeps_getInstanceNwInfo (uuid : Nat) : Keeps StatusesWritten (getInstanceNwInfo uuid) :=
  keeps_io _

theorem keeps_getRetry (v : PyValue) : Keeps StatusesWritten v.getRetry := by
  cases v
  · exact keeps_throw _
  · exact keeps_pure _

theorem keeps_asUuid (v : PyValue) : Keeps StatusesWritten v.asUuid := by
  cases v
  · exact keeps_pure _
  · exact keeps_throw _

/-- `migration_create` writes a `pre-migrating` row. -/
theorem keeps_migrationCreate (mk : Nat → Migration) (hmk : ∀ id, (mk id).status = .preMigrating) :
    Keeps StatusesWritten (onDb fun db => .ok (db.migrationCreate mk)) :=
  keeps_onDb fun db _ _ h hw => by
    cases h; exact statusesWritten_update hw _ (by rw [hmk]; rfl)

theorem keeps_resizeInstance (uuid : Nat) (m : Migration) (r : List Nat) :
    Keeps StatusesWritten (resizeInstance uuid m r) := by
  unfold resizeInstance terminateVolumeConnections
  refine .revertsTaskState _ (.wrapInstanceFault _ (.errorOutInstanceOnException _ _ ?_))
  repeat' first
    | rfl
    | with_reducible apply Keeps.discard
    | with_reducible apply keeps_migrationUpdate
    | with_reducible exact keeps_instanceUpdate _ _
    | with_reducible exact keeps_getInstanceVolumeBdms _
    | with_reducible exact keeps_volumeConnections _ _ _
    | with_reducible exact keeps_getInstanceNwInfo _
    | with_reducible exact keeps_notifyAboutInstanceUsage _ _
    | with_reducible exact keeps_io _
    | with_reducible exact keeps_pure _
    | with_reducible apply Keeps.bind
    | intro _

theorem keeps_reschedule (spec : Option RequestSpec) (fp uuid : PyValue) (sm : RequestSpec → Call)
    (ts : TaskState) : Keeps StatusesWritten (reschedule spec fp uuid sm ts) := by
  unfold reschedule
  repeat' first
    | with_reducible apply Keeps.discard
    | with_reducible exact keeps_instanceUpdate _ _
    | with_reducible exact keeps_getRetry _
    | with_reducible exact keeps_asUuid _
    | with_reducible exact keeps_io _
    | with_reducible exact keeps_pure _
    | with_reducible exact keeps_throw _
    | with_reducible apply Keeps.bind
    | intro _
    | split

theorem keeps_prepResize (conf : Conf) (self : String) (inst : Instance) (t : InstanceType)
    (r : List Nat) (spec : Option RequestSpec) (fp : Option FilterProperties) :
    Keeps StatusesWritten (prepResize conf self inst t r spec fp) := by
  unfold prepResize prepResizeBody prepResizeMigration rescheduleResizeOrReraise
  refine .revertsTaskState _ (.wrapInstanceFault _ (.errorOutInstanceOnException _ _ ?_))
  repeat' first
    | with_reducible exact keeps_setInstanceErrorState _
    | with_reducible exact keeps_migrationCreate _ fun _ => rfl
    | with_reducible exact keeps_reschedule _ _ _ _ _
    | with_reducible exact keeps_notifyAboutInstanceUsage _ _
    | with_reducible exact keeps_io _
    | with_reducible exact keeps_pure _
    | with_reducible exact keeps_throw _
    | with_reducible apply Keeps.bind
    | with_reducible apply Keeps.tryCatch
    | with_reducible apply Keeps.tryFinally
    | intro _
    | split

theorem keeps_finishResize (uuid : Nat) (m : Migration) (r : List Nat) :
    Keeps StatusesWritten (finishResize uuid m r) := by
  unfold finishResize finishResize'
  refine .revertsTaskState _ (.wrapInstanceFault _ ?_)
  repeat' first
    | rfl
    | with_reducible apply Keeps.discard
    | with_reducible apply keeps_migrationUpdate
    | with_reducible exact keeps_instanceUpdate _ _
    | with_reducible exact keeps_getInstanceType _
    | with_reducible exact keeps_getInstanceVolumeBdms _
    | with_reducible exact keeps_volumeConnections _ _ _
    | with_reducible exact keeps_quotaCommit _
    | with_reducible exact keeps_quotaRollback _
    | with_reducible exact keeps_setInstanceErrorState _
    | with_reducible exact keeps_getInstanceNwInfo _
    | with_reducible exact keeps_notifyAboutInstanceUsage _ _
    | with_reducible exact keeps_now
    | with_reducible exact keeps_io _
    | with_reducible exact keeps_pure _
    | with_reducible exact keeps_throw _
    | with_reducible apply Keeps.bind
    | with_reducible apply Keeps.tryCatch
    | intro _
    | split

theorem keeps_confirmResize (uuid : Nat) (r : List Nat) :
    Keeps StatusesWritten (confirmResize uuid r) := by
  unfold confirmResize
  refine .wrapInstanceFault _ ((keeps_io _).bind fun _ => .errorOutInstanceOnException _ _ ?_)
  repeat' first
    | with_reducible exact keeps_quotaCommit _
    | with_reducible exact keeps_getInstanceNwInfo _
    | with_reducible exact keeps_notifyAboutInstanceUsage _ _
    | with_reducible exact keeps_io _
    | with_reducible apply Keeps.bind
    | intro _

theorem keeps_revertResize (uuid : Nat) (m : Migration) (r : List Nat) :
    Keeps StatusesWritten (revertResize uuid m r) := by
  unfold revertResize terminateVolumeConnections
  refine .revertsTaskState _ (.wrapInstanceFault _ ((keeps_io _).bind fun _ =>
    .errorOutInstanceOnException _ _ ?_))
  repeat' first
    | with_reducible exact keeps_getInstanceVolumeBdms _
    | with_reducible exact keeps_volumeConnections _ _ _
    | with_reducible exact keeps_getInstanceNwInfo _
    | with_reducible exact keeps_io _
    | with_reducible apply Keeps.bind
    | intro _

theorem keeps_finishRevertResize (uuid : Nat) (m : Migration) (r : List Nat) :
    Keeps StatusesWritten (finishRevertResize uuid m r) := by
  unfold finishRevertResize
  refine .revertsTaskState _ (.wrapInstanceFault _ (.errorOutInstanceOnException _ _ ?_))
  repeat' first
    | rfl
    | with_reducible apply Keeps.discard
    | with_reducible apply keeps_migrationUpdate
    | with_reducible exact keeps_instanceUpdate _ _
    | with_reducible exact keeps_getInstanceType _
    | with_reducible exact keeps_getInstanceVolumeBdms _
    | with_reducible exact keeps_volumeConnections _ _ _
    | with_reducible exact keeps_quotaCommit _
    | with_reducible exact keeps_getInstanceNwInfo _
    | with_reducible exact keeps_notifyAboutInstanceUsage _ _
    | with_reducible exact keeps_now
    | with_reducible exact keeps_io _
    | with_reducible apply Keeps.bind
    | intro _

end Manager

/-- What a cast's handler keeps. -/
theorem Cast.keeps_handler (conf : Conf) (m : Cast) : Keeps StatusesWritten (m.handler conf) := by
  cases m with
  | prepResize => exact keeps_prepResize ..
  | resizeInstance => exact keeps_resizeInstance ..
  | finishResize => exact keeps_finishResize ..
  | revertResize => exact keeps_revertResize ..
  | finishRevertResize => exact keeps_finishRevertResize ..
  | confirmResize => exact keeps_confirmResize ..

theorem Step.statusesWritten {conf : Conf} {c c' : Cluster} (h : Step conf c c')
    (hc : StatusesWritten c.world.db.migrations) : StatusesWritten c'.world.db.migrations := by
  cases h with
  | deliver k e =>
    unfold Cluster.deliver
    split
    · exact hc
    · next m _ => exact (m.keeps_handler conf).keeps e.quiet _ (fun _ _ h => h) hc
  | request q => cases q <;> exact hc

/-- No run of the protocol, whatever its calls raise and in whatever order its messages
are taken, writes a migration status other than pre-migrating, migrating,
post-migrating, finished and reverted: in particular, no failure writes `error`. -/
theorem Reachable.migration_statuses_written {conf : Conf} {c c' : Cluster}
    (h : Reachable conf c c') (hc : StatusesWritten c.world.db.migrations) :
    StatusesWritten c'.world.db.migrations := by
  induction h with
  | refl => exact hc
  | tail _ hs ih => exact hs.statusesWritten ih

/-- The run of `resize_failure_leaves_migrating` writes only handler statuses. -/
theorem resize_failure_statuses_written :
    let e : Env :=
      { fault := fun _ c =>
          if c = .driver .migrateDiskAndPowerOff 1 then some (.migrationError "disk") else none }
    let c := (resizeA.deliver {} 0 {}).deliver {} 0 e
    Reachable {} ⟨worldA, []⟩ c ∧ StatusesWritten worldA.db.migrations ∧
      StatusesWritten c.world.db.migrations :=
  have reach := .tail (.tail (.single (.request _ _)) (.deliver _ _ _)) (.deliver _ _ _)
  have h0 : StatusesWritten worldA.db.migrations := fun _ _ h => by cases h
  ⟨reach, h0, Reachable.migration_statuses_written reach h0⟩

/-- A failed resize leaves its migration non-terminal: `migrate_disk_and_power_off` raises
on the source after the migration was marked `migrating`; the handler rolls the
reservation back, marks the instance `ERROR` and clears its `task_state`, and nothing is
in flight, while the migration stays `migrating`. -/
theorem resize_failure_leaves_migrating :
    let e : Env :=
      { fault := fun _ c =>
          if c = .driver .migrateDiskAndPowerOff 1 then some (.migrationError "disk") else none }
    let c := (resizeA.deliver {} 0 {}).deliver {} 0 e
    Reachable {} ⟨worldA, []⟩ c ∧ c.inFlight = [] ∧
      (c.world.db.instances 1).map (·.taskState) = some none ∧
      (c.world.db.migrations 0).map (·.status) = some .migrating :=
  ⟨.tail (.tail (.single (.request _ _)) (.deliver _ _ _)) (.deliver _ _ _), by decide⟩

/-! ## Quota reservations -/

/-- A failure of `resize_instance` after its cast of `finish_resize` both rolls back and
commits the reservation: the `resize.end` notification raises on the source, so
`_error_out_instance_on_exception` rolls reservation 7 back; the database then fails the
error-state write and the `reverts_task_state` reset, so the instance keeps
`RESIZE_MIGRATED`, and `finish_resize` on the destination completes and commits 7.  (With
the two hosts running at once, the destination can commit before the source resets the
`task_state`, and the notification failure alone suffices.) -/
theorem resize_end_failure_commits_rolled_back_reservation :
    let e : Env :=
      { fault := fun n c =>
          if c = .notify 1 "resize.end" then some (.other "notifier")
          else if c = .db "instance_update_and_get_original" 1 ∧ 20 < n then
            some (.other "database")
          else none }
    let c := ((resizeA.deliver {} 0 {}).deliver {} 0 e).deliver {} 0 {}
    Reachable {} ⟨worldA, []⟩ c ∧ (Call.quotaRollback [7], none) ∈ c.world.calls ∧
      (Call.quotaCommit [7], none) ∈ c.world.calls :=
  ⟨.tail (.tail (.tail (.single (.request _ _)) (.deliver _ _ _)) (.deliver _ _ _))
    (.deliver _ _ _), by decide⟩

/-! ## The resize-then-revert scenario

One lemma per delivery, each a Hoare triple on the cluster: the message in flight and
the rows the handler reads, before; the message it sends and the rows it writes, after.
Every call succeeds (`he`); the rows the handler does not read may be anything. -/

section HappyPath

variable (conf : Conf) {e : Env} (he : ∀ n c, e.fault n c = none)
include he

theorem deliver_prepResize (c : Cluster) (self : String) (i : Instance) (t : InstanceType)
    (r : List Nat) (spec : Option RequestSpec) (fp : Option FilterProperties)
    (hc : c.inFlight = [.prepResize self i t r spec fp])
    (hsame : i.host = self → conf.allowResizeToSameHost = true) :
    let m : Migration :=
      { id := c.world.db.nextMigrationId, instanceUuid := i.uuid, sourceCompute := i.host,
        destCompute := self, oldInstanceTypeId := i.instanceTypeId, newInstanceTypeId := t.id,
        status := .preMigrating }
    (c.deliver conf 0 e).inFlight = [.resizeInstance i.host i.uuid m t r] ∧
    (c.deliver conf 0 e).world.db =
      { c.world.db.setMigration m.id m with nextMigrationId := m.id + 1 } := by
  intro m
  have hs : ¬(i.host = self ∧ conf.allowResizeToSameHost = false) := fun ⟨h1, h2⟩ => by
    simp [hsame h1] at h2
  simp [Cluster.deliver, hc, Cast.handler, prepResize, revertsTaskState, wrapInstanceFault,
    errorOutInstanceOnException, prepResizeBody, prepResizeMigration,
    FolsomCloud.Compute.tryFinally, Op.tryCatch, notifyAboutInstanceUsage, he, hs, onDb,
    Db.migrationCreate, m]

theorem deliver_resizeInstance (c : Cluster) (src : String) (uuid : Nat) (m : Migration)
    (t : InstanceType) (r : List Nat) (j : Instance)
    (hc : c.inFlight = [.resizeInstance src uuid m t r])
    (hj : c.world.db.instances uuid = some j) (hd : j.deleted = false)
    (ht : j.taskState = some .resizePrep) (hm : c.world.db.migrations m.id = some m) :
    let m' := { m with status := .postMigrating }
    (c.deliver conf 0 e).inFlight = [.finishResize m.destCompute uuid m' r] ∧
    (c.deliver conf 0 e).world.db.instances uuid =
      some { j with host := m.destCompute, taskState := some .resizeMigrated } ∧
    (c.deliver conf 0 e).world.db.migrations m.id = some m' ∧
    (c.deliver conf 0 e).world.db.instanceTypes = c.world.db.instanceTypes := by
  intro m'
  simp [Cluster.deliver, hc, Cast.handler, resizeInstance, revertsTaskState, wrapInstanceFault,
    errorOutInstanceOnException, Op.tryCatch, notifyAboutInstanceUsage, getInstanceNwInfo, he,
    hj, hd, ht, hm, migrationUpdate, Db.migrationUpdate, onDb, instanceUpdate, Db.instanceUpdate,
    Update.Permits, terminateVolumeConnections, getInstanceVolumeBdms, volumeConnections_quiet,
    m', Update.apply]

theorem deliver_finishResize (c : Cluster) (dst : String) (uuid : Nat) (m : Migration)
    (r : List Nat) (j : Instance) (N : InstanceType)
    (hc : c.inFlight = [.finishResize dst uuid m r])
    (hj : c.world.db.instances uuid = some j) (hd : j.deleted = false)
    (ht : j.taskState = some .resizeMigrated) (hm : c.world.db.migrations m.id = some m)
    (hN : c.world.db.instanceTypes m.newInstanceTypeId = some N) :
    (c.deliver conf 0 e).inFlight = [] ∧
    (∃ j', (c.deliver conf 0 e).world.db.instances uuid = some j' ∧
      j'.vmState = some .resized ∧ j'.taskState = none ∧ j'.host = j.host ∧
      j'.deleted = false ∧
      j'.resources = if m.oldInstanceTypeId = m.newInstanceTypeId then j.resources
        else N.resources) ∧
    (c.deliver conf 0 e).world.db.migrations m.id = some { m with status := .finished } ∧
    (c.deliver conf 0 e).world.db.instanceTypes = c.world.db.instanceTypes := by
  by_cases hty : m.oldInstanceTypeId = m.newInstanceTypeId <;>
  simp [Cluster.deliver, hc, Cast.handler, finishResize, finishResize', revertsTaskState,
    wrapInstanceFault, Op.tryCatch, notifyAboutInstanceUsage, getInstanceNwInfo, he, hj, hd, ht,
    hm, hty, hN, migrationUpdate, Db.migrationUpdate, onDb, instanceUpdate, Db.instanceUpdate,
    Update.Permits, getInstanceVolumeBdms, volumeConnections_quiet, Update.apply,
    getInstanceType, now, quotaCommit, Instance.resources, InstanceType.resources] <;>
  by_cases hr : r = [] <;> simp [hr, he]

theorem deliver_revertResize (c : Cluster) (dst : String) (uuid : Nat) (m : Migration)
    (r : List Nat) (hc : c.inFlight = [.revertResize dst uuid m r]) :
    (c.deliver conf 0 e).inFlight = [.finishRevertResize m.sourceCompute uuid m r] ∧
    (c.deliver conf 0 e).world.db = c.world.db := by
  simp [Cluster.deliver, hc, Cast.handler, revertResize, revertsTaskState, wrapInstanceFault,
    errorOutInstanceOnException, Op.tryCatch, getInstanceNwInfo, he,
    terminateVolumeConnections, getInstanceVolumeBdms, volumeConnections_quiet, onDb]

theorem deliver_finishRevertResize (c : Cluster) (src : String) (uuid : Nat)
    (m mm : Migration) (r : List Nat) (j : Instance) (O : InstanceType)
    (hc : c.inFlight = [.finishRevertResize src uuid m r])
    (hj : c.world.db.instances uuid = some j) (hd : j.deleted = false)
    (ht : j.taskState = some .resizeReverting) (hm : c.world.db.migrations m.id = some mm)
    (hO : c.world.db.instanceTypes m.oldInstanceTypeId = some O) :
    (c.deliver conf 0 e).inFlight = [] ∧
    (∃ j', (c.deliver conf 0 e).world.db.instances uuid = some j' ∧
      j'.vmState = some .active ∧ j'.taskState = none ∧ j'.host = m.sourceCompute ∧
      j'.resources = O.resources) ∧
    (c.deliver conf 0 e).world.db.migrations m.id = some { mm with status := .reverted } := by
  simp [Cluster.deliver, hc, Cast.handler, finishRevertResize, revertsTaskState,
    wrapInstanceFault, errorOutInstanceOnException, Op.tryCatch, notifyAboutInstanceUsage,
    getInstanceNwInfo, he, hj, hd, ht, hm, hO, migrationUpdate, Db.migrationUpdate, onDb,
    instanceUpdate, Db.instanceUpdate, Update.Permits, getInstanceVolumeBdms,
    volumeConnections_quiet, Update.apply, getInstanceType, now, quotaCommit,
    Instance.resources, InstanceType.resources]
  by_cases hr : r = [] <;> simp [hr, he]

end HappyPath

/-- Spec §8, resize then revert: for every instance whose resource columns are those of its
type `O`, and every target type `N`, the run the API and the scheduler start with every
call succeeding leaves the instance `RESIZED` on `dst` with `N`'s columns, and after the
revert `ACTIVE` on its host with the columns it had, the migration `reverted`. -/
theorem resize_then_revert_restores (conf : Conf) (i : Instance) (O N : InstanceType)
    (dst : String) (r r' : List Nat) (e : Env) (w : World)
    (hi : w.db.instances i.uuid = some i) (hdel : i.deleted = false)
    (hO : w.db.instanceTypes i.instanceTypeId = some O) (hres : i.resources = O.resources)
    (hN : w.db.instanceTypes N.id = some N)
    (hsame : i.host = dst → conf.allowResizeToSameHost = true)
    (he : ∀ n c, e.fault n c = none) :
    let m : Migration :=
      { id := w.db.nextMigrationId, instanceUuid := i.uuid, sourceCompute := i.host,
        destCompute := dst, oldInstanceTypeId := i.instanceTypeId, newInstanceTypeId := N.id,
        status := .finished }
    let resized := ((((Cluster.mk w []).request (.resize dst i N r none none)).deliver conf 0 e
      ).deliver conf 0 e).deliver conf 0 e
    let reverted := ((resized.request (.revert i.uuid m r')).deliver conf 0 e).deliver conf 0 e
    Reachable conf ⟨w, []⟩ reverted ∧
    resized.inFlight = [] ∧ resized.world.db.migrations m.id = some m ∧
    (resized.world.db.instances i.uuid).map (fun j => (j.vmState, j.taskState, j.host, j.resources))
      = some (some .resized, none, dst, N.resources) ∧
    reverted.inFlight = [] ∧
    (reverted.world.db.instances i.uuid).map (fun j => (j.vmState, j.taskState, j.host, j.resources))
      = some (some .active, none, i.host, i.resources) ∧
    (reverted.world.db.migrations m.id).map (·.status) = some .reverted := by
  intro m
  dsimp only
  set c1 := (Cluster.mk w []).request (.resize dst i N r none none) with hc1
  set c2 := c1.deliver conf 0 e with hc2
  set c3 := c2.deliver conf 0 e with hc3
  set c4 := c3.deliver conf 0 e with hc4
  set c5 := c4.request (.revert i.uuid m r') with hc5
  set c6 := c5.deliver conf 0 e with hc6
  set c7 := c6.deliver conf 0 e with hc7
  refine ⟨.tail (.tail (.tail (.tail (.tail (.tail (.single (.request _ _)) (.deliver _ _ _))
    (.deliver _ _ _)) (.deliver _ _ _)) (.request _ _)) (.deliver _ _ _)) (.deliver _ _ _), ?_⟩
  clear_value c2 c3 c4 c6 c7
  -- `prep_resize` on `dst`
  have h2 := deliver_prepResize conf he c1 dst i N r none none rfl hsame
  rw [← hc2] at h2
  obtain ⟨h2f, h2db⟩ := h2
  -- `resize_instance` on the source
  have h3 := deliver_resizeInstance conf he c2 _ _ _ _ _ { i with taskState := some .resizePrep }
    h2f (by simp [h2db, c1, Cluster.request, hi]) hdel rfl (by simp [h2db])
  rw [← hc3] at h3
  obtain ⟨h3f, h3i, h3m, h3t⟩ := h3
  -- `finish_resize` on `dst`
  have h4 := deliver_finishResize conf he c3 _ _ _ _ _ N h3f h3i hdel rfl h3m
    (by simp [h3t, h2db, c1, Cluster.request, hN])
  rw [← hc4] at h4
  obtain ⟨h4f, ⟨j4, h4i, h4vm, h4ts, h4h, h4d, h4res⟩, h4m, h4t⟩ := h4
  have hres4 : j4.resources = N.resources := by
    rw [h4res]; split
    · next h =>
      dsimp only at h
      rw [← h, hO] at hN; cases hN
      simpa [Instance.resources] using hres
    · rfl
  -- the API's `revert_resize`, and `revert_resize` on `dst`
  have h6 := deliver_revertResize conf he c5 m.destCompute i.uuid m r'
    (by rw [hc5]; simp [Cluster.request, h4f])
  rw [← hc6] at h6
  obtain ⟨h6f, h6db⟩ := h6
  -- `finish_revert_resize` on the source
  have h7 := deliver_finishRevertResize conf he c6 m.sourceCompute i.uuid m m r'
    { j4 with taskState := some .resizeReverting } O h6f
    (by simp [h6db, c5, Cluster.request, h4i]) h4d rfl
    (by simpa [h6db, c5, Cluster.request, m] using h4m)
    (by simp [h6db, c5, Cluster.request, h4t, h3t, h2db, c1, hO, m])
  rw [← hc7] at h7
  obtain ⟨h7f, ⟨j7, h7i, h7vm, h7ts, h7h, h7res⟩, h7m⟩ := h7
  refine ⟨h4f, by simpa [m] using h4m, by simp [h4i, h4vm, h4ts, h4h, hres4], h7f,
    by simp [h7i, h7vm, h7ts, h7h, h7res, hres, m], by simp [h7m, m]⟩

/-- `instanceA` resized to `mediumType` on `B` and reverted. -/
theorem resize_then_revert_restores_instanceA :
    (worldA.db.instances instanceA.uuid = some instanceA ∧ instanceA.deleted = false ∧
      worldA.db.instanceTypes instanceA.instanceTypeId = some smallType ∧
      instanceA.resources = smallType.resources ∧
      worldA.db.instanceTypes mediumType.id = some mediumType ∧
      (instanceA.host = "B" → ({} : Conf).allowResizeToSameHost = true) ∧
      ∀ n c, ({} : Env).fault n c = none) ∧
    let m : Migration :=
      { id := worldA.db.nextMigrationId, instanceUuid := instanceA.uuid,
        sourceCompute := instanceA.host, destCompute := "B",
        oldInstanceTypeId := instanceA.instanceTypeId, newInstanceTypeId := mediumType.id,
        status := .finished }
    let resized := ((((Cluster.mk worldA []).request
      (.resize "B" instanceA mediumType [7] none none)).deliver {} 0 {}).deliver {} 0 {}).deliver
        {} 0 {}
    let reverted := ((resized.request (.revert instanceA.uuid m [])).deliver {} 0 {}).deliver {} 0 {}
    Reachable {} ⟨worldA, []⟩ reverted ∧
    resized.inFlight = [] ∧ resized.world.db.migrations m.id = some m ∧
    (resized.world.db.instances instanceA.uuid).map
      (fun j => (j.vmState, j.taskState, j.host, j.resources)) =
      some (some .resized, none, "B", mediumType.resources) ∧
    reverted.inFlight = [] ∧
    (reverted.world.db.instances instanceA.uuid).map
      (fun j => (j.vmState, j.taskState, j.host, j.resources)) =
      some (some .active, none, instanceA.host, instanceA.resources) ∧
    (reverted.world.db.migrations m.id).map (·.status) = some .reverted :=
  have hsame : instanceA.host = "B" → ({} : Conf).allowResizeToSameHost = true :=
    fun h => absurd h (by decide)
  ⟨⟨rfl, rfl, rfl, rfl, rfl, hsame, fun _ _ => rfl⟩,
    resize_then_revert_restores {} instanceA smallType mediumType "B" [7] [] {} worldA rfl rfl rfl
      rfl rfl hsame fun _ _ => rfl⟩

end FolsomCloud.Compute
