import FolsomCloud.Compute.Delete
import FolsomCloud.Compute.Keeps

set_option autoImplicit false

/-!
# Compute: the periodic reconciliation passes (spec §4.7)

Three periodic tasks that drive instances to a terminal state: `_reclaim_queued_deletes`
hard-deletes the soft-deleted instances past `reclaim_instance_interval`,
`_cleanup_running_deleted_instances` with action `reap` shuts down the guests the
backend still runs although their rows are deleted, and `_check_instance_build_time`
puts the builds older than `instance_build_timeout` in `ERROR`.  Each reads the instance
list once, then works through it; every call it makes is a suspension point at which
other operations (a `restore_instance`, a build) can write the rows it listed.

None of them reads a row again before it acts: what a teardown pass destroys is bounded
by its listing (`passes_destroy_only_listed`), a restore that lands after the listing
does not save the guest (`reclaim_destroys_restored_instance`), and a build that
completes after the listing is put in `ERROR` all the same
(`checkInstanceBuildTime_errors_finished_build`).
-/

namespace FolsomCloud.Compute

/-- `instance_get_all_by_host`, in row order; `readDeleted` is the context's
`read_deleted="yes"`. -/
def Db.instanceGetAllByHost (db : Db) (host : String) (readDeleted : Bool) : List Instance :=
  db.uuids.filterMap fun u =>
    (db.instances u).filter fun i => i.host = host ∧ (readDeleted ∨ i.deleted = false)

/-- `timeutils.is_older_than(t, seconds)` at time `now`. -/
def isOlderThan (t seconds now : Nat) : Bool := now - t > seconds

/-- The tables after a write of another operation, as it lands between two calls of this
one: `instance_update` of `u` when it succeeds, nothing when it raises. -/
def Db.updated (db : Db) (uuid : Nat) (u : Update) : Db :=
  match db.instanceUpdate uuid u with
  | .ok (_, db') => db'
  | .error _ => db

/-- Modelled from the spec: `instance_get_all_by_filters` with the one filter
`{'vm_state': vm}`, in an admin context that reads no deleted rows; in row order. -/
def Db.instanceGetAllByVmState (db : Db) (vm : VmState) : List Instance :=
  db.uuids.filterMap fun u =>
    (db.instances u).filter fun i => i.vmState = some vm ∧ i.deleted = false

theorem Db.mem_instanceGetAllByVmState {db : Db} {vm : VmState} {i : Instance}
    (h : i ∈ db.instanceGetAllByVmState vm) : i.vmState = some vm ∧ i.deleted = false := by
  obtain ⟨u, -, hu⟩ := List.mem_filterMap.1 h
  simpa using (Option.filter_eq_some.1 hu).2

namespace Manager

/-- `db.instance_get_all_by_host`. -/
def instanceGetAllByHost (host : String) (readDeleted : Bool) : Op (List Instance) := do
  io (.db "instance_get_all_by_host" 0)
  onDb fun db => .ok (db.instanceGetAllByHost host readDeleted, db)

/-- `db.block_device_mapping_get_all_by_instance`. -/
def bdmGetAllByInstance (uuid : Nat) : Op (List Bdm) := do
  io (.db "block_device_mapping_get_all_by_instance" uuid)
  onDb fun db => .ok (db.bdms.filter (·.instanceUuid = uuid), db)

/-- The body of `_reclaim_queued_deletes`' loop for one listed instance: the test reads
the listed copy `inst`, not the row. -/
def reclaimOne (interval : Nat) (inst : Instance) : Op Unit := do
  let t ← now
  let oldEnough := inst.deletedAt.all fun d => isOlderThan d interval t
  if inst.vmState = some .softDeleted ∧ oldEnough then do
    let bdms ← bdmGetAllByInstance inst.uuid
    deleteInstance inst.uuid bdms

/-- `ComputeManager._reclaim_queued_deletes` on host `self`. -/
def reclaimQueuedDeletes (conf : Conf) (self : String) : Op Unit :=
  if conf.reclaimInstanceInterval = 0 then pure ()
  else do
    let instances ← instanceGetAllByHost self false
    forEach instances (reclaimOne conf.reclaimInstanceInterval)

/-- `deleted_instance` of `_running_deleted_instances`. -/
def isRunningDeleted (timeout now : Nat) (present : List String) (i : Instance) : Bool :=
  i.deleted && present.contains i.name && i.deletedAt.all fun d => isOlderThan d timeout now

/-- `ComputeManager._running_deleted_instances`. -/
def runningDeletedInstances (conf : Conf) (self : String) : Op (List Instance) := do
  let present ← observe fun e n => e.listInstances n
  io (.driver .listInstances 0)
  let instances ← instanceGetAllByHost self true
  let t ← now
  pure (instances.filter (isRunningDeleted conf.runningDeletedInstanceTimeout t present))

/-- The body of `_cleanup_running_deleted_instances`' loop for one listed instance.  An action
other than `log` and `reap` raises `TypeError`: `Exception` takes no keyword argument, so
`raise Exception(msg, locals(), instance=instance)` fails in building its exception. -/
def cleanupRunningDeletedOne (action : String) (inst : Instance) : Op Unit := do
  let bdms ← bdmGetAllByInstance inst.uuid
  if action = "log" then pure ()
  else if action = "reap" then do
    shutdownInstance inst.uuid bdms
    cleanupVolumes bdms
  else throw (.other "TypeError")

/-- `ComputeManager._cleanup_running_deleted_instances` on host `self`. -/
def cleanupRunningDeletedInstances (conf : Conf) (self : String) : Op Unit :=
  if conf.runningDeletedInstanceAction = "noop" then pure ()
  else do
    let instances ← runningDeletedInstances conf self
    forEach instances (cleanupRunningDeletedOne conf.runningDeletedInstanceAction)

/-- `db.instance_get_all_by_filters(context, {'vm_state': vm})`. -/
def instanceGetAllByFilters (vm : VmState) : Op (List Instance) := do
  io (.db "instance_get_all_by_filters" 0)
  onDb fun db => .ok (db.instanceGetAllByVmState vm, db)

/-- The body of `_check_instance_build_time`'s loop for one listed instance: the age test
reads the listed copy, and `_set_instance_error_state` writes with no guard. -/
def checkInstanceBuildTimeOne (timeout : Nat) (inst : Instance) : Op Unit := do
  let t ← now
  if isOlderThan inst.createdAt timeout t then setInstanceErrorState inst.uuid

/-- `ComputeManager._check_instance_build_time`. -/
def checkInstanceBuildTime (conf : Conf) : Op Unit :=
  if conf.instanceBuildTimeout = 0 then pure ()
  else do
    let buildingInsts ← instanceGetAllByFilters .building
    forEach buildingInsts (checkInstanceBuildTimeOne conf.instanceBuildTimeout)

open Op

/-- `instance_get_all_by_host` returns the listing of the tables as they stand at its
suspension point. -/
theorem instanceGetAllByHost_ok {host : String} {readDeleted : Bool} {e : Env} {w w' : World}
    {L : List Instance} (h : instanceGetAllByHost host readDeleted e w = (.ok L, w')) :
    L = (e.interfere w.clock w.db).instanceGetAllByHost host readDeleted := by
  simp only [instanceGetAllByHost, bind_apply, io_apply, onDb] at h
  cases hf : e.fault w.clock (.db "instance_get_all_by_host" 0) <;> simp [hf] at h
  exact h.1.symm

/-- `_running_deleted_instances` returns the deleted rows of the listing that the backend
listed a moment before, tested at the clock after both calls. -/
theorem runningDeletedInstances_ok {conf : Conf} {self : String} {e : Env} {w w' : World}
    {L : List Instance} (h : runningDeletedInstances conf self e w = (.ok L, w')) :
    L = ((e.interfere (w.clock + 1) (e.interfere w.clock w.db)).instanceGetAllByHost self
      true).filter (isRunningDeleted conf.runningDeletedInstanceTimeout (w.clock + 2)
        (e.listInstances w.clock)) := by
  simp only [runningDeletedInstances, instanceGetAllByHost, observe, now, bind_apply, io_apply,
    onDb] at h
  cases hf : e.fault w.clock (.driver .listInstances 0) <;>
    cases hg : e.fault (w.clock + 1) (.db "instance_get_all_by_host" 0) <;> simp [hf, hg] at h
  exact h.1.symm

/-! ## What the passes destroy -/

/-- Call `c` destroys no guest but those `P` admits. -/
def DestroysOnly (P : Nat → Prop) (c : Call) : Prop := ∀ u, c = .driver .destroy u → P u

theorem DestroysOnly.mono {P Q : Nat → Prop} {c : Call} (h : DestroysOnly P c)
    (hPQ : ∀ u, P u → Q u) : DestroysOnly Q c :=
  fun u hu => hPQ u (h u hu)

section Destroys

variable {P : Nat → Prop}

theorem callsWithin_instanceGetAllByHost (host : String) (readDeleted : Bool) :
    CallsWithin (DestroysOnly P) (instanceGetAllByHost host readDeleted) :=
  (callsWithin_io nofun).bind fun _ => callsWithin_onDb

theorem callsWithin_bdmGetAllByInstance (uuid : Nat) :
    CallsWithin (DestroysOnly P) (bdmGetAllByInstance uuid) :=
  (callsWithin_io nofun).bind fun _ => callsWithin_onDb

theorem callsWithin_cleanupVolumes (bdms : List Bdm) :
    CallsWithin (DestroysOnly P) (cleanupVolumes bdms) :=
  CallsWithin.forEach fun _ _ => by
    split
    · exact (callsWithin_io nofun).bind fun _ => callsWithin_io nofun
    · exact callsWithin_pure _

/-- `_shutdown_instance` destroys the one guest it is given. -/
theorem callsWithin_shutdownInstance (uuid : Nat) (bdms : List Bdm) :
    CallsWithin (DestroysOnly (· = uuid)) (shutdownInstance uuid bdms) := by
  unfold shutdownInstance notifyAboutInstanceUsage getInstanceNwInfo deallocateNetwork
    detachVolumeOnShutdown
  repeat' first
    | rfl
    | with_reducible exact callsWithin_pure _
    | with_reducible exact callsWithin_throw _
    | with_reducible apply callsWithin_io
    | with_reducible apply CallsWithin.bind
    | with_reducible apply CallsWithin.tryCatch
    | with_reducible apply CallsWithin.forEach
    | rintro _ ⟨⟩
    | intro _
    | split

/-- `_delete_instance` destroys the one guest it is given. -/
theorem callsWithin_deleteInstance (uuid : Nat) (bdms : List Bdm) :
    CallsWithin (DestroysOnly (· = uuid)) (deleteInstance uuid bdms) := by
  unfold deleteInstance notifyAboutInstanceUsage
  repeat' first
    | with_reducible exact callsWithin_shutdownInstance _ _
    | with_reducible exact callsWithin_cleanupVolumes _
    | with_reducible apply CallsWithin.discard
    | with_reducible apply callsWithin_instanceUpdate
    | with_reducible exact callsWithin_onDb
    | with_reducible exact callsWithin_now
    | with_reducible exact callsWithin_pure _
    | with_reducible apply callsWithin_io
    | with_reducible apply CallsWithin.bind
    | with_reducible apply CallsWithin.tryCatch
    | with_reducible apply CallsWithin.forEach
    | rintro _ ⟨⟩
    | intro _

/-- One iteration of the reclaim loop destroys only the guest of the instance it was
given, and only when the listed copy is `SOFT_DELETED`, whatever the rows hold by then. -/
theorem callsWithin_reclaimOne (interval : Nat) (inst : Instance) :
    CallsWithin (DestroysOnly fun u => u = inst.uuid ∧ inst.vmState = some .softDeleted)
      (reclaimOne interval inst) := by
  unfold reclaimOne
  refine callsWithin_now.bind fun t => ?_
  dsimp only
  split
  · next h =>
    exact (callsWithin_bdmGetAllByInstance _).bind fun bdms =>
      (callsWithin_deleteInstance _ _).mono fun c hc => hc.mono fun u hu => ⟨hu, h.1⟩
  · exact callsWithin_pure _

/-- One iteration of the reap loop destroys only the guest of the instance it was given. -/
theorem callsWithin_cleanupRunningDeletedOne (action : String) (inst : Instance) :
    CallsWithin (DestroysOnly (· = inst.uuid)) (cleanupRunningDeletedOne action inst) := by
  unfold cleanupRunningDeletedOne
  refine (callsWithin_bdmGetAllByInstance _).bind fun bdms => ?_
  split
  · exact callsWithin_pure _
  · split
    · exact (callsWithin_shutdownInstance _ _).bind fun _ => callsWithin_cleanupVolumes _
    · exact callsWithin_throw _

theorem callsWithin_runningDeletedInstances (conf : Conf) (self : String) :
    CallsWithin (DestroysOnly P) (runningDeletedInstances conf self) :=
  callsWithin_observe.bind fun _ => (callsWithin_io nofun).bind fun _ =>
    (callsWithin_instanceGetAllByHost _ _).bind fun _ => callsWithin_now.bind fun _ =>
      callsWithin_pure _

/-- The reclaim pass destroys only instances whose listed copy was `SOFT_DELETED`. -/
theorem reclaimQueuedDeletes_destroys_listed (conf : Conf) (self : String) (e : Env)
    (w : World) :
    CallsWithinAt (DestroysOnly fun u =>
        ∃ inst ∈ (e.interfere w.clock w.db).instanceGetAllByHost self false,
          inst.uuid = u ∧ inst.vmState = some .softDeleted)
      (reclaimQueuedDeletes conf self) e w := by
  unfold reclaimQueuedDeletes
  split
  · exact (callsWithin_pure _).calls e w
  · refine ((callsWithin_instanceGetAllByHost _ _).calls e w).bind fun L w' h => ?_
    obtain rfl := instanceGetAllByHost_ok h
    exact (CallsWithin.forEach fun inst hi => (callsWithin_reclaimOne _ inst).mono fun _ hc =>
      hc.mono fun _ hu => ⟨inst, hi, hu.1.symm, hu.2⟩).calls e w'

/-- The reap pass destroys only instances of its listing that passed its test: deleted,
run by the backend, and deleted long enough ago. -/
theorem cleanupRunningDeletedInstances_destroys_listed (conf : Conf) (self : String)
    (e : Env) (w : World) :
    CallsWithinAt (DestroysOnly fun u =>
        ∃ inst ∈ (e.interfere (w.clock + 1) (e.interfere w.clock w.db)).instanceGetAllByHost
            self true, inst.uuid = u ∧
          isRunningDeleted conf.runningDeletedInstanceTimeout (w.clock + 2)
            (e.listInstances w.clock) inst = true)
      (cleanupRunningDeletedInstances conf self) e w := by
  unfold cleanupRunningDeletedInstances
  split
  · exact (callsWithin_pure _).calls e w
  · refine ((callsWithin_runningDeletedInstances _ _).calls e w).bind fun L w' h => ?_
    obtain rfl := runningDeletedInstances_ok h
    exact (CallsWithin.forEach fun inst hi =>
      (callsWithin_cleanupRunningDeletedOne _ inst).mono fun _ hc => hc.mono fun _ hu =>
        ⟨inst, (List.mem_filter.1 hi).1, hu.symm, (List.mem_filter.1 hi).2⟩).calls e w'

/-- Both passes decide from the copy of each row their listing returned: every guest
either pass destroys, under any faults and any interleaving with other operations, is
that of an instance whose listed copy passed the pass's test, whatever the row holds
when the teardown starts. -/
theorem passes_destroy_only_listed (conf : Conf) (self : String) (e : Env) (w : World) :
    CallsWithinAt (DestroysOnly fun u =>
        ∃ inst ∈ (e.interfere w.clock w.db).instanceGetAllByHost self false,
          inst.uuid = u ∧ inst.vmState = some .softDeleted)
      (reclaimQueuedDeletes conf self) e w ∧
    CallsWithinAt (DestroysOnly fun u =>
        ∃ inst ∈ (e.interfere (w.clock + 1) (e.interfere w.clock w.db)).instanceGetAllByHost
            self true, inst.uuid = u ∧
          isRunningDeleted conf.runningDeletedInstanceTimeout (w.clock + 2)
            (e.listInstances w.clock) inst = true)
      (cleanupRunningDeletedInstances conf self) e w :=
  ⟨reclaimQueuedDeletes_destroys_listed conf self e w,
    cleanupRunningDeletedInstances_destroys_listed conf self e w⟩

end Destroys

/-! ## Stuck builds -/

section Quiet

variable {e : Env} (he : ∀ n c, e.fault n c = none)
include he

/-- With no call failing and no other writer, `_set_instance_error_state` of any uuid
leaves a row in `ERROR` in `ERROR`, and moves the clock forward. -/
theorem setInstanceErrorState_keeps_error (uuid u : Nat) (w : World)
    (hq : ∀ n ≥ w.clock, ∀ db, e.interfere n db = db)
    (hu : (w.db.instances u).map (·.vmState) = some (some .error)) :
    ((setInstanceErrorState uuid e w).2.db.instances u).map (·.vmState) =
      some (some .error) ∧ w.clock ≤ (setInstanceErrorState uuid e w).2.clock := by
  have h0 := hq w.clock (Nat.le_refl _)
  have h1 := hq (w.clock + 1) (Nat.le_succ _)
  rcases w.db.instanceUpdate_cases uuid { vmState := some .error } with
    ⟨i, hi, -, -, h⟩ | ⟨i, -, -, hp, -⟩ | ⟨-, h⟩
  · by_cases hne : u = uuid
    · subst hne
      simp [setInstanceErrorState, instanceUpdate, onDb, he, h0, h1, h]
      omega
    · simp [setInstanceErrorState, instanceUpdate, onDb, he, h0, h1, h, hne, hu]
      omega
  · exact absurd (fun l hl => by simp at hl) hp
  · simp [setInstanceErrorState, instanceUpdate, onDb, he, h0, h, hu]

/-- The check's loop, with no call failing and no other writer, only ever writes `ERROR`:
a row in `ERROR` stays there. -/
theorem forEach_checkInstanceBuildTimeOne_keeps_error (timeout u : Nat) :
    ∀ (l : List Instance) (w : World), (∀ n ≥ w.clock, ∀ db, e.interfere n db = db) →
      (w.db.instances u).map (·.vmState) = some (some .error) →
      ((forEach l (checkInstanceBuildTimeOne timeout) e w).2.db.instances u).map (·.vmState) =
        some (some .error)
  | [], _, _, hu => hu
  | j :: l, w, hq, hu => by
    simp only [forEach_cons, Op.bind_apply, checkInstanceBuildTimeOne, now]
    by_cases ho : isOlderThan j.createdAt timeout w.clock
    · obtain ⟨h1, h2⟩ := setInstanceErrorState_keeps_error he j.uuid u w hq hu
      simp only [ho, if_true]
      rcases hs : setInstanceErrorState j.uuid e w with ⟨_ | _, w'⟩ <;> rw [hs] at h1 h2
      · exact h1
      · exact forEach_checkInstanceBuildTimeOne_keeps_error timeout u l w'
          (fun n hn => hq n (Nat.le_trans h2 hn)) h1
    · simp only [ho, Bool.false_eq_true, if_false, Op.pure_apply]
      exact forEach_checkInstanceBuildTimeOne_keeps_error timeout u l w hq hu

end Quiet

/-- `_check_instance_build_time` writes `ERROR` over a finished build.  The check lists
instance `i` as `BUILDING` and old enough; the last write of its build (`ACTIVE`, no task,
under the guard `SPAWNING`) lands after the listing, at the suspension point of the
check's write.  That write carries no guard: it lands on the `ACTIVE` row, and the
instance ends in `ERROR`, whatever the rest of the listing. -/
theorem checkInstanceBuildTime_errors_finished_build (conf : Conf) (i : Instance)
    (rest : List Instance) (p : PowerState) (t : Nat) (e : Env) (w : World)
    (ht : conf.instanceBuildTimeout ≠ 0)
    (hl : w.db.instanceGetAllByVmState .building = i :: rest)
    (hi : w.db.instances i.uuid = some i) (hs : i.taskState = some .spawning)
    (hold : isOlderThan i.createdAt conf.instanceBuildTimeout (w.clock + 1) = true)
    (he : ∀ n c, e.fault n c = none)
    (hq : ∀ n db, e.interfere n db = if n = w.clock + 1 then db.updated i.uuid
      { powerState := some p, vmState := some .active, taskState := some none,
        expected := some [some .spawning], launchedAt := some t } else db) :
    ((e.interfere (w.clock + 1) w.db).instances i.uuid).map (·.vmState) =
      some (some .active) ∧
    ((checkInstanceBuildTime conf e w).2.db.instances i.uuid).map (·.vmState) =
      some (some .error) := by
  have hd := (Db.mem_instanceGetAllByVmState (hl ▸ List.mem_cons_self i rest)).2
  have h1 : (w.db.updated i.uuid
      { powerState := some p, vmState := some .active, taskState := some none,
        expected := some [some .spawning], launchedAt := some t }).instances i.uuid =
      some (Update.apply
        { powerState := some p, vmState := some .active, taskState := some none,
          expected := some [some .spawning], launchedAt := some t } i) := by
    simp [Db.updated, Db.instanceUpdate, hi, hd, hs, Update.Permits]
  refine ⟨by simp [hq, h1], ?_⟩
  have hp : ∀ j, Update.Permits { vmState := some .error } j := fun _ _ hl => by cases hl
  simp only [checkInstanceBuildTime, ht, if_false, instanceGetAllByFilters, onDb, Op.bind_apply,
    io_apply, he, Option.elim_none, World.tick_db, hq, if_neg (Nat.ne_of_lt (Nat.lt_succ_self _)),
    hl, forEach_cons, checkInstanceBuildTimeOne, now, World.tick_clock, hold, if_true,
    setInstanceErrorState, instanceUpdate, Op.tryCatch_apply, Op.discard_apply, if_pos rfl,
    Db.instanceUpdate, h1, Update.apply_deleted, hd, Bool.false_eq_true, hp]
  refine forEach_checkInstanceBuildTimeOne_keeps_error he _ _ rest _ (fun n hn db => ?_) ?_
  · simp only [World.tick_clock] at hn
    rw [hq, if_neg (by omega)]
  · simp [hq]

/-- Instance 1, `SPAWNING` since time 0, listed at time 100 with a timeout of 10 s; its
build completes at the suspension point of the check's write. -/
theorem checkInstanceBuildTime_errors_spawned_instance :
    let i : Instance :=
      { uuid := 1, vmState := some .building, taskState := some .spawning, createdAt := 0 }
    let w : World :=
      { db := { instances := fun u => if u = 1 then some i else none, uuids := [1] },
        clock := 100 }
    let conf : Conf := { instanceBuildTimeout := 10 }
    let e : Env :=
      { interfere := fun n db => if n = w.clock + 1 then db.updated i.uuid
          { powerState := some .running, vmState := some .active, taskState := some none,
            expected := some [some .spawning], launchedAt := some 101 } else db }
    conf.instanceBuildTimeout ≠ 0 ∧ w.db.instanceGetAllByVmState .building = [i] ∧
    w.db.instances i.uuid = some i ∧ i.taskState = some .spawning ∧
    isOlderThan i.createdAt conf.instanceBuildTimeout (w.clock + 1) = true ∧
    (∀ n c, e.fault n c = none) ∧
    ((e.interfere (w.clock + 1) w.db).instances i.uuid).map (·.vmState) =
      some (some .active) ∧
    ((checkInstanceBuildTime conf e w).2.db.instances i.uuid).map (·.vmState) =
      some (some .error) :=
  ⟨by decide, rfl, rfl, rfl, rfl, fun _ _ => rfl,
    checkInstanceBuildTime_errors_finished_build _ _ [] .running 101 _ _ (by decide) rfl rfl
      rfl rfl (fun _ _ => rfl) (fun _ _ => rfl)⟩

/-- A `SOFT_DELETED` instance past the reclaim interval is listed; a `restore_instance`
lands at the suspension point of the pass's next call, before the teardown starts, and
makes the row `ACTIVE`.  The pass destroys the guest all the same and ends with the row
`DELETED`. -/
theorem reclaim_destroys_restored_instance :
    let i : Instance :=
      { uuid := 1, host := "A", vmState := some .softDeleted, deletedAt := some 0 }
    let w : World :=
      { db := { instances := fun u => if u = 1 then some i else none, uuids := [1] },
        clock := 100 }
    let e : Env :=
      { interfere := fun n db =>
          if n = 101 then db.setInstance 1 { i with vmState := some .active, deletedAt := none }
          else db }
    let r := reclaimQueuedDeletes { reclaimInstanceInterval := 10 } "A" e w
    (e.interfere 101 w.db).instances 1 = some { i with vmState := some .active, deletedAt := none } ∧
    (.driver .destroy 1, none) ∈ r.2.calls ∧
    (r.2.db.instances 1).map (·.vmState) = some (some .deleted) := by
  decide

end Manager

end FolsomCloud.Compute
