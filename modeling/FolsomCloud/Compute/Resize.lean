import FolsomCloud.Compute.Build

set_option autoImplicit false

/-!
# Compute: the resize handlers (spec §4.4)

The six handlers of the two-host resize: `prep_resize` on the destination (creates the
`Migration` row, casts `resize_instance` to the source), `resize_instance` on the source
(casts `finish_resize` to the destination), `finish_resize`, and the two ways out,
`confirm_resize` and `revert_resize` / `finish_revert_resize`.  Each handler takes the
payload its message carries (`FolsomCloud.Compute.Cast`), and `self` is the host it
runs on.

The quota reservations travel with the messages: `finish_resize` commits them, and every
handler run under `_error_out_instance_on_exception` rolls them back when it fails.
-/

namespace FolsomCloud.Compute.Manager

/-- `db.migration_update` of the status. -/
def migrationUpdate (id : Nat) (status : MigrationStatus) : Op Migration := do
  io (.db "migration_update" id)
  onDb (·.migrationUpdate id status)

/-- `ComputeManager._get_instance_volume_bdms`. -/
def getInstanceVolumeBdms (uuid : Nat) : Op (List Bdm) := do
  io (.db "block_device_mapping_get_all_by_instance" uuid)
  onDb fun db => .ok ((db.bdms.filter (·.instanceUuid = uuid)).filter Bdm.hasVolume, db)

/-- One turn of the connector loop: `volume_api.get`, then the connection call `m`. -/
def volumeConnection (m : VolumeMethod) (b : Bdm) : Op Unit := do
  io (.volume .get (b.volumeId.getD 0))
  io (.volume m (b.volumeId.getD 0))

/-- The connector loop shared by `_terminate_volume_connections`, `_finish_resize` and
`finish_revert_resize`: with any volume attached, one `get_volume_connector`, then for
each volume a `get` and the connection call `m`. -/
def volumeConnections (uuid : Nat) (bdms : List Bdm) (m : VolumeMethod) : Op Unit :=
  if bdms.isEmpty then pure ()
  else do
    io (.driver .getVolumeConnector uuid)
    forEach bdms (volumeConnection m)

/-- The calls `volumeConnections` makes when none of them raises. -/
def volumeCalls (uuid : Nat) (bdms : List Bdm) (m : VolumeMethod) : List Call :=
  if bdms.isEmpty then []
  else .driver .getVolumeConnector uuid ::
    bdms.flatMap fun b => [.volume .get (b.volumeId.getD 0), .volume m (b.volumeId.getD 0)]

section Quiet

variable {e : Env} (he : ∀ n c, e.fault n c = none) (hq : ∀ n db, e.interfere n db = db)
include he hq

theorem forEach_volumeConnection_quiet (m : VolumeMethod) :
    ∀ (l : List Bdm) (w : World), forEach l (volumeConnection m) e w =
      (.ok (),
        { w with
          clock := w.clock + 2 * l.length
          calls := w.calls ++ (l.flatMap fun b =>
            [.volume .get (b.volumeId.getD 0), .volume m (b.volumeId.getD 0)]).map (·, none) })
  | [], w => by simp
  | b :: l, w => by
    simp [volumeConnection, he, hq, World.tick, forEach_volumeConnection_quiet m l]
    omega

/-- With no call raising and no other writer, the connector loop makes `volumeCalls`
and writes nothing. -/
theorem volumeConnections_quiet (uuid : Nat) (bdms : List Bdm) (m : VolumeMethod)
    (w : World) :
    volumeConnections uuid bdms m e w =
      (.ok (), { w with clock := w.clock + (volumeCalls uuid bdms m).length,
                        calls := w.calls ++ (volumeCalls uuid bdms m).map (·, none) }) := by
  unfold volumeConnections volumeCalls
  split
  · simp
  · have hlen : ∀ l : List Bdm, (l.flatMap fun b =>
        [Call.volume .get (b.volumeId.getD 0), .volume m (b.volumeId.getD 0)]).length =
        2 * l.length := by
      intro l; induction l <;> simp_all [List.flatMap_cons]; omega
    simp [he, hq, forEach_volumeConnection_quiet he hq, World.tick, hlen]
    omega

end Quiet

/-- `ComputeManager._terminate_volume_connections`. -/
def terminateVolumeConnections (uuid : Nat) : Op Unit := do
  let bdms ← getInstanceVolumeBdms uuid
  volumeConnections uuid bdms .terminateConnection

/-- The `try` block of `prep_resize`: the same-host check, the `Migration` row, and the
cast of `resize_instance` to the instance's host. -/
def prepResizeMigration (conf : Conf) (self : String) (inst : Instance)
    (instanceType : InstanceType) (reservations : List Nat) : Op Unit := do
  if inst.host = self ∧ !conf.allowResizeToSameHost then
    setInstanceErrorState inst.uuid
    throw (.migrationError "destination same as source!")
  io (.driver .getHostIpAddr inst.uuid)
  io (.db "migration_create" inst.uuid)
  let m ← onDb fun db => .ok <| db.migrationCreate fun id =>
    { id, instanceUuid := inst.uuid, sourceCompute := inst.host, destCompute := self,
      oldInstanceTypeId := inst.instanceTypeId, newInstanceTypeId := instanceType.id,
      status := .preMigrating }
  io (.cast (.resizeInstance inst.host inst.uuid m instanceType reservations))

/-- `ComputeManager._reschedule_resize_or_reraise`, after the preparation raised `ex`. -/
def rescheduleResizeOrReraise (uuid : Nat) (instanceType : InstanceType)
    (reservations : List Nat) (requestSpec : Option RequestSpec)
    (filterProperties : Option FilterProperties) (ex : Exc) : Op Unit := do
  let requestSpec := requestSpec.getD {}
  let filterProperties := filterProperties.getD {}
  let rescheduled ← tryCatch
    (reschedule (some requestSpec) (.dict filterProperties) (.str uuid)
      (fun spec => .schedulerPrepResize
        { instanceUuid := uuid, instanceType, requestSpec := spec, filterProperties,
          reservations })
      .resizePrep)
    (fun _ => pure false)
  if !rescheduled then throw ex

/-- The body of `prep_resize` inside `_error_out_instance_on_exception`. -/
def prepResizeBody (conf : Conf) (self : String) (inst : Instance)
    (instanceType : InstanceType) (reservations : List Nat)
    (requestSpec : Option RequestSpec) (filterProperties : Option FilterProperties) :
    Op Unit := do
  io (.notify inst.uuid "exists")
  notifyAboutInstanceUsage inst.uuid "resize.prep.start"
  tryFinally
    (tryCatch (prepResizeMigration conf self inst instanceType reservations)
      (rescheduleResizeOrReraise inst.uuid instanceType reservations requestSpec
        filterProperties))
    (notifyAboutInstanceUsage inst.uuid "resize.prep.end")

/-- `ComputeManager.prep_resize`, on the destination host `self`. -/
def prepResize (conf : Conf) (self : String) (inst : Instance) (instanceType : InstanceType)
    (reservations : List Nat) (requestSpec : Option RequestSpec)
    (filterProperties : Option FilterProperties) : Op Unit :=
  revertsTaskState (some inst.uuid) <| wrapInstanceFault inst.uuid <|
    errorOutInstanceOnException inst.uuid reservations <|
      prepResizeBody conf self inst instanceType reservations requestSpec filterProperties

/-- A resize to the instance's own host, with same-host resizes not allowed, is rescheduled
in `ERROR`: the same-host check marks the instance `ERROR` before it raises, and
`_reschedule_resize_or_reraise` then hands the resize back to the scheduler (task state
`RESIZE_PREP`) and swallows the error, leaving `vm_state = ERROR`. -/
theorem prepResize_same_host_rescheduled_in_error (conf : Conf) (self : String)
    (inst j : Instance) (t : InstanceType) (r : List Nat) (spec : RequestSpec)
    (fp : FilterProperties) (rt : Retry) (w : World)
    (hi : w.db.instances inst.uuid = some j) (hd : j.deleted = false)
    (hh : inst.host = self) (ha : conf.allowResizeToSameHost = false)
    (hr : fp.retry = some rt) (hn : rt.numAttempts.isSome)
    (hs : RequestSpec.truthy (some spec) = true) :
    let res := prepResize conf self inst t r (some spec) (some fp) {} w
    res.1 = .ok () ∧
      (.schedulerPrepResize
        { instanceUuid := inst.uuid, instanceType := t,
          requestSpec := { spec with instanceUuids := some [inst.uuid] },
          filterProperties := fp, reservations := r }, none) ∈ res.2.calls ∧
      (res.2.db.instances inst.uuid).map (fun i => (i.vmState, i.taskState)) =
        some (some VmState.error, some TaskState.resizePrep) := by
  have hrt : rt.truthy = true := by simp [Retry.truthy, hn]
  obtain ⟨n, hn'⟩ := Option.isSome_iff_exists.1 hn
  simp [prepResize, prepResizeBody, prepResizeMigration, rescheduleResizeOrReraise, reschedule,
    revertsTaskState, wrapInstanceFault, errorOutInstanceOnException, tryFinally,
    setInstanceErrorState, instanceUpdate, notifyAboutInstanceUsage, PyValue.getRetry,
    PyValue.asUuid, onDb, Db.instanceUpdate, Update.Permits, Update.apply, hi, hd, hh, ha, hr,
    hrt, hs, hn', Op.tryCatch]

/-- The reschedule law holds in neither of its halves as the code stands: whatever happens,
a build is never handed back to the scheduler; and a same-host resize with retry
information and a request spec is rescheduled, yet leaves the instance in `ERROR`. -/
theorem reschedule_skips_build_and_errors_same_host_resize (conf : Conf) (self : String)
    (inst j : Instance) (t : InstanceType) (r : List Nat) (spec : RequestSpec)
    (fp : FilterProperties) (rt : Retry) (w : World)
    (hi : w.db.instances inst.uuid = some j) (hd : j.deleted = false)
    (hh : inst.host = self) (ha : conf.allowResizeToSameHost = false)
    (hr : fp.retry = some rt) (hn : rt.numAttempts.isSome)
    (hs : RequestSpec.truthy (some spec) = true) :
    (∀ (conf' : Conf) (inst' : Instance) (requestSpec : Option RequestSpec)
      (filterProperties : Option FilterProperties) (requestedNetworks : Option (List Nat))
      (injectedFiles : Option (List String)) (adminPassword : Option String)
      (isFirstTime : Bool),
      Op.CallsWithin NotRunInstance (runInstance conf' inst' requestSpec filterProperties
        requestedNetworks injectedFiles adminPassword isFirstTime)) ∧
    let res := prepResize conf self inst t r (some spec) (some fp) {} w
    res.1 = .ok () ∧
      (.schedulerPrepResize
        { instanceUuid := inst.uuid, instanceType := t,
          requestSpec := { spec with instanceUuids := some [inst.uuid] },
          filterProperties := fp, reservations := r }, none) ∈ res.2.calls ∧
      (res.2.db.instances inst.uuid).map (fun i => (i.vmState, i.taskState)) =
        some (some VmState.error, some TaskState.resizePrep) :=
  ⟨runInstance_never_reschedules,
    prepResize_same_host_rescheduled_in_error conf self inst j t r spec fp rt w hi hd hh ha hr hn
      hs⟩

/-- Instance 1 on host `A`, resized to `A` with retry information `num_attempts = 1` and a
request spec: rescheduled, in `ERROR`. -/
theorem reschedule_same_host_resize_in_error :
    let i : Instance := { uuid := 1, host := "A", vmState := some .active }
    let w : World := { db := { instances := fun u => if u = 1 then some i else none } }
    let spec : RequestSpec := { otherKeys := ["instance_properties"] }
    let fp : FilterProperties := { retry := some { numAttempts := some 1 } }
    let t : InstanceType :=
      { id := 2, name := "m1.small", memoryMb := 2048, vcpus := 1, rootGb := 20,
        ephemeralGb := 0 }
    w.db.instances i.uuid = some i ∧ i.deleted = false ∧ i.host = "A" ∧
    ({} : Conf).allowResizeToSameHost = false ∧ fp.retry = some { numAttempts := some 1 } ∧
    (({ numAttempts := some 1 } : Retry).numAttempts.isSome = true) ∧
    RequestSpec.truthy (some spec) = true ∧
    (∀ (conf' : Conf) (inst' : Instance) (requestSpec : Option RequestSpec)
      (filterProperties : Option FilterProperties) (requestedNetworks : Option (List Nat))
      (injectedFiles : Option (List String)) (adminPassword : Option String)
      (isFirstTime : Bool),
      Op.CallsWithin NotRunInstance (runInstance conf' inst' requestSpec filterProperties
        requestedNetworks injectedFiles adminPassword isFirstTime)) ∧
    let res := prepResize {} "A" i t [7] (some spec) (some fp) {} w
    res.1 = .ok () ∧
      (.schedulerPrepResize
        { instanceUuid := i.uuid, instanceType := t,
          requestSpec := { spec with instanceUuids := some [i.uuid] },
          filterProperties := fp, reservations := [7] }, none) ∈ res.2.calls ∧
      (res.2.db.instances i.uuid).map (fun i => (i.vmState, i.taskState)) =
        some (some VmState.error, some TaskState.resizePrep) :=
  ⟨rfl, rfl, rfl, rfl, rfl, rfl, rfl,
    reschedule_skips_build_and_errors_same_host_resize {} "A" _ _ _ [7] _ _ _ _ rfl rfl
      rfl rfl rfl rfl rfl⟩

/-- `ComputeManager.resize_instance`, on the source host, with the migration its
message carries. -/
def resizeInstance (uuid : Nat) (migration : Migration) (reservations : List Nat) :
    Op Unit :=
  revertsTaskState (some uuid) <| wrapInstanceFault uuid <|
    errorOutInstanceOnException uuid reservations do
      getInstanceNwInfo uuid
      discard <| migrationUpdate migration.id .migrating
      discard <| instanceUpdate uuid
        { taskState := some (some .resizeMigrating), expected := some [some .resizePrep] }
      notifyAboutInstanceUsage uuid "resize.start"
      io (.db "block_device_mapping_get_all_by_instance" uuid)
      io (.driver .migrateDiskAndPowerOff uuid)
      terminateVolumeConnections uuid
      io (.network .migrateInstanceStart uuid)
      let migration ← migrationUpdate migration.id .postMigrating
      discard <| instanceUpdate uuid
        { host := some migration.destCompute, taskState := some (some .resizeMigrated),
          expected := some [some .resizeMigrating] }
      io (.cast (.finishResize migration.destCompute uuid migration reservations))
      notifyAboutInstanceUsage uuid "resize.end"

/-- `ComputeManager._finish_resize`. -/
def finishResize' (uuid : Nat) (migration : Migration) : Op Unit := do
  if migration.oldInstanceTypeId ≠ migration.newInstanceTypeId then do
    let t ← getInstanceType migration.newInstanceTypeId
    discard <| instanceUpdate uuid { instanceType := some t }
  io (.network .setupNetworksOnHost uuid)
  io (.network .migrateInstanceFinish uuid)
  getInstanceNwInfo uuid
  discard <| instanceUpdate uuid
    { taskState := some (some .resizeFinish), expected := some [some .resizeMigrated] }
  notifyAboutInstanceUsage uuid "finish_resize.start"
  let bdms ← getInstanceVolumeBdms uuid
  volumeConnections uuid bdms .initializeConnection
  io (.driver .finishMigration uuid)
  let t ← now
  discard <| instanceUpdate uuid
    { vmState := some .resized, launchedAt := some t, taskState := some none,
      expected := some [some .resizeFinish] }
  discard <| migrationUpdate migration.id .finished
  notifyAboutInstanceUsage uuid "finish_resize.end"

/-- `ComputeManager.finish_resize`: commit on success; on failure a best-effort
rollback, then `ERROR`. -/
def finishResize (uuid : Nat) (migration : Migration) (reservations : List Nat) : Op Unit :=
  revertsTaskState (some uuid) <| wrapInstanceFault uuid <|
    tryCatch (do finishResize' uuid migration; quotaCommit reservations) fun ex => do
      tryCatch (quotaRollback reservations) (fun _ => pure ())
      setInstanceErrorState uuid
      throw ex

/-- `ComputeManager.confirm_resize`, on the source host; it has no
`reverts_task_state`. -/
def confirmResize (uuid : Nat) (reservations : List Nat) : Op Unit :=
  wrapInstanceFault uuid do
    notifyAboutInstanceUsage uuid "resize.confirm.start"
    errorOutInstanceOnException uuid reservations do
      io (.network .teardownNetworksOnHost uuid)
      getInstanceNwInfo uuid
      io (.driver .confirmMigration uuid)
      notifyAboutInstanceUsage uuid "resize.confirm.end"
      quotaCommit reservations

/-- `ComputeManager.revert_resize`, on the destination host. -/
def revertResize (uuid : Nat) (migration : Migration) (reservations : List Nat) : Op Unit :=
  revertsTaskState (some uuid) <| wrapInstanceFault uuid do
    io (.notify uuid "exists")
    errorOutInstanceOnException uuid reservations do
      io (.network .teardownNetworksOnHost uuid)
      io (.network .migrateInstanceStart uuid)
      getInstanceNwInfo uuid
      io (.db "block_device_mapping_get_all_by_instance" uuid)
      io (.driver .destroy uuid)
      terminateVolumeConnections uuid
      io (.cast (.finishRevertResize migration.sourceCompute uuid migration reservations))

/-- `ComputeManager.finish_revert_resize`, on the source host. -/
def finishRevertResize (uuid : Nat) (migration : Migration) (reservations : List Nat) :
    Op Unit :=
  revertsTaskState (some uuid) <| wrapInstanceFault uuid <|
    errorOutInstanceOnException uuid reservations do
      getInstanceNwInfo uuid
      notifyAboutInstanceUsage uuid "resize.revert.start"
      discard <| instanceUpdate uuid { host := some migration.sourceCompute }
      io (.network .setupNetworksOnHost uuid)
      let t ← getInstanceType migration.oldInstanceTypeId
      let bdms ← getInstanceVolumeBdms uuid
      io (.db "block_device_mapping_get_all_by_instance" uuid)
      volumeConnections uuid bdms .initializeConnection
      io (.driver .finishRevertMigration uuid)
      let launched ← now
      discard <| instanceUpdate uuid
        { instanceType := some t, launchedAt := some launched,
          expected := some [some .resizeReverting] }
      io (.network .migrateInstanceFinish uuid)
      discard <| instanceUpdate uuid { vmState := some .active, taskState := some none }
      discard <| migrationUpdate migration.id .reverted
      notifyAboutInstanceUsage uuid "resize.revert.end"
      quotaCommit reservations

end FolsomCloud.Compute.Manager
