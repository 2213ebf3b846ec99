import FolsomCloud.Compute.Lifecycle
import FolsomCloud.Compute.Keeps

set_option autoImplicit false

/-!
# Compute: the build pipeline and its reschedule (spec §4.2, §4.3)

`run_instance` and the steps of `_run_instance`: the prelude (duplicate check, image
size, `_start_building`), the steps run under the resource claim (network, block
devices, spawn), and the two handlers of the claimed steps: `InstanceNotFound`
deallocates and re-raises, anything else goes to `_reschedule_or_reraise`.
`rebuild_instance` shares the block-device setup and is here too.

`_reschedule` never checks the types of its arguments, and its two callers pass them
differently: `_reschedule_resize_or_reraise` passes `(request_spec, filter_properties,
instance_uuid)`, `_reschedule_or_reraise` passes `(request_spec, instance['uuid'],
filter_properties)`.  `PyValue` keeps both kinds of value, so the model runs both calls
as written.  The build's call fails on `filter_properties.get`, so a build is never
rescheduled (`runInstance_never_reschedules`).

The per-instance `lockutils.synchronized` lock is not modelled: the interference of
`Env` already lets any other actor write between any two calls.
-/

namespace FolsomCloud.Compute.Manager

/-- `instance_types.get_instance_type`: `db.instance_type_get`. -/
def getInstanceType (id : Nat) : Op InstanceType := do
  io (.db "instance_type_get" id)
  onDb fun db =>
    match db.instanceTypes id with
    | some t => .ok (t, db)
    | none => .error .instanceTypeNotFound

/-- `_setup_block_device_mapping`'s wait for a volume created from a snapshot: `get`
until its status leaves `creating`, sleeping between polls. -/
def waitForVolume (vid : Nat) : Nat → Op Unit
  | 0 => io (.volume .get vid)
  | k + 1 => do io (.volume .get vid); io .sleep; waitForVolume vid k

/-- The body of `_setup_block_device_mapping`'s loop for one mapping.  The
`block_device.is_swap_or_ephemeral` assertion on a virtual device is taken to hold. -/
def setupBdm (uuid : Nat) (bdm : Bdm) : Op Unit :=
  if bdm.noDevice || bdm.virtualName.isSome then pure ()
  else do
    let volumeId ← match bdm.snapshotId, bdm.volumeId with
      | some sid, none => do
        io (.volume .getSnapshot sid)
        let (vid, polls) ← observe fun e n => (e.newVolumeId n, e.creatingPolls n)
        io (.volume .create vid)
        waitForVolume vid polls
        io (.db "block_device_mapping_update" bdm.id)
        onDb fun db => .ok ((), Db.setBdmVolume db bdm.id vid)
        pure (some vid)
      | _, v => pure v
    match volumeId with
    | none => pure ()
    | some vid => do
      io (.volume .get vid)
      io (.volume .checkAttach vid)
      -- `_attach_volume_boot`
      io (.driver .getVolumeConnector uuid)
      io (.volume .initializeConnection vid)
      io (.volume .attach vid)
      io (.db "block_device_mapping_update" bdm.id)

/-- `ComputeManager._setup_block_device_mapping`. -/
def setupBlockDeviceMapping (uuid : Nat) : Op Unit := do
  io (.db "block_device_mapping_get_all_by_instance" uuid)
  let bdms ← onDb fun db => .ok (db.bdms.filter (·.instanceUuid = uuid), db)
  forEach bdms (setupBdm uuid)

/-- `ComputeManager._check_instance_not_already_created`. -/
def checkInstanceNotAlreadyCreated (uuid : Nat) : Op Unit := do
  let found ← observe fun e n => e.instanceExists n
  io (.driver .instanceExists uuid)
  if found then throw .invalid

/-- `ComputeManager._check_image_size`: an image without a `size`, or a type whose
`root_gb` is 0, is not checked. -/
def checkImageSize (inst : Instance) : Op Unit := do
  let size ← observe fun e n => e.imageSize n
  io (.image inst.uuid)
  match size with
  | none => pure ()
  | some sizeBytes => do
    let t ← getInstanceType inst.instanceTypeId
    if t.rootGb ≠ 0 ∧ sizeBytes > t.rootGb * 1024 * 1024 * 1024 then throw .imageTooLarge

/-- `ComputeManager._start_building`. -/
def startBuilding (uuid : Nat) : Op Unit :=
  discard <| instanceUpdate uuid
    { vmState := some .building, taskState := some none,
      expected := some [some .scheduling, none] }

/-- `ComputeManager._allocate_network`. -/
def allocateNetwork (uuid : Nat) : Op Unit := do
  discard <| instanceUpdate uuid
    { vmState := some .building, taskState := some (some .networking), expected := some [none] }
  io (.network .allocateForInstance uuid)

/-- `ComputeManager._prep_block_device`: its write passes no `expected_task_state`. -/
def prepBlockDevice (uuid : Nat) : Op Unit := do
  discard <| instanceUpdate uuid
    { vmState := some .building, taskState := some (some .blockDeviceMapping) }
  setupBlockDeviceMapping uuid

/-- `ComputeManager._spawn`. -/
def spawn (uuid : Nat) : Op Instance := do
  discard <| instanceUpdate uuid
    { vmState := some .building, taskState := some (some .spawning),
      expected := some [some .blockDeviceMapping] }
  io (.driver .spawn uuid)
  let p ← getPowerState uuid
  let t ← now
  instanceUpdate uuid
    { powerState := some p, vmState := some .active, taskState := some none,
      expected := some [some .spawning], launchedAt := some t }

/-- `ComputeManager._deallocate_network`. -/
def deallocateNetwork (uuid : Nat) : Op Unit :=
  io (.network .deallocateForInstance uuid)

/-- Modelled from the spec (§4.2 d, §4.6): `ResourceTracker.instance_claim`, a scoped
claim whose abnormal exit aborts it.  The claim itself may be denied. -/
def instanceClaim {α : Type} (uuid : Nat) (body : Op α) : Op α := do
  io (.instanceClaim uuid)
  tryCatch body fun ex => do
    io (.abortInstanceClaim uuid)
    throw ex

/-- `ComputeManager._update_access_ip`: with `default_access_ip_network_name` set, one
`instance_update` of the addresses found in the network info. -/
def updateAccessIp (conf : Conf) (uuid : Nat) : Op Unit :=
  match conf.defaultAccessIpNetworkName with
  | none => pure ()
  | some _ => io (.db "instance_update" uuid)

/-- A value Python passes to `_reschedule`'s untyped `filter_properties` and
`instance_uuid` parameters. -/
inductive PyValue where
  | str (uuid : Nat)
  | dict (fp : FilterProperties)

/-- `filter_properties.get('retry', None)`: a string has no `get`. -/
def PyValue.getRetry : PyValue → Op (Option Retry)
  | .str _ => throw (.other "AttributeError")
  | .dict fp => pure fp.retry

/-- `[instance_uuid]` as the uuid list of `request_spec['instance_uuids']`. -/
def PyValue.asUuid : PyValue → Op Nat
  | .str uuid => pure uuid
  | .dict _ => throw (.other "TypeError")

/-- `ComputeManager._reschedule`: `false` stands for its bare `return`. -/
def reschedule (requestSpec : Option RequestSpec) (filterProperties instanceUuid : PyValue)
    (schedulerMethod : RequestSpec → Call) (taskState : TaskState) : Op Bool := do
  let retry ← filterProperties.getRetry
  let some r := retry | return false
  if !r.truthy then return false
  let some spec := requestSpec | return false
  if !RequestSpec.truthy (some spec) then return false
  let uuid ← instanceUuid.asUuid
  let spec := { spec with instanceUuids := some [uuid] }
  -- the debug message reads `retry['num_attempts']`
  if r.numAttempts.isNone then throw (.keyError "num_attempts")
  discard <| instanceUpdate uuid { taskState := some (some taskState) }
  io (schedulerMethod spec)
  return true

/-- `ComputeManager._reschedule_or_reraise`, after a claimed build step raised `ex`. -/
def rescheduleOrReraise (uuid : Nat) (args : BuildArgs) (ex : Exc) : Op Unit := do
  deallocateNetwork uuid
  let rescheduled ← tryCatch
    (reschedule args.requestSpec (.str uuid) (.dict args.filterProperties)
      (fun spec => .schedulerRunInstance { args with requestSpec := some spec }) .scheduling)
    (fun _ => pure false)
  if !rescheduled then throw ex

/-- `_reschedule_or_reraise` hands `_reschedule` the instance's uuid where `_reschedule`
expects the filter properties: `filter_properties.get` raises `AttributeError`, which the
caller catches, so the build is never rescheduled.  What is left is the network
deallocation and the re-raise. -/
theorem rescheduleOrReraise_eq (uuid : Nat) (args : BuildArgs) (ex : Exc) :
    rescheduleOrReraise uuid args ex = (do deallocateNetwork uuid; throw ex) := by
  funext e w
  simp only [rescheduleOrReraise, reschedule, PyValue.getRetry, Op.bind_apply, Op.tryCatch_apply,
    Op.throw_apply, Op.pure_apply]
  split <;> simp_all

/-- The steps `_run_instance` runs under the resource claim. -/
def claimedBuild (uuid : Nat) : Op Instance :=
  instanceClaim uuid do
    allocateNetwork uuid
    prepBlockDevice uuid
    spawn uuid

/-- Python truthiness of an access address: `not instance['access_ip_v4']`. -/
def noAddress (a : Option String) : Bool := a.all String.isEmpty

/-- The inner `try` of `_run_instance`: the claimed steps, their two handlers, and the
`else` branch (whose own failures the handlers do not catch). -/
def buildAndRun (conf : Conf) (uuid : Nat) (args : BuildArgs) : Op Unit := do
  let r ← tryCatch (Except.ok <$> claimedBuild uuid) (fun ex => pure (Except.error ex))
  match r with
  | .error .instanceNotFound => do
    tryCatch (deallocateNetwork uuid) (fun _ => pure ())
    throw .instanceNotFound
  | .error ex => rescheduleOrReraise uuid args ex
  | .ok i => do
    if args.isFirstTime && noAddress i.accessIpV4 && noAddress i.accessIpV6 then
      updateAccessIp conf uuid
    notifyAboutInstanceUsage uuid "create.end"

/-- What `_run_instance` does before the claim. -/
def runInstancePrelude (inst : Instance) : Op Unit := do
  checkInstanceNotAlreadyCreated inst.uuid
  checkImageSize inst
  startBuilding inst.uuid
  notifyAboutInstanceUsage inst.uuid "create.start"

/-- `ComputeManager._run_instance`: every failure that escapes marks the instance
`ERROR` before it propagates. -/
def runInstance' (conf : Conf) (inst : Instance) (args : BuildArgs) : Op Unit :=
  tryCatch (do runInstancePrelude inst; buildAndRun conf inst.uuid args)
    fun ex => do setInstanceErrorState inst.uuid; throw ex

/-- `ComputeManager.run_instance`. -/
def runInstance (conf : Conf) (inst : Instance) (requestSpec : Option RequestSpec)
    (filterProperties : Option FilterProperties) (requestedNetworks : Option (List Nat))
    (injectedFiles : Option (List String)) (adminPassword : Option String)
    (isFirstTime : Bool) : Op Unit :=
  revertsTaskState (some inst.uuid) <| wrapInstanceFault inst.uuid <|
    runInstance' conf inst
      { requestSpec, adminPassword, injectedFiles := injectedFiles.getD [],
        requestedNetworks, isFirstTime, filterProperties := filterProperties.getD {} }

/-! ## The build is never rescheduled -/

section NoReschedule

open Op

/-- Call `c` is not the scheduler's `run_instance`. -/
def NotRunInstance (c : Call) : Prop := ∀ a, c ≠ .schedulerRunInstance a

theorem callsWithin_waitForVolume (vid k : Nat) :
    CallsWithin NotRunInstance (waitForVolume vid k) := by
  induction k with
  | zero => exact callsWithin_io fun _ h => Call.noConfusion h
  | succ k ih => exact (callsWithin_io fun _ h => Call.noConfusion h).bind fun _ =>
      (callsWithin_io fun _ h => Call.noConfusion h).bind fun _ => ih

theorem callsWithin_setupBlockDeviceMapping (uuid : Nat) :
    CallsWithin NotRunInstance (setupBlockDeviceMapping uuid) := by
  unfold setupBlockDeviceMapping setupBdm
  repeat' first
    | with_reducible exact callsWithin_waitForVolume _ _
    | with_reducible exact callsWithin_observe
    | with_reducible exact callsWithin_onDb
    | with_reducible exact callsWithin_pure _
    | with_reducible apply callsWithin_io
    | with_reducible apply CallsWithin.bind
    | with_reducible apply CallsWithin.forEach
    | rintro _ ⟨⟩
    | intro _
    | split
    | dsimp only

theorem callsWithin_runInstancePrelude (inst : Instance) :
    CallsWithin NotRunInstance (runInstancePrelude inst) := by
  unfold runInstancePrelude checkInstanceNotAlreadyCreated checkImageSize getInstanceType
    startBuilding notifyAboutInstanceUsage
  repeat' first
    | with_reducible exact callsWithin_observe
    | with_reducible exact callsWithin_onDb
    | with_reducible exact callsWithin_pure _
    | with_reducible exact callsWithin_throw _
    | with_reducible apply callsWithin_io
    | with_reducible apply callsWithin_instanceUpdate
    | with_reducible apply CallsWithin.bind
    | with_reducible apply CallsWithin.discard
    | rintro _ ⟨⟩
    | intro _
    | split

theorem callsWithin_claimedBuild (uuid : Nat) :
    CallsWithin NotRunInstance (claimedBuild uuid) := by
  unfold claimedBuild instanceClaim allocateNetwork prepBlockDevice spawn getPowerState readPower
  repeat' first
    | with_reducible exact callsWithin_setupBlockDeviceMapping _
    | with_reducible exact callsWithin_observe
    | with_reducible exact callsWithin_now
    | with_reducible exact callsWithin_pure _
    | with_reducible exact callsWithin_throw _
    | with_reducible apply callsWithin_io
    | with_reducible apply callsWithin_instanceUpdate
    | with_reducible apply CallsWithin.bind
    | with_reducible apply CallsWithin.tryCatch
    | with_reducible apply CallsWithin.discard
    | rintro _ ⟨⟩
    | intro _
    | split

theorem callsWithin_buildAndRun (conf : Conf) (uuid : Nat) (args : BuildArgs) :
    CallsWithin NotRunInstance (buildAndRun conf uuid args) := by
  unfold buildAndRun updateAccessIp notifyAboutInstanceUsage
  simp only [rescheduleOrReraise_eq, deallocateNetwork]
  repeat' first
    | with_reducible exact callsWithin_claimedBuild _
    | with_reducible exact callsWithin_pure _
    | with_reducible exact callsWithin_throw _
    | with_reducible apply callsWithin_io
    | with_reducible apply CallsWithin.bind
    | with_reducible apply CallsWithin.tryCatch
    | with_reducible apply CallsWithin.map
    | rintro _ ⟨⟩
    | intro _
    | split

/-- The build is never rescheduled: whatever its calls raise and whatever other actors
write, `run_instance` never calls the scheduler's `run_instance`. -/
theorem runInstance_never_reschedules (conf : Conf) (inst : Instance)
    (requestSpec : Option RequestSpec) (filterProperties : Option FilterProperties)
    (requestedNetworks : Option (List Nat)) (injectedFiles : Option (List String))
    (adminPassword : Option String) (isFirstTime : Bool) :
    CallsWithin NotRunInstance (runInstance conf inst requestSpec filterProperties
      requestedNetworks injectedFiles adminPassword isFirstTime) := by
  unfold runInstance runInstance' revertsTaskState wrapInstanceFault addInstanceFaultFromExc
    setInstanceErrorState
  repeat' first
    | with_reducible exact callsWithin_runInstancePrelude _
    | with_reducible exact callsWithin_buildAndRun _ _ _
    | with_reducible exact callsWithin_onDb
    | with_reducible exact callsWithin_pure _
    | with_reducible exact callsWithin_throw _
    | with_reducible apply callsWithin_io
    | with_reducible apply callsWithin_instanceUpdate
    | with_reducible apply CallsWithin.bind
    | with_reducible apply CallsWithin.tryCatch
    | with_reducible apply CallsWithin.discard
    | rintro _ ⟨⟩
    | intro _
    | split

end NoReschedule

/-- `ComputeManager.rebuild_instance`: the whole body runs under
`_error_out_instance_on_exception`. -/
def rebuildInstance (uuid : Nat) : Op Unit :=
  revertsTaskState (some uuid) <| wrapInstanceFault uuid <|
    errorOutInstanceOnException uuid [] do
      io (.image uuid)
      io (.notify uuid "exists")
      notifyAboutInstanceUsage uuid "rebuild.start"
      let p ← getPowerState uuid
      discard <| instanceUpdate uuid
        { powerState := some p, taskState := some (some .rebuilding),
          expected := some [some .rebuilding] }
      getInstanceNwInfo uuid
      io (.driver .destroy uuid)
      discard <| instanceUpdate uuid
        { taskState := some (some .rebuildBlockDeviceMapping), expected := some [some .rebuilding] }
      getInstanceNwInfo uuid
      setupBlockDeviceMapping uuid
      discard <| instanceUpdate uuid
        { taskState := some (some .rebuildSpawning),
          expected := some [some .rebuildBlockDeviceMapping] }
      io (.driver .spawn uuid)
      let p ← getPowerState uuid
      let t ← now
      discard <| instanceUpdate uuid
        { powerState := some p, vmState := some .active, taskState := some none,
          expected := some [some .rebuildSpawning], launchedAt := some t }
      notifyAboutInstanceUsage uuid "rebuild.end"

/-- A preempted rebuild is marked `ERROR`: when the stored `task_state` is no longer
`REBUILDING` at rebuild's first guarded write, the write raises
`UnexpectedTaskStateError`, and `_error_out_instance_on_exception` sets
`vm_state = ERROR` on the preempting operation's instance before the error propagates. -/
theorem rebuildInstance_preempted_sets_error (uuid : Nat) (i : Instance) (w : World)
    (hi : w.db.instances uuid = some i) (hd : i.deleted = false)
    (ht : i.taskState ≠ some .rebuilding) :
    (rebuildInstance uuid {} w).1 = .error .unexpectedTaskState ∧
    ((rebuildInstance uuid {} w).2.db.instances uuid).map (fun j => (j.vmState, j.taskState)) =
      some (some .error, i.taskState) := by
  simp [rebuildInstance, revertsTaskState, wrapInstanceFault, errorOutInstanceOnException,
    setInstanceErrorState, quotaRollback, addInstanceFaultFromExc, getPowerState, readPower,
    observe, instanceUpdate, notifyAboutInstanceUsage, onDb, Db.instanceUpdate, hi, hd,
    Update.Permits, ht]

/-- A delete (`DELETING`) that preempted a rebuild of instance 1 ends with the instance in
`ERROR`. -/
theorem rebuildInstance_preempted_by_delete :
    let i : Instance := { uuid := 1, vmState := some .active, taskState := some .deleting }
    let w : World := { db := { instances := fun u => if u = 1 then some i else none } }
    w.db.instances 1 = some i ∧ i.deleted = false ∧ i.taskState ≠ some .rebuilding ∧
    (rebuildInstance 1 {} w).1 = .error .unexpectedTaskState ∧
    ((rebuildInstance 1 {} w).2.db.instances 1).map (fun j => (j.vmState, j.taskState)) =
      some (some .error, some .deleting) :=
  ⟨rfl, rfl, by decide, rebuildInstance_preempted_sets_error 1 _ _ rfl rfl (by decide)⟩

end FolsomCloud.Compute.Manager
