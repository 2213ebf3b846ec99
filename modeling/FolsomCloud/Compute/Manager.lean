import FolsomCloud.Compute.Op

set_option autoImplicit false

/-!
# Compute: the manager's shared helpers and decorators (spec §4.1, §7)

`ComputeManager._instance_update`, `_set_instance_error_state`, `_get_power_state`,
the quota helpers, and the three wrappers every lifecycle operation is built from:

* `reverts_task_state`: on any failure except a preemption, try to clear `task_state`
  (`kwargs['instance']`, so an instance passed positionally makes the reset a
  swallowed `KeyError`), then re-raise;
* `wrap_instance_fault`: on any failure except `InstanceNotFound`, record a fault, then
  re-raise;
* `_error_out_instance_on_exception`: on any failure, roll the reservations back, mark
  the instance `ERROR`, then re-raise.

`excutils.save_and_reraise_exception` re-raises the original exception unless the
handler body raises a new one, which then propagates: `throw` inside a `tryCatch`
handler is exactly that.  `exception.wrap_exception` only emits an error notification
and re-raises, and is left out (`MODEL_MAP.json`).
-/

namespace FolsomCloud.Compute.Manager

variable {α : Type}

/-- The configuration options (`CONF`) the modelled methods read. -/
structure Conf where
  allowResizeToSameHost : Bool := false
  defaultAccessIpNetworkName : Option String := none
  /-- seconds; a negative setting behaves as 0 -/
  reclaimInstanceInterval : Nat := 0
  runningDeletedInstanceAction : String := "log"
  runningDeletedInstanceTimeout : Nat := 0
  /-- seconds, taken non-negative; 0 turns the stuck-build check off -/
  instanceBuildTimeout : Nat := 0
  deferIptablesApply : Bool := false
  resumeGuestsStateOnHostBoot : Bool := false
  startGuestsOnHostBoot : Bool := false
  /-- seconds, taken non-negative; 0 turns the info cache healing off -/
  healInstanceInfoCacheInterval : Nat := 60

/-- `ComputeManager._instance_update`: the compare-and-swap write, then the resource
tracker's `update_usage`. -/
def instanceUpdate (uuid : Nat) (u : Update) : Op Instance := do
  io (.db "instance_update_and_get_original" uuid)
  let i ← onDb (·.instanceUpdate uuid u)
  io (.updateUsage uuid)
  pure i

/-- `ComputeManager._set_instance_error_state`. -/
def setInstanceErrorState (uuid : Nat) : Op Unit :=
  tryCatch (discard (instanceUpdate uuid { vmState := some .error }))
    fun ex => if ex = .instanceNotFound then pure () else throw ex

/-- The power state the backend reports at the current suspension point. -/
def readPower : Op PowerState := observe fun e n => e.power n

/-- `ComputeManager._get_power_state`: `driver.get_info`, with `NOSTATE` for a guest
the backend does not know. -/
def getPowerState (uuid : Nat) : Op PowerState :=
  tryCatch (do let p ← readPower; io (.driver .getInfo uuid); pure p)
    fun ex => if ex.isNotFound then pure .nostate else throw ex

/-- `ComputeManager._notify_about_instance_usage`. -/
def notifyAboutInstanceUsage (uuid : Nat) (event : String) : Op Unit :=
  io (.notify uuid event)

/-- `ComputeManager._get_instance_nw_info`. -/
def getInstanceNwInfo (uuid : Nat) : Op Unit :=
  io (.network .getInstanceNwInfo uuid)

/-- `ComputeManager._quota_commit`. -/
def quotaCommit (reservations : List Nat) : Op Unit :=
  if reservations.isEmpty then pure () else io (.quotaCommit reservations)

/-- `ComputeManager._quota_rollback`. -/
def quotaRollback (reservations : List Nat) : Op Unit :=
  if reservations.isEmpty then pure () else io (.quotaRollback reservations)

/-- `reverts_task_state`; `kwInstance` is the uuid of `kwargs['instance']`, or `none`
when the instance was passed positionally. -/
def revertsTaskState (kwInstance : Option Nat) (body : Op α) : Op α :=
  tryCatch body fun ex =>
    if ex = .unexpectedTaskState then throw ex
    else do
      tryCatch
        (match kwInstance with
          | some uuid => discard (instanceUpdate uuid { taskState := some none })
          | none => throw (.keyError "instance"))
        (fun _ => pure ())
      throw ex

/-- `compute_utils.add_instance_fault_from_exc`: one `instance_fault_create`. -/
def addInstanceFaultFromExc (uuid : Nat) (ex : Exc) : Op Unit := do
  io (.db "instance_fault_create" uuid)
  onDb fun db => .ok ((), { db with faults := db.faults ++ [(uuid, ex)] })

/-- `wrap_instance_fault`. -/
def wrapInstanceFault (uuid : Nat) (body : Op α) : Op α :=
  tryCatch body fun ex =>
    if ex = .instanceNotFound then throw ex
    else do
      addInstanceFaultFromExc uuid ex
      throw ex

/-- `ComputeManager._error_out_instance_on_exception`: the rollback runs before the
re-raise block, so its own failure replaces the original exception. -/
def errorOutInstanceOnException (uuid : Nat) (reservations : List Nat) (body : Op α) :
    Op α :=
  tryCatch body fun ex => do
    quotaRollback reservations
    setInstanceErrorState uuid
    throw ex

/-! ## The error-out guard after a failure -/

/-- What `_error_out_instance_on_exception` leaves after its body raises `ex`, when the
`ERROR` write can land (its calls do not fail, no other writer, the row is live).  With no
reservations, or a quota rollback that succeeds, the instance ends `ERROR` and `ex`
propagates.  A rollback that raises `ex'` is not best-effort: `ex'` replaces `ex` and the
`ERROR` write never runs, so the tables are as the body left them. -/
theorem errorOutInstanceOnException_after_failure {α : Type} (uuid : Nat)
    (reservations : List Nat) (body : Op α) (e : Env) (w w' : World) (ex : Exc) (i : Instance)
    (hb : body e w = (.error ex, w'))
    (hu : ∀ n, e.fault n (.db "instance_update_and_get_original" uuid) = none)
    (hs : ∀ n, e.fault n (.updateUsage uuid) = none)
    (hq : ∀ n db, e.interfere n db = db)
    (hi : w'.db.instances uuid = some i) (hd : i.deleted = false) :
    let r := errorOutInstanceOnException uuid reservations body e w
    ((reservations = [] ∨ e.fault w'.clock (.quotaRollback reservations) = none) →
      r.1 = .error ex ∧ (r.2.db.instances uuid).map (·.vmState) = some (some .error)) ∧
    (∀ ex', reservations ≠ [] → e.fault w'.clock (.quotaRollback reservations) = some ex' →
      r.1 = .error ex' ∧ r.2.db = w'.db) := by
  refine ⟨fun h => ?_, fun ex' hr hf => ?_⟩
  · rcases h with rfl | h
    · simp [errorOutInstanceOnException, quotaRollback, setInstanceErrorState, instanceUpdate,
        onDb, Db.instanceUpdate, Update.Permits, hb, hu, hs, hq, hi, hd]
    · by_cases hr : reservations = [] <;>
      simp [errorOutInstanceOnException, quotaRollback, setInstanceErrorState, instanceUpdate,
        onDb, Db.instanceUpdate, Update.Permits, hb, hu, hs, hq, hi, hd, hr, h]
  · simp [errorOutInstanceOnException, quotaRollback, hb, hr, hf, hq]

/-- A body raising at once on the live instance 1, with reservation `[7]` and the quota
rollback raising `QuotaError`: the rollback's error escapes in place of the body's, and the
instance is left `ACTIVE`, its tables as the body left them. -/
theorem errorOutInstanceOnException_after_failure_rollback_raises :
    let i : Instance := { uuid := 1, vmState := some .active }
    let w : World := { db := { instances := fun u => if u = 1 then some i else none } }
    let ex := Exc.other "libvirtError"
    let body : Op Unit := throw ex
    let e : Env :=
      { fault := fun _ c => if c = .quotaRollback [7] then some (.other "QuotaError") else none }
    body e w = (.error ex, w) ∧
    (∀ n, e.fault n (.db "instance_update_and_get_original" 1) = none) ∧
    (∀ n, e.fault n (.updateUsage 1) = none) ∧ (∀ n db, e.interfere n db = db) ∧
    w.db.instances 1 = some i ∧ i.deleted = false ∧
    let r := errorOutInstanceOnException 1 [7] body e w
    r.1 = .error (.other "QuotaError") ∧ r.2.db = w.db :=
  ⟨rfl, fun _ => rfl, fun _ => rfl, fun _ _ => rfl, rfl, rfl,
    (errorOutInstanceOnException_after_failure 1 [7] _ _ _ _ _ _ rfl (fun _ => rfl)
      (fun _ => rfl) (fun _ _ => rfl) rfl rfl).2 _ (by decide) rfl⟩

end FolsomCloud.Compute.Manager
