import FolsomCloud.Compute.Resize

set_option autoImplicit false

/-!
# Compute: deleting an instance (spec §4.1, §7)

`terminate_instance` and the steps it shares with the periodic reclaim and reap passes:
`_shutdown_instance` (network, backend destroy, volume detach), `_cleanup_volumes` and
`_delete_instance`.  `terminate_instance` has no `reverts_task_state`: a failed
termination is meant to leave `task_state = DELETING` (its comment, and spec §4.1).
-/

namespace FolsomCloud.Compute

/-- `instance_destroy`: the row is marked deleted (soft-deleted in the database). -/
def Db.instanceDestroy (db : Db) (uuid : Nat) (now : Nat) : Except Exc (Unit × Db) :=
  match db.instances uuid with
  | some i => if i.deleted then .error .instanceNotFound
    else .ok ((), db.setInstance uuid { i with deleted := true, deletedAt := some now })
  | none => .error .instanceNotFound

/-- `block_device_mapping_destroy`. -/
def Db.bdmDestroy (db : Db) (id : Nat) : Db :=
  { db with bdms := db.bdms.filter (·.id ≠ id) }

namespace Manager

/-- The detach of one volume in `_shutdown_instance`: `DiskNotFound` and
`VolumeNotFound` are ignored. -/
def detachVolumeOnShutdown (uuid : Nat) (bdm : Bdm) : Op Unit :=
  tryCatch
    (do
      io (.volume .get (bdm.volumeId.getD 0))
      io (.driver .getVolumeConnector uuid)
      io (.volume .terminateConnection (bdm.volumeId.getD 0))
      io (.volume .detach (bdm.volumeId.getD 0)))
    fun ex => if ex = .diskNotFound ∨ ex = .volumeNotFound then pure () else throw ex

/-- `ComputeManager._shutdown_instance`. -/
def shutdownInstance (uuid : Nat) (bdms : List Bdm) : Op Unit := do
  notifyAboutInstanceUsage uuid "shutdown.start"
  tryCatch (getInstanceNwInfo uuid)
    (fun ex => if ex = .networkNotFound then pure () else throw ex)
  deallocateNetwork uuid
  io (.driver .destroy uuid)
  forEach (bdms.filter Bdm.hasVolume) (detachVolumeOnShutdown uuid)
  notifyAboutInstanceUsage uuid "shutdown.end"

/-- `ComputeManager._cleanup_volumes`: delete every volume marked
`delete_on_termination`; the first failure ends the loop. -/
def cleanupVolumes (bdms : List Bdm) : Op Unit :=
  forEach bdms fun bdm =>
    if bdm.hasVolume && bdm.deleteOnTermination then do
      io (.volume .get (bdm.volumeId.getD 0))
      io (.volume .delete (bdm.volumeId.getD 0))
    else pure ()

/-- `ComputeManager._delete_instance`.  Volume clean-up failures are ignored; the
`DELETED` write carries no `expected_task_state`. -/
def deleteInstance (uuid : Nat) (bdms : List Bdm) : Op Unit := do
  io (.db "instance_info_cache_delete" uuid)
  notifyAboutInstanceUsage uuid "delete.start"
  shutdownInstance uuid bdms
  tryCatch (cleanupVolumes bdms) (fun _ => pure ())
  let t ← now
  discard <| instanceUpdate uuid
    { vmState := some .deleted, taskState := some none, terminatedAt := some t }
  io (.db "instance_destroy" uuid)
  let t ← now
  onDb (·.instanceDestroy uuid t)
  io (.db "instance_system_metadata_get" uuid)
  forEach bdms fun bdm => do
    io (.db "block_device_mapping_destroy" bdm.id)
    onDb fun db => .ok ((), db.bdmDestroy bdm.id)
  notifyAboutInstanceUsage uuid "delete.end"

/-- `ComputeManager.terminate_instance`; with no `bdms` passed it lists the instance's
volume mappings (the compatibility path). -/
def terminateInstance (uuid : Nat) (bdms : List Bdm) : Op Unit :=
  wrapInstanceFault uuid do
    let bdms ← if bdms.isEmpty then getInstanceVolumeBdms uuid else pure bdms
    tryCatch (deleteInstance uuid bdms) fun ex =>
      match ex with
      | .instanceTerminationFailure => setInstanceErrorState uuid
      | .instanceNotFound => pure ()
      | _ => throw ex

/-! ## Volume clean-up stops at its first failure -/

/-- The calls `_cleanup_volumes` makes for `bdms` when none of them raises. -/
def cleanupCalls (bdms : List Bdm) : List Call :=
  (bdms.filter fun b => b.hasVolume && b.deleteOnTermination).flatMap fun b =>
    [.volume .get (b.volumeId.getD 0), .volume .delete (b.volumeId.getD 0)]

@[simp] theorem cleanupCalls_nil : cleanupCalls [] = [] := rfl

theorem cleanupCalls_cons (b : Bdm) (bdms : List Bdm) :
    cleanupCalls (b :: bdms) =
      (if b.hasVolume && b.deleteOnTermination then
        [.volume .get (b.volumeId.getD 0), .volume .delete (b.volumeId.getD 0)] else []) ++
        cleanupCalls bdms := by
  by_cases h : b.hasVolume && b.deleteOnTermination <;> simp [cleanupCalls, List.filter_cons, h]

/-- `_cleanup_volumes` has no handler inside its loop.  When the `volume_api.get` of a
mapping `b` it deletes raises, after every call for the mappings before it succeeded, the
exception ends the loop: no volume of a later mapping is fetched or deleted. -/
theorem cleanupVolumes_stops_at_failed_get (pre post : List Bdm) (b : Bdm) (e : Env)
    (w : World) (ex : Exc) (hb : (b.hasVolume && b.deleteOnTermination) = true)
    (hpre : ∀ n c, n < w.clock + (cleanupCalls pre).length → e.fault n c = none)
    (hex : e.fault (w.clock + (cleanupCalls pre).length) (.volume .get (b.volumeId.getD 0)) =
      some ex) :
    let r := cleanupVolumes (pre ++ b :: post) e w
    r.1 = .error ex ∧ r.2.calls = w.calls ++ (cleanupCalls pre).map (·, none) ++
      [(.volume .get (b.volumeId.getD 0), some ex)] := by
  induction pre generalizing w with
  | nil =>
    simp_all [cleanupVolumes]
  | cons a pre ih =>
    have hlen : (cleanupCalls (a :: pre)).length = (if (a.hasVolume && a.deleteOnTermination)
        then 2 else 0) + (cleanupCalls pre).length := by
      by_cases ha : a.hasVolume && a.deleteOnTermination <;> simp [cleanupCalls_cons, ha]
      omega
    simp only [cleanupVolumes, List.cons_append, forEach_cons] at ih ⊢
    by_cases ha : a.hasVolume && a.deleteOnTermination
    · simp only [ha, if_true] at hlen
      have h0 := hpre w.clock (.volume .get (a.volumeId.getD 0)) (by omega)
      have h1 := hpre (w.clock + 1) (.volume .delete (a.volumeId.getD 0)) (by omega)
      obtain ⟨r1, r2⟩ := ih ((w.tick e (.volume .get (a.volumeId.getD 0))).tick e
        (.volume .delete (a.volumeId.getD 0))) (fun n c hn => hpre n c (by simp at hn; omega))
        (by simp only [World.tick_clock]; rwa [show w.clock + 1 + 1 + (cleanupCalls pre).length =
          w.clock + (cleanupCalls (a :: pre)).length by omega])
      simp only [ha, if_true, Op.bind_apply, io_apply, h0, World.tick_clock, h1, Option.elim_none]
      refine ⟨r1, ?_⟩
      rw [r2]
      simp [cleanupCalls_cons, ha, h0, h1]
    · simp only [ha, if_false] at hlen
      obtain ⟨r1, r2⟩ := ih w (fun n c hn => hpre n c (by omega)) (by simpa [hlen] using hex)
      simp only [ha, Bool.false_eq_true, if_false, Op.bind_apply, Op.pure_apply]
      refine ⟨r1, ?_⟩
      rw [r2]
      simp [cleanupCalls_cons, ha]

/-- Two mappings to delete, volumes 10 and 20, and the `get` of volume 10 raises
`VolumeNotFound`: the loop ends before volume 20. -/
theorem cleanupVolumes_skips_second_volume :
    let b₁ : Bdm :=
      { id := 1, instanceUuid := 1, volumeId := some 10, deleteOnTermination := true }
    let b₂ : Bdm :=
      { id := 2, instanceUuid := 1, volumeId := some 20, deleteOnTermination := true }
    let w : World := { db := {} }
    let e : Env :=
      { fault := fun _ c => if c = .volume .get 10 then some .volumeNotFound else none }
    (b₁.hasVolume && b₁.deleteOnTermination) = true ∧
    (∀ n c, n < w.clock + (cleanupCalls []).length → e.fault n c = none) ∧
    e.fault (w.clock + (cleanupCalls []).length) (.volume .get (b₁.volumeId.getD 0)) =
      some .volumeNotFound ∧
    let r := cleanupVolumes ([] ++ b₁ :: [b₂]) e w
    r.1 = .error .volumeNotFound ∧ r.2.calls = w.calls ++ (cleanupCalls []).map (·, none) ++
      [(.volume .get (b₁.volumeId.getD 0), some .volumeNotFound)] :=
  ⟨rfl, fun _ _ h => absurd h (Nat.not_lt_zero _), rfl,
    cleanupVolumes_stops_at_failed_get [] [_] _ _ _ _ rfl
      (fun _ _ h => absurd h (Nat.not_lt_zero _)) rfl⟩

/-- In `terminate_instance` the same failure is swallowed by `_delete_instance`: the
termination succeeds and volume 20, marked `delete_on_termination`, is never deleted. -/
example :
    let b₁ : Bdm :=
      { id := 1, instanceUuid := 1, volumeId := some 10, deleteOnTermination := true }
    let b₂ : Bdm :=
      { id := 2, instanceUuid := 1, volumeId := some 20, deleteOnTermination := true }
    let i : Instance := { uuid := 1, vmState := some .active, taskState := some .deleting }
    let w : World :=
      { db := { instances := fun u => if u = 1 then some i else none, bdms := [b₁, b₂] } }
    let e : Env :=
      { fault := fun _ c => if c = .volume .get 10 then some .volumeNotFound else none }
    (terminateInstance 1 [b₁, b₂] e w).1 = .ok () ∧
    (Call.volume .delete 20, none) ∉ (terminateInstance 1 [b₁, b₂] e w).2.calls := by
  decide

/-! ## Deletion with no failure -/

section Quiet

variable {e : Env} (he : ∀ n c, e.fault n c = none) (hq : ∀ n db, e.interfere n db = db)
include he hq

/-- With no call failing and no other writer, the detach loop of `_shutdown_instance`
makes its four calls per mapping and writes nothing. -/
theorem forEach_detachVolumeOnShutdown_quiet (uuid : Nat) :
    ∀ (l : List Bdm) (w : World), forEach l (detachVolumeOnShutdown uuid) e w =
      (.ok (),
        { w with
          clock := w.clock + 4 * l.length
          calls := w.calls ++ (l.flatMap fun b =>
            [.volume .get (b.volumeId.getD 0), .driver .getVolumeConnector uuid,
              .volume .terminateConnection (b.volumeId.getD 0),
              .volume .detach (b.volumeId.getD 0)]).map (·, none) })
  | [], w => by simp
  | b :: l, w => by
    simp [detachVolumeOnShutdown, he, hq, World.tick, forEach_detachVolumeOnShutdown_quiet uuid l]
    omega

/-- With no call failing and no other writer, `_cleanup_volumes` makes `cleanupCalls` and
writes nothing. -/
theorem cleanupVolumes_quiet :
    ∀ (bdms : List Bdm) (w : World), cleanupVolumes bdms e w =
      (.ok (),
        { w with
          clock := w.clock + (cleanupCalls bdms).length
          calls := w.calls ++ (cleanupCalls bdms).map (·, none) })
  | [], w => by simp [cleanupVolumes]
  | b :: l, w => by
    have ih := cleanupVolumes_quiet l
    simp only [cleanupVolumes, Bool.and_eq_true] at ih ⊢
    by_cases hb : b.hasVolume = true ∧ b.deleteOnTermination = true <;>
      simp [hb, he, hq, World.tick, ih, cleanupCalls_cons]
    omega

/-- The loop at the end of `_delete_instance` destroys the mappings it is given, by id. -/
theorem forEach_bdmDestroy_quiet :
    ∀ (l : List Bdm) (w : World), forEach l (fun bdm => do
        io (.db "block_device_mapping_destroy" bdm.id)
        onDb fun db => .ok ((), db.bdmDestroy bdm.id)) e w =
      (.ok (),
        { db := { w.db with bdms := w.db.bdms.filter fun b => b.id ∉ l.map (·.id) },
          clock := w.clock + l.length
          calls := w.calls ++ l.map fun b => (.db "block_device_mapping_destroy" b.id, none) })
  | [], w => by rw [List.filter_eq_self.2 fun _ _ => by simp]; simp
  | b :: l, w => by
    have hf : ((w.db.bdms.filter fun a => a.id ≠ b.id).filter fun a => a.id ∉ l.map (·.id)) =
        w.db.bdms.filter fun a => a.id ∉ (b :: l).map (·.id) := by
      rw [List.filter_filter]
      exact List.filter_congr fun a _ => by simp [Bool.and_comm]
    simp only [forEach_cons, Op.bind_apply, io_apply, he, Option.elim_none, onDb]
    rw [forEach_bdmDestroy_quiet l]
    simp only [World.tick, hq, he, Db.bdmDestroy, hf, List.length_cons, List.map_cons,
      List.append_assoc, List.singleton_append, Nat.add_assoc, Nat.add_comm 1]

/-- With no call failing and no other writer, `_delete_instance` of a live instance
returns normally and destroys the mappings it is given, by id. -/
theorem deleteInstance_quiet (uuid : Nat) (l : List Bdm) (i : Instance) (w : World)
    (hi : w.db.instances uuid = some i) (hd : i.deleted = false) :
    ∃ w', deleteInstance uuid l e w = (.ok (), w') ∧
      w'.db.bdms = w.db.bdms.filter fun b => b.id ∉ l.map (·.id) := by
  simp only [deleteInstance, shutdownInstance, notifyAboutInstanceUsage, getInstanceNwInfo,
    deallocateNetwork, Op.bind_apply, Op.tryCatch_apply, Op.pure_apply, Op.discard_apply, io_apply,
    he, hq, Option.elim_none, onDb_apply, World.tick_db, forEach_detachVolumeOnShutdown_quiet he hq,
    cleanupVolumes_quiet he hq, forEach_bdmDestroy_quiet he hq, instanceUpdate, now,
    Db.instanceUpdate, hi, hd, Db.instanceDestroy, Db.setInstance_instance_self,
    Update.apply_deleted]
  simp [Update.Permits, Db.setInstance, hq, he, hd]

end Quiet

/-! ## A failure after the `DELETED` write -/

/-- A termination that fails after `_delete_instance` has written `DELETED` escapes with
`task_state = None`: when `instance_destroy` raises any exception the handler does not
absorb, the error propagates and the stored `task_state` is the one the delete wrote. -/
theorem terminateInstance_failure_after_update_clears_task_state (uuid : Nat) (i : Instance)
    (w : World) (ex : Exc) (hi : w.db.instances uuid = some i) (hd : i.deleted = false)
    (hb : w.db.bdms = []) (h1 : ex ≠ .instanceTerminationFailure)
    (h2 : ex ≠ .instanceNotFound) :
    let e : Env := { fault := fun _ c => if c = .db "instance_destroy" uuid then some ex else none }
    (terminateInstance uuid [] e w).1 = .error ex ∧
    ((terminateInstance uuid [] e w).2.db.instances uuid).map (·.taskState) = some none := by
  intro e
  simp [e, terminateInstance, deleteInstance, shutdownInstance, cleanupVolumes,
    getInstanceVolumeBdms, wrapInstanceFault, addInstanceFaultFromExc, getInstanceNwInfo,
    deallocateNetwork, instanceUpdate, notifyAboutInstanceUsage, onDb, Db.instanceUpdate, now,
    hi, hd, hb, Update.Permits, h1, h2]

/-- Instance 1, `DELETING`, whose `instance_destroy` hits a database error: the error
escapes and `task_state` is `None`, not `DELETING`. -/
theorem terminateInstance_destroy_error_clears_deleting :
    let i : Instance := { uuid := 1, vmState := some .active, taskState := some .deleting }
    let w : World := { db := { instances := fun u => if u = 1 then some i else none } }
    let ex := Exc.other "OperationalError"
    w.db.instances 1 = some i ∧ i.deleted = false ∧ w.db.bdms = [] ∧
    ex ≠ .instanceTerminationFailure ∧ ex ≠ .instanceNotFound ∧
    let e : Env := { fault := fun _ c => if c = .db "instance_destroy" 1 then some ex else none }
    (terminateInstance 1 [] e w).1 = .error ex ∧
    ((terminateInstance 1 [] e w).2.db.instances 1).map (·.taskState) = some none :=
  ⟨rfl, rfl, rfl, by decide, by decide,
    terminateInstance_failure_after_update_clears_task_state 1 _ _ _ rfl rfl rfl
      (by decide) (by decide)⟩

end Manager

end FolsomCloud.Compute
