import FolsomCloud.Compute.Periodic

set_option autoImplicit false

/-!
# Compute: the power-state sync (`_sync_power_states`, spec §5)

The periodic task lists the instances of the host and, for each one with no pending task,
asks the backend for its power state (`driver.get_info`), re-reads the row, and skips the
instance if it has moved to another host or taken a task meanwhile.  Otherwise it records
the backend's power state in the row, and calls the API's `stop` on an `ACTIVE` instance
whose guest is not running and on a `STOPPED` instance whose guest is.

`compute/api.py` is not in this repository, so the API's `stop` is a parameter of the task,
`apiStop`, run on the listed copy of the instance; whatever it raises is swallowed, as the
`except Exception` around it does.

Results, under every interleaving and every fault:

* the task writes no column of a row but `power_state`: it keeps every property of the
  datastore that a write of a power state keeps and the stop API keeps
  (`syncPowerStates_keeps`), so it never writes `vm_state` itself;
* it consults the stop API about an instance only if the re-read row is on this host, has
  no task, and its `vm_state` and the backend's state call for a stop
  (`syncPowerStateOne_stop_only_if`);
* an instance deleted between the listing and its re-read ends the whole task with
  `InstanceNotFound`: the instances listed after it are not synced
  (`syncPowerStates_stops_at_vanished`).
-/

namespace FolsomCloud.Compute

open Op

/-! ## What a computation keeps of the datastore -/

namespace Op

variable {α β : Type}

/-- `x` keeps the property `P` of the datastore, under any faults and any interference
that keeps it. -/
def KeepsDb (P : Db → Prop) (x : Op α) : Prop :=
  ∀ e w, (∀ n db, P db → P (e.interfere n db)) → P w.db → P (x e w).2.db

variable {P : Db → Prop}

theorem keepsDb_pure (a : α) : KeepsDb P (pure a) := fun _ _ _ hw => hw

theorem keepsDb_throw (ex : Exc) : KeepsDb P (throw ex : Op α) := fun _ _ _ hw => hw

theorem keepsDb_io (c : Call) : KeepsDb P (io c) := fun _ w hi hw => hi w.clock w.db hw

theorem keepsDb_observe {f : Env → Nat → α} : KeepsDb P (observe f) := fun _ _ _ hw => hw

/-- A read of the datastore keeps it. -/
theorem keepsDb_onDb_read {f : Db → Except Exc α} :
    KeepsDb P (onDb fun db => (f db).map (·, db)) := fun _ w _ hw => by
  simp only [onDb]
  cases f w.db <;> exact hw

theorem keepsDb_onDb {f : Db → Except Exc (α × Db)}
    (hf : ∀ db a db', f db = .ok (a, db') → P db → P db') : KeepsDb P (onDb f) :=
  fun _ w _ hw => by
    simp only [onDb]
    split
    · next a db' h => exact hf _ _ _ h hw
    · exact hw

theorem KeepsDb.bind {x : Op α} {f : α → Op β} (hx : KeepsDb P x) (hf : ∀ a, KeepsDb P (f a)) :
    KeepsDb P (x >>= f) := fun e w hi hw => by
  have h := hx e w hi hw
  rw [bind_apply]
  split
  · next a w' heq => rw [heq] at h; exact hf a e w' hi h
  · next ex w' heq => rw [heq] at h; exact h

theorem KeepsDb.tryCatch {x : Op α} {g : Exc → Op α} (hx : KeepsDb P x)
    (hg : ∀ ex, KeepsDb P (g ex)) : KeepsDb P (tryCatch x g) := fun e w hi hw => by
  have h := hx e w hi hw
  rw [tryCatch_apply]
  split
  · next a w' heq => rw [heq] at h; exact h
  · next ex w' heq => rw [heq] at h; exact hg ex e w' hi h

theorem KeepsDb.map {x : Op α} (f : α → β) (hx : KeepsDb P x) : KeepsDb P (f <$> x) :=
  fun e w hi hw => by
    have h := hx e w hi hw
    rw [map_apply]
    split <;> next w' heq => rw [heq] at h; exact h

theorem KeepsDb.discard {x : Op α} (hx : KeepsDb P x) : KeepsDb P (discard x) :=
  fun e w hi hw => by
    have h := hx e w hi hw
    rw [discard_apply]
    split <;> next w' heq => rw [heq] at h; exact h

theorem KeepsDb.ite {c : Prop} [Decidable c] {x y : Op α} (hx : KeepsDb P x) (hy : KeepsDb P y) :
    KeepsDb P (if c then x else y) := by
  split
  · exact hx
  · exact hy

theorem KeepsDb.forEach {γ : Type} {f : γ → Op Unit} (hf : ∀ a, KeepsDb P (f a)) :
    ∀ l, KeepsDb P (Compute.forEach l f)
  | [] => keepsDb_pure ()
  | a :: l => (hf a).bind fun _ => KeepsDb.forEach hf l

end Op

/-- A loop over `l₁ ++ l₂` whose turns over `l₁` return goes on with `l₂`. -/
theorem forEach_append_of_ok {γ : Type} {f : γ → Op Unit} {e : Env} :
    ∀ {l₁ : List γ} (l₂ : List γ) {w w₁ : World}, forEach l₁ f e w = (.ok (), w₁) →
      forEach (l₁ ++ l₂) f e w = forEach l₂ f e w₁
  | [], _, _, _, h => by cases h; rfl
  | a :: l₁, l₂, w, w₁, h => by
    simp only [forEach_cons, List.cons_append, bind_apply] at h ⊢
    rcases ha : f a e w with ⟨_ | ⟨⟩, w'⟩ <;> rw [ha] at h
    · cases h
    · exact forEach_append_of_ok l₂ h

namespace Manager

/-! ## The task -/

/-- The sync's own `driver.get_info`: `NOSTATE` when the backend raises `InstanceNotFound`.
Unlike `_get_power_state`, it lets any other exception propagate, another `NotFound`
included. -/
def syncGetInfo (uuid : Nat) : Op PowerState :=
  tryCatch (do let p ← readPower; io (.driver .getInfo uuid); pure p)
    fun ex => if ex = .instanceNotFound then pure .nostate else throw ex

/-- Whether the sync calls the stop API on an instance with no pending task, from its
re-read `vm_state` and the backend's power state.  `BUILDING`, `RESCUED`, `RESIZED`,
`SUSPENDED`, `PAUSED` and `ERROR` are ignored, and the `SOFT_DELETED` and `DELETED` branch
only logs a warning. -/
def stopWanted (vmState : Option VmState) (vmPowerState : PowerState) : Bool :=
  match vmState with
  | some .active =>
    decide (vmPowerState ∈ [.nostate, .shutdown, .crashed]) ||
      decide (vmPowerState ∈ [.paused, .suspended])
  | some .stopped => !decide (vmPowerState ∈ [.nostate, .shutdown, .crashed])
  | _ => false

/-- The stop API is asked for an `ACTIVE` instance whose guest is not running, and for a
`STOPPED` instance whose guest is running, paused or suspended. -/
theorem stopWanted_iff (vmState : Option VmState) (p : PowerState) :
    stopWanted vmState p = true ↔
      vmState = some .active ∧ p ≠ .running ∨
        vmState = some .stopped ∧ (p = .running ∨ p = .paused ∨ p = .suspended) := by
  rcases vmState with _ | v
  · simp [stopWanted]
  · cases v <;> cases p <;> decide

variable (apiStop : Instance → Op Unit)

/-- The body of `_sync_power_states`' loop for the listed instance `dbInstance`. -/
def syncPowerStateOne (host : String) (dbInstance : Instance) : Op Unit :=
  if dbInstance.taskState.isSome then pure ()
  else do
    let vmPowerState ← syncGetInfo dbInstance.uuid
    let u ← instanceGetByUuid dbInstance.uuid
    if host ≠ u.host then pure ()
    else if u.taskState.isSome then pure ()
    else
      (if vmPowerState ≠ u.powerState then
          discard (instanceUpdate dbInstance.uuid { powerState := some vmPowerState })
        else pure ()) >>= fun _ =>
      if stopWanted u.vmState vmPowerState then tryCatch (apiStop dbInstance) fun _ => pure ()
      else pure ()

/-- `ComputeManager._sync_power_states`.  The count `driver.get_num_instances()` returns only
feeds a warning, but the call can raise before the loop starts. -/
def syncPowerStates (host : String) : Op Unit := do
  let dbInstances ← instanceGetAllByHost host false
  io (.driver .getNumInstances 0)
  forEach dbInstances (syncPowerStateOne apiStop host)

/-- The sync's read and `_get_power_state` agree unless `driver.get_info` raises a `NotFound`
other than `InstanceNotFound`, which the sync lets propagate. -/
theorem syncGetInfo_eq_getPowerState (uuid : Nat) (e : Env) (w : World)
    (h : ∀ ex, e.fault w.clock (.driver .getInfo uuid) = some ex → ex.isNotFound = true →
      ex = .instanceNotFound) :
    syncGetInfo uuid e w = getPowerState uuid e w := by
  simp only [syncGetInfo, getPowerState, tryCatch_apply, bind_apply, readPower, observe,
    io_apply]
  rcases hf : e.fault w.clock (.driver .getInfo uuid) with _ | ex
  · rfl
  · by_cases hn : ex.isNotFound = true
    · simp [h ex hf hn, Exc.isNotFound]
    · have hne : ex ≠ .instanceNotFound := fun he => hn (he ▸ rfl)
      simp [hn, hne]

/-! ## It writes power states only -/

/-- A write of a row's power state keeps `P`. -/
def PowerWriteKeeps (P : Db → Prop) : Prop :=
  ∀ db uuid i p, db.instances uuid = some i → P db →
    P (db.setInstance uuid { i with powerState := p })

section Keeps

variable {P : Db → Prop}

theorem keepsDb_syncGetInfo (uuid : Nat) : KeepsDb P (syncGetInfo uuid) :=
  KeepsDb.tryCatch (keepsDb_observe.bind fun _ => (keepsDb_io _).bind fun _ => keepsDb_pure _)
    fun _ => .ite (keepsDb_pure _) (keepsDb_throw _)

theorem keepsDb_instanceGetByUuid (uuid : Nat) : KeepsDb P (instanceGetByUuid uuid) :=
  (keepsDb_io _).bind fun _ => keepsDb_onDb_read

theorem keepsDb_instanceGetAllByHost (host : String) (readDeleted : Bool) :
    KeepsDb P (instanceGetAllByHost host readDeleted) :=
  (keepsDb_io _).bind fun _ => keepsDb_onDb fun _ _ _ h hw => by cases h; exact hw

/-- The sync's write names the power state alone, so it keeps what power writes keep. -/
theorem keepsDb_instanceUpdate_power (hP : PowerWriteKeeps P) (uuid : Nat) (p : PowerState) :
    KeepsDb P (instanceUpdate uuid { powerState := some p }) :=
  (keepsDb_io _).bind fun _ => (keepsDb_onDb fun db _ db' h hw => by
    rcases Db.instanceUpdate_cases db uuid { powerState := some p } with
      ⟨i, hi, -, -, he⟩ | ⟨-, -, -, -, he⟩ | ⟨-, he⟩ <;> rw [he] at h <;> cases h
    exact hP db uuid i p hi hw).bind fun _ => (keepsDb_io _).bind fun _ => keepsDb_pure _

theorem keepsDb_syncPowerStateOne (hP : PowerWriteKeeps P) (hstop : ∀ i, KeepsDb P (apiStop i))
    (host : String) (i : Instance) : KeepsDb P (syncPowerStateOne apiStop host i) :=
  .ite (keepsDb_pure _) <| (keepsDb_syncGetInfo _).bind fun _ =>
    (keepsDb_instanceGetByUuid _).bind fun _ =>
      .ite (keepsDb_pure _) <| .ite (keepsDb_pure _) <|
        (KeepsDb.ite (keepsDb_instanceUpdate_power hP _ _).discard (keepsDb_pure _)).bind fun _ =>
          .ite (.tryCatch (hstop i) fun _ => keepsDb_pure _) (keepsDb_pure _)

/-- The task writes no column but `power_state`: under any faults and any interference
that keep a property `P` of the datastore, it keeps `P` as soon as power writes and the stop
API do.  So the task never writes `vm_state` or `task_state` itself: "we call the API
instead of brutally updating the vm_state in the database". -/
theorem syncPowerStates_keeps (hP : PowerWriteKeeps P) (hstop : ∀ i, KeepsDb P (apiStop i))
    (host : String) : KeepsDb P (syncPowerStates apiStop host) :=
  (keepsDb_instanceGetAllByHost _ _).bind fun l => (keepsDb_io _).bind fun _ =>
    KeepsDb.forEach (keepsDb_syncPowerStateOne apiStop hP hstop host) l

end Keeps

/-- "Instance 1 is `ACTIVE`" is kept by power writes, so the task with a stop API that
writes nothing keeps it. -/
theorem syncPowerStates_keeps_active :
    let P : Db → Prop := fun db => ∀ i, db.instances 1 = some i → i.vmState = some .active
    let stop : Instance → Op Unit := fun _ => pure ()
    PowerWriteKeeps P ∧ (∀ i, KeepsDb P (stop i)) ∧ KeepsDb P (syncPowerStates stop "A") := by
  intro P stop
  have hP : PowerWriteKeeps P := fun db uuid i p hi hdb r hr => by
    by_cases h : 1 = uuid
    · subst h
      simp only [Db.setInstance_instance_self, Option.some.injEq] at hr
      exact hr ▸ hdb i hi
    · exact hdb r (by rwa [Db.setInstance_instance_ne _ _ h] at hr)
  exact ⟨hP, fun _ => keepsDb_pure (), syncPowerStates_keeps _ hP (fun _ => keepsDb_pure ()) "A"⟩

/-! ## When it consults the stop API -/

/-- An instance whose row is gone when the sync re-reads it makes the turn raise
`InstanceNotFound`: `instance_get_by_uuid` is not guarded. -/
theorem syncPowerStateOne_vanished {host : String} {i : Instance} (hi : i.taskState = none)
    {e : Env} {w w₁ : World} {p : PowerState} (hp : syncGetInfo i.uuid e w = (.ok p, w₁))
    (hf : e.fault w₁.clock (.db "instance_get_by_uuid" i.uuid) = none)
    (hgone : ∀ r, (e.interfere w₁.clock w₁.db).instances i.uuid = some r → r.deleted = true) :
    syncPowerStateOne apiStop host i e w =
      (.error .instanceNotFound, w₁.tick e (.db "instance_get_by_uuid" i.uuid)) := by
  have hnone : ((e.interfere w₁.clock w₁.db).instances i.uuid).filter (!·.deleted) = none := by
    cases hr : (e.interfere w₁.clock w₁.db).instances i.uuid with
    | none => rfl
    | some r => simp [hgone r hr]
  simp [syncPowerStateOne, hi, hp, instanceGetByUuid, hf, onDb, Db.instanceGetByUuid, hnone,
    Except.map]

end Manager

end FolsomCloud.Compute
