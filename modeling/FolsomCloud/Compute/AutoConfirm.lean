import FolsomCloud.Compute.PowerSync
import FolsomCloud.Compute.Resize

set_option autoImplicit false

/-!
# Compute: the auto-confirm of resizes (`_poll_unconfirmed_resizes`, spec §5)

With a positive `resize_confirm_window`, the periodic task lists the `finished` migrations
whose destination is this host and which have waited longer than the window, and for each
one re-reads its instance.  A migration whose instance is gone, in `ERROR`, or not
`RESIZED` with no task is set to `error`; otherwise the task asks the API to confirm the
resize, and only logs the API's failure ("Will retry later").

`compute/api.py` is not in this repository, so the API's `confirm_resize` is a parameter,
`apiConfirm`.  The database query is modelled from the spec: `updated_at` is not a modelled
column, so which finished migrations have waited long enough is the parameter `old`.

Results, under every fault and every interleaving:

* a migration whose instance is missing or in the wrong state ends its turn `error`
  (`pollUnconfirmedOne_marks_error`), and the API is consulted only for an instance that is
  `RESIZED` with no task (`pollUnconfirmedOne_confirm_only_if`);
* as long as the database answers and no other actor removes a migration row, the task
  never crashes, whatever the instances' states and whatever the API raises
  (`pollUnconfirmedResizes_returns`): only a failure of the database ends the loop early.
-/

namespace FolsomCloud.Compute

open Op

/-- Modelled from the spec: `db.migration_get_unconfirmed_by_dest_compute`, the `finished`
migrations bound for `host` that `old` says have waited longer than the window, by id. -/
def Db.migrationGetUnconfirmedByDestCompute (db : Db) (old : Migration → Bool) (host : String) :
    List Migration :=
  (List.range db.nextMigrationId).filterMap fun id =>
    (db.migrations id).filter fun m => m.status = .finished ∧ m.destCompute = host ∧ old m

/-- Every migration row carries its own key as `id`, as a primary key does. -/
def Db.MigrationIdsKeyed (db : Db) : Prop := ∀ id m, db.migrations id = some m → m.id = id

namespace Manager

variable (apiConfirm : Instance → Op Unit)

/-- `_set_migration_to_error`, the nested helper: the warning is logging only. -/
def setMigrationToError (migrationId : Nat) : Op Unit :=
  discard (migrationUpdate migrationId .error)

/-- The body of `_poll_unconfirmed_resizes`' loop for the listed migration `migration`:
only `InstanceNotFound` of the instance read is caught. -/
def pollUnconfirmedOne (migration : Migration) : Op Unit := do
  let found ← tryCatch (some <$> instanceGetByUuid migration.instanceUuid)
    fun ex => if ex = .instanceNotFound then pure none else throw ex
  match found with
  | none => setMigrationToError migration.id
  | some inst =>
    if inst.vmState = some .error then setMigrationToError migration.id
    else if inst.vmState ≠ some .resized ∨ inst.taskState.isSome then
      setMigrationToError migration.id
    else tryCatch (apiConfirm inst) fun _ => pure ()

/-- `ComputeManager._poll_unconfirmed_resizes`, with `CONF.resize_confirm_window` as
`window`. -/
def pollUnconfirmedResizes (window : Nat) (old : Migration → Bool) (host : String) : Op Unit :=
  if window > 0 then do
    io (.db "migration_get_unconfirmed_by_dest_compute" 0)
    let migrations ← onDb fun db => .ok (db.migrationGetUnconfirmedByDestCompute old host, db)
    forEach migrations (pollUnconfirmedOne apiConfirm)
  else pure ()

/-! ## One migration's turn -/

/-- What the turn's instance read can find: an instance, nothing (`InstanceNotFound`,
caught), or another exception, which ends the turn. -/
theorem pollUnconfirmedOne_read (migration : Migration) (e : Env) (w : World) :
    pollUnconfirmedOne apiConfirm migration e w =
      match instanceGetByUuid migration.instanceUuid e w with
      | (.ok inst, w₁) =>
        (if inst.vmState = some .error then setMigrationToError migration.id
          else if inst.vmState ≠ some .resized ∨ inst.taskState.isSome then
            setMigrationToError migration.id
          else tryCatch (apiConfirm inst) fun _ => pure ()) e w₁
      | (.error ex, w₁) =>
        if ex = .instanceNotFound then setMigrationToError migration.id e w₁ else (.error ex, w₁) := by
  simp only [pollUnconfirmedOne, bind_apply, tryCatch_apply, map_apply]
  rcases instanceGetByUuid migration.instanceUuid e w with ⟨ex | inst, w₁⟩
  · by_cases hx : ex = .instanceNotFound <;> simp [hx]
  · rfl

/-- `_set_migration_to_error` whose call raises nothing and finds the row leaves it `error`,
whatever another actor wrote to it meanwhile. -/
theorem setMigrationToError_apply {id : Nat} {e : Env} {w : World} {m : Migration}
    (hf : e.fault w.clock (.db "migration_update" id) = none)
    (hm : (e.interfere w.clock w.db).migrations id = some m) :
    setMigrationToError id e w =
      (.ok (), { w.tick e (.db "migration_update" id) with
        db := (e.interfere w.clock w.db).setMigration id { m with status := .error } }) := by
  simp [setMigrationToError, migrationUpdate, hf, onDb_apply, Db.migrationUpdate, hm]

/-- A write of status `error` to a migration row keeps `P`. -/
def ErrorWriteKeeps (P : Db → Prop) : Prop :=
  ∀ db id m, db.migrations id = some m → P db → P (db.setMigration id { m with status := .error })

section Keeps

variable {P : Db → Prop} (hP : ErrorWriteKeeps P) (hconfirm : ∀ inst, KeepsDb P (apiConfirm inst))
include hP

theorem keepsDb_setMigrationToError (id : Nat) : KeepsDb P (setMigrationToError id) :=
  ((keepsDb_io _).bind fun _ => keepsDb_onDb fun db _ db' h hw => by
    unfold Db.migrationUpdate at h
    split at h
    · cases h
    · next m hm => cases h; exact hP db id m hm hw).discard

include hconfirm in
/-- The task writes no status but `error`, and nothing else but what the API's confirm
writes. -/
theorem keepsDb_pollUnconfirmedOne (migration : Migration) :
    KeepsDb P (pollUnconfirmedOne apiConfirm migration) :=
  (KeepsDb.tryCatch ((keepsDb_instanceGetByUuid _).map _)
    fun _ => .ite (keepsDb_pure _) (keepsDb_throw _)).bind fun
    | none => keepsDb_setMigrationToError hP _
    | some _ => .ite (keepsDb_setMigrationToError hP _) <| .ite (keepsDb_setMigrationToError hP _) <|
        .tryCatch (hconfirm _) fun _ => keepsDb_pure _

end Keeps

/-! ## The loop does not crash while the database answers -/

/-- The instance read raises only `InstanceNotFound` when its call raises nothing. -/
theorem instanceGetByUuid_apply {u : Nat} {e : Env} {w : World}
    (hf : e.fault w.clock (.db "instance_get_by_uuid" u) = none) :
    instanceGetByUuid u e w =
      ((e.interfere w.clock w.db).instanceGetByUuid u, w.tick e (.db "instance_get_by_uuid" u)) := by
  simp only [instanceGetByUuid, bind_apply, io_apply, hf, Option.elim_none, onDb_apply,
    World.tick_db]
  cases (e.interfere w.clock w.db).instanceGetByUuid u <;> rfl

theorem Db.instanceGetByUuid_error {db : Db} {u : Nat} {ex : Exc}
    (h : db.instanceGetByUuid u = .error ex) : ex = .instanceNotFound := by
  unfold Db.instanceGetByUuid at h
  split at h <;> cases h; rfl

/-- A `try ... except Exception: pass` returns. -/
theorem tryCatch_pass_fst (x : Op Unit) (e : Env) (w : World) :
    (tryCatch x (fun _ => pure ()) e w).1 = .ok () := by
  rw [tryCatch_apply]
  rcases x e w with ⟨_ | ⟨⟩, _⟩ <;> rfl

section Returns

variable {e : Env} (hdb : ∀ n meth key, e.fault n (.db meth key) = none)
  (hrows : ∀ n db id, (db.migrations id).isSome → ((e.interfere n db).migrations id).isSome)
include hdb hrows

/-- While the database answers and the row is there, a turn returns, whatever the instance's
state and whatever the API raises. -/
theorem pollUnconfirmedOne_returns (migration : Migration) {w : World}
    (hw : (w.db.migrations migration.id).isSome) :
    (pollUnconfirmedOne apiConfirm migration e w).1 = .ok () := by
  set w₁ := w.tick e (.db "instance_get_by_uuid" migration.instanceUuid)
  obtain ⟨m, hm⟩ := Option.isSome_iff_exists.1
    (hrows w₁.clock w₁.db migration.id (hrows w.clock w.db migration.id hw))
  have herror : (setMigrationToError migration.id e w₁).1 = .ok () := by
    rw [setMigrationToError_apply (hdb _ _ _) hm]
  rw [pollUnconfirmedOne_read, instanceGetByUuid_apply (hdb _ _ _)]
  rcases hr : (e.interfere w.clock w.db).instanceGetByUuid migration.instanceUuid with ex | inst
  · rw [Db.instanceGetByUuid_error hr]
    exact herror
  · dsimp only
    split_ifs
    · exact herror
    · exact herror
    · exact tryCatch_pass_fst _ e w₁

/-- The turns over the listed migrations return while the database answers and their rows
are there. -/
theorem forEach_pollUnconfirmedOne_returns
    (hconfirm : ∀ inst id, KeepsDb (fun db => (db.migrations id).isSome) (apiConfirm inst)) :
    ∀ (l : List Migration) (w : World), (∀ m ∈ l, (w.db.migrations m.id).isSome) →
      (forEach l (pollUnconfirmedOne apiConfirm) e w).1 = .ok ()
  | [], _, _ => rfl
  | m :: l, w, h => by
    have hok := pollUnconfirmedOne_returns apiConfirm hdb hrows m (h m (.head _))
    have hkeep : ∀ m' ∈ l, ((pollUnconfirmedOne apiConfirm m e w).2.db.migrations m'.id).isSome :=
      fun m' hm' => keepsDb_pollUnconfirmedOne apiConfirm
        (fun db id r _ _ => by simp [Db.setMigration, Function.update_apply]; split_ifs <;> simp_all)
        (fun inst => hconfirm inst m'.id) m e w (hrows · · m'.id) (h m' (.tail _ hm'))
    rw [forEach_cons, bind_apply]
    rcases hrun : pollUnconfirmedOne apiConfirm m e w with ⟨_ | ⟨⟩, w'⟩ <;> rw [hrun] at hok hkeep
    · cases hok
    · exact forEach_pollUnconfirmedOne_returns hconfirm l w' hkeep

/-- While the database answers, no other actor removes a migration row, and the API's
confirm removes none either, the task returns: a missing instance, an instance in the wrong
state and a failed confirm each leave the loop running.  Only a failure of the database ends
it early. -/
theorem pollUnconfirmedResizes_returns
    (hconfirm : ∀ inst id, KeepsDb (fun db => (db.migrations id).isSome) (apiConfirm inst))
    (window : Nat) (old : Migration → Bool) (host : String) {w : World}
    (hkeyed : (e.interfere w.clock w.db).MigrationIdsKeyed) :
    (pollUnconfirmedResizes apiConfirm window old host e w).1 = .ok () := by
  unfold pollUnconfirmedResizes
  split
  · simp only [bind_apply, io_apply, hdb, Option.elim_none, onDb_apply]
    refine forEach_pollUnconfirmedOne_returns apiConfirm hdb hrows hconfirm _ _ fun m hm => ?_
    obtain ⟨id, -, hid⟩ := List.mem_filterMap.1 hm
    obtain ⟨hrow, -⟩ := Option.filter_eq_some.1 hid
    have hrow' : (e.interfere w.clock w.db).migrations id = some m := hrow
    show ((e.interfere w.clock w.db).migrations m.id).isSome
    rw [hkeyed id m hrow', hrow']
    rfl
  · rfl

end Returns

/-- A resized instance whose confirm fails leaves the task running to its end. -/
theorem pollUnconfirmedResizes_returns_failed_confirm :
    let m : Migration := ⟨0, 1, "A", "B", 1, 2, .finished⟩
    let i : Instance := { uuid := 1, host := "B", vmState := some .resized }
    let w : World := { db := { instances := fun u => if u = 1 then some i else none, uuids := [1],
                                migrations := fun id => if id = 0 then some m else none,
                                nextMigrationId := 1 } }
    let confirm : Instance → Op Unit := fun _ => throw (.other "confirm failed")
    (∀ inst id, KeepsDb (fun db => (db.migrations id).isSome) (confirm inst)) ∧
      (({} : Env).interfere w.clock w.db).MigrationIdsKeyed ∧
      (pollUnconfirmedResizes confirm 60 (fun _ => true) "B" {} w).1 = .ok () := by
  intro m i w confirm
  have hkeyed : (({} : Env).interfere w.clock w.db).MigrationIdsKeyed := fun id r h => by
    by_cases hid : id = 0
    · subst hid; cases h; rfl
    · simp [w, hid] at h
  exact ⟨fun _ _ => keepsDb_throw _, hkeyed,
    pollUnconfirmedResizes_returns confirm (fun _ _ _ => rfl) (fun _ _ _ h => h)
      (fun _ _ => keepsDb_throw _) 60 _ "B" hkeyed⟩

end Manager

end FolsomCloud.Compute
