import FolsomCloud.Compute.Delete

set_option autoImplicit false

/-!
# Compute: volume attach, detach and reservation (spec §4.1, §6)

`reserve_block_device_name`, `attach_volume` with `_attach_volume`, and `detach_volume`
with `_detach_volume`.  The volume is held for the operation (`attaching`, `detaching`)
before the handler runs, as the code's `unreserve_volume` and `roll_detaching` show; the
manager then makes four to six calls to the backend and the volume service, each
exception handler undoing part of what came before it.

What the operations leave outside the datastore is read off the calls that returned,
replayed over a `VolumeView` of the volume.  A failed attach or detach is not undone as a
whole: when `volume_api.attach` raises, the guest keeps the disk and the connection stays
open, and when the `volume_api.get` after the backend's detach raises, the guest has lost
the disk while the mapping stays (`attachVolume_detachVolume_not_atomic`).

`reserve_block_device_name` takes the instance lock, but the mappings `terminate_instance`
works from are listed before it (by the caller, or by the compatibility path outside the
lock), and with no mappings given only the volume ones are listed:
`terminateInstance_destroys_only_listed_bdms` says it destroys exactly those.
-/

namespace FolsomCloud.Compute

/-! ## The mapping table -/

namespace Db

/-- The id the database gives the next mapping row: one past the largest in use. -/
def nextBdmId (db : Db) : Nat := (db.bdms.map (·.id)).foldr Nat.max 0 + 1

/-- Modelled from the spec: `block_device_mapping_create`, the row built from its id. -/
def bdmCreate (db : Db) (mk : Nat → Bdm) : Db :=
  { db with bdms := db.bdms ++ [mk db.nextBdmId] }

/-- Modelled from the spec: `block_device_mapping_update_or_create` of the values of one
device: the first row of the instance with that device name is overwritten, keeping its
id, or a row is created. -/
def bdmUpdateOrCreate (db : Db) (uuid : Nat) (device : String) (mk : Nat → Bdm) : Db :=
  match db.bdms.find? fun b => b.instanceUuid = uuid ∧ b.deviceName = device with
  | some old => { db with bdms := db.bdms.map fun b => if b.id = old.id then mk old.id else b }
  | none => db.bdmCreate mk

/-- Modelled from the spec: `block_device_mapping_destroy_by_instance_and_device`. -/
def bdmDestroyByInstanceAndDevice (db : Db) (uuid : Nat) (device : String) : Db :=
  { db with bdms := db.bdms.filter fun b => !(b.instanceUuid = uuid ∧ b.deviceName = device) }

/-- Modelled from the spec: `block_device_mapping_destroy_by_instance_and_volume`. -/
def bdmDestroyByInstanceAndVolume (db : Db) (uuid vid : Nat) : Db :=
  { db with bdms := db.bdms.filter fun b => !(b.instanceUuid = uuid ∧ b.volumeId = some vid) }

end Db

namespace Manager

/-! ## The operations -/

/-- Modelled from the spec: `compute_utils.get_device_name_for_instance`, which is not in
this repository.  It reads the instance's mappings and returns the device asked for; its
checks of the device path and its choice of a free name are left out. -/
def getDeviceNameForInstance (uuid : Nat) (device : String) : Op String := do
  io (.db "block_device_mapping_get_all_by_instance" uuid)
  pure device

/-- `ComputeManager.reserve_block_device_name`, with the `volume_id` every caller of RPC
API 2.3 passes. -/
def reserveBlockDeviceName (uuid : Nat) (device : String) (vid : Nat) : Op String :=
  revertsTaskState (some uuid) <| wrapInstanceFault uuid do
    let result ← getDeviceNameForInstance uuid device
    io (.db "block_device_mapping_create" uuid)
    onDb fun db => .ok ((), db.bdmCreate fun id =>
      { id, instanceUuid := uuid, volumeId := some vid, deviceName := result })
    pure result

/-- `ComputeManager._attach_volume`.  A failure to connect releases the reservation; a
failure of the backend's attach closes the connection; a later failure is not handled. -/
def attachVolume' (uuid vid : Nat) (mountpoint : String) : Op Unit := do
  io (.volume .get vid)
  tryCatch
    (do
      io (.driver .getVolumeConnector uuid)
      io (.volume .initializeConnection vid))
    fun ex => do
      io (.volume .unreserveVolume vid)
      throw ex
  tryCatch (io (.driverVolume .attachVolume uuid mountpoint)) fun ex => do
    io (.volume .terminateConnection vid)
    throw ex
  io (.volume .attach vid)
  io (.db "block_device_mapping_update_or_create" uuid)
  onDb fun db => .ok ((), db.bdmUpdateOrCreate uuid mountpoint fun id =>
    { id, instanceUuid := uuid, deviceName := mountpoint, connectionInfo := true,
      volumeId := some vid, deleteOnTermination := false })

/-- `ComputeManager.attach_volume`: on any failure the mapping of the mountpoint goes. -/
def attachVolume (uuid vid : Nat) (mountpoint : String) : Op Unit :=
  revertsTaskState (some uuid) <| wrapInstanceFault uuid <|
    tryCatch (attachVolume' uuid vid mountpoint) fun ex => do
      io (.db "block_device_mapping_destroy_by_instance_and_device" uuid)
      onDb fun db => .ok ((), db.bdmDestroyByInstanceAndDevice uuid mountpoint)
      throw ex

/-- `ComputeManager._get_instance_volume_bdm`: the first volume mapping of the instance
with the volume id, if any. -/
def getInstanceVolumeBdm (uuid vid : Nat) : Op (Option Bdm) := do
  let bdms ← getInstanceVolumeBdms uuid
  pure (bdms.find? fun b => b.volumeId = some vid)

/-- `ComputeManager._detach_volume`: `instance_exists` only logs; `jsonutils.loads` of a
`connection_info` that is `None` raises `TypeError`; a failure of the backend's detach
rolls the volume back to `in-use`. -/
def detachVolume' (uuid : Nat) (bdm : Bdm) : Op Unit := do
  io (.driver .instanceExists uuid)
  if !bdm.connectionInfo then throw (.other "TypeError")
  tryCatch (io (.driverVolume .detachVolume uuid bdm.deviceName)) fun ex => do
    io (.volume .get (bdm.volumeId.getD 0))
    io (.volume .rollDetaching (bdm.volumeId.getD 0))
    throw ex

/-- `ComputeManager.detach_volume`; with no mapping for the volume, `bdm['device_name']`
raises `TypeError`. -/
def detachVolume (uuid vid : Nat) : Op Unit :=
  revertsTaskState (some uuid) <| wrapInstanceFault uuid do
    match ← getInstanceVolumeBdm uuid vid with
    | none => throw (.other "TypeError")
    | some bdm => detachVolume' uuid bdm
    io (.volume .get vid)
    io (.driver .getVolumeConnector uuid)
    io (.volume .terminateConnection vid)
    io (.volume .detach vid)
    io (.db "block_device_mapping_destroy_by_instance_and_volume" uuid)
    onDb fun db => .ok ((), db.bdmDestroyByInstanceAndVolume uuid vid)

/-! ## Termination destroys the mappings it was given -/

/-- With no call failing and no other writer, `terminate_instance` of a live instance
returns normally and destroys exactly the mappings it works from, by id: those it is
given, or with none given the instance's volume mappings.  Every other mapping of the
instance (ephemeral, swap, `no_device`, or one reserved after the list was taken)
stays. -/
theorem terminateInstance_destroys_only_listed_bdms (uuid : Nat) (bdms : List Bdm) (i : Instance)
    (e : Env) (w : World) (he : ∀ n c, e.fault n c = none) (hq : ∀ n db, e.interfere n db = db)
    (hi : w.db.instances uuid = some i) (hd : i.deleted = false) :
    let listed := if bdms.isEmpty then
      (w.db.bdms.filter (·.instanceUuid = uuid)).filter Bdm.hasVolume else bdms
    let r := terminateInstance uuid bdms e w
    r.1 = .ok () ∧ r.2.db.bdms = w.db.bdms.filter fun b => b.id ∉ listed.map (·.id) := by
  by_cases hb : bdms.isEmpty
  · simp only [terminateInstance, wrapInstanceFault, getInstanceVolumeBdms, hb, if_true,
      Op.bind_apply, Op.tryCatch_apply, io_apply, he, Option.elim_none, onDb_apply, World.tick_db, hq]
    obtain ⟨w', h1, h2⟩ := deleteInstance_quiet he hq uuid
      ((w.db.bdms.filter (·.instanceUuid = uuid)).filter Bdm.hasVolume) i
      { db := w.db, clock := (w.tick e (.db "block_device_mapping_get_all_by_instance" uuid)).clock,
        calls := (w.tick e (.db "block_device_mapping_get_all_by_instance" uuid)).calls } hi hd
    rw [h1]
    exact ⟨rfl, h2⟩
  · obtain ⟨w', h1, h2⟩ := deleteInstance_quiet he hq uuid bdms i w hi hd
    simp only [terminateInstance, wrapInstanceFault, hb, Bool.false_eq_true, if_false, Op.bind_apply,
      Op.pure_apply, Op.tryCatch_apply, h1]
    exact ⟨trivial, h2⟩

/-- The caller lists the two mappings of instance 1, an ephemeral disk (id 1) and volume
10 (id 2), and casts `terminate_instance` with them; `reserve_block_device_name` for volume
20 runs first on the host and adds mapping 3.  The termination returns normally and leaves
the reservation in the table. -/
theorem terminateInstance_leaves_reservation :
    let i : Instance := { uuid := 1, vmState := some .active, taskState := some .deleting }
    let b₁ : Bdm :=
      { id := 1, instanceUuid := 1, deviceName := "/dev/vdb", virtualName := some "ephemeral0" }
    let b₂ : Bdm := { id := 2, instanceUuid := 1, deviceName := "/dev/vda", volumeId := some 10 }
    let w₀ : World :=
      { db := { instances := fun u => if u = 1 then some i else none, bdms := [b₁, b₂] } }
    let w := (reserveBlockDeviceName 1 "/dev/vdc" 20 {} w₀).2
    (terminateInstance 1 [b₁, b₂] {} w).1 = .ok () ∧
    ((terminateInstance 1 [b₁, b₂] {} w).2.db.bdms.map fun b => (b.id, b.volumeId)) =
      [(3, some 20)] := by
  intro i b₁ b₂ w₀ w
  obtain ⟨h1, h2⟩ := terminateInstance_destroys_only_listed_bdms 1 [b₁, b₂] i {} w
    (fun _ _ => rfl) (fun _ _ => rfl) rfl rfl
  exact ⟨h1, by rw [h2]; decide⟩

/-- With no mappings passed, the compatibility path lists the volume mappings only: the
ephemeral mapping stays. -/
example :
    let i : Instance := { uuid := 1, vmState := some .active, taskState := some .deleting }
    let b₁ : Bdm :=
      { id := 1, instanceUuid := 1, deviceName := "/dev/vdb", virtualName := some "ephemeral0" }
    let b₂ : Bdm := { id := 2, instanceUuid := 1, deviceName := "/dev/vda", volumeId := some 10 }
    let w : World :=
      { db := { instances := fun u => if u = 1 then some i else none, bdms := [b₁, b₂] } }
    ((terminateInstance 1 [] {} w).2.db.bdms.map (·.id)) = [1] := by
  decide

end Manager

/-! ## What a volume operation leaves outside the datastore -/

/-- Modelled from the spec (§6, the volume collaborator): the status the volume service
keeps for a volume. -/
inductive VolumeStatus where
  | available | attaching | inUse | detaching
  deriving DecidableEq, Repr

/-- Volume `vid` at a mountpoint of the guest of an instance, as the world outside the
datastore holds it: its status in the volume service, whether its connection to the host
is open, and whether the backend has the disk attached to the guest. -/
structure VolumeView where
  status : VolumeStatus
  connected : Bool
  attached : Bool
  deriving DecidableEq, Repr

namespace VolumeView

/-- Modelled from the spec: what one call does to the view of volume `vid` at
`mountpoint` of the guest of instance `uuid`.  A call that raised did nothing. -/
def step (uuid vid : Nat) (mountpoint : String) (v : VolumeView) :
    Call × Option Exc → VolumeView
  | (_, some _) => v
  | (.volume m i, none) =>
    if i ≠ vid then v
    else match m with
      | .attach | .rollDetaching => { v with status := .inUse }
      | .detach | .unreserveVolume => { v with status := .available }
      | .initializeConnection => { v with connected := true }
      | .terminateConnection => { v with connected := false }
      | _ => v
  | (.driverVolume m u mp, none) =>
    if u ≠ uuid ∨ mp ≠ mountpoint then v
    else match m with
      | .attachVolume => { v with attached := true }
      | .detachVolume => { v with attached := false }
      | _ => v
  | (_, none) => v

/-- The view after a run of calls, from the view `v` before it. -/
def replay (uuid vid : Nat) (mountpoint : String) (v : VolumeView)
    (l : List (Call × Option Exc)) : VolumeView :=
  l.foldl (step uuid vid mountpoint) v

@[simp] theorem replay_nil (uuid vid : Nat) (mountpoint : String) (v : VolumeView) :
    replay uuid vid mountpoint v [] = v := rfl

@[simp] theorem replay_cons (uuid vid : Nat) (mountpoint : String) (v : VolumeView)
    (p : Call × Option Exc) (l : List (Call × Option Exc)) :
    replay uuid vid mountpoint v (p :: l) = replay uuid vid mountpoint (step uuid vid mountpoint v p) l :=
  rfl

theorem replay_append (uuid vid : Nat) (mountpoint : String) (v : VolumeView)
    (l l' : List (Call × Option Exc)) :
    replay uuid vid mountpoint v (l ++ l') =
      replay uuid vid mountpoint (replay uuid vid mountpoint v l) l' :=
  List.foldl_append _ _ _ _

end VolumeView

/-! ## A failed attach or detach -/

/-- From `w` to `w'` the mappings stay, and the calls made leave every volume's view as it
was. -/
def KeepsVolumes (w w' : World) : Prop :=
  w'.db.bdms = w.db.bdms ∧
    ∃ l, w'.calls = w.calls ++ l ∧ ∀ uuid vid mp v, VolumeView.replay uuid vid mp v l = v

theorem KeepsVolumes.refl (w : World) : KeepsVolumes w w := ⟨rfl, [], by simp, fun _ _ _ _ => rfl⟩

theorem KeepsVolumes.trans {w₁ w₂ w₃ : World} (h₁ : KeepsVolumes w₁ w₂)
    (h₂ : KeepsVolumes w₂ w₃) : KeepsVolumes w₁ w₃ := by
  obtain ⟨hb₁, l₁, hc₁, hr₁⟩ := h₁
  obtain ⟨hb₂, l₂, hc₂, hr₂⟩ := h₂
  exact ⟨hb₂.trans hb₁, l₁ ++ l₂, by rw [hc₂, hc₁, List.append_assoc],
    fun _ _ _ _ => by rw [VolumeView.replay_append, hr₁, hr₂]⟩

namespace Manager

/-- Recording a fault touches neither the mappings nor a volume. -/
theorem keepsVolumes_faultWorld (uuid : Nat) (ex : Exc) (w : World) :
    KeepsVolumes w (faultWorld uuid ex w) := ⟨rfl, _, rfl, fun _ _ _ _ => rfl⟩

/-- Nor does the `task_state` reset, whether it lands or not. -/
theorem keepsVolumes_resetWorld (uuid : Nat) (w : World) :
    KeepsVolumes w (resetWorld uuid w) := by
  unfold resetWorld
  rcases w.db.instanceUpdate_cases uuid { taskState := some none } with
    ⟨_, -, -, -, h⟩ | ⟨_, -, -, -, h⟩ | ⟨-, h⟩ <;> rw [h] <;>
    exact ⟨rfl, _, rfl, fun _ _ _ _ => rfl⟩

section Wrappers

variable {e : Env} (uuid : Nat)
  (hf : ∀ n, e.fault n (.db "instance_fault_create" uuid) = none)
  (hu : ∀ n, e.fault n (.db "instance_update_and_get_original" uuid) = none)
  (hs : ∀ n, e.fault n (.updateUsage uuid) = none)
  (hq : ∀ n db, e.interfere n db = db)
include hf hu hs hq

/-- After a failure of the body, `reverts_task_state` over `wrap_instance_fault` re-raises
it and undoes nothing: the mappings and every volume stay as the body left them. -/
theorem wrappers_error_keepsVolumes {α : Type} {y : Op α} {w w' : World} {ex : Exc}
    (hy : y e w = (.error ex, w')) :
    let r := revertsTaskState (some uuid) (wrapInstanceFault uuid y) e w
    r.1 = .error ex ∧ KeepsVolumes w' r.2 := by
  rw [revertsTaskState_error uuid hu hs hq (wrapInstanceFault_error uuid hf hq hy)]
  refine ⟨rfl, ?_⟩
  split_ifs
  · exact .refl _
  · exact keepsVolumes_faultWorld uuid ex w'
  · exact keepsVolumes_resetWorld uuid w'
  · exact (keepsVolumes_faultWorld uuid ex w').trans (keepsVolumes_resetWorld uuid _)

end Wrappers

/-- When `volume_api.attach` raises, after the backend has attached the disk, the handler
of `attach_volume` destroys the mapping of the mountpoint and nothing else: the guest keeps
the disk, the connection stays open, and the reservation (`attaching`) is not released. -/
theorem attachVolume_fails_at_attach (uuid vid : Nat) (mp : String) (ex : Exc) (e : Env)
    (w : World) (hf : ∀ n c, c ≠ .volume .attach vid → e.fault n c = none)
    (hx : e.fault (w.clock + 4) (.volume .attach vid) = some ex)
    (hq : ∀ n db, e.interfere n db = db) :
    let r := attachVolume uuid vid mp e w
    r.1 = .error ex ∧ (∀ b ∈ r.2.db.bdms, ¬(b.instanceUuid = uuid ∧ b.deviceName = mp)) ∧
    ∃ l, r.2.calls = w.calls ++ l ∧
      ∀ v, VolumeView.replay uuid vid mp v l = { v with connected := true, attached := true } := by
  have hy : tryCatch (attachVolume' uuid vid mp) (fun ex => do
      io (.db "block_device_mapping_destroy_by_instance_and_device" uuid)
      onDb fun db => .ok ((), db.bdmDestroyByInstanceAndDevice uuid mp)
      throw ex) e w =
      (.error ex,
      { db := w.db.bdmDestroyByInstanceAndDevice uuid mp, clock := w.clock + 6,
        calls := w.calls ++ [(.volume .get vid, none), (.driver .getVolumeConnector uuid, none),
          (.volume .initializeConnection vid, none), (.driverVolume .attachVolume uuid mp, none),
          (.volume .attach vid, some ex),
          (.db "block_device_mapping_destroy_by_instance_and_device" uuid, none)] }) := by
    simp [attachVolume', hx, hq, onDb_apply, hf, World.tick]
  obtain ⟨h1, hb, l, hc, hr⟩ := wrappers_error_keepsVolumes uuid (fun n => hf n _ (by simp))
    (fun n => hf n _ (by simp)) (fun n => hf n _ (by simp)) hq hy
  dsimp only [attachVolume]
  refine ⟨h1, fun b hm => ?_, _, hc.trans (List.append_assoc _ _ _), fun v => ?_⟩
  · rw [hb] at hm
    exact not_and_or.2 (by simpa using (List.mem_filter.1 hm).2)
  · rw [VolumeView.replay_append, hr]
    simp [VolumeView.step]

/-- When the `volume_api.get` after the backend's detach raises, `detach_volume` undoes
nothing: the guest has lost the disk, while the volume stays `detaching` and its mapping
stays. -/
theorem detachVolume_fails_after_backend_detach (uuid vid : Nat) (mp : String) (b : Bdm)
    (ex : Exc) (e : Env) (w : World)
    (hb : ((w.db.bdms.filter (·.instanceUuid = uuid)).filter Bdm.hasVolume).find?
      (·.volumeId = some vid) = some b)
    (hc : b.connectionInfo = true) (hm : b.deviceName = mp)
    (hf : ∀ n c, c ≠ .volume .get vid → e.fault n c = none)
    (hx : e.fault (w.clock + 3) (.volume .get vid) = some ex)
    (hq : ∀ n db, e.interfere n db = db) :
    let r := detachVolume uuid vid e w
    r.1 = .error ex ∧ r.2.db.bdms = w.db.bdms ∧
    ∃ l, r.2.calls = w.calls ++ l ∧
      ∀ v, VolumeView.replay uuid vid mp v l = { v with attached := false } := by
  have hy : (do
      match ← getInstanceVolumeBdm uuid vid with
      | none => throw (.other "TypeError")
      | some bdm => detachVolume' uuid bdm
      io (.volume .get vid)
      io (.driver .getVolumeConnector uuid)
      io (.volume .terminateConnection vid)
      io (.volume .detach vid)
      io (.db "block_device_mapping_destroy_by_instance_and_volume" uuid)
      onDb fun db => .ok ((), db.bdmDestroyByInstanceAndVolume uuid vid) : Op Unit) e w =
      (.error ex,
      { db := w.db, clock := w.clock + 4,
        calls := w.calls ++ [(.db "block_device_mapping_get_all_by_instance" uuid, none),
          (.driver .instanceExists uuid, none), (.driverVolume .detachVolume uuid mp, none),
          (.volume .get vid, some ex)] }) := by
    simp only [List.filter_filter, List.find?_filter, Bool.and_eq_true, decide_eq_true_eq,
      Bool.decide_and, Bool.decide_eq_true] at hb
    simp [getInstanceVolumeBdm, getInstanceVolumeBdms, detachVolume', hb, hc, hm, hx, hq,
      onDb_apply, hf, World.tick]
  obtain ⟨h1, hb, l, hc, hr⟩ := wrappers_error_keepsVolumes uuid (fun n => hf n _ (by simp))
    (fun n => hf n _ (by simp)) (fun n => hf n _ (by simp)) hq hy
  dsimp only [detachVolume]
  refine ⟨h1, hb, _, hc.trans (List.append_assoc _ _ _), fun v => ?_⟩
  rw [VolumeView.replay_append, hr]
  simp [VolumeView.step]

/-- Neither operation is atomic over the guest's disk, the volume and the mapping.  An
attach that fails at `volume_api.attach` leaves the disk attached and the connection open,
with the mapping gone; a detach that fails at the `volume_api.get` after the backend's
detach leaves the disk detached, with the mapping and the `detaching` status kept. -/
theorem attachVolume_detachVolume_not_atomic (uuid vid : Nat) (mp : String) (b : Bdm)
    (ex ex' : Exc) (e e' : Env) (w w' : World)
    (hf : ∀ n c, c ≠ .volume .attach vid → e.fault n c = none)
    (hx : e.fault (w.clock + 4) (.volume .attach vid) = some ex)
    (hq : ∀ n db, e.interfere n db = db)
    (hb : ((w'.db.bdms.filter (·.instanceUuid = uuid)).filter Bdm.hasVolume).find?
      (·.volumeId = some vid) = some b)
    (hc : b.connectionInfo = true) (hm : b.deviceName = mp)
    (hf' : ∀ n c, c ≠ .volume .get vid → e'.fault n c = none)
    (hx' : e'.fault (w'.clock + 3) (.volume .get vid) = some ex')
    (hq' : ∀ n db, e'.interfere n db = db) :
    (let r := attachVolume uuid vid mp e w
     r.1 = .error ex ∧ (∀ b ∈ r.2.db.bdms, ¬(b.instanceUuid = uuid ∧ b.deviceName = mp)) ∧
     ∃ l, r.2.calls = w.calls ++ l ∧
       ∀ v, VolumeView.replay uuid vid mp v l = { v with connected := true, attached := true }) ∧
    (let r := detachVolume uuid vid e' w'
     r.1 = .error ex' ∧ r.2.db.bdms = w'.db.bdms ∧
     ∃ l, r.2.calls = w'.calls ++ l ∧
       ∀ v, VolumeView.replay uuid vid mp v l = { v with attached := false }) :=
  ⟨attachVolume_fails_at_attach uuid vid mp ex e w hf hx hq,
    detachVolume_fails_after_backend_detach uuid vid mp b ex' e' w' hb hc hm hf' hx' hq'⟩

/-- Volume 10 at `/dev/vdb` of instance 1; the volume service's RPC raises `RemoteError`
at the attach, and at the read after the backend's detach. -/
theorem attachVolume_detachVolume_on_remote_error :
    let b : Bdm :=
      { id := 1, instanceUuid := 1, deviceName := "/dev/vdb", connectionInfo := true,
        volumeId := some 10 }
    let w' : World := { db := { bdms := [b] } }
    let e : Env :=
      { fault := fun _ c => if c = .volume .attach 10 then some (.other "RemoteError") else none }
    let e' : Env :=
      { fault := fun _ c => if c = .volume .get 10 then some (.other "RemoteError") else none }
    (let r := attachVolume 1 10 "/dev/vdb" e { db := {} }
     r.1 = .error (.other "RemoteError") ∧
     (∀ b ∈ r.2.db.bdms, ¬(b.instanceUuid = 1 ∧ b.deviceName = "/dev/vdb")) ∧
     ∃ l, r.2.calls = [] ++ l ∧ ∀ v, VolumeView.replay 1 10 "/dev/vdb" v l =
       { v with connected := true, attached := true }) ∧
    (let r := detachVolume 1 10 e' w'
     r.1 = .error (.other "RemoteError") ∧ r.2.db.bdms = [b] ∧
     ∃ l, r.2.calls = [] ++ l ∧ ∀ v, VolumeView.replay 1 10 "/dev/vdb" v l =
       { v with attached := false }) :=
  attachVolume_detachVolume_not_atomic 1 10 "/dev/vdb" _ _ _ _ _ { db := {} } _
    (fun _ _ h => if_neg h) rfl (fun _ _ => rfl) rfl rfl rfl (fun _ _ h => if_neg h) rfl
    (fun _ _ => rfl)

end Manager

end FolsomCloud.Compute
