import FolsomCloud.Compute.Manager

set_option autoImplicit false

/-!
# Compute: snapshots and backup rotation (spec §4.1)

`snapshot_instance` and `_rotate_backups`.  A backup (`image_type = 'backup'`) must come
with a rotation; the image service lists the instance's backups newest first, and the
rotation pops the oldest off the end of that list, deleting each, until `rotation` are
left.  `rotation` is a Python `int`: a negative one asks for more pops than there are
images, and the pop of the empty list raises `IndexError` after every backup has been
deleted (`popDelete_quiet`).

Whatever the calls raise, the rotation deletes only images past the first `rotation` of the
listing, oldest first, and stops at the first delete that fails; with no call raising it
deletes every one of them (`rotateBackups_deletes_oldest`).  Deletes are read off the call
log (`deletedImages`).
-/

namespace FolsomCloud.Compute.Manager

/-- `excess` turns of `image = images.pop(); image_service.delete(context, image['id'])`:
each takes the oldest image off the end of the list; popping the empty list raises
`IndexError`. -/
def popDelete : List Nat → Nat → Op Unit
  | _, 0 => pure ()
  | images, k + 1 =>
    match images.getLast? with
    | none => throw (.other "IndexError")
    | some imageId => do
      io (.imageDelete imageId)
      popDelete images.dropLast k

/-- `ComputeManager._rotate_backups`: the image service's `detail` of the instance's
backups, newest first, then the pops past the first `rotation`. -/
def rotateBackups (uuid : Nat) (rotation : Int) : Op Unit :=
  wrapInstanceFault uuid do
    let images ← observe fun e n => e.backups n
    io (.imageDetail uuid)
    if (images.length : Int) > rotation then
      popDelete images ((images.length : Int) - rotation).toNat

/-- Python truthiness of the `rotation` argument. -/
def rotationTruthy (rotation : Option Int) : Bool := rotation.any (· ≠ 0)

/-- `ComputeManager.snapshot_instance`; `imageType` is its `image_type` argument.  An
`image_type` other than `snapshot` and `backup` leaves `expected_task_state` unbound. -/
def snapshotInstance (uuid : Nat) (imageType : String) (rotation : Option Int) : Op Unit :=
  revertsTaskState (some uuid) <| wrapInstanceFault uuid do
    let p ← getPowerState uuid
    discard <| instanceUpdate uuid { powerState := some p }
    notifyAboutInstanceUsage uuid "snapshot.start"
    io (.driver .snapshot uuid)
    let expected ←
      if imageType = "snapshot" then pure TaskState.imageSnapshot
      else if imageType = "backup" then pure TaskState.imageBackup
      else throw (.other "UnboundLocalError")
    discard <| instanceUpdate uuid { taskState := some none, expected := some [some expected] }
    if imageType = "snapshot" ∧ rotationTruthy rotation then throw .imageRotationNotAllowed
    else if imageType = "backup" ∧ rotationTruthy rotation then
      rotateBackups uuid (rotation.getD 0)
    else if imageType = "backup" then throw .rotationRequiredForBackup
    notifyAboutInstanceUsage uuid "snapshot.end"

/-- The ids of the images the calls `calls` delete, in order. -/
def deletedImages (calls : List (Call × Option Exc)) : List Nat :=
  calls.filterMap fun c =>
    match c.1 with
    | .imageDelete i => some i
    | _ => none

@[simp] theorem deletedImages_nil : deletedImages [] = [] := rfl

@[simp] theorem deletedImages_append (l l' : List (Call × Option Exc)) :
    deletedImages (l ++ l') = deletedImages l ++ deletedImages l' :=
  List.filterMap_append _ _ _

@[simp] theorem deletedImages_map_imageDelete (l : List Nat) :
    deletedImages (l.map fun i => (Call.imageDelete i, none)) = l := by
  induction l <;> simp_all [deletedImages]

/-- Under any faults, the pops delete the last images, last first, and stop at the first
delete that raises: the ids they delete are a prefix of the last `k` images, reversed. -/
theorem popDelete_deletes (images : List Nat) (k : Nat) (e : Env) (w : World) :
    ∃ l, (popDelete images k e w).2.calls = w.calls ++ l ∧
      (deletedImages l).IsPrefix (images.reverse.take k) := by
  induction k generalizing images w with
  | zero => exact ⟨[], by simp [popDelete]⟩
  | succ k ih =>
    cases h : images.getLast? with
    | none => exact ⟨[], by simp [popDelete, h]⟩
    | some x =>
      obtain ⟨l, rfl⟩ := List.getLast?_eq_some_iff.1 h
      cases hf : e.fault w.clock (.imageDelete x) with
      | some ex => exact ⟨[(.imageDelete x, some ex)], by simp [popDelete, hf, deletedImages]⟩
      | none =>
        obtain ⟨l', h1, h2⟩ := ih l (w.tick e (.imageDelete x))
        refine ⟨(.imageDelete x, none) :: l', by simp [popDelete, hf, h1], ?_⟩
        simpa [deletedImages] using h2

/-- `wrap_instance_fault` adds to what its body deletes only the record of a fault. -/
theorem deletedImages_wrapInstanceFault {α : Type} (uuid : Nat) (x : Op α) (e : Env)
    (w : World) (l : List (Call × Option Exc)) (hx : (x e w).2.calls = w.calls ++ l) :
    deletedImages ((wrapInstanceFault uuid x e w).2.calls.drop w.calls.length) =
      deletedImages l := by
  rcases h : x e w with ⟨ex | _, w'⟩ <;> simp only [h] at hx
  · by_cases hn : ex = .instanceNotFound
    · simp [wrapInstanceFault, h, hx, hn]
    · cases hf : e.fault w'.clock (.db "instance_fault_create" uuid) <;>
        simp [wrapInstanceFault, addInstanceFaultFromExc, onDb, h, hx, hn, hf, deletedImages]
  · simp [wrapInstanceFault, h, hx]

section Quiet

variable {e : Env} (he : ∀ n c, e.fault n c = none)
include he

/-- With no call raising, `k` pops delete the last `k` images, last first, and the run
raises `IndexError` exactly when there are fewer than `k` images. -/
theorem popDelete_quiet (images : List Nat) (k : Nat) (w : World) :
    (popDelete images k e w).2.calls =
      w.calls ++ (images.reverse.take k).map (fun i => (Call.imageDelete i, none)) ∧
    ((popDelete images k e w).1 = .ok () ↔ k ≤ images.length) := by
  induction k generalizing images w with
  | zero => simp [popDelete]
  | succ k ih =>
    cases h : images.getLast? with
    | none =>
      obtain rfl := List.getLast?_eq_none_iff.1 h
      simp [popDelete]
    | some x =>
      obtain ⟨l, rfl⟩ := List.getLast?_eq_some_iff.1 h
      obtain ⟨h1, h2⟩ := ih l (w.tick e (.imageDelete x))
      simp only [popDelete, List.getLast?_concat, List.dropLast_concat, Op.bind_apply, io_apply,
        he, Option.elim_none, h1, h2]
      simp [he]

end Quiet

/-- The backup rotation: under any faults, `_rotate_backups` deletes only images past the
first `rotation` of the listing, oldest first, so never one of the `rotation` newest; with
no call raising it deletes all of them, and none when the listing has at most `rotation`
images.  A `rotation` of zero or less deletes every backup. -/
theorem rotateBackups_deletes_oldest (uuid : Nat) (rotation : Int) (e : Env) (w : World) :
    (deletedImages ((rotateBackups uuid rotation e w).2.calls.drop w.calls.length)).IsPrefix
        ((e.backups w.clock).drop rotation.toNat).reverse ∧
      ((∀ n c, e.fault n c = none) →
        deletedImages ((rotateBackups uuid rotation e w).2.calls.drop w.calls.length) =
          ((e.backups w.clock).drop rotation.toNat).reverse) := by
  unfold rotateBackups
  generalize hb : e.backups w.clock = images
  cases hf : e.fault w.clock (.imageDetail uuid) with
  | some ex =>
    rw [deletedImages_wrapInstanceFault uuid _ e w [(.imageDetail uuid, some ex)] ?hx]
    case hx => simp [observe, hf]
    exact ⟨by simp [deletedImages], fun hq => by simp [hq] at hf⟩
  | none =>
    by_cases hlen : (images.length : Int) > rotation
    · obtain ⟨k, hk⟩ : ∃ k, ((images.length : Int) - rotation).toNat = k := ⟨_, rfl⟩
      have htake : images.reverse.take k = (images.drop rotation.toNat).reverse := by
        rw [List.take_reverse]
        congr 2
        omega
      obtain ⟨l, h1, h2⟩ := popDelete_deletes images k e (w.tick e (.imageDetail uuid))
      rw [deletedImages_wrapInstanceFault uuid _ e w ((.imageDetail uuid, none) :: l) ?hx]
      case hx => simp [observe, hf, hb, hlen, hk, h1]
      refine ⟨by simpa [deletedImages, htake] using h2, fun hq => ?_⟩
      have h3 := (popDelete_quiet hq images k (w.tick e (.imageDetail uuid))).1
      rw [h1, List.append_cancel_left_eq] at h3
      rw [h3, ← List.singleton_append, deletedImages_append, deletedImages_map_imageDelete, htake]
      rfl
    · rw [deletedImages_wrapInstanceFault uuid _ e w [(.imageDetail uuid, none)] ?hx]
      case hx => simp [observe, hf, hb, hlen]
      simp [deletedImages, List.drop_eq_nil_of_le (show images.length ≤ rotation.toNat by omega)]

/-- Five backups listed newest first and a rotation of two, with no call raising: the three
oldest go, oldest first. -/
theorem rotateBackups_deletes_three_oldest :
    (∀ n c, ({ backups := fun _ => [5, 4, 3, 2, 1] } : Env).fault n c = none) ∧
      deletedImages ((rotateBackups 7 2 { backups := fun _ => [5, 4, 3, 2, 1] }
        { db := {} }).2.calls.drop 0) = [1, 2, 3] :=
  ⟨fun _ _ => rfl,
    (rotateBackups_deletes_oldest 7 2 { backups := fun _ => [5, 4, 3, 2, 1] } { db := {} }).2
      fun _ _ => rfl⟩

end FolsomCloud.Compute.Manager
