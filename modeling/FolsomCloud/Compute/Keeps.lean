import FolsomCloud.Compute.Manager

set_option autoImplicit false

/-!
# Compute: what a computation keeps, and which calls it makes

Two properties of an operation that hold under every fault and every interleaving, each
built up from the combinators of `Op`:

* `Op.Keeps P x`: if the writes of other actors keep the property `P` of the
  `migrations` table, `x` keeps it too.  Every combinator keeps every `P`, and so do the
  manager's writes of instance and fault rows; so an operation keeps `P` as soon as
  each of its migration writes does (`FolsomCloud.Compute.ResizeProtocol`).
* `Op.CallsWithin S x`: every call `x` adds to the log satisfies `S`.  An operation is
  within `S` as soon as each of its `io` calls is (`FolsomCloud.Compute.Reconcile`).

The proof for one operation is a walk over its `do` block that stops only at the
primitive steps.
-/

namespace FolsomCloud.Compute

namespace Op

variable {α β : Type}

/-- `x` keeps the property `P` of the migration table, under any faults and any
interference that keeps it. -/
structure Keeps (P : (Nat → Option Migration) → Prop) (x : Op α) : Prop where
  keeps : ∀ e w, (∀ n db, P db.migrations → P (e.interfere n db).migrations) →
    P w.db.migrations → P (x e w).2.db.migrations

variable {P : (Nat → Option Migration) → Prop}

/-- A computation that leaves the datastore as it found it keeps every `P`. -/
theorem Keeps.of_db_eq {x : Op α} (h : ∀ e w, (x e w).2.db = w.db) : Keeps P x :=
  ⟨fun e w _ hw => by rw [h e w]; exact hw⟩

theorem keeps_pure (a : α) : Keeps P (pure a) := .of_db_eq fun _ _ => rfl

theorem keeps_throw (ex : Exc) : Keeps P (throw ex : Op α) := .of_db_eq fun _ _ => rfl

theorem keeps_io (c : Call) : Keeps P (io c) := ⟨fun _ w hi hw => hi w.clock w.db hw⟩

theorem keeps_observe {f : Env → Nat → α} : Keeps P (observe f) := .of_db_eq fun _ _ => rfl

theorem keeps_now : Keeps P now := .of_db_eq fun _ _ => rfl

theorem keeps_onDb {f : Db → Except Exc (α × Db)}
    (hf : ∀ db a db', f db = .ok (a, db') → P db.migrations → P db'.migrations) :
    Keeps P (onDb f) := by
  refine ⟨fun e w _ hw => ?_⟩
  simp only [onDb]
  split
  · next a db' h => exact hf _ _ _ h hw
  · exact hw

theorem Keeps.bind {x : Op α} {f : α → Op β} (hx : Keeps P x) (hf : ∀ a, Keeps P (f a)) :
    Keeps P (x >>= f) := by
  refine ⟨fun e w hi hw => ?_⟩
  have h := hx.keeps e w hi hw
  rw [bind_apply]
  split
  · next a w' heq => rw [heq] at h; exact (hf a).keeps e w' hi h
  · next ex w' heq => rw [heq] at h; exact h

theorem Keeps.tryCatch {x : Op α} {g : Exc → Op α} (hx : Keeps P x)
    (hg : ∀ ex, Keeps P (g ex)) : Keeps P (tryCatch x g) := by
  refine ⟨fun e w hi hw => ?_⟩
  have h := hx.keeps e w hi hw
  rw [tryCatch_apply]
  split
  · next a w' heq => rw [heq] at h; exact h
  · next ex w' heq => rw [heq] at h; exact (hg ex).keeps e w' hi h

theorem Keeps.map {x : Op α} (f : α → β) (hx : Keeps P x) : Keeps P (f <$> x) := by
  refine ⟨fun e w hi hw => ?_⟩
  have h := hx.keeps e w hi hw
  rw [map_apply]
  split <;> next heq => rw [heq] at h; exact h

theorem Keeps.discard {x : Op α} (hx : Keeps P x) : Keeps P (discard x) :=
  hx.map fun _ => ()

theorem Keeps.tryFinally {x : Op α} {f : Op Unit} (hx : Keeps P x) (hf : Keeps P f) :
    Keeps P (tryFinally x f) := by
  refine ⟨fun e w hi hw => ?_⟩
  have h := hf.keeps e _ hi (hx.keeps e w hi hw)
  simp only [FolsomCloud.Compute.tryFinally]
  split <;> next heq => rw [heq] at h; exact h

theorem Keeps.forEach {γ : Type} {f : γ → Op Unit} (hf : ∀ a, Keeps P (f a)) :
    ∀ l : List γ, Keeps P (FolsomCloud.Compute.forEach l f)
  | [] => keeps_pure ()
  | a :: l => (hf a).bind fun _ => Keeps.forEach hf l

/-! ## Calls -/

/-- Every call the run of `x` from `w` adds to the log satisfies `S`. -/
def CallsWithinAt (S : Call → Prop) (x : Op α) (e : Env) (w : World) : Prop :=
  ∃ l, (x e w).2.calls = w.calls ++ l ∧ ∀ p ∈ l, S p.1

/-- Every call `x` adds to the log satisfies `S`, whatever the calls raise and whatever
other actors write. -/
structure CallsWithin (S : Call → Prop) (x : Op α) : Prop where
  calls : ∀ e w, CallsWithinAt S x e w

variable {S : Call → Prop}

/-- A computation that leaves the log as it found it is within every `S`. -/
theorem CallsWithin.of_calls_eq {x : Op α} (h : ∀ e w, (x e w).2.calls = w.calls) :
    CallsWithin S x :=
  ⟨fun e w => ⟨[], by simp [h e w], by simp⟩⟩

theorem callsWithin_pure (a : α) : CallsWithin S (pure a) := .of_calls_eq fun _ _ => rfl

theorem callsWithin_throw (ex : Exc) : CallsWithin S (throw ex : Op α) :=
  .of_calls_eq fun _ _ => rfl

theorem callsWithin_io {c : Call} (h : S c) : CallsWithin S (io c) :=
  ⟨fun e w => ⟨[(c, e.fault w.clock c)], rfl, by simpa using h⟩⟩

theorem callsWithin_observe {f : Env → Nat → α} : CallsWithin S (observe f) :=
  .of_calls_eq fun _ _ => rfl

theorem callsWithin_now : CallsWithin S now := .of_calls_eq fun _ _ => rfl

theorem callsWithin_onDb {f : Db → Except Exc (α × Db)} : CallsWithin S (onDb f) :=
  .of_calls_eq fun e w => by simp only [onDb]; split <;> rfl

theorem CallsWithinAt.mono {S' : Call → Prop} {x : Op α} {e : Env} {w : World}
    (h : CallsWithinAt S x e w) (hS : ∀ c, S c → S' c) : CallsWithinAt S' x e w :=
  let ⟨l, hl, hs⟩ := h; ⟨l, hl, fun p hp => hS _ (hs p hp)⟩

theorem CallsWithin.mono {S' : Call → Prop} {x : Op α} (h : CallsWithin S x)
    (hS : ∀ c, S c → S' c) : CallsWithin S' x :=
  ⟨fun e w => (h.calls e w).mono hS⟩

/-- The log after `x` and then `y`, each within `S` from where it starts. -/
private theorem CallsWithinAt.append {x : Op α} {y : Op β} {e : Env} {w w' : World}
    (hx : CallsWithinAt S x e w) (hw : (x e w).2 = w') (hy : CallsWithinAt S y e w') :
    ∃ l, (y e w').2.calls = w.calls ++ l ∧ ∀ p ∈ l, S p.1 := by
  obtain ⟨l, hl, hs⟩ := hx
  obtain ⟨l', hl', hs'⟩ := hy
  rw [hw] at hl
  exact ⟨l ++ l', by rw [hl', hl, List.append_assoc],
    fun p hp => (List.mem_append.1 hp).elim (hs p) (hs' p)⟩

/-- A run that stops where `x` stops is within `S` when `x`'s is. -/
private theorem CallsWithinAt.stop {x : Op α} {e : Env} {w : World} {r : Except Exc β × World}
    (hx : CallsWithinAt S x e w) (hw : (x e w).2 = r.2) :
    ∃ l, r.2.calls = w.calls ++ l ∧ ∀ p ∈ l, S p.1 :=
  let ⟨l, hl, hs⟩ := hx; ⟨l, by rw [← hw, hl], hs⟩

/-- The bind rule, with the continuation's bound allowed to depend on what `x` returned. -/
theorem CallsWithinAt.bind {x : Op α} {f : α → Op β} {e : Env} {w : World}
    (hx : CallsWithinAt S x e w)
    (hf : ∀ a w', x e w = (.ok a, w') → CallsWithinAt S (f a) e w') :
    CallsWithinAt S (x >>= f) e w := by
  unfold CallsWithinAt
  rw [bind_apply]
  split
  · next a w' heq => exact hx.append (by rw [heq]) (hf a w' heq)
  · next ex w' heq => exact hx.stop (by rw [heq])

theorem CallsWithin.bind {x : Op α} {f : α → Op β} (hx : CallsWithin S x)
    (hf : ∀ a, CallsWithin S (f a)) : CallsWithin S (x >>= f) :=
  ⟨fun e w => (hx.calls e w).bind fun a w' _ => (hf a).calls e w'⟩

theorem CallsWithin.tryCatch {x : Op α} {g : Exc → Op α} (hx : CallsWithin S x)
    (hg : ∀ ex, CallsWithin S (g ex)) : CallsWithin S (tryCatch x g) := by
  refine ⟨fun e w => ?_⟩
  unfold CallsWithinAt
  rw [tryCatch_apply]
  split
  · next a w' heq => exact (hx.calls e w).stop (by rw [heq])
  · next ex w' heq => exact (hx.calls e w).append (by rw [heq]) ((hg ex).calls e w')

theorem CallsWithin.map {x : Op α} (f : α → β) (hx : CallsWithin S x) :
    CallsWithin S (f <$> x) := by
  refine ⟨fun e w => ?_⟩
  unfold CallsWithinAt
  rw [map_apply]
  split <;> next heq => exact (hx.calls e w).stop (by rw [heq])

theorem CallsWithin.discard {x : Op α} (hx : CallsWithin S x) : CallsWithin S (discard x) :=
  hx.map fun _ => ()

/-- A loop over `l` is within `S` when its body is, for the elements of `l`. -/
theorem CallsWithin.forEach {γ : Type} {f : γ → Op Unit} :
    ∀ {l : List γ}, (∀ a ∈ l, CallsWithin S (f a)) → CallsWithin S (FolsomCloud.Compute.forEach l f)
  | [], _ => callsWithin_pure ()
  | a :: _, hf => (hf a (.head _)).bind fun _ => CallsWithin.forEach fun b hb => hf b (.tail _ hb)

end Op

open Op

namespace Manager

variable {α : Type} {P : (Nat → Option Migration) → Prop}

/-- The compare-and-swap write changes an instance row only. -/
theorem keeps_instanceUpdate (uuid : Nat) (u : Update) : Keeps P (instanceUpdate uuid u) := by
  refine (keeps_io _).bind fun _ => (keeps_onDb ?_).bind fun _ => (keeps_io _).bind fun _ =>
    keeps_pure _
  intro db i db' h hp
  rcases db.instanceUpdate_cases uuid u with ⟨j, -, -, -, h'⟩ | ⟨j, -, -, -, h'⟩ | ⟨-, h'⟩ <;>
    rw [h'] at h <;> cases h
  exact hp

/-- The write is within any `S` that admits its two calls. -/
theorem callsWithin_instanceUpdate {S : Call → Prop} (uuid : Nat) (u : Update)
    (h1 : S (.db "instance_update_and_get_original" uuid)) (h2 : S (.updateUsage uuid)) :
    CallsWithin S (instanceUpdate uuid u) :=
  (callsWithin_io h1).bind fun _ => callsWithin_onDb.bind fun _ =>
    (callsWithin_io h2).bind fun _ => callsWithin_pure _

theorem keeps_setInstanceErrorState (uuid : Nat) : Keeps P (setInstanceErrorState uuid) :=
  (keeps_instanceUpdate _ _).discard.tryCatch fun _ => by
    split
    · exact keeps_pure _
    · exact keeps_throw _

theorem keeps_getPowerState (uuid : Nat) : Keeps P (getPowerState uuid) :=
  (keeps_observe.bind fun _ => (keeps_io _).bind fun _ => keeps_pure _).tryCatch fun _ => by
    split
    · exact keeps_pure _
    · exact keeps_throw _

theorem keeps_quotaCommit (r : List Nat) : Keeps P (quotaCommit r) := by
  unfold quotaCommit; split
  · exact keeps_pure _
  · exact keeps_io _

theorem keeps_quotaRollback (r : List Nat) : Keeps P (quotaRollback r) := by
  unfold quotaRollback; split
  · exact keeps_pure _
  · exact keeps_io _

theorem keeps_addInstanceFaultFromExc (uuid : Nat) (ex : Exc) :
    Keeps P (addInstanceFaultFromExc uuid ex) :=
  (keeps_io _).bind fun _ => keeps_onDb fun _ _ _ h hp => by cases h; exact hp

end Manager

namespace Op

open Manager

variable {α : Type} {P : (Nat → Option Migration) → Prop}

/-- The three wrappers keep what their body keeps. -/
theorem Keeps.revertsTaskState {body : Op α} (kw : Option Nat) (h : Keeps P body) :
    Keeps P (revertsTaskState kw body) := by
  refine h.tryCatch fun ex => ?_
  split
  · exact keeps_throw _
  · refine (Keeps.tryCatch ?_ fun _ => keeps_pure _).bind fun _ => keeps_throw _
    split
    · exact (keeps_instanceUpdate _ _).discard
    · exact keeps_throw _

theorem Keeps.wrapInstanceFault {body : Op α} (uuid : Nat) (h : Keeps P body) :
    Keeps P (wrapInstanceFault uuid body) := by
  refine h.tryCatch fun ex => ?_
  split
  · exact keeps_throw _
  · exact (keeps_addInstanceFaultFromExc _ _).bind fun _ => keeps_throw _

theorem Keeps.errorOutInstanceOnException {body : Op α} (uuid : Nat) (r : List Nat)
    (h : Keeps P body) : Keeps P (errorOutInstanceOnException uuid r body) :=
  h.tryCatch fun _ => (keeps_quotaRollback _).bind fun _ =>
    (keeps_setInstanceErrorState _).bind fun _ => keeps_throw _

end Op

end FolsomCloud.Compute
