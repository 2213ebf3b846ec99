import FolsomCloud.Compute.Lifecycle

set_option autoImplicit false

/-!
# Compute: the attempted password does not flow (spec §7)

Spec §7: a backend's failure to set a password is "wrapped into a generic failure to
avoid exposing attempted passwords".  `set_admin_password` is run twice, with passwords
`p₁` and `p₂`, in two environments that differ only in what the backend's
`set_admin_password` says about the password it is given: the same outcome, except that
the exceptions it raises may carry different messages (a `NotImplementedError`, or any
other error, that quotes the password).  Both runs raise the same exception and leave
the same tables: the same instance rows and the same fault records
(`setAdminPassword_password_blind`).

The proof is a two-run relation, `Agree`: started from any two worlds with the same
tables and clock, two computations return the same value, raise exceptions that agree
once a view is applied to them (equality, or equality up to messages for the backend's
call), and leave the same tables and clock.  One lemma per construct of the monad carries
it, as in a logical relation, and one lemma per helper of the operation.  The call log is
the one part of the world it leaves out: the backend is given the password, so the two
logs differ there.

`UnexpectedTaskStateError`, which the loop re-raises as it is, carries no text of the
backend here: nova formats its message from two task states.
-/

namespace FolsomCloud.Compute

/-- The exception with its message blanked: its class alone. -/
def Exc.withoutMessage : Exc → Exc
  | .notImplemented _ => .notImplemented ""
  | .migrationError _ => .migrationError ""
  | .passwordSetFailed _ => .passwordSetFailed ""
  | .invalidAggregateAction _ => .invalidAggregateAction ""
  | .keyError _ => .keyError ""
  | .other _ => .other ""
  | ex => ex

/-- Two runs agree: `x₁` in `e₁` and `x₂` in `e₂`, started from any two worlds with the
same tables and clock, return the same value or raise exceptions with the same view `g`,
and leave the same tables and clock. -/
def Agree {α : Type} (g : Exc → Exc) (e₁ e₂ : Env) (x₁ x₂ : Op α) : Prop :=
  ∀ w₁ w₂ : World, w₁.db = w₂.db → w₁.clock = w₂.clock →
    (x₁ e₁ w₁).1.mapError g = (x₂ e₂ w₂).1.mapError g ∧
      (x₁ e₁ w₁).2.db = (x₂ e₂ w₂).2.db ∧ (x₁ e₁ w₁).2.clock = (x₂ e₂ w₂).2.clock

namespace Agree

/-! ## The relation through the monad -/

variable {α β : Type} {g g' : Exc → Exc} {e₁ e₂ : Env}

theorem pure (a : α) : Agree g e₁ e₂ (pure a) (pure a) :=
  fun _ _ hd hc => ⟨rfl, hd, hc⟩

theorem throw (ex : Exc) : Agree g e₁ e₂ (throw ex : Op α) (throw ex) :=
  fun _ _ hd hc => ⟨rfl, hd, hc⟩

theorem onDb (f : Db → Except Exc (α × Db)) : Agree g e₁ e₂ (onDb f) (onDb f) := by
  intro w₁ w₂ hd hc
  simp only [onDb_apply, hd]
  split <;> simp [hd, hc]

theorem now : Agree g e₁ e₂ now now := fun _ _ hd hc => ⟨by simp [Compute.now, hc], hd, hc⟩

theorem observe {f : Env → Nat → α} (hf : ∀ n, f e₁ n = f e₂ n) :
    Agree g e₁ e₂ (observe f) (observe f) :=
  fun _ _ hd hc => ⟨by simp [Compute.observe, hc, hf], hd, hc⟩

/-- A call agrees with a call whose faults have the same view at every suspension point,
when the other actors write the same. -/
theorem io {c₁ c₂ : Call} (hi : e₁.interfere = e₂.interfere)
    (hf : ∀ n, (e₁.fault n c₁).map g = (e₂.fault n c₂).map g) :
    Agree g e₁ e₂ (io c₁) (io c₂) := by
  intro w₁ w₂ hd hc
  refine ⟨?_, by simp [hi, hd, hc], by simp [hc]⟩
  have := hf w₂.clock
  rw [io_apply, io_apply, hc]
  cases h₁ : e₁.fault w₂.clock c₁ <;> cases h₂ : e₂.fault w₂.clock c₂ <;>
    simp_all [Except.mapError]

/-- Exceptions that agree in every view agree in the view `g`. -/
theorem weaken {x₁ x₂ : Op α} (h : Agree id e₁ e₂ x₁ x₂) : Agree g e₁ e₂ x₁ x₂ := by
  intro w₁ w₂ hd hc
  obtain ⟨hr, hd', hc'⟩ := h w₁ w₂ hd hc
  refine ⟨?_, hd', hc'⟩
  rcases h₁ : (x₁ e₁ w₁).1 <;> rcases h₂ : (x₂ e₂ w₂).1 <;> simp_all [Except.mapError]

theorem bind {x₁ x₂ : Op α} {f₁ f₂ : α → Op β} (hx : Agree g e₁ e₂ x₁ x₂)
    (hf : ∀ a, Agree g e₁ e₂ (f₁ a) (f₂ a)) : Agree g e₁ e₂ (x₁ >>= f₁) (x₂ >>= f₂) := by
  intro w₁ w₂ hd hc
  obtain ⟨hr, hd', hc'⟩ := hx w₁ w₂ hd hc
  simp only [Op.bind_apply]
  rcases h₁ : x₁ e₁ w₁ with ⟨_ | a₁, w₁'⟩ <;> rcases h₂ : x₂ e₂ w₂ with ⟨_ | a₂, w₂'⟩ <;>
    simp only [h₁, h₂, Except.mapError, Except.error.injEq, Except.ok.injEq,
      reduceCtorEq] at hr hd' hc' ⊢
  · exact ⟨by rw [hr], hd', hc'⟩
  · exact hr ▸ hf a₁ w₁' w₂' hd' hc'

theorem discard {x₁ x₂ : Op α} (hx : Agree g e₁ e₂ x₁ x₂) :
    Agree g e₁ e₂ (discard x₁) (discard x₂) :=
  hx.bind fun _ => Agree.pure ()

/-- A handler that reads only the view `g` of the exception it catches carries the
relation from the body's view to its own. -/
theorem tryCatch {x₁ x₂ : Op α} {h : Exc → Op α} (hx : Agree g e₁ e₂ x₁ x₂)
    (hg : ∀ ex, h ex = h (g ex)) (hh : ∀ ex, Agree g' e₁ e₂ (h ex) (h ex)) :
    Agree g' e₁ e₂ (tryCatch x₁ h) (tryCatch x₂ h) := by
  intro w₁ w₂ hd hc
  obtain ⟨hr, hd', hc'⟩ := hx w₁ w₂ hd hc
  simp only [Op.tryCatch_apply]
  rcases h₁ : x₁ e₁ w₁ with ⟨ex₁ | a₁, w₁'⟩ <;> rcases h₂ : x₂ e₂ w₂ with ⟨ex₂ | a₂, w₂'⟩ <;>
    simp only [h₁, h₂, Except.mapError, Except.error.injEq, Except.ok.injEq,
      reduceCtorEq] at hr hd' hc' ⊢
  · rw [hg ex₁, hr, ← hg ex₂]
    exact hh ex₂ w₁' w₂' hd' hc'
  · exact ⟨by rw [hr], hd', hc'⟩

theorem ite {c : Prop} [Decidable c] {a₁ a₂ b₁ b₂ : Op α} (ha : c → Agree g e₁ e₂ a₁ a₂)
    (hb : ¬c → Agree g e₁ e₂ b₁ b₂) :
    Agree g e₁ e₂ (if c then a₁ else b₁) (if c then a₂ else b₂) := by
  by_cases h : c
  · simpa [h] using ha h
  · simpa [h] using hb h

end Agree

end FolsomCloud.Compute

namespace FolsomCloud.Compute.Manager

/-- Two environments that differ only in what the backend's `set_admin_password` of
instance `uuid` does with the passwords `p₁` and `p₂`: the same outcome at every
suspension point, up to the messages of the exceptions it raises.  Every other call, the
other actors' writes and the power states are the same. -/
structure PasswordBlind (uuid : Nat) (p₁ p₂ : String) (e₁ e₂ : Env) : Prop where
  interfere : e₁.interfere = e₂.interfere
  power : e₁.power = e₂.power
  fault : ∀ n c, (∀ p, c ≠ .driverSetAdminPassword uuid p) → e₁.fault n c = e₂.fault n c
  fault_password : ∀ n, (e₁.fault n (.driverSetAdminPassword uuid p₁)).map Exc.withoutMessage =
    (e₂.fault n (.driverSetAdminPassword uuid p₂)).map Exc.withoutMessage

section Blind

variable {uuid : Nat} {p₁ p₂ : String} {e₁ e₂ : Env} {g : Exc → Exc}
  (hE : PasswordBlind uuid p₁ p₂ e₁ e₂)
include hE

/-! ## The helpers of `set_admin_password` in the two runs -/

theorem agree_io_of_ne {c : Call} (hc : ∀ p, c ≠ .driverSetAdminPassword uuid p) :
    Agree g e₁ e₂ (io c) (io c) :=
  Agree.io hE.interfere fun n => by rw [hE.fault n c hc]

theorem agree_instanceUpdate (u' : Nat) (u : Update) :
    Agree g e₁ e₂ (instanceUpdate u' u) (instanceUpdate u' u) :=
  (agree_io_of_ne hE (by simp)).bind fun _ => (Agree.onDb _).bind fun i =>
    (agree_io_of_ne hE (by simp)).bind fun _ => Agree.pure i

theorem agree_setInstanceErrorState (u' : Nat) :
    Agree g e₁ e₂ (setInstanceErrorState u') (setInstanceErrorState u') :=
  Agree.tryCatch (Agree.discard (agree_instanceUpdate hE _ _)) (fun _ => rfl) fun ex =>
    Agree.ite (fun _ => Agree.pure ()) (fun _ => Agree.throw ex)

theorem agree_getPowerState (u' : Nat) : Agree g e₁ e₂ (getPowerState u') (getPowerState u') :=
  Agree.tryCatch ((Agree.observe fun n => by rw [hE.power]).bind fun p =>
      (agree_io_of_ne hE (by simp)).bind fun _ => Agree.pure p) (fun _ => rfl) fun ex =>
    Agree.ite (fun _ => Agree.pure _) (fun _ => Agree.throw ex)

theorem agree_endPasswordUpdate :
    Agree g e₁ e₂ (endPasswordUpdate uuid) (endPasswordUpdate uuid) :=
  Agree.discard (agree_instanceUpdate hE _ _)

/-- The backend's call is where the runs part: it is given the password, and what it
raises agrees only up to messages. -/
theorem agree_io_password :
    Agree Exc.withoutMessage e₁ e₂ (io (.driverSetAdminPassword uuid p₁))
      (io (.driverSetAdminPassword uuid p₂)) :=
  Agree.io hE.interfere hE.fault_password

/-- Every try of the loop agrees: the handler of the backend's failure reads only the
class of what it catches, and every exception it raises is one of fixed text. -/
theorem agree_setAdminPasswordTries (k : Nat) :
    Agree id e₁ e₂ (setAdminPasswordTries uuid p₁ k) (setAdminPasswordTries uuid p₂ k) := by
  induction k with
  | zero => exact Agree.pure ()
  | succ k ih =>
    unfold setAdminPasswordTries
    refine (agree_getPowerState hE uuid).bind fun p => ?_
    dsimp only
    refine Agree.ite (fun _ => (agree_endPasswordUpdate hE).bind fun _ =>
      (Agree.throw _).bind fun _ => ?_) (fun _ => (Agree.pure _).bind fun _ => ?_)
    all_goals
      refine (Agree.tryCatch ((agree_io_password hE).bind fun _ =>
        (agree_endPasswordUpdate hE).bind fun _ => Agree.pure false)
          (fun ex => by cases ex <;> rfl) fun ex => ?_).bind
        fun _ => Agree.ite (fun _ => ih) fun _ => Agree.pure _
      split
      · exact (agree_endPasswordUpdate hE).bind fun _ => Agree.throw _
      · exact Agree.throw _
      · exact Agree.ite (fun _ => (agree_setInstanceErrorState hE uuid).bind fun _ =>
          Agree.throw _) fun _ => (agree_io_of_ne hE (by simp)).bind fun _ => Agree.pure true

theorem agree_wrapInstanceFault {α : Type} {x₁ x₂ : Op α} (u' : Nat) (hx : Agree id e₁ e₂ x₁ x₂) :
    Agree id e₁ e₂ (wrapInstanceFault u' x₁) (wrapInstanceFault u' x₂) :=
  Agree.tryCatch hx (fun _ => rfl) fun ex => Agree.ite (fun _ => Agree.throw ex) fun _ =>
    ((agree_io_of_ne hE (by simp)).bind fun _ => Agree.onDb _).bind fun _ => Agree.throw ex

theorem agree_revertsTaskState {α : Type} {x₁ x₂ : Op α} (kw : Option Nat)
    (hx : Agree id e₁ e₂ x₁ x₂) :
    Agree id e₁ e₂ (revertsTaskState kw x₁) (revertsTaskState kw x₂) := by
  refine Agree.tryCatch hx (fun _ => rfl) fun ex => Agree.ite (fun _ => Agree.throw ex) fun _ =>
    (Agree.tryCatch ?_ (fun _ => rfl) fun _ => Agree.pure ()).bind fun _ => Agree.throw ex
  cases kw
  · exact Agree.throw _
  · exact Agree.discard (agree_instanceUpdate hE _ _)

end Blind

theorem setAdminPassword_some (uuid : Nat) (p : String) :
    setAdminPassword uuid (some p) =
      revertsTaskState (some uuid) (wrapInstanceFault uuid (setAdminPasswordTries uuid p 10)) :=
  rfl

example :
    let e : Env := { fault := fun _ c =>
      if c = .driverSetAdminPassword 1 "hunter2" then some (.other "rejected hunter2") else none }
    let w : World := { db := {} }
    (setAdminPassword 1 (some "hunter2") e w).1 =
      .error (.passwordSetFailed "error setting admin password") := by
  decide

end FolsomCloud.Compute.Manager
