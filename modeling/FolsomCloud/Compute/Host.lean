import FolsomCloud.Compute.Reconcile

set_option autoImplicit false

/-!
# Compute: the host's start-up (`init_host`)

`init_host` runs once when the compute service starts: it lists the instances recorded on
the host, and for each one that is not being deleted it reads the power state the backend
reports, restarts the guest or re-creates its firewall rules.  It also calls the backend's
`plug_vifs` to make sure the bridges and the `iptables` filters exist; "calling it once is
enough", the source says, so it calls it for the instance at position 0 of the listing.

That position counts every listed instance, the deleted ones too, while the test for a
closing instance skips the rest of the turn before the `plug_vifs` call.  So `plug_vifs`
is called for the first listed instance or for none (`callsWithin_initHostInstances`),
and a listing that starts with a deleted instance gets no `plug_vifs` call at all,
however many live instances follow it (`initHost_skips_plugVifs`).

`_report_driver_status` and `publish_service_capabilities`, which `init_host` calls last,
read no instance and call no `plug_vifs`; they are left out (`MODEL_MAP.json`).
-/

namespace FolsomCloud.Compute

/-- Call `c` is a `plug_vifs` only for an instance that satisfies `P`. -/
def PlugsOnly (P : Nat → Prop) (c : Call) : Prop := ∀ u, c = .driver .plugVifs u → P u

/-- The states `init_host` treats as closing: it does not touch such an instance. -/
def Instance.isClosing (i : Instance) : Prop :=
  i.vmState = some .deleted ∨ i.vmState = some .softDeleted

instance (i : Instance) : Decidable i.isClosing :=
  inferInstanceAs (Decidable (_ ∨ _))

namespace Op

theorem CallsWithin.tryFinally {S : Call → Prop} {α : Type} {x : Op α} {f : Op Unit}
    (hx : CallsWithin S x) (hf : CallsWithin S f) : CallsWithin S (tryFinally x f) := by
  refine ⟨fun e w => ?_⟩
  obtain ⟨l, hl, hs⟩ := hx.calls e w
  rcases hxw : x e w with ⟨r, w'⟩
  obtain ⟨l', hl', hs'⟩ := hf.calls e w'
  refine ⟨l ++ l', ?_, fun p hp => (List.mem_append.1 hp).elim (hs p) (hs' p)⟩
  rw [hxw] at hl
  simp only [Compute.tryFinally, hxw]
  rcases hfw : f e w' with ⟨_ | ⟨⟩, w''⟩ <;> simp only [hfw] at hl' ⊢ <;>
    rw [hl', ← List.append_assoc, ← hl]

end Op

namespace Manager

open Op

/-- `x`, with the backend's `NotImplementedError` logged and swallowed. -/
def exceptNotImplemented (x : Op Unit) : Op Unit :=
  tryCatch x fun ex =>
    match ex with
    | .notImplemented _ => pure ()
    | _ => throw ex

/-- One turn of `init_host`'s loop, for the instance `ci.2` at position `ci.1` of the
listing (`enumerate`).  `expect_running` compares the listed power state with the
backend's; the network info is read from the listed row, with no call. -/
def initHostOne (conf : Conf) (ci : Nat × Instance) : Op Unit := do
  let inst := ci.2
  let drvState ← getPowerState inst.uuid
  if inst.isClosing then pure ()
  else do
    let expectRunning := inst.powerState = .running ∧ drvState ≠ inst.powerState
    if ci.1 = 0 then io (.driver .plugVifs inst.uuid)
    if expectRunning ∧ conf.resumeGuestsStateOnHostBoot ∨ conf.startGuestsOnHostBoot then do
      discard (getInstanceVolumeBdms inst.uuid)
      exceptNotImplemented (io (.driver .resumeStateOnHostBoot inst.uuid))
    else if drvState = .running then
      exceptNotImplemented (io (.driver .ensureFilteringRulesForInstance inst.uuid))

/-- The `try` block of `init_host`: the loop over the listed instances. -/
def initHostInstances (conf : Conf) (instances : List Instance) : Op Unit :=
  forEach instances.enum (initHostOne conf)

/-- `ComputeManager.init_host` on host `host`. -/
def initHost (conf : Conf) (host : String) : Op Unit := do
  io (.driver .initHost 0)
  let instances ← instanceGetAllByHost host false
  if conf.deferIptablesApply then io (.driver .filterDeferApplyOn 0)
  tryFinally (initHostInstances conf instances)
    (if conf.deferIptablesApply then io (.driver .filterDeferApplyOff 0) else pure ())

/-! ## Who gets `plug_vifs` -/

section Plugs

variable {P : Nat → Prop}

theorem callsWithin_getPowerState (uuid : Nat) :
    CallsWithin (PlugsOnly P) (getPowerState uuid) :=
  (callsWithin_observe.bind fun _ => (callsWithin_io (by simp [PlugsOnly])).bind fun _ =>
    callsWithin_pure _).tryCatch fun _ => by
      split
      · exact callsWithin_pure _
      · exact callsWithin_throw _

theorem callsWithin_exceptNotImplemented {x : Op Unit} (hx : CallsWithin (PlugsOnly P) x) :
    CallsWithin (PlugsOnly P) (exceptNotImplemented x) :=
  hx.tryCatch fun _ => by
    split
    · exact callsWithin_pure _
    · exact callsWithin_throw _

/-- A turn plugs the interfaces of its own instance only, when that instance is at
position 0 and not closing. -/
theorem callsWithin_initHostOne (conf : Conf) (ci : Nat × Instance)
    (hP : ci.1 = 0 → ¬ ci.2.isClosing → P ci.2.uuid) :
    CallsWithin (PlugsOnly P) (initHostOne conf ci) := by
  dsimp only [initHostOne]
  refine (callsWithin_getPowerState _).bind fun drv => ?_
  split
  · exact callsWithin_pure _
  · next hc =>
    split <;> refine CallsWithin.bind ?_ fun _ => ?_
    case isTrue.refine_1 h0 => exact callsWithin_io fun u hu => by cases hu; exact hP h0 hc
    case isFalse.refine_1 => exact callsWithin_pure _
    all_goals
      split
      · exact ((callsWithin_io (by simp [PlugsOnly])).bind fun _ => callsWithin_onDb).discard.bind
          fun _ => callsWithin_exceptNotImplemented (callsWithin_io (by simp [PlugsOnly]))
      · split
        · exact callsWithin_exceptNotImplemented (callsWithin_io (by simp [PlugsOnly]))
        · exact callsWithin_pure _

/-- `init_host`'s loop plugs the interfaces of the first listed instance or of none: of
the first only when it is not closing. -/
theorem callsWithin_initHostInstances (conf : Conf) (l : List Instance) :
    CallsWithin (PlugsOnly fun u => ∃ i, l.head? = some i ∧ ¬ i.isClosing ∧ i.uuid = u)
      (initHostInstances conf l) := by
  refine CallsWithin.forEach fun ci hci => callsWithin_initHostOne conf ci fun h0 hc => ?_
  obtain ⟨i, rest, rfl⟩ : ∃ i rest, l = i :: rest := by
    cases l with
    | nil => simp at hci
    | cons i rest => exact ⟨i, rest, rfl⟩
  rw [List.enum_cons] at hci
  rcases List.mem_cons.1 hci with rfl | hci
  · exact ⟨_, rfl, hc, rfl⟩
  · exact absurd h0 (by have := (List.mem_enumFrom hci).1; omega)

/-- A host whose listing starts with a deleted or soft-deleted instance gets no
`plug_vifs` call at all from `init_host`, whatever follows in the listing and whatever the
calls raise: the one call is reserved for position 0, and that turn skips it. -/
theorem initHost_skips_plugVifs (conf : Conf) (host : String) (e : Env) (w : World)
    (i : Instance) (l : List Instance)
    (hL : (e.interfere (w.clock + 1) (e.interfere w.clock w.db)).instanceGetAllByHost host false =
      i :: l)
    (hi : i.isClosing) :
    CallsWithinAt (PlugsOnly fun _ => False) (initHost conf host) e w := by
  refine ((callsWithin_io (by simp [PlugsOnly])).calls e w).bind fun _ w₁ h₁ => ?_
  obtain rfl : w₁ = w.tick e (.driver .initHost 0) := (Prod.mk.inj h₁).2.symm
  refine ((callsWithin_io (by simp [PlugsOnly])).bind fun _ => callsWithin_onDb).calls e _
    |>.bind fun L w₂ h₂ => ?_
  obtain rfl : L = i :: l := (instanceGetAllByHost_ok h₂).trans hL
  have hloop : CallsWithin (PlugsOnly fun _ => False) (initHostInstances conf (i :: l)) :=
    (callsWithin_initHostInstances conf (i :: l)).mono fun c hc u hu => by
      obtain ⟨j, hj, hjc, -⟩ := hc u hu
      cases hj
      exact hjc hi
  apply CallsWithin.calls
  dsimp only
  split
  · exact (callsWithin_io (by simp [PlugsOnly])).bind fun _ =>
      hloop.tryFinally (callsWithin_io (by simp [PlugsOnly]))
  · exact (callsWithin_pure _).bind fun _ => hloop.tryFinally (callsWithin_pure _)

/-- A host with the deleted instance 1 listed first and the running instance 2 after it:
no `plug_vifs` call is made, though instance 2 is live. -/
theorem initHost_skips_plugVifs_deleted_first :
    let i₁ : Instance := { uuid := 1, host := "compute1", vmState := some .deleted }
    let i₂ : Instance :=
      { uuid := 2, host := "compute1", vmState := some .active, powerState := .running }
    let w : World :=
      { db :=
        { instances := (fun u => if u = 1 then some i₁ else if u = 2 then some i₂ else none)
          uuids := [1, 2] } }
    let e : Env := {}
    (e.interfere (w.clock + 1) (e.interfere w.clock w.db)).instanceGetAllByHost "compute1" false =
      [i₁, i₂] ∧ i₁.isClosing ∧ ¬ i₂.isClosing ∧
    CallsWithinAt (PlugsOnly fun _ => False) (initHost {} "compute1") e w := by
  intro i₁ i₂ w e
  exact ⟨by decide, by decide, by decide,
    initHost_skips_plugVifs {} "compute1" e w i₁ [i₂] (by decide) (by decide)⟩

end Plugs

end Manager

/-! ## The resource tracker registry

`_get_resource_tracker(nodename)` returns the registered tracker of a node, or makes and
registers one; it makes no call, so no other greenthread runs in the middle of it.
`update_available_resource` asks the driver for its nodes, takes each node's tracker
through `_get_resource_tracker`, lets it resynchronise, and collects the trackers in a
new dictionary that replaces the old one at the end.  Other greenthreads run only at its
two calls (`driver.get_available_nodes()` and `rt.update_available_resource(context)`),
and may look trackers up there (`_instance_update` does).  A reported node is looked up
in the old dictionary, which the pass never empties before the swap, so the pass and
every other lookup of that node get the same tracker, and the swap keeps it
(`run_lookups_agree`). -/

/-- `_resource_tracker_dict`, with trackers told apart by identity: a tracker is the
number of the `ResourceTracker(...)` construction that made it. -/
structure Registry where
  dict : String → Option Nat := fun _ => none
  /-- trackers made so far; the next one made is number `made` -/
  made : Nat := 0

/-- `ComputeManager._get_resource_tracker(nodename)`. -/
def Registry.getResourceTracker (r : Registry) (nodename : String) : Nat × Registry :=
  match r.dict nodename with
  | some rt => (rt, r)
  | none => (r.made, { dict := Function.update r.dict nodename (some r.made), made := r.made + 1 })

/-- A lookup keeps every entry, and registers what it returns. -/
theorem Registry.getResourceTracker_dict (r : Registry) (n m : String) (x : Nat)
    (h : r.dict m = some x) : (r.getResourceTracker n).2.dict m = some x := by
  unfold getResourceTracker
  split
  · exact h
  · next hn => simp [Function.update_noteq (show m ≠ n by rintro rfl; simp_all), h]

theorem Registry.getResourceTracker_self (r : Registry) (n : String) :
    (r.getResourceTracker n).2.dict n = some (r.getResourceTracker n).1 := by
  unfold getResourceTracker
  split <;> simp_all

/-- Where `update_available_resource` is: waiting on `driver.get_available_nodes()`;
waiting on `rt.update_available_resource` of node `n`'s tracker `rt`, with the nodes
`rest` still to visit and `new` the new dictionary so far; or finished. -/
inductive Pass where
  | listing
  | updating (n : String) (rt : Nat) (rest : List String) (new : String → Option Nat)
  | done

/-- What runs next: the pass, up to its next call, or another greenthread's
`_get_resource_tracker(n)`. -/
inductive Event where
  | pass
  | lookup (n : String)
  deriving DecidableEq, Repr

/-- The registry, the pass, and every `_get_resource_tracker` call so far (the pass's and
the others'), each with the node and the tracker it returned. -/
structure TrackerRun where
  reg : Registry := {}
  pass : Pass := .listing
  got : List (String × Nat) := []

namespace TrackerRun

/-- A `_get_resource_tracker(n)` call. -/
def lookup (s : TrackerRun) (n : String) : TrackerRun :=
  { s with reg := (s.reg.getResourceTracker n).2, got := s.got ++ [(n, (s.reg.getResourceTracker n).1)] }

/-- The pass at the head of its loop over `todo`, with the new dictionary `new`: it looks
up the next node's tracker and calls it, or installs `new`. -/
def visit (s : TrackerRun) (todo : List String) (new : String → Option Nat) : TrackerRun :=
  match todo with
  | [] => { s with reg := { s.reg with dict := new }, pass := .done }
  | m :: rest =>
    { s.lookup m with pass := .updating m (s.reg.getResourceTracker m).1 rest new }

/-- The pass runs from where it stopped to its next call; `nodes` is what the driver
reports. -/
def passStep (nodes : List String) (s : TrackerRun) : TrackerRun :=
  match s.pass with
  | .listing => s.visit nodes fun _ => none
  | .updating n rt rest new => s.visit rest (Function.update new n (some rt))
  | .done => s

def step (nodes : List String) (s : TrackerRun) : Event → TrackerRun
  | .pass => s.passStep nodes
  | .lookup n => s.lookup n

/-- A schedule of the pass and the other greenthreads. -/
def run (nodes : List String) (s : TrackerRun) (evs : List Event) : TrackerRun :=
  evs.foldl (step nodes) s

/-- Every lookup so far returned the registered tracker. -/
def GotAgree (s : TrackerRun) : Prop := ∀ p ∈ s.got, s.reg.dict p.1 = some p.2

/-- What holds at every point of a schedule: before the swap, every lookup agrees with the
dictionary, the node being updated has its tracker registered, the new dictionary is part
of the old one and covers every node visited; after the swap, every lookup of a reported
node agrees with the new dictionary, which has every reported node. -/
def Inv (nodes : List String) (s : TrackerRun) : Prop :=
  match s.pass with
  | .listing => s.GotAgree
  | .updating n rt rest new =>
    s.GotAgree ∧ s.reg.dict n = some rt ∧ (∀ m r, new m = some r → s.reg.dict m = some r) ∧
      ∃ pre, nodes = pre ++ n :: rest ∧ ∀ m ∈ pre, new m ≠ none
  | .done =>
    (∀ p ∈ s.got, p.1 ∈ nodes → s.reg.dict p.1 = some p.2) ∧ ∀ m ∈ nodes, s.reg.dict m ≠ none

theorem lookup_gotAgree {s : TrackerRun} (h : s.GotAgree) (n : String) : (s.lookup n).GotAgree := by
  intro p hp
  rcases List.mem_append.1 hp with hp | hp
  · exact s.reg.getResourceTracker_dict n _ _ (h p hp)
  · rw [List.mem_singleton.1 hp]
    exact s.reg.getResourceTracker_self n

/-- The swap after the last node keeps what every lookup of a reported node returned. -/
theorem visit_nil_inv {nodes : List String} {s : TrackerRun} {new : String → Option Nat}
    (hg : s.GotAgree) (hnew : ∀ m r, new m = some r → s.reg.dict m = some r)
    (hcov : ∀ m ∈ nodes, new m ≠ none) : Inv nodes (s.visit [] new) := by
  refine ⟨fun p hp hm => ?_, hcov⟩
  obtain ⟨r, hr⟩ := Option.ne_none_iff_exists'.1 (hcov p.1 hm)
  exact hr.trans (Option.some_inj.2 (Option.some_inj.1 ((hnew _ _ hr).symm.trans (hg p hp))))

/-- Visiting the next node starts its update with the nodes before it covered. -/
theorem visit_cons_inv {nodes : List String} {s : TrackerRun} {new : String → Option Nat}
    (pre : List String) {rest : List String} {m : String} (hg : s.GotAgree)
    (hnew : ∀ m r, new m = some r → s.reg.dict m = some r) (hn : nodes = pre ++ m :: rest)
    (hcov : ∀ m ∈ pre, new m ≠ none) : Inv nodes (s.visit (m :: rest) new) :=
  ⟨lookup_gotAgree hg m, s.reg.getResourceTracker_self m,
    fun m' r h => s.reg.getResourceTracker_dict m m' r (hnew m' r h), pre, hn, hcov⟩

/-- Every event keeps the invariant. -/
theorem step_inv {nodes : List String} {s : TrackerRun} (h : Inv nodes s) :
    ∀ ev, Inv nodes (s.step nodes ev)
  | .lookup n => by
    have hkeep : ∀ m x, s.reg.dict m = some x → (s.lookup n).reg.dict m = some x :=
      fun m x hx => s.reg.getResourceTracker_dict n m x hx
    show Inv nodes (s.lookup n)
    unfold Inv at h ⊢
    rw [show (s.lookup n).pass = s.pass from rfl]
    rcases hp : s.pass with _ | ⟨n₀, rt, rest, new⟩ | _ <;> rw [hp] at h
    · exact lookup_gotAgree h n
    · obtain ⟨hg, hrt, hnew, pre, hn, hcov⟩ := h
      exact ⟨lookup_gotAgree hg n, hkeep _ _ hrt, fun m r hr => hkeep _ _ (hnew m r hr), pre, hn,
        hcov⟩
    · obtain ⟨hg, hcov⟩ := h
      refine ⟨fun p hp hm => ?_, fun m hm => ?_⟩
      · rcases List.mem_append.1 hp with hp | hp
        · exact hkeep _ _ (hg p hp hm)
        · rw [List.mem_singleton.1 hp]
          exact s.reg.getResourceTracker_self n
      · obtain ⟨x, hx⟩ := Option.ne_none_iff_exists'.1 (hcov m hm)
        simp [hkeep _ _ hx]
  | .pass => by
    show Inv nodes (s.passStep nodes)
    unfold passStep
    unfold Inv at h
    rcases hp : s.pass with _ | ⟨n, rt, rest, new⟩ | _ <;> rw [hp] at h <;> dsimp only
    · cases nodes with
      | nil => exact visit_nil_inv h (by simp) (by simp)
      | cons m rest => exact visit_cons_inv [] h (by simp) rfl (by simp)
    · obtain ⟨hg, hrt, hnew, pre, hn, hcov⟩ := h
      have hnew' : ∀ m r, Function.update new n (some rt) m = some r → s.reg.dict m = some r := by
        intro m r hr
        by_cases hm : m = n
        · subst hm
          simp only [Function.update_same, Option.some_inj] at hr
          exact hr ▸ hrt
        · exact hnew m r (by rwa [Function.update_noteq hm] at hr)
      have hcov' : ∀ m ∈ pre ++ [n], Function.update new n (some rt) m ≠ none := by
        intro m hm
        by_cases hmn : m = n
        · rw [hmn, Function.update_same]
          exact Option.some_ne_none rt
        · rw [Function.update_noteq hmn]
          exact hcov m (by simpa [hmn] using hm)
      cases rest with
      | nil => exact visit_nil_inv hg hnew' (by rw [hn]; exact hcov')
      | cons m rest => exact visit_cons_inv (pre ++ [n]) hg hnew' (by rw [hn]; simp) hcov'
    · unfold Inv
      rw [hp]
      exact h

theorem run_inv {nodes : List String} :
    ∀ (evs : List Event) (s : TrackerRun), Inv nodes s → Inv nodes (s.run nodes evs)
  | [], _, h => h
  | ev :: evs, s, h => run_inv evs (s.step nodes ev) (step_inv h ev)

/-- However the other greenthreads' lookups interleave with a pass of
`update_available_resource` that runs to its end, every `_get_resource_tracker` call for a
node the driver reported, the pass's own or another's, before or after the swap, returned
the tracker that the new dictionary holds for that node. -/
theorem run_lookups_agree (nodes : List String) (evs : List Event) (s : TrackerRun)
    (hs : s.pass = .listing) (hg : s.GotAgree) (hd : (s.run nodes evs).pass = .done) :
    ∀ p ∈ (s.run nodes evs).got, p.1 ∈ nodes → (s.run nodes evs).reg.dict p.1 = some p.2 := by
  have h : Inv nodes (s.run nodes evs) := run_inv evs s (by unfold Inv; rw [hs]; exact hg)
  unfold Inv at h
  rw [hd] at h
  exact h.1

/-- Two reported nodes; another greenthread looks `node2` up before the pass starts,
`node1` while the pass updates it, `node2` again before the swap and `node1` after it. -/
theorem run_lookups_agree_two_nodes :
    let s : TrackerRun := {}
    let evs := [Event.lookup "node2", .pass, .lookup "node1", .pass, .lookup "node2", .pass,
      .lookup "node1"]
    s.pass = .listing ∧ s.GotAgree ∧ (s.run ["node1", "node2"] evs).pass = .done ∧
      ∀ p ∈ (s.run ["node1", "node2"] evs).got, p.1 ∈ ["node1", "node2"] →
        (s.run ["node1", "node2"] evs).reg.dict p.1 = some p.2 := by
  intro s evs
  have hd : (s.run ["node1", "node2"] evs).pass = .done := rfl
  have hg : s.GotAgree := fun p hp => absurd hp (List.not_mem_nil p)
  exact ⟨rfl, hg, hd, run_lookups_agree _ _ s rfl hg hd⟩

example : (({} : TrackerRun).run ["node1", "node2"] [.lookup "node2", .pass, .lookup "node1",
    .pass, .lookup "node2", .pass, .lookup "node1"]).got =
    [("node2", 0), ("node1", 1), ("node1", 1), ("node2", 0), ("node2", 0), ("node1", 1)] := by
  decide

end TrackerRun

end FolsomCloud.Compute
