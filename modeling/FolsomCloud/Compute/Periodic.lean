import FolsomCloud.Compute.Reconcile
import Mathlib.Data.List.Chain

set_option autoImplicit false

/-!
# Compute: two periodic tasks with state of their own (spec §4.7)

`_poll_bandwidth_usage` reads the backend's traffic counters of every interface of the
host's instances and keeps, per interface and audit period, the traffic seen in the period
and the last counter reading.  A reading is compared with the last one of the current
period, or, for the first reading of a period, with the last one of the previous period;
a counter smaller than the last reading has rolled over and counts from zero.  A run of
the task either reads the counters and adds its poll to the ones before, or leaves the
table (`pollBandwidthUsage_reads`, `pollBandwidthUsage_skips`), so the table is the one
`pollRuns` builds from the polls that read the counters.

When an interface's consecutive readings fall in the same or adjacent periods, the stored
traffic of a period is the sum, over consecutive readings whose later one falls in it, of
what the counter grew by (`pollRuns_usage`); an interface missing from every run of a whole
period loses the traffic across the gap (`pollRuns_loses_traffic_across_gap`).

`_heal_instance_info_cache` keeps a list of instance uuids across runs and refreshes the
network info of one instance per run: it pops uuids until it finds an instance that is
still on the host, and when the list runs out it refills it from the host's listing.  The
loop ends within the list's length plus one turns (`healLoop_finishes`), and from an empty
list, `k` runs over a listing of `k` instances that stay on the host refresh each of them
once, in listing order (`healRuns_refresh_listing`).
-/

namespace FolsomCloud.Compute

/-! ## `_poll_bandwidth_usage` -/

/-- One entry of `driver.get_all_bw_counters(instances)`. -/
structure BwCounter where
  uuid : Nat
  macAddress : String
  bwIn : Nat
  bwOut : Nat
  deriving DecidableEq, Repr

/-- Modelled from the spec: a row of `bw_usage_cache` (persistence, §6), keyed by
instance uuid, MAC address and the start of its audit period: the traffic of the period so
far, the last counter readings and when they were taken. -/
structure BwUsage where
  bwIn : Nat
  bwOut : Nat
  lastCtrIn : Nat
  lastCtrOut : Nat
  lastRefreshed : Nat
  deriving DecidableEq, Repr

/-- What a counter grew by since its last reading `last`: a smaller reading means the
counter rolled over, and all of it is new. -/
def trafficSince (last cur : Nat) : Nat := if cur < last then cur else cur - last

/-- The row the loop writes for a reading `(bwIn, bwOut)` at time `refreshed`, from the
row of the current period (`cur`) and of the previous one (`prev`): the traffic so far
grows by what the counters grew since the last readings of the current period, or of
the previous period for the period's first reading. -/
def bwUsageRow (cur prev : Option BwUsage) (bwIn bwOut refreshed : Nat) : BwUsage :=
  let (inSoFar, outSoFar, lastIn, lastOut) : Nat × Nat × Option Nat × Option Nat :=
    match cur with
    | some u => (u.bwIn, u.bwOut, some u.lastCtrIn, some u.lastCtrOut)
    | none =>
      match prev with
      | some u => (0, 0, some u.lastCtrIn, some u.lastCtrOut)
      | none => (0, 0, none, none)
  { bwIn := inSoFar + lastIn.elim 0 (trafficSince · bwIn)
    bwOut := outSoFar + lastOut.elim 0 (trafficSince · bwOut)
    lastCtrIn := bwIn
    lastCtrOut := bwOut
    lastRefreshed := refreshed }

/-- One turn of the loop over `bw_counters`: `bw_usage_get` of the current period, and of
the previous one when the current has no row, then `bw_usage_update` of the current. -/
def updateBwCounter (prevTime startTime refreshed : Nat)
    (usage : Nat → String → Nat → Option BwUsage) (ctr : BwCounter) :
    Nat → String → Nat → Option BwUsage :=
  fun u m t =>
    if u = ctr.uuid ∧ m = ctr.macAddress ∧ t = startTime then
      some (bwUsageRow (usage ctr.uuid ctr.macAddress startTime)
        (usage ctr.uuid ctr.macAddress prevTime) ctr.bwIn ctr.bwOut refreshed)
    else usage u m t

/-- `ComputeManager._poll_bandwidth_usage` at time `currTime`, with `(prevTime, startTime)`
what `utils.last_completed_audit_period()` returns, `refreshed` what `utcnow()` returns,
and `counters` the backend's counters (`none`: `NotImplementedError`).  Returns the new
`_last_bw_usage_poll` and the table. -/
def pollBandwidthUsage (interval lastPoll currTime prevTime startTime refreshed : Nat)
    (counters : Option (List BwCounter)) (usage : Nat → String → Nat → Option BwUsage) :
    Nat × (Nat → String → Nat → Option BwUsage) :=
  if currTime - lastPoll > interval then
    (currTime, match counters with
      | none => usage
      | some cs => cs.foldl (updateBwCounter prevTime startTime refreshed) usage)
  else (lastPoll, usage)

/-- A run of `_poll_bandwidth_usage` that reads the counters. -/
structure BwPoll where
  prevTime : Nat
  startTime : Nat
  refreshed : Nat := 0
  counters : List BwCounter
  deriving DecidableEq, Repr

/-- The table after polls `runs`, from an empty table. -/
def pollRuns (runs : List BwPoll) : Nat → String → Nat → Option BwUsage :=
  runs.foldl (fun usage r => r.counters.foldl (updateBwCounter r.prevTime r.startTime
    r.refreshed) usage) fun _ _ _ => none

/-- A run of the task whose interval has elapsed and whose backend reads the counters adds
its poll to `pollRuns`. -/
theorem pollBandwidthUsage_reads (interval lastPoll currTime : Nat) (r : BwPoll)
    (runs : List BwPoll) (h : currTime - lastPoll > interval) :
    pollBandwidthUsage interval lastPoll currTime r.prevTime r.startTime r.refreshed
      (some r.counters) (pollRuns runs) = (currTime, pollRuns (runs ++ [r])) := by
  simp [pollBandwidthUsage, h, pollRuns, List.foldl_append]

/-- Any other run leaves the table. -/
theorem pollBandwidthUsage_skips (interval lastPoll currTime prevTime startTime refreshed : Nat)
    (counters : Option (List BwCounter)) (usage : Nat → String → Nat → Option BwUsage)
    (h : currTime - lastPoll ≤ interval ∨ counters = none) :
    (pollBandwidthUsage interval lastPoll currTime prevTime startTime refreshed counters
      usage).2 = usage := by
  rcases h with h | rfl
  · simp [pollBandwidthUsage, Nat.not_lt.2 h]
  · unfold pollBandwidthUsage
    split <;> rfl

/-- One reading of an interface's counters, with the period of the run that took it. -/
structure BwReading where
  prevTime : Nat
  startTime : Nat
  refreshed : Nat
  bwIn : Nat
  bwOut : Nat
  deriving DecidableEq, Repr

/-- The readings of interface `(u, m)` that the polls `runs` take, in order. -/
def readings (u : Nat) (m : String) (runs : List BwPoll) : List BwReading :=
  runs.flatMap fun r => (r.counters.filter fun c => c.uuid = u ∧ c.macAddress = m).map
    fun c => ⟨r.prevTime, r.startTime, r.refreshed, c.bwIn, c.bwOut⟩

/-- A reading's write to the rows of its own interface. -/
def rowStep (row : Nat → Option BwUsage) (x : BwReading) : Nat → Option BwUsage :=
  Function.update row x.startTime
    (some (bwUsageRow (row x.startTime) (row x.prevTime) x.bwIn x.bwOut x.refreshed))

/-- A turn of the loop changes only the rows of its counter's interface, as `rowStep`. -/
theorem foldl_updateBwCounter (prevTime startTime refreshed u : Nat) (m : String) :
    ∀ (cs : List BwCounter) (usage : Nat → String → Nat → Option BwUsage),
      (cs.foldl (updateBwCounter prevTime startTime refreshed) usage) u m =
        ((cs.filter fun c => c.uuid = u ∧ c.macAddress = m).map fun c =>
          (⟨prevTime, startTime, refreshed, c.bwIn, c.bwOut⟩ : BwReading)).foldl rowStep
          (usage u m)
  | [], _ => rfl
  | c :: cs, usage => by
    rw [List.foldl_cons, foldl_updateBwCounter prevTime startTime refreshed u m cs]
    by_cases hc : c.uuid = u ∧ c.macAddress = m
    · obtain ⟨rfl, rfl⟩ := hc
      simp only [List.filter_cons, and_self, decide_True, if_true, List.map_cons, List.foldl_cons]
      congr 1
      funext t
      rcases eq_or_ne t startTime with rfl | ht
      · simp [updateBwCounter, rowStep]
      · simp [updateBwCounter, rowStep, ht]
    · simp only [List.filter_cons, hc, decide_False, Bool.false_eq_true, if_false]
      congr 1
      funext t
      exact if_neg fun h => hc ⟨h.1.symm, h.2.1.symm⟩

/-- The rows of one interface after the polls are its readings' writes, in order. -/
theorem pollRuns_at (u : Nat) (m : String) (runs : List BwPoll) :
    pollRuns runs u m = (readings u m runs).foldl rowStep fun _ => none := by
  suffices ∀ (usage : Nat → String → Nat → Option BwUsage),
      (runs.foldl (fun usage r => r.counters.foldl (updateBwCounter r.prevTime r.startTime
        r.refreshed) usage) usage) u m = (readings u m runs).foldl rowStep (usage u m) from
    this _
  induction runs with
  | nil => intro; rfl
  | cons r runs ih =>
    intro usage
    rw [List.foldl_cons, ih, foldl_updateBwCounter, ← List.foldl_append]
    simp only [readings, List.flatMap_cons]

/-! ### What the claim says the table holds -/

/-- The traffic put in period `P` over one counter's readings `(period, value)`: for each
two consecutive readings whose later one was taken in `P`, what the counter grew by. -/
def periodTraffic (P : Nat) : List (Nat × Nat) → Nat
  | a :: b :: rest => (if b.1 = P then trafficSince a.2 b.2 else 0) + periodTraffic P (b :: rest)
  | _ => 0

/-- The rows of one interface after its readings `xs`, as the claim describes them: a period
with readings holds `periodTraffic` of each counter and its last reading. -/
def periodUsage (xs : List BwReading) (P : Nat) : Option BwUsage :=
  (xs.filter (·.startTime = P)).getLast?.map fun x =>
    { bwIn := periodTraffic P (xs.map fun y => (y.startTime, y.bwIn))
      bwOut := periodTraffic P (xs.map fun y => (y.startTime, y.bwOut))
      lastCtrIn := x.bwIn
      lastCtrOut := x.bwOut
      lastRefreshed := x.refreshed }

/-- Two consecutive readings of an interface fall in the same audit period or in adjacent
ones: the later one's previous period is the earlier one's period. -/
def SameOrNextPeriod (x y : BwReading) : Prop :=
  y.startTime = x.startTime ∨ y.prevTime = x.startTime

instance : DecidableRel SameOrNextPeriod := fun _ _ => inferInstanceAs (Decidable (_ ∨ _))

theorem periodTraffic_append_singleton (P : Nat) (b : Nat × Nat) :
    ∀ l : List (Nat × Nat), periodTraffic P (l ++ [b]) =
      periodTraffic P l + if b.1 = P then l.getLast?.elim 0 (trafficSince ·.2 b.2) else 0
  | [] | [_] => by simp [periodTraffic]
  | a :: a' :: l => by
    rw [List.cons_append, List.cons_append, periodTraffic, ← List.cons_append,
      periodTraffic_append_singleton P b (a' :: l), periodTraffic, List.getLast?_cons_cons,
      Nat.add_assoc]

theorem periodTraffic_eq_zero (P : Nat) :
    ∀ l : List (Nat × Nat), (∀ x ∈ l, x.1 ≠ P) → periodTraffic P l = 0
  | a :: b :: rest, h => by
    rw [periodTraffic, if_neg (h b (by simp)),
      periodTraffic_eq_zero P (b :: rest) fun x hx => h x (List.mem_cons_of_mem a hx)]
  | [], _ | [_], _ => rfl

theorem periodTraffic_map_append_singleton (P : Nat) (f : BwReading → Nat)
    (xs : List BwReading) (y : BwReading) :
    periodTraffic P ((xs ++ [y]).map fun z => (z.startTime, f z)) =
      periodTraffic P (xs.map fun z => (z.startTime, f z)) +
        if y.startTime = P then xs.getLast?.elim 0 (fun a => trafficSince (f a) (f y)) else 0 := by
  rw [List.map_append, List.map_singleton, periodTraffic_append_singleton, List.getLast?_map]
  cases xs.getLast? <;> rfl

theorem periodUsage_append_of_ne (xs : List BwReading) (y : BwReading) {P : Nat}
    (hP : y.startTime ≠ P) : periodUsage (xs ++ [y]) P = periodUsage xs P := by
  simp [periodUsage, List.filter_append, hP, List.map_append, periodTraffic_append_singleton]

theorem periodUsage_append_self (xs : List BwReading) (y : BwReading) :
    periodUsage (xs ++ [y]) y.startTime = some
      { bwIn := periodTraffic y.startTime ((xs ++ [y]).map fun z => (z.startTime, z.bwIn))
        bwOut := periodTraffic y.startTime ((xs ++ [y]).map fun z => (z.startTime, z.bwOut))
        lastCtrIn := y.bwIn
        lastCtrOut := y.bwOut
        lastRefreshed := y.refreshed } := by
  simp [periodUsage, List.filter_append]

theorem periodUsage_eq_none (xs : List BwReading) {P : Nat} (h : ∀ x ∈ xs, x.startTime ≠ P) :
    periodUsage xs P = none := by
  simpa [periodUsage, List.filter_eq_nil_iff] using h

theorem SameOrNextPeriod.startTime_le {x y : BwReading} (hy : y.prevTime < y.startTime)
    (h : SameOrNextPeriod x y) : x.startTime ≤ y.startTime := by
  rcases h with h | h <;> omega

/-- Readings chained by `SameOrNextPeriod` go forward in time: the last one's period is the
latest. -/
theorem startTime_le_last (xs : List BwReading) (x : BwReading)
    (hper : ∀ z ∈ xs ++ [x], z.prevTime < z.startTime)
    (hadj : (xs ++ [x]).Chain' SameOrNextPeriod) : ∀ z ∈ xs, z.startTime ≤ x.startTime := by
  have hle : ((xs ++ [x]).map (·.startTime)).Pairwise (· ≤ ·) :=
    List.chain'_iff_pairwise.1 <| (List.chain'_map _).2 <|
      (List.Chain'.iff_mem.1 hadj).imp fun _ b ⟨_, hb, hab⟩ => hab.startTime_le (hper b hb)
  rw [List.map_append, List.pairwise_append] at hle
  exact fun z hz => hle.2.2 _ (List.mem_map_of_mem _ hz) _ (List.mem_singleton_self _)

/-! ### The table holds what the claim says, for readings in adjacent periods -/

/-- A reading in the period of the one before it, or in the next, writes the row that
`periodUsage` gives once it is added. -/
theorem rowStep_periodUsage (xs : List BwReading) (x y : BwReading)
    (hy : y.prevTime < y.startTime) (hxy : SameOrNextPeriod x y)
    (hle : ∀ z ∈ xs, z.startTime ≤ x.startTime) :
    rowStep (periodUsage (xs ++ [x])) y = periodUsage (xs ++ [x] ++ [y]) := by
  funext P
  rcases eq_or_ne y.startTime P with rfl | hP
  · rw [rowStep, Function.update_same, periodUsage_append_self]
    rcases eq_or_ne y.startTime x.startTime with hs | hs
    case inl =>
      rw [hs, periodUsage_append_self]
      simp only [periodTraffic_map_append_singleton, List.getLast?_concat]
      simp [bwUsageRow, hs]
    case inr =>
      have hprev : y.prevTime = x.startTime := hxy.resolve_left hs
      have hbefore : ∀ z ∈ xs ++ [x], z.startTime ≠ y.startTime := fun z hz => by
        have : z.startTime ≤ x.startTime := by
          rcases List.mem_append.1 hz with hz | hz
          · exact hle z hz
          · rw [List.mem_singleton.1 hz]
        omega
      have hzero : ∀ f : BwReading → Nat,
          periodTraffic y.startTime ((xs ++ [x]).map fun z => (z.startTime, f z)) = 0 :=
        fun f => periodTraffic_eq_zero _ _ fun p hp => by
          obtain ⟨z, hz, rfl⟩ := List.mem_map.1 hp
          exact hbefore z hz
      rw [periodUsage_eq_none _ hbefore, hprev, periodUsage_append_self,
        periodTraffic_map_append_singleton _ _ (xs ++ [x]) y,
        periodTraffic_map_append_singleton _ _ (xs ++ [x]) y, hzero, hzero]
      simp [bwUsageRow]
  · rw [rowStep, Function.update_noteq (Ne.symm hP), periodUsage_append_of_ne _ _ hP]

/-- From an empty table, readings in the same or adjacent periods leave the rows that
`periodUsage` gives. -/
theorem foldl_rowStep_eq_periodUsage (xs : List BwReading)
    (hper : ∀ x ∈ xs, x.prevTime < x.startTime) (hadj : xs.Chain' SameOrNextPeriod) :
    xs.foldl rowStep (fun _ => none) = periodUsage xs := by
  induction xs using List.reverseRecOn with
  | nil => rfl
  | append_singleton xs y ih =>
    have hxs := (List.chain'_append.1 hadj).1
    rw [List.foldl_append, ih (fun x hx => hper x (List.mem_append_left _ hx)) hxs,
      List.foldl_cons, List.foldl_nil]
    rcases List.eq_nil_or_concat' xs with rfl | ⟨xs, x, rfl⟩
    · funext P
      by_cases hP : y.startTime = P <;> simp [rowStep, periodUsage, bwUsageRow, periodTraffic,
        Function.update, hP, eq_comm]
    · exact rowStep_periodUsage xs x y (hper y (by simp))
        ((List.chain'_append.1 hadj).2.2 x (by simp) y rfl)
        (startTime_le_last xs x (fun z hz => hper z (List.mem_append_left _ hz)) hxs)

/-- A write never lowers a row's traffic. -/
theorem rowStep_grows (row : Nat → Option BwUsage) (x : BwReading) {P : Nat} {b : BwUsage}
    (h : row P = some b) :
    ∃ b', rowStep row x P = some b' ∧ b.bwIn ≤ b'.bwIn ∧ b.bwOut ≤ b'.bwOut := by
  unfold rowStep
  rcases eq_or_ne P x.startTime with rfl | hP
  · rw [Function.update_same, h]
    exact ⟨_, rfl, by simp [bwUsageRow]⟩
  · rw [Function.update_noteq hP]
    exact ⟨b, h, le_rfl, le_rfl⟩

theorem foldl_rowStep_grows {P : Nat} :
    ∀ (xs : List BwReading) (row : Nat → Option BwUsage) {b : BwUsage}, row P = some b →
      ∃ b', xs.foldl rowStep row P = some b' ∧ b.bwIn ≤ b'.bwIn ∧ b.bwOut ≤ b'.bwOut
  | [], _, b, h => ⟨b, h, le_rfl, le_rfl⟩
  | x :: xs, row, _, h => by
    obtain ⟨b₁, h₁, hi₁, ho₁⟩ := rowStep_grows row x h
    obtain ⟨b₂, h₂, hi₂, ho₂⟩ := foldl_rowStep_grows xs _ h₁
    exact ⟨b₂, h₂, hi₁.trans hi₂, ho₁.trans ho₂⟩

/-- Later polls never lower what a period's row holds. -/
theorem pollRuns_grows (runs more : List BwPoll) (u : Nat) (m : String) {P : Nat}
    {b : BwUsage} (h : pollRuns runs u m P = some b) :
    ∃ b', pollRuns (runs ++ more) u m P = some b' ∧ b.bwIn ≤ b'.bwIn ∧ b.bwOut ≤ b'.bwOut := by
  rw [pollRuns_at] at h ⊢
  rw [readings, List.flatMap_append, List.foldl_append]
  exact foldl_rowStep_grows _ _ h

theorem readings_prevTime_lt {runs : List BwPoll} (u : Nat) (m : String)
    (hper : ∀ r ∈ runs, r.prevTime < r.startTime) :
    ∀ x ∈ readings u m runs, x.prevTime < x.startTime := by
  simp only [readings, List.mem_flatMap, List.mem_map]
  rintro _ ⟨r, hr, c, -, rfl⟩
  exact hper r hr

/-- The bandwidth table after any polls whose audit periods go forward: for an interface
whose consecutive readings fall in the same or adjacent periods, each period's row holds
the traffic of `periodTraffic`, summed over consecutive readings whose later one falls in
the period, and later polls never lower it. -/
theorem pollRuns_usage (runs : List BwPoll) (u : Nat) (m : String)
    (hper : ∀ r ∈ runs, r.prevTime < r.startTime)
    (hadj : (readings u m runs).Chain' SameOrNextPeriod) :
    pollRuns runs u m = periodUsage (readings u m runs) ∧
      ∀ (more : List BwPoll) (P : Nat) (b : BwUsage), pollRuns runs u m P = some b →
        ∃ b', pollRuns (runs ++ more) u m P = some b' ∧ b.bwIn ≤ b'.bwIn ∧ b.bwOut ≤ b'.bwOut :=
  ⟨(pollRuns_at u m runs).trans
      (foldl_rowStep_eq_periodUsage _ (readings_prevTime_lt u m hper) hadj),
    fun more _ _ h => pollRuns_grows runs more u m h⟩

/-- Two polls of one interface, in periods `1` and `2`: `150 - 100` is put in period `2`. -/
theorem pollRuns_usage_adjacent_periods :
    let runs : List BwPoll :=
      [⟨0, 1, 0, [⟨1, "aa", 100, 40⟩]⟩, ⟨1, 2, 0, [⟨1, "aa", 150, 10⟩]⟩]
    ((∀ r ∈ runs, r.prevTime < r.startTime) ∧ (readings 1 "aa" runs).Chain' SameOrNextPeriod) ∧
      pollRuns runs 1 "aa" = periodUsage (readings 1 "aa" runs) ∧
      ∀ (more : List BwPoll) (P : Nat) (b : BwUsage), pollRuns runs 1 "aa" P = some b →
        ∃ b', pollRuns (runs ++ more) 1 "aa" P = some b' ∧ b.bwIn ≤ b'.bwIn ∧
          b.bwOut ≤ b'.bwOut :=
  have hper : ∀ r ∈ ([⟨0, 1, 0, [⟨1, "aa", 100, 40⟩]⟩, ⟨1, 2, 0, [⟨1, "aa", 150, 10⟩]⟩] :
      List BwPoll), r.prevTime < r.startTime := by decide
  have hadj : (readings 1 "aa" [⟨0, 1, 0, [⟨1, "aa", 100, 40⟩]⟩,
      ⟨1, 2, 0, [⟨1, "aa", 150, 10⟩]⟩]).Chain' SameOrNextPeriod := by
    simp [readings, SameOrNextPeriod]
  ⟨⟨hper, hadj⟩, pollRuns_usage _ 1 "aa" hper hadj⟩

example : (pollRuns [⟨0, 1, 0, [⟨1, "aa", 100, 40⟩]⟩, ⟨1, 2, 0, [⟨1, "aa", 150, 10⟩]⟩] 1 "aa"
    2).map (fun b => (b.bwIn, b.bwOut)) = some (50, 10) := by decide

/-- Consecutive polls fall in the same audit period or in adjacent ones. -/
def ConsecutivePeriods (r r' : BwPoll) : Prop :=
  (r'.prevTime = r.prevTime ∧ r'.startTime = r.startTime) ∨ r'.prevTime = r.startTime

instance : DecidableRel ConsecutivePeriods := fun _ _ => inferInstanceAs (Decidable (_ ∨ _))

/-- Polls in periods `1`, `2` and `3`, with the interface missing from the poll of period
`2`: its growth from `100` to `150` is lost, where the sum over its consecutive readings
puts `50` in period `3`. -/
theorem pollRuns_loses_traffic_across_gap :
    let runs : List BwPoll :=
      [⟨0, 1, 0, [⟨1, "aa", 100, 100⟩]⟩, ⟨1, 2, 0, []⟩, ⟨2, 3, 0, [⟨1, "aa", 150, 150⟩]⟩]
    runs.Chain' ConsecutivePeriods ∧ (∀ r ∈ runs, r.prevTime < r.startTime) ∧
      (pollRuns runs 1 "aa" 3).map (·.bwIn) = some 0 ∧
      (periodUsage (readings 1 "aa" runs) 3).map (·.bwIn) = some 50 :=
  ⟨by simp [ConsecutivePeriods], by decide, by decide, by decide⟩

/-! ## `_heal_instance_info_cache` -/

/-- Modelled from the spec: `instance_get_by_uuid` in a context that reads no deleted rows
(persistence, §6): the row, or `InstanceNotFound`. -/
def Db.instanceGetByUuid (db : Db) (uuid : Nat) : Except Exc Instance :=
  match (db.instances uuid).filter (·.deleted = false) with
  | some i => .ok i
  | none => .error .instanceNotFound

/-- The listing holds only instances of the host it was asked for. -/
theorem Db.host_of_mem_instanceGetAllByHost {db : Db} {host : String} {readDeleted : Bool}
    {i : Instance} (h : i ∈ db.instanceGetAllByHost host readDeleted) : i.host = host := by
  obtain ⟨u, -, hu⟩ := List.mem_filterMap.1 h
  exact (of_decide_eq_true (Option.filter_eq_some.1 hu).2).1

/-- The attributes `_heal_instance_info_cache` keeps on the manager between runs. -/
structure HealState where
  lastInfoCacheHeal : Nat := 0
  /-- `_instance_uuids_to_heal`; before the first refill the attribute is missing, which
  the loop reads as an empty list -/
  uuidsToHeal : List Nat := []
  deriving DecidableEq, Repr

/-- How the loop of `_heal_instance_info_cache` ends: with an instance of this host, with
an empty listing (the `return`), or with the exception a database call raised. -/
inductive HealEnd where
  | found (inst : Instance)
  | noInstances
  | raised (ex : Exc)
  deriving DecidableEq, Repr

namespace Manager

/-- `db.instance_get_by_uuid`. -/
def instanceGetByUuid (uuid : Nat) : Op Instance := do
  io (.db "instance_get_by_uuid" uuid)
  onDb fun db => (db.instanceGetByUuid uuid).map (·, db)

/-- `x`, with the exception it raises returned as a value. -/
def attempt {α : Type} (x : Op α) : Op (Except Exc α) :=
  tryCatch (.ok <$> x) fun ex => pure (.error ex)

/-- The `while` loop of `_heal_instance_info_cache`, from the instance `inst` and the heal
list `uuids`, with `fuel` turns of its body left (`none`: the fuel ran out).  The loop pops
the list in place, so every end returns the list as the attribute then holds it. -/
def healLoop (host : String) (fuel : Nat) (inst : Option Instance) (uuids : List Nat) :
    Op (Option (HealEnd × List Nat)) :=
  match inst.filter (·.host = host), fuel with
  | some i, _ => pure (some (.found i, uuids))
  | none, 0 => pure none
  | none, fuel + 1 =>
    match uuids with
    | u :: rest => do
      match ← attempt (instanceGetByUuid u) with
      | .ok i => healLoop host fuel (some i) rest
      | .error .instanceNotFound => healLoop host fuel inst rest
      | .error ex => pure (some (.raised ex, rest))
    | [] => do
      match ← attempt (instanceGetAllByHost host false) with
      | .ok [] => pure (some (.noInstances, []))
      | .ok (i :: l) => healLoop host fuel (some i) (l.map (·.uuid))
      | .error ex => pure (some (.raised ex, []))

/-- `ComputeManager._heal_instance_info_cache` with the attributes `s`: the attributes after
the run, and the exception it raised, which the periodic task runner logs.  The loop is
given one turn more than the heal list is long, which it never uses up
(`healLoop_finishes`). -/
def healInstanceInfoCache (conf : Conf) (host : String) (s : HealState) :
    Op (HealState × Option Exc) :=
  if conf.healInstanceInfoCacheInterval = 0 then pure (s, none)
  else do
    let t ← now
    if s.lastInfoCacheHeal + conf.healInstanceInfoCacheInterval > t then pure (s, none)
    else
      let s := { s with lastInfoCacheHeal := t }
      match ← healLoop host (s.uuidsToHeal.length + 1) none s.uuidsToHeal with
      | some (.found i, uuids) => do
        tryCatch (io (.network .getInstanceNwInfo i.uuid)) fun _ => pure ()
        pure ({ s with uuidsToHeal := uuids }, none)
      | some (.noInstances, uuids) => pure ({ s with uuidsToHeal := uuids }, none)
      | some (.raised ex, uuids) => pure ({ s with uuidsToHeal := uuids }, some ex)
      | none => pure (s, none)

/-- The uuids whose network info the calls `calls` refresh, in order. -/
def refreshes (calls : List (Call × Option Exc)) : List Nat :=
  calls.filterMap fun c =>
    match c.1 with
    | .network .getInstanceNwInfo u => some u
    | _ => none

/-- Runs of the task, one from each world of `ws`, with the attributes each run leaves
handed to the next: the uuids each run refreshes. -/
def healRuns (conf : Conf) (host : String) (e : Env) : HealState → List World → List (List Nat)
  | _, [] => []
  | s, w :: ws =>
    match healInstanceInfoCache conf host s e w with
    | (.ok (s', _), w') => refreshes (w'.calls.drop w.calls.length) :: healRuns conf host e s' ws
    | (.error _, w') => [refreshes (w'.calls.drop w.calls.length)]

/-- The instances `us` stay on `host`: the listing of the host's instances has their uuids,
in order, and each of them is found, on the host. -/
def Stays (host : String) (us : List Nat) (db : Db) : Prop :=
  (db.instanceGetAllByHost host false).map (·.uuid) = us ∧
    ∀ u ∈ us, ∃ i, db.instanceGetByUuid u = .ok i ∧ i.uuid = u ∧ i.host = host

open Op

@[simp] theorem attempt_apply {α : Type} (x : Op α) (e : Env) (w : World) :
    attempt x e w = ((.ok (x e w).1 : Except Exc (Except Exc α)), (x e w).2) := by
  rcases hx : x e w with ⟨_ | _, _⟩ <;> simp [attempt, hx]

theorem filter_host_some {host : String} {i : Instance} (h : i.host = host) :
    (some i).filter (·.host = host) = some i := by
  simp [h]

theorem healLoop_found {host : String} {inst : Option Instance} {i : Instance}
    (h : inst.filter (·.host = host) = some i) (fuel : Nat) (uuids : List Nat) :
    healLoop host fuel inst uuids = pure (some (.found i, uuids)) := by
  rw [healLoop.eq_def, h]

theorem healLoop_pop {host : String} {inst : Option Instance}
    (h : inst.filter (·.host = host) = none) (fuel u : Nat) (rest : List Nat) :
    healLoop host (fuel + 1) inst (u :: rest) = (do
      match ← attempt (instanceGetByUuid u) with
      | .ok i => healLoop host fuel (some i) rest
      | .error .instanceNotFound => healLoop host fuel inst rest
      | .error ex => pure (some (.raised ex, rest))) := by
  rw [healLoop.eq_def, h]

theorem healLoop_refill {host : String} {inst : Option Instance}
    (h : inst.filter (·.host = host) = none) (fuel : Nat) :
    healLoop host (fuel + 1) inst [] = (do
      match ← attempt (instanceGetAllByHost host false) with
      | .ok [] => pure (some (.noInstances, []))
      | .ok (i :: l) => healLoop host fuel (some i) (l.map (·.uuid))
      | .error ex => pure (some (.raised ex, []))) := by
  rw [healLoop.eq_def, h]

/-- The loop ends within one turn more than the heal list is long: each turn pops the list,
or refills it from a listing of this host's instances, the first of which ends the loop. -/
theorem healLoop_finishes (host : String) (e : Env) :
    ∀ (uuids : List Nat) (fuel : Nat) (inst : Option Instance) (w : World),
      uuids.length < fuel → ∃ r, (healLoop host fuel inst uuids e w).1 = .ok (some r) := by
  intro uuids
  induction uuids with
  | nil =>
    intro fuel inst w hf
    rcases hi : inst.filter (·.host = host) with _ | i
    case some => exact ⟨_, by rw [healLoop_found hi]; rfl⟩
    obtain ⟨fuel, rfl⟩ : ∃ f, fuel = f + 1 := ⟨fuel - 1, by simp at hf; omega⟩
    rw [healLoop_refill hi]
    rcases hL : instanceGetAllByHost host false e w with ⟨_ | _ | ⟨i, l⟩, w'⟩
    · simp [hL]
    · simp [hL]
    · have hh : i.host = host := Db.host_of_mem_instanceGetAllByHost
        ((instanceGetAllByHost_ok hL) ▸ List.mem_cons_self i l)
      simp [hL, healLoop_found (filter_host_some hh)]
  | cons u rest ih =>
    intro fuel inst w hf
    rcases hi : inst.filter (·.host = host) with _ | i
    case some => exact ⟨_, by rw [healLoop_found hi]; rfl⟩
    obtain ⟨fuel, rfl⟩ : ∃ f, fuel = f + 1 := ⟨fuel - 1, by simp at hf; omega⟩
    have hf : rest.length < fuel := by simpa using hf
    rw [healLoop_pop hi]
    rcases hG : instanceGetByUuid u e w with ⟨_ | i, w'⟩
    case mk.ok => simpa [hG] using ih fuel (some i) w' hf
    case mk.error ex =>
      by_cases hx : ex = .instanceNotFound
      · subst hx
        simpa [hG] using ih fuel inst w' hf
      · simp [hG]

theorem instanceGetByUuid_of_ok {u : Nat} {i : Instance} {e : Env} {w : World}
    (hf : e.fault w.clock (.db "instance_get_by_uuid" u) = none)
    (hg : (e.interfere w.clock w.db).instanceGetByUuid u = .ok i) :
    instanceGetByUuid u e w = (.ok i, w.tick e (.db "instance_get_by_uuid" u)) := by
  simp [instanceGetByUuid, hf, onDb_apply, hg, Except.map, World.tick]

theorem instanceGetAllByHost_of_no_fault {host : String} {readDeleted : Bool} {e : Env}
    {w : World} (hf : e.fault w.clock (.db "instance_get_all_by_host" 0) = none) :
    instanceGetAllByHost host readDeleted e w =
      (.ok ((e.interfere w.clock w.db).instanceGetAllByHost host readDeleted),
        w.tick e (.db "instance_get_all_by_host" 0)) := by
  simp [instanceGetAllByHost, hf, onDb_apply, World.tick]

/-- A run whose interval has elapsed, with the heal list `u :: rest` and `u` an instance of
this host, refreshes `u`'s instance and leaves `rest`. -/
theorem healInstanceInfoCache_pop {conf : Conf} {host : String} {e : Env} {w : World}
    {s : HealState} {u : Nat} {rest : List Nat} {i : Instance}
    (hI : 0 < conf.healInstanceInfoCacheInterval)
    (hgap : s.lastInfoCacheHeal + conf.healInstanceInfoCacheInterval ≤ w.clock)
    (hs : s.uuidsToHeal = u :: rest)
    (hf : e.fault w.clock (.db "instance_get_by_uuid" u) = none)
    (hg : (e.interfere w.clock w.db).instanceGetByUuid u = .ok i) (hh : i.host = host) :
    ∃ w', healInstanceInfoCache conf host s e w =
      (.ok ({ lastInfoCacheHeal := w.clock, uuidsToHeal := rest }, none), w') ∧
      refreshes (w'.calls.drop w.calls.length) = [i.uuid] := by
  have hloop : healLoop host (rest.length + 1 + 1) none (u :: rest) e w =
      (.ok (some (.found i, rest)), w.tick e (.db "instance_get_by_uuid" u)) := by
    rw [@healLoop_pop host none rfl]
    simp [instanceGetByUuid_of_ok hf hg, healLoop_found (filter_host_some hh)]
  simp [healInstanceInfoCache, now, hI.ne', not_lt.2 hgap, hs, hloop]
  cases e.fault (w.clock + 1) (.network .getInstanceNwInfo i.uuid) <;> simp [refreshes]

/-- A run whose interval has elapsed, with an empty heal list and a listing `i :: l` of this
host's instances, refreshes `i` and leaves the uuids of `l`. -/
theorem healInstanceInfoCache_refill {conf : Conf} {host : String} {e : Env} {w : World}
    {s : HealState} {i : Instance} {l : List Instance}
    (hI : 0 < conf.healInstanceInfoCacheInterval)
    (hgap : s.lastInfoCacheHeal + conf.healInstanceInfoCacheInterval ≤ w.clock)
    (hs : s.uuidsToHeal = []) (hf : e.fault w.clock (.db "instance_get_all_by_host" 0) = none)
    (hL : (e.interfere w.clock w.db).instanceGetAllByHost host false = i :: l) :
    ∃ w', healInstanceInfoCache conf host s e w =
      (.ok ({ lastInfoCacheHeal := w.clock, uuidsToHeal := l.map (·.uuid) }, none), w') ∧
      refreshes (w'.calls.drop w.calls.length) = [i.uuid] := by
  have hh : i.host = host := Db.host_of_mem_instanceGetAllByHost (hL ▸ List.mem_cons_self i l)
  have hloop : healLoop host 1 none [] e w =
      (.ok (some (.found i, l.map (·.uuid))), w.tick e (.db "instance_get_all_by_host" 0)) := by
    rw [@healLoop_refill host none rfl]
    simp [instanceGetAllByHost_of_no_fault hf, hL, healLoop_found (filter_host_some hh)]
  simp [healInstanceInfoCache, now, hI.ne', not_lt.2 hgap, hs, hloop]
  cases e.fault (w.clock + 1) (.network .getInstanceNwInfo i.uuid) <;> simp [refreshes]

section RoundRobin

variable {conf : Conf} {host : String} {e : Env} {us : List Nat}
  (hI : 0 < conf.healInstanceInfoCacheInterval)
  (hF : ∀ n m k, e.fault n (.db m k) = none)
  (hE : ∀ n db, Stays host us db → Stays host us (e.interfere n db))
include hI hF hE

/-- Runs from a heal list of instances that stay on the host refresh them one per run. -/
theorem healRuns_pop : ∀ (rest : List Nat) (ws : List World) (s : HealState),
    (∀ u ∈ rest, u ∈ us) → s.uuidsToHeal = rest → ws.length = rest.length →
    (s.lastInfoCacheHeal :: ws.map (·.clock)).Chain'
      (fun a b => a + conf.healInstanceInfoCacheInterval ≤ b) →
    (∀ w ∈ ws, Stays host us w.db) → healRuns conf host e s ws = rest.map fun u => [u]
  | [], [], _, _, _, _, _, _ => rfl
  | u :: rest, w :: ws, s, hsub, hs, hlen, hgap, hS => by
    obtain ⟨i, hg, rfl, hh⟩ := (hE w.clock w.db (hS w (List.mem_cons_self w ws))).2 u
      (hsub u (List.mem_cons_self u rest))
    rw [List.map_cons, List.chain'_cons] at hgap
    obtain ⟨w', hrun, hre⟩ := healInstanceInfoCache_pop hI hgap.1 hs (hF _ _ _) hg hh
    simp only [healRuns, hrun, hre, List.map_cons]
    exact congrArg _ (healRuns_pop rest ws _ (fun v hv => hsub v (List.mem_cons_of_mem _ hv))
      rfl (by simpa using hlen) hgap.2 fun w hw => hS w (List.mem_cons_of_mem _ hw))
  | [], _ :: _, _, _, _, hlen, _, _ | _ :: _, [], _, _, _, hlen, _, _ => by simp at hlen

/-- Each run of the task ends: its loop never uses up the turns it is given.  And from an
empty heal list, runs whose interval has elapsed, over `k ≥ 1` instances that stay on the
host and with no database call failing, refresh each instance once, one per run, in the
order of the host's listing. -/
theorem healRuns_refresh_listing (ws : List World) (s : HealState) (hus : us ≠ [])
    (hlen : ws.length = us.length) (hs : s.uuidsToHeal = [])
    (hgap : (s.lastInfoCacheHeal :: ws.map (·.clock)).Chain'
      (fun a b => a + conf.healInstanceInfoCacheInterval ≤ b))
    (hS : ∀ w ∈ ws, Stays host us w.db) :
    (∀ (e' : Env) (s' : HealState) (w : World), ∃ r,
      (healLoop host (s'.uuidsToHeal.length + 1) none s'.uuidsToHeal e' w).1 = .ok (some r)) ∧
    healRuns conf host e s ws = us.map fun u => [u] := by
  refine ⟨fun e' s' w => healLoop_finishes host e' _ _ none w (Nat.lt_succ_self _), ?_⟩
  obtain ⟨w, ws, rfl⟩ : ∃ w ws', ws = w :: ws' := by
    cases ws with
    | nil => exact absurd (List.length_eq_zero.1 hlen.symm) hus
    | cons w ws => exact ⟨w, ws, rfl⟩
  have hSt := hE w.clock w.db (hS w (List.mem_cons_self w ws))
  obtain ⟨i, l, hL⟩ : ∃ i l, (e.interfere w.clock w.db).instanceGetAllByHost host false = i :: l := by
    cases h : (e.interfere w.clock w.db).instanceGetAllByHost host false with
    | nil => exact absurd (by simpa [h] using hSt.1.symm) hus
    | cons i l => exact ⟨i, l, rfl⟩
  obtain rfl : us = i.uuid :: l.map (·.uuid) := by rw [← hSt.1, hL, List.map_cons]
  rw [List.map_cons, List.chain'_cons] at hgap
  obtain ⟨w', hrun, hre⟩ := healInstanceInfoCache_refill hI hgap.1 hs (hF _ _ _) hL
  simp only [healRuns, hrun, hre, List.map_cons]
  exact congrArg _ (healRuns_pop hI hF hE _ ws _ (fun v hv => List.mem_cons_of_mem _ hv) rfl
    (by simpa using hlen) hgap.2 fun w hw => hS w (List.mem_cons_of_mem _ hw))

end RoundRobin

/-- Two instances on `compute1`, healed by runs at clocks `100` and `200`. -/
theorem healRuns_refresh_two_instances :
    let db : Db :=
      { instances := fun u => if u = 1 ∨ u = 2 then some { uuid := u, host := "compute1" }
          else none
        uuids := [1, 2] }
    let ws : List World := [{ db := db, clock := 100 }, { db := db, clock := 200 }]
    ((0 :: ws.map (·.clock)).Chain' (fun a b => a + 60 ≤ b) ∧
      ∀ w ∈ ws, Stays "compute1" [1, 2] w.db) ∧
    (∀ (e' : Env) (s' : HealState) (w : World), ∃ r,
      (healLoop "compute1" (s'.uuidsToHeal.length + 1) none s'.uuidsToHeal e' w).1 =
        .ok (some r)) ∧
    healRuns {} "compute1" {} {} ws = [[1], [2]] := by
  intro db ws
  have hgap : (0 :: ws.map (·.clock)).Chain' (fun a b => a + 60 ≤ b) := by simp [ws]
  have hdb : Stays "compute1" [1, 2] db := ⟨by decide, fun u hu => by
    rcases List.mem_pair.1 hu with rfl | rfl
    exacts [⟨_, rfl, rfl, rfl⟩, ⟨_, rfl, rfl, rfl⟩]⟩
  have hS : ∀ w ∈ ws, Stays "compute1" [1, 2] w.db := by
    intro w hw
    rcases List.mem_pair.1 hw with rfl | rfl <;> exact hdb
  exact ⟨⟨hgap, hS⟩, healRuns_refresh_listing (by decide) (fun _ _ _ => rfl) (fun _ _ h => h)
    ws {} (by decide) rfl rfl hgap hS⟩

end Manager

end FolsomCloud.Compute
