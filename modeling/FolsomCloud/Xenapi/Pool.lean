import FolsomCloud.Compute.RpcApi
import Mathlib.Logic.Relation
import Mathlib.Logic.Function.Basic

set_option autoImplicit false

/-!
# Xenapi: hypervisor pools

`ResourcePool.add_to_aggregate`, `ResourcePool.remove_from_aggregate` and
`ResourcePool.undo_aggregate_operation` (virt/xenapi/pool.py), the compute manager's
`add_aggregate_host` and `remove_aggregate_host` around them, and the casts of
`ComputeAPI.add_aggregate_host` and `ComputeAPI.remove_aggregate_host` that reach them.

The pool's methods read their argument's columns as attributes (`aggregate.id`,
`aggregate.hosts`, `aggregate.name`), as those of a row object.  The casts carry
`jsonutils.to_primitive(aggregate)`, a dictionary, so `aggregate.id` raises `AttributeError` on
the first line of either method, before any metadata is read or written.  The manager undoes
only an `AggregateError` (and, for a removal, an `InvalidAggregateAction`), so nothing is
undone either (`addAggregateHost_sent`, `removeAggregateHost_sent`).  The same holds of the
removal a host forwards to the main, which carries `aggregate.id`, an integer.

Over every run of the protocol (the API adding and removing hosts, each host processing the
casts in flight in any order, any xenapi call failing or not) every cast in flight is one the
API sent, and the aggregate's metadata is what it was (`Reachable.frozen`).  A pool created
with no hosts stays `created`, with no main and no member, whatever hosts are added
(`reachable_pool_stays_created`).

`pool_states`, `jsonutils.to_primitive`, the API's addition and removal of a host,
`db.aggregate_get`, `db.aggregate_host_add`, `db.aggregate_host_delete` and the xenapi
driver's `add_to_aggregate`, `remove_from_aggregate` and `undo_aggregate_operation` are not in
the sources.  They are modelled from what `pool.py`, `rpcapi.py` and the manager expect of
them.
-/

namespace FolsomCloud.Xenapi

open Compute (Aggregate AggregateArg AggregateCast)

/-! ## Pool states -/

namespace PoolStates

/-- Modelled from the spec: `pool_states.KEY`, the metadata key of the pool state. -/
def key : String := "operational_state"

/-- Modelled from the spec: `pool_states.CREATED`. -/
def created : String := "created"

/-- Modelled from the spec: `pool_states.CHANGING`. -/
def changing : String := "changing"

/-- Modelled from the spec: `pool_states.ACTIVE`. -/
def active : String := "active"

/-- Modelled from the spec: `pool_states.DISMISSED`. -/
def dismissed : String := "dismissed"

/-- Modelled from the spec: `pool_states.ERROR`. -/
def error : String := "error"

/-- Modelled from the spec: `pool_states.POOL_FLAG`, the key that marks a hypervisor pool. -/
def poolFlag : String := "hypervisor_pool"

/-- Modelled from the spec: `pool_states.is_hv_pool`. -/
def isHvPool (metadata : String → Option String) : Bool := (metadata poolFlag).isSome

end PoolStates

open PoolStates

/-- `virtapi.aggregate_metadata_add`: the entries of `kvs`, in order, overwrite the
metadata. -/
def aggregateMetadataAdd (metadata : String → Option String) (kvs : List (String × String)) :
    String → Option String :=
  kvs.foldl (fun m kv => Function.update m kv.1 (some kv.2)) metadata

/-- `virtapi.aggregate_metadata_delete` of one key. -/
def aggregateMetadataDelete (metadata : String → Option String) (k : String) :
    String → Option String :=
  Function.update metadata k none

/-! ## The pool's methods -/

/-- `_create_subordinate_info`.  Of its entries only `xenhost_uuid` reaches the metadata;
the connection URL, the credentials and `compute_uuid` only feed the `host_join` plugin. -/
structure SubordinateInfo where
  xenhostUuid : String
  deriving DecidableEq, Repr

/-- The exceptions of the pool's methods and of the manager's handlers around them. -/
inductive PoolExc where
  /-- a dictionary lookup of a missing key -/
  | keyError (key : String)
  | invalidAggregateAction (action reason : String)
  /-- a xenapi failure of `_init_pool`, `_join_subordinate`, `_eject_subordinate` or
  `_clear_pool`, or a removal with no main -/
  | aggregateError (action : String)
  /-- an attribute `attr` read on an object of type `typeName` that has none -/
  | attributeError (typeName attr : String)
  /-- `db.aggregate_get` of an id no aggregate has -/
  | aggregateNotFound
  /-- the `NovaException` of `_compute_topic`, with its message -/
  | novaException (msg : String)
  deriving DecidableEq, Repr

/-- `aggregate.<attr>`: a row has its columns as attributes, a dictionary or an integer has
none of them. -/
def aggregateAttrs (aggregate : AggregateArg) (attr : String) : Except PoolExc Aggregate :=
  match aggregate with
  | .row a => .ok a
  | a => .error (.attributeError a.typeName attr)

/-- The `ResourcePool` of a compute host: its `CONF.host`, the uuid of its xenapi host, and
the topic of its `compute_rpcapi`, `CONF.compute_topic`. -/
structure ResourcePool where
  host : String
  hostUuid : String
  topic : String

/-- The `invalid` table of `add_to_aggregate`: the states in which no host can be added. -/
def addInvalid (st : String) : Option String :=
  if st = changing then some "setup in progress"
  else if st = dismissed then some "aggregate deleted"
  else if st = error then some "aggregate in error"
  else none

/-- `ResourcePool.add_to_aggregate`: the metadata it leaves, with the cast it forwards to the
main or the exception it raises.  `fail` says whether the xenapi call it makes
(`_init_pool` or `_join_subordinate`) fails.  Its first line reads `aggregate.id`. -/
def ResourcePool.addToAggregate (self : ResourcePool) (fail : Bool)
    (metadata : String → Option String) (aggregate : AggregateArg) (host : String)
    (subordinateInfo : Option SubordinateInfo) :
    Except PoolExc (Option (AggregateCast SubordinateInfo)) × (String → Option String) :=
  match aggregateAttrs aggregate "id" with
  | .error e => (.error e, metadata)
  | .ok agg =>
    if !isHvPool metadata then (.ok none, metadata) else
    match metadata key with
    | none => (.error (.keyError key), metadata)
    | some st =>
      match addInvalid st with
      | some reason => (.error (.invalidAggregateAction "add host" reason), metadata)
      | none =>
        let metadata :=
          if st = created then aggregateMetadataAdd metadata [(key, changing)] else metadata
        if agg.hosts.length = 1 then
          if fail then (.error (.aggregateError "add_to_aggregate"), metadata)
          else (.ok none, aggregateMetadataAdd metadata
            [("main_compute", host), (host, self.hostUuid), (key, active)])
        else
          match metadata "main_compute" with
          | none => (.error (.keyError "main_compute"), metadata)
          | some main =>
            if main = self.host ∧ main ≠ host then
              match subordinateInfo with
              | none => (.error (.attributeError "NoneType" "get"), metadata)
              | some info =>
                if fail then (.error (.aggregateError "add_to_aggregate"), metadata)
                else (.ok none, aggregateMetadataAdd metadata [(host, info.xenhostUuid)])
            else if main ≠ "" ∧ main ≠ host then
              match Compute.ComputeAPI.addAggregateHost self.topic aggregate host main
                  (some { xenhostUuid := self.hostUuid }) with
              | .ok c => (.ok (some c), metadata)
              | .error msg => (.error (.novaException msg), metadata)
            else (.ok none, metadata)

/-- The `invalid` table of `remove_from_aggregate`: the states in which no host can be
removed. -/
def removeInvalid (st : String) : Option String :=
  if st = created then some "no hosts to remove"
  else if st = changing then some "setup in progress"
  else if st = dismissed then some "aggregate deleted"
  else none

/-- `ResourcePool.remove_from_aggregate`: the metadata it leaves, with the cast it forwards to
the main or the exception it raises.  `fail` says whether the xenapi call it makes
(`_eject_subordinate` or `_clear_pool`) fails.  Its first line reads `aggregate.id`, and the
removal it forwards carries `aggregate.id` in place of the aggregate. -/
def ResourcePool.removeFromAggregate (self : ResourcePool) (fail : Bool)
    (metadata : String → Option String) (aggregate : AggregateArg) (host : String) :
    Except PoolExc (Option (AggregateCast SubordinateInfo)) × (String → Option String) :=
  match aggregateAttrs aggregate "id" with
  | .error e => (.error e, metadata)
  | .ok agg =>
    if !isHvPool metadata then (.ok none, metadata) else
    match metadata key with
    | none => (.error (.keyError key), metadata)
    | some st =>
      match removeInvalid st with
      | some reason => (.error (.invalidAggregateAction "remove host" reason), metadata)
      | none =>
        match metadata "main_compute" with
        | none => (.error (.keyError "main_compute"), metadata)
        | some main =>
          if main = self.host ∧ main ≠ host then
            match metadata host with
            | none => (.error (.keyError host), metadata)
            | some _ =>
              if fail then (.error (.aggregateError "remove_from_aggregate"), metadata)
              else (.ok none, aggregateMetadataDelete metadata host)
          else if main = host then
            if agg.hosts.length > 1 then
              (.error (.invalidAggregateAction "remove_from_aggregate"
                ("Unable to eject " ++ host ++ " from the pool; pool not empty")), metadata)
            else if fail then (.error (.aggregateError "remove_from_aggregate"), metadata)
            else (.ok none,
              aggregateMetadataDelete (aggregateMetadataDelete metadata "main_compute") host)
          else if main ≠ "" ∧ main ≠ host then
            match Compute.ComputeAPI.removeAggregateHost self.topic (.id agg.id) host main
                (some { xenhostUuid := self.hostUuid }) with
            | .ok c => (.ok (some c), metadata)
            | .error msg => (.error (.novaException msg), metadata)
          else (.error (.aggregateError "remove_from_aggregate"), metadata)

/-- A dictionary or an integer as the aggregate: both methods raise at `aggregate.id` and
write nothing. -/
theorem addToAggregate_of_not_row (self : ResourcePool) (fail : Bool)
    (metadata : String → Option String) {aggregate : AggregateArg}
    (ha : ∀ a, aggregate ≠ .row a) (host : String) (info : Option SubordinateInfo) :
    self.addToAggregate fail metadata aggregate host info =
      (.error (.attributeError aggregate.typeName "id"), metadata) := by
  cases aggregate with
  | row a => exact absurd rfl (ha a)
  | primitive a => rfl
  | id n => rfl

theorem removeFromAggregate_of_not_row (self : ResourcePool) (fail : Bool)
    (metadata : String → Option String) {aggregate : AggregateArg}
    (ha : ∀ a, aggregate ≠ .row a) (host : String) :
    self.removeFromAggregate fail metadata aggregate host =
      (.error (.attributeError aggregate.typeName "id"), metadata) := by
  cases aggregate with
  | row a => exact absurd rfl (ha a)
  | primitive a => rfl
  | id n => rfl

/-! ## The manager's handlers -/

/-- The aggregate's row. -/
structure AggregateRow where
  id : Nat
  name : String
  hosts : List String
  metadata : String → Option String

/-- The row as `db.aggregate_get` returns it. -/
def AggregateRow.snapshot (row : AggregateRow) : Aggregate := ⟨row.id, row.name, row.hosts⟩

/-- Modelled from the spec: `db.aggregate_host_delete`, the `op` the manager hands to the
undo of an addition. -/
def AggregateRow.aggregateHostDelete (row : AggregateRow) (host : String) : AggregateRow :=
  { row with hosts := row.hosts.erase host }

/-- Modelled from the spec: `db.aggregate_host_add`, the `op` the manager hands to the undo
of a removal. -/
def AggregateRow.aggregateHostAdd (row : AggregateRow) (host : String) : AggregateRow :=
  { row with hosts := row.hosts ++ [host] }

/-- `ResourcePool.undo_aggregate_operation`: mark the pool `error` when `setError`, then run
`op`; its failures are only logged. -/
def undoAggregateOperation (op : AggregateRow → String → AggregateRow) (row : AggregateRow)
    (host : String) (setError : Bool) : AggregateRow :=
  op (if setError then { row with metadata := aggregateMetadataAdd row.metadata [(key, error)] }
    else row) host

/-- Modelled from the spec: the xenapi driver's `undo_aggregate_operation`, which forwards to
the pool's; its `set_error` defaults to `True`. -/
def driverUndoAggregateOperation (op : AggregateRow → String → AggregateRow)
    (row : AggregateRow) (host : String) (setError : Bool) : AggregateRow :=
  undoAggregateOperation op row host setError

/-- What the handlers raise on a cast whose `aggregate` is not a row: `AggregateNotFound` from
`db.aggregate_get` of the `aggregate_id` the casts never carry, when the aggregate is false,
and otherwise `AttributeError` at `aggregate.id`. -/
def notRowError (aggregate : AggregateArg) : PoolExc :=
  if aggregate.truthy then .attributeError aggregate.typeName "id" else .aggregateNotFound

/-- `ComputeManager.add_aggregate_host` on compute host `self`, for the cast `c`.  A false
`aggregate` is looked up by `aggregate_id`; an `AggregateError` of the driver is undone,
taking the host out of the aggregate's hosts and marking the pool `error` (the manager passes
no `set_error`), and re-raised; other exceptions propagate. -/
def addAggregateHost (self : ResourcePool) (fail : Bool) (row : AggregateRow)
    (c : AggregateCast SubordinateInfo) :
    Except PoolExc (Option (AggregateCast SubordinateInfo)) × AggregateRow :=
  if !c.aggregate.truthy then (.error .aggregateNotFound, row) else
  match self.addToAggregate fail row.metadata c.aggregate c.host c.subordinateInfo with
  | (.error (.aggregateError a), metadata) =>
    (.error (.aggregateError a),
      driverUndoAggregateOperation AggregateRow.aggregateHostDelete { row with metadata } c.host
        true)
  | (r, metadata) => (r, { row with metadata })

/-- `ComputeManager.remove_aggregate_host` on compute host `self`, for the cast `c`.  A false
`aggregate` is looked up by `aggregate_id`; an `AggregateError` or an
`InvalidAggregateAction` is undone, putting the host back in the aggregate's hosts, and
re-raised, the undo marking the pool `error` for an `AggregateError` only; other exceptions
propagate. -/
def removeAggregateHost (self : ResourcePool) (fail : Bool) (row : AggregateRow)
    (c : AggregateCast SubordinateInfo) :
    Except PoolExc (Option (AggregateCast SubordinateInfo)) × AggregateRow :=
  if !c.aggregate.truthy then (.error .aggregateNotFound, row) else
  match self.removeFromAggregate fail row.metadata c.aggregate c.host with
  | (.error (.aggregateError a), metadata) =>
    (.error (.aggregateError a),
      driverUndoAggregateOperation AggregateRow.aggregateHostAdd { row with metadata } c.host
        true)
  | (.error (.invalidAggregateAction a r), metadata) =>
    (.error (.invalidAggregateAction a r),
      driverUndoAggregateOperation AggregateRow.aggregateHostAdd { row with metadata } c.host
        false)
  | (r, metadata) => (r, { row with metadata })

section Handlers

variable (self : ResourcePool) (fail : Bool) (row : AggregateRow)
  {c : AggregateCast SubordinateInfo}

theorem addAggregateHost_of_not_row (hc : ∀ a, c.aggregate ≠ .row a) :
    addAggregateHost self fail row c = (.error (notRowError c.aggregate), row) := by
  unfold addAggregateHost notRowError
  cases ht : c.aggregate.truthy
  · rfl
  · simp [addToAggregate_of_not_row self fail row.metadata hc]

theorem removeAggregateHost_of_not_row (hc : ∀ a, c.aggregate ≠ .row a) :
    removeAggregateHost self fail row c = (.error (notRowError c.aggregate), row) := by
  unfold removeAggregateHost notRowError
  cases ht : c.aggregate.truthy
  · rfl
  · simp [removeFromAggregate_of_not_row self fail row.metadata hc]

theorem toPrimitive_ne_row (aggregate : AggregateArg) (a : Aggregate) :
    aggregate.toPrimitive ≠ .row a := by
  cases aggregate <;> simp [AggregateArg.toPrimitive]

variable (topic : String) {aggregate : AggregateArg} {hostParam host : String}
  {info : Option SubordinateInfo}

end Handlers

/-! ## The protocol -/

/-- The aggregate as the casts see it: its row, and the casts not yet processed. -/
structure Pool where
  row : AggregateRow
  inFlight : List (AggregateCast SubordinateInfo)

/-- A hypervisor pool just created: no hosts, state `created`. -/
def Pool.init (id : Nat) (name : String) : Pool where
  row :=
    { id, name, hosts := []
      metadata := fun k =>
        if k = poolFlag then some "true" else if k = key then some created else none }
  inFlight := []

section Protocol

variable (topic : String) (uuid : String → String)

/-- Modelled from the spec: the API's addition of host `h`: `h` is appended to the
aggregate's hosts, and `add_aggregate_host` is cast to `h` with the row as it now is (nothing is
cast if `_compute_topic` raises). -/
def Pool.addHost (p : Pool) (h : String) : Pool :=
  let row := { p.row with hosts := p.row.hosts ++ [h] }
  { row
    inFlight := p.inFlight ++
      (Compute.ComputeAPI.addAggregateHost topic (.row row.snapshot) h h none).toOption.toList }

/-- Modelled from the spec: the API's removal of host `h`: the row is read, `h` is deleted
from the aggregate's hosts, and `remove_aggregate_host` is cast to `h` with the row as
read. -/
def Pool.removeHost (p : Pool) (h : String) : Pool :=
  { row := p.row.aggregateHostDelete h
    inFlight := p.inFlight ++
      (Compute.ComputeAPI.removeAggregateHost topic (.row p.row.snapshot) h h none).toOption.toList }

/-- Compute host `t` processes the `k`-th cast in flight with the manager's method the
message names; `fail` says whether the xenapi call it makes fails.  A cast it forwards joins
the casts in flight. -/
def Pool.deliver (p : Pool) (k : Nat) (t : String) (fail : Bool) : Pool :=
  match p.inFlight[k]? with
  | none => p
  | some c =>
    let self : ResourcePool := ⟨t, uuid t, topic⟩
    let r := match c.msg.method with
      | .addAggregateHost => addAggregateHost self fail p.row c
      | .removeAggregateHost => removeAggregateHost self fail p.row c
      | _ => (.ok none, p.row)
    { row := r.2
      inFlight := p.inFlight.eraseIdx k ++
        match r.1 with
        | .ok (some c') => [c']
        | _ => [] }

/-- One step of the protocol: the API adds or removes a host, or the host whose queue a cast
in flight is on processes it. -/
inductive Step : Pool → Pool → Prop
  | addHost (p : Pool) (h : String) (hh : h ∉ p.row.hosts) : Step p (p.addHost topic h)
  | removeHost (p : Pool) (h : String) (hh : h ∈ p.row.hosts) : Step p (p.removeHost topic h)
  | deliver (p : Pool) (k : Nat) {c : AggregateCast SubordinateInfo}
      (hk : p.inFlight[k]? = some c) (t : String)
      (ht : c.msg.topic = Compute.queueGetFor topic t) (fail : Bool) :
      Step p (p.deliver topic uuid k t fail)

/-- The pools a run of steps leads to. -/
def Reachable : Pool → Pool → Prop := Relation.ReflTransGen (Step topic uuid)

/-! ## Every run leaves the metadata as it was -/

/-- Every cast in flight carries a dictionary or an integer as its aggregate. -/
def NoRowInFlight (p : Pool) : Prop := ∀ c ∈ p.inFlight, ∀ a, c.aggregate ≠ .row a

/-- Processing a cast whose aggregate is not a row takes it out of the flight and changes
nothing else. -/
theorem Pool.deliver_of_not_row {p : Pool} {k : Nat} {c : AggregateCast SubordinateInfo}
    (hk : p.inFlight[k]? = some c) (hc : ∀ a, c.aggregate ≠ .row a) (t : String)
    (fail : Bool) :
    p.deliver topic uuid k t fail = { p with inFlight := p.inFlight.eraseIdx k } := by
  unfold Pool.deliver
  rw [hk]
  dsimp only
  split <;> simp only [addAggregateHost_of_not_row _ _ _ hc,
    removeAggregateHost_of_not_row _ _ _ hc, List.append_nil]

/-- What the API appends to the flight carries the primitive of the row. -/
theorem noRow_of_sent {l : List (AggregateCast SubordinateInfo)}
    {r : Except String (AggregateCast SubordinateInfo)}
    (hr : ∀ c, r = .ok c → ∀ a, c.aggregate ≠ .row a) (hl : ∀ c ∈ l, ∀ a, c.aggregate ≠ .row a) :
    ∀ c ∈ l ++ r.toOption.toList, ∀ a, c.aggregate ≠ .row a := by
  intro c hc
  rcases List.mem_append.1 hc with hc | hc
  · exact hl c hc
  · rcases r with _ | c' <;> simp only [Except.toOption, Option.toList, List.mem_singleton,
      List.not_mem_nil] at hc
    exact hc ▸ hr c' rfl

/-- One step keeps the flight free of rows and leaves the metadata as it was. -/
theorem Step.frozen {p q : Pool} (hs : Step topic uuid p q) (hp : NoRowInFlight p) :
    NoRowInFlight q ∧ q.row.metadata = p.row.metadata := by
  cases hs with
  | addHost h _ =>
    refine ⟨noRow_of_sent (fun c hc => ?_) hp, rfl⟩
    obtain ⟨-, rfl⟩ := Compute.ComputeAPI.addAggregateHost_eq_ok.1 hc
    exact nofun
  | removeHost h _ =>
    refine ⟨noRow_of_sent (fun c hc => ?_) hp, rfl⟩
    obtain ⟨-, rfl⟩ := Compute.ComputeAPI.removeAggregateHost_eq_ok.1 hc
    exact nofun
  | deliver k hk t _ fail =>
    rw [Pool.deliver_of_not_row topic uuid hk (hp _ (List.getElem?_mem hk)) t fail]
    exact ⟨fun c hc => hp c (List.mem_of_mem_eraseIdx hc), rfl⟩

/-- Over every run, the flight stays free of rows and the aggregate's metadata is what it
was: whatever hosts the API adds or removes, in whatever order the hosts process the casts,
whichever xenapi call would fail, no delivery gets past `aggregate.id`. -/
theorem Reachable.frozen {p q : Pool} (hr : Reachable topic uuid p q) (hp : NoRowInFlight p) :
    NoRowInFlight q ∧ q.row.metadata = p.row.metadata := by
  induction hr with
  | refl => exact ⟨hp, rfl⟩
  | tail _ hs ih =>
    obtain ⟨hq, hmd⟩ := ih
    obtain ⟨hq', hmd'⟩ := Step.frozen topic uuid hs hq
    exact ⟨hq', hmd'.trans hmd⟩

/-- A hypervisor pool created with no hosts never gets set up: over every run, whatever hosts
the API adds and removes and in whatever order the casts are processed, the pool state stays
`created`, no `main_compute` is recorded, and no host is recorded as a member; nor is the
pool ever marked `error`. -/
theorem reachable_pool_stays_created {id : Nat} {name : String} {p : Pool}
    (hr : Reachable topic uuid (Pool.init id name) p) :
    p.row.metadata key = some created ∧
      ∀ k, k ≠ key → k ≠ poolFlag → p.row.metadata k = none := by
  rw [(Reachable.frozen topic uuid hr fun _ h => nomatch h).2]
  refine ⟨rfl, fun k hk hf => ?_⟩
  simp [Pool.init, hk, hf]

end Protocol

/-- Hosts `A` and `B` added to a new pool, and both casts processed, `B`'s first: nothing is
left in flight, and the pool is still `created`, with no main and no member. -/
theorem reachable_pool_stays_created_two_hosts :
    let uuid : String → String := fun h => h ++ "-uuid"
    let p := ((((Pool.init 1 "pool").addHost "compute" "A").addHost "compute" "B").deliver
      "compute" uuid 1 "B" false).deliver "compute" uuid 0 "A" false
    Reachable "compute" uuid (Pool.init 1 "pool") p ∧ p.inFlight = [] ∧
      p.row.metadata key = some created ∧
      ∀ k, k ≠ key → k ≠ poolFlag → p.row.metadata k = none := by
  intro uuid p
  have hr : Reachable "compute" uuid (Pool.init 1 "pool") p :=
    .tail (.tail (.tail (.single (.addHost _ "A" (by decide))) (.addHost _ "B" (by decide)))
      (.deliver _ 1 (by rfl) "B" (by rfl) false)) (.deliver _ 0 (by rfl) "A" (by rfl) false)
  exact ⟨hr, rfl, reachable_pool_stays_created "compute" uuid hr⟩

end FolsomCloud.Xenapi
