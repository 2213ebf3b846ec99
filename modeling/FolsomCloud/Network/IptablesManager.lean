import FolsomCloud.Network.IptablesApply

set_option autoImplicit false

/-!
# Network: the module's `iptables_manager` and the functions that drive it

`linux_net` keeps one `IptablesManager` per process, `iptables_manager`.  Its `__init__`
declares the shared `nova-filter-top` chain and wraps the built-in chains of the IPv4
`filter` and `nat` tables and of the IPv6 `filter` table.  The module's functions
(`metadata_forward`, `init_host`, `ensure_floating_forward`, ...) add rules to those tables
and call `apply()`, which, unless applies are deferred, runs `_apply`: for each table,
`iptables-save`, `_modify_rules` and `iptables-restore`.  Either command can fail with
`ProcessExecutionError`, which ends `_apply` there, after `_modify_rules` has flushed the
table's remove lists.

The model threads the manager and the kernel's tables (`NetState`) through `NetM`, an
`EStateM` whose state survives an exception, as the Python object does.  The functions are
specified once, by what they keep (`NetM.Preserves`) and whether they can raise `ValueError`
(`NetM.NoValueError`); both are built up from the combinators.

Over every run of the module's functions from `__init__`, whatever their arguments and
whichever commands fail, no `add_rule` raises `ValueError`: every chain they add rules to is
one `__init__` declares, and no function removes a chain (`netRun_no_valueError`).  An
`_apply` that returns leaves in every table it visits no line of the component but the
table's own (`apply'_synced`), so the forwarding of a floating IP, once removed, leaves no
trace in the kernel (`floatingForward_round_trip`).  While applies are deferred, no call but
`defer_apply_off` touches the kernel (`deferred_runAll_kernel`).
-/

namespace FolsomCloud.Network

open PyStr

/-! ## The manager -/

/-- The tables `IptablesManager` keeps: `ipv4['filter']`, `ipv4['nat']` and
`ipv6['filter']`. -/
inductive TableKey where
  | ipv4Filter
  | ipv4Nat
  | ipv6Filter
  deriving DecidableEq, Repr

/-- The command `_apply` runs for the table: `iptables`, or `ip6tables` for IPv6. -/
def TableKey.cmd : TableKey → String
  | .ipv4Filter | .ipv4Nat => "iptables"
  | .ipv6Filter => "ip6tables"

/-- `IptablesManager`: its tables, and `iptables_apply_deferred`. -/
structure IptablesManager where
  tables : TableKey → IptablesTable
  iptablesApplyDeferred : Bool

/-- The manager with table `k` replaced. -/
def IptablesManager.setTable (m : IptablesManager) (k : TableKey) (t : IptablesTable) :
    IptablesManager :=
  { m with tables := Function.update m.tables k t }

@[simp] theorem IptablesManager.setTable_tables (m : IptablesManager) (k j : TableKey)
    (t : IptablesTable) : (m.setTable k t).tables j = if j = k then t else m.tables j :=
  Function.update_apply _ _ _ _

@[simp] theorem IptablesManager.setTable_deferred (m : IptablesManager) (k : TableKey)
    (t : IptablesTable) : (m.setTable k t).iptablesApplyDeferred = m.iptablesApplyDeferred := rfl

section Init

variable (binaryName : String)

/-- The turn of `__init__`'s loop over `[self.ipv4, self.ipv6]`, on the `filter` table: the
unwrapped `nova-filter-top` chain, jumped to at the top of `FORWARD` and `OUTPUT`, and the
wrapped `local` chain it jumps to. -/
def filterTop (t : IptablesTable) : Except String IptablesTable := do
  let t := t.addChain "nova-filter-top" false
  let t ← t.addRule binaryName "FORWARD" "-j nova-filter-top" false true
  let t ← t.addRule binaryName "OUTPUT" "-j nova-filter-top" false true
  let t := t.addChain "local" true
  t.addRule binaryName "nova-filter-top" "-j $local" false false

/-- `builtin_chains`: the built-in chains `__init__` wraps in each table. -/
def builtinChains : TableKey → List String
  | .ipv4Filter | .ipv6Filter => ["INPUT", "OUTPUT", "FORWARD"]
  | .ipv4Nat => ["PREROUTING", "OUTPUT", "POSTROUTING"]

/-- One built-in chain wrapped: its wrapped chain, and the built-in chain's jump to it. -/
def wrapBuiltin (t : IptablesTable) (chain : String) : Except String IptablesTable :=
  (t.addChain chain true).addRule binaryName chain ("-j $" ++ chain) false false

/-- The `nat` chains `__init__` adds last: `nova-postrouting-bottom` at the end of
`POSTROUTING`, the wrapped `snat` in it, and the wrapped `float-snat` first in `snat`. -/
def natBottom (t : IptablesTable) : Except String IptablesTable := do
  let t := t.addChain "nova-postrouting-bottom" false
  let t ← t.addRule binaryName "POSTROUTING" "-j nova-postrouting-bottom" false false
  let t := t.addChain "snat" true
  let t ← t.addRule binaryName "nova-postrouting-bottom" "-j $snat" false false
  let t := t.addChain "float-snat" true
  t.addRule binaryName "snat" "-j $float-snat" true false

/-- `IptablesManager.__init__`.  Each table is built on its own, so the order in which the
loops visit the tables does not matter. -/
def IptablesManager.init : Except String IptablesManager := do
  let filter4 ← filterTop binaryName {}
  let filter6 ← filterTop binaryName {}
  let filter4 ← (builtinChains .ipv4Filter).foldlM (wrapBuiltin binaryName) filter4
  let nat4 ← (builtinChains .ipv4Nat).foldlM (wrapBuiltin binaryName) {}
  let filter6 ← (builtinChains .ipv6Filter).foldlM (wrapBuiltin binaryName) filter6
  let nat4 ← natBottom binaryName nat4
  pure { tables := fun | .ipv4Filter => filter4 | .ipv4Nat => nat4 | .ipv6Filter => filter6,
         iptablesApplyDeferred := false }

end Init

/-! ## What every manager of a run keeps -/

/-- The wrapped chains `__init__` declares in each table: the ones the module's functions add
rules to. -/
def initChains : TableKey → List String
  | .ipv4Filter | .ipv6Filter => ["local", "INPUT", "OUTPUT", "FORWARD"]
  | .ipv4Nat => ["PREROUTING", "OUTPUT", "POSTROUTING", "snat", "float-snat"]

/-- What every manager of a run from `__init__` satisfies: every table is well formed,
declares the chains `__init__` declares in it, and has no rule queued for removal (the
module's functions only remove wrapped rules, which are never queued). -/
structure ManagerInv (m : IptablesManager) : Prop where
  wf : ∀ k, TableWF (m.tables k)
  declared : ∀ k, ∀ c ∈ initChains k, c ∈ (m.tables k).chains
  queued : ∀ k, (m.tables k).removeRules = []

@[simp] theorem IptablesTable.removeRule_chains (t : IptablesTable) (chain rule : String)
    (wrap top : Bool) : (t.removeRule chain rule wrap top).chains = t.chains := by
  simp only [IptablesTable.removeRule]; split_ifs <;> rfl

/-- `remove_rule` of a wrapped rule queues nothing. -/
theorem IptablesTable.removeRule_removeRules_wrapped (t : IptablesTable) (chain rule : String)
    (top : Bool) : (t.removeRule chain rule true top).removeRules = t.removeRules := by
  simp only [IptablesTable.removeRule]; split_ifs <;> rfl

/-- `add_rule` of an unwrapped rule, or of a rule of a declared chain, succeeds and leaves
the chains and the removal queue. -/
theorem IptablesTable.addRule_ok (binaryName : String) (t : IptablesTable) (chain rule : String)
    (wrap top : Bool) (hc : wrap = true → chain ∈ t.chains) :
    ∃ t', t.addRule binaryName chain rule wrap top = .ok t' ∧ t'.chains = t.chains ∧
      t'.removeRules = t.removeRules := by
  rw [IptablesTable.addRule, if_neg fun h => h.2 (hc h.1)]
  exact ⟨_, rfl, rfl, rfl⟩

section InitInv

variable (binaryName : String)

/-- A table on the way through `__init__`: well formed, with an empty removal queue. -/
structure Building (t : IptablesTable) : Prop where
  wf : TableWF t
  queued : t.removeRules = []

theorem Building.empty : Building {} := ⟨TableWF.empty, rfl⟩

theorem Building.addChain {t : IptablesTable} (ht : Building t) (name : String) (wrap : Bool) :
    Building (t.addChain name wrap) :=
  ⟨ht.wf.addChain name wrap, by cases wrap <;> exact ht.queued⟩

/-- A step of `__init__` that adds a rule keeps the table building, and its chains. -/
theorem Building.addRule {t : IptablesTable} (ht : Building t) (chain rule : String)
    (wrap top : Bool) (hc : wrap = true → chain ∈ t.chains) :
    ∃ t', t.addRule binaryName chain rule wrap top = .ok t' ∧ Building t' ∧ t'.chains = t.chains := by
  obtain ⟨t', h, hch, hq⟩ := IptablesTable.addRule_ok binaryName t chain rule wrap top hc
  exact ⟨t', h, ⟨ht.wf.addRule h, hq.trans ht.queued⟩, hch⟩

theorem filterTop_ok {t : IptablesTable} (ht : Building t) :
    ∃ t', filterTop binaryName t = .ok t' ∧ Building t' ∧ "local" ∈ t'.chains := by
  obtain ⟨t₁, h₁, b₁, -⟩ := (ht.addChain "nova-filter-top" false).addRule binaryName
    "FORWARD" "-j nova-filter-top" false true nofun
  obtain ⟨t₂, h₂, b₂, -⟩ := b₁.addRule binaryName
    "OUTPUT" "-j nova-filter-top" false true nofun
  obtain ⟨t₃, h₃, b₃, c₃⟩ := (b₂.addChain "local" true).addRule binaryName
    "nova-filter-top" "-j $local" false false nofun
  refine ⟨t₃, ?_, b₃, c₃ ▸ List.mem_insert_self _ _⟩
  simp only [filterTop, bind, Except.bind, h₁, h₂, h₃]

theorem foldlM_wrapBuiltin_ok : ∀ (chains : List String) {t : IptablesTable}, Building t →
    ∃ t', chains.foldlM (wrapBuiltin binaryName) t = .ok t' ∧ Building t' ∧
      ∀ c, c ∈ t.chains ∨ c ∈ chains → c ∈ t'.chains
  | [], t, ht => ⟨t, rfl, ht, fun c h => h.resolve_right (List.not_mem_nil c)⟩
  | c :: cs, t, ht => by
    obtain ⟨t₁, h₁, b₁, c₁⟩ := (ht.addChain c true).addRule binaryName
      c ("-j $" ++ c) false false nofun
    obtain ⟨t', h', b', c'⟩ := foldlM_wrapBuiltin_ok cs b₁
    refine ⟨t', ?_, b', fun d hd => c' d ?_⟩
    · simp only [List.foldlM_cons, wrapBuiltin, h₁, bind, Except.bind, h']
    · rw [c₁, IptablesTable.addChain, if_pos rfl]
      rcases hd with hd | hd
      · exact .inl (List.mem_insert_of_mem hd)
      · rcases List.mem_cons.1 hd with rfl | hd
        · exact .inl (List.mem_insert_self _ _)
        · exact .inr hd

theorem natBottom_ok {t : IptablesTable} (ht : Building t) :
    ∃ t', natBottom binaryName t = .ok t' ∧ Building t' ∧
      ∀ c, c ∈ t.chains ∨ c = "snat" ∨ c = "float-snat" → c ∈ t'.chains := by
  obtain ⟨t₁, h₁, b₁, c₁⟩ := (ht.addChain "nova-postrouting-bottom" false).addRule binaryName
    "POSTROUTING" "-j nova-postrouting-bottom" false false nofun
  obtain ⟨t₂, h₂, b₂, c₂⟩ := (b₁.addChain "snat" true).addRule binaryName
    "nova-postrouting-bottom" "-j $snat" false false nofun
  obtain ⟨t₃, h₃, b₃, c₃⟩ := (b₂.addChain "float-snat" true).addRule binaryName
    "snat" "-j $float-snat" true false fun _ => by
      rw [IptablesTable.addChain, if_pos rfl, c₂, IptablesTable.addChain, if_pos rfl]
      exact List.mem_insert_of_mem (List.mem_insert_self _ _)
  refine ⟨t₃, ?_, b₃, fun c hc => ?_⟩
  · simp only [natBottom, bind, Except.bind, h₁, h₂, h₃]
  · rw [c₃, IptablesTable.addChain, if_pos rfl, c₂, IptablesTable.addChain, if_pos rfl, c₁,
      IptablesTable.addChain, if_neg Bool.false_ne_true]
    rcases hc with hc | rfl | rfl
    · exact List.mem_insert_of_mem (List.mem_insert_of_mem hc)
    · exact List.mem_insert_of_mem (List.mem_insert_self _ _)
    · exact List.mem_insert_self _ _

/-- `__init__` raises nothing, and the manager it builds satisfies the invariant.  It builds
the IPv4 and the IPv6 `filter` tables alike. -/
theorem IptablesManager.init_ok : ∃ m, IptablesManager.init binaryName = .ok m ∧ ManagerInv m := by
  obtain ⟨f, hf, bf, lf⟩ := filterTop_ok binaryName Building.empty
  obtain ⟨g, hg, bg, cg⟩ := foldlM_wrapBuiltin_ok binaryName
    (builtinChains .ipv4Filter) bf
  have hg' : (builtinChains .ipv6Filter).foldlM (wrapBuiltin binaryName) f = .ok g := hg
  obtain ⟨n, hn, bn, cn⟩ := foldlM_wrapBuiltin_ok binaryName
    (builtinChains .ipv4Nat) Building.empty
  obtain ⟨n', hn', bn', cn'⟩ := natBottom_ok binaryName bn
  have hfilter : ∀ c ∈ initChains .ipv4Filter, c ∈ g.chains := fun c hc => by
    rcases List.mem_cons.1 hc with rfl | hc
    · exact cg _ (.inl lf)
    · exact cg _ (.inr hc)
  refine ⟨_, by simp only [IptablesManager.init, bind, Except.bind, hf, hg, hg', hn, hn']; rfl,
    ⟨fun k => ?_, fun k => ?_, fun k => ?_⟩⟩
  · cases k
    exacts [bg.wf, bn'.wf, bg.wf]
  · cases k
    · exact hfilter
    · intro c hc
      refine cn' c ?_
      simp only [initChains, List.mem_cons, List.mem_singleton, List.not_mem_nil, or_false] at hc
      rcases hc with rfl | rfl | rfl | rfl | rfl
      iterate 3 exact .inl (cn _ (.inr (by decide)))
      exacts [.inr (.inl rfl), .inr (.inr rfl)]
    · exact hfilter
  · cases k
    exacts [bg.queued, bn'.queued, bg.queued]

end InitInv

/-! ## Calls on the module's manager -/

/-- What the module's functions act on: `iptables_manager`, and the kernel's tables as
`iptables-save` lists them, one line per entry. -/
structure NetState where
  manager : IptablesManager
  kernel : TableKey → List String

/-- What a call raises: `add_rule`'s `ValueError` for an unknown wrapped chain,
`_modify_rules`' `IndexError`, or the `ProcessExecutionError` of a failed command. -/
inductive NetErr where
  | valueError (msg : String)
  | indexError
  | processExecutionError (cmd : String)
  deriving DecidableEq, Repr

/-- A call on the module's state; the state survives an exception. -/
abbrev NetM := EStateM NetErr NetState

namespace NetM

/-- The state `x` leaves, whether it returns or raises. -/
def after {α : Type} (x : NetM α) (s : NetState) : NetState :=
  match x s with
  | .ok _ s' => s'
  | .error _ s' => s'

theorem bind_apply {α β : Type} (x : NetM α) (f : α → NetM β) (s : NetState) :
    (x >>= f) s = match x s with
      | .ok a s' => f a s'
      | .error e s' => .error e s' := by
  cases h : x s <;> simp only [bind, EStateM.bind, h]

theorem bind_of_ok {α β : Type} {x : NetM α} {f : α → NetM β} {s s' : NetState} {a : α}
    (h : x s = .ok a s') : (x >>= f) s = f a s' := by
  rw [bind_apply, h]

@[simp] theorem pure_apply {α : Type} (a : α) (s : NetState) : (pure a : NetM α) s = .ok a s := rfl

end NetM

section Calls

variable (binaryName : String)

/-- A method of table `k` of the module's manager; a `ValueError` leaves the table as it
was. -/
def onTable (k : TableKey) (f : IptablesTable → Except String IptablesTable) : NetM Unit :=
  fun s => match f (s.manager.tables k) with
    | .ok t => .ok () { s with manager := s.manager.setTable k t }
    | .error msg => .error (.valueError msg) s

/-- A failed command of one `_apply` (after its five attempts): the `iptables-save` or the
`iptables-restore` of a table. -/
inductive ExecFault where
  | save (k : TableKey)
  | restore (k : TableKey)
  deriving DecidableEq, Repr

/-- The turn of `_apply`'s loop for table `k`: `iptables-save`, then `_modify_rules`, which
flushes the table's remove lists, then `iptables-restore` of the new text; `fault` is the
command of the apply that fails, if any. -/
def applyTable (fault : Option ExecFault) (k : TableKey) : NetM Unit := fun s =>
  if fault = some (.save k) then .error (.processExecutionError (k.cmd ++ "-save")) s
  else
    match modifyRules binaryName (s.kernel k) (s.manager.tables k) with
    | none => .error .indexError s
    | some (newFilter, t) =>
      if fault = some (.restore k) then
        .error (.processExecutionError (k.cmd ++ "-restore"))
          { s with manager := s.manager.setTable k t }
      else .ok () { manager := s.manager.setTable k t, kernel := Function.update s.kernel k newFilter }

/-- The tables `_apply` visits, in order: those of the IPv4 dictionary (`filter` before
`nat`), then with `use_ipv6` the IPv6 `filter`. -/
def applyKeys (useIpv6 : Bool) : List TableKey :=
  [.ipv4Filter, .ipv4Nat] ++ if useIpv6 then [.ipv6Filter] else []

/-- `IptablesManager._apply`. -/
def IptablesManager.apply' (useIpv6 : Bool) (fault : Option ExecFault) : NetM Unit :=
  (applyKeys useIpv6).forM (applyTable binaryName fault)

/-- `IptablesManager.apply`: nothing while applies are deferred. -/
def IptablesManager.apply (useIpv6 : Bool) (fault : Option ExecFault) : NetM Unit := do
  if (← get).manager.iptablesApplyDeferred then pure ()
  else IptablesManager.apply' binaryName useIpv6 fault

/-- `self.iptables_apply_deferred = b`. -/
def setDeferred (b : Bool) : NetM Unit := fun s =>
  .ok () { s with manager := { s.manager with iptablesApplyDeferred := b } }

/-- `IptablesManager.defer_apply_on`. -/
def IptablesManager.deferApplyOn : NetM Unit := setDeferred true

/-- `IptablesManager.defer_apply_off`. -/
def IptablesManager.deferApplyOff (useIpv6 : Bool) (fault : Option ExecFault) : NetM Unit := do
  setDeferred false
  IptablesManager.apply' binaryName useIpv6 fault

/-- The options the functions read. -/
structure IptablesConf where
  useIpv6 : Bool
  metadataHost : String
  metadataPort : Nat
  routingSourceIp : String
  publicInterface : String
  fixedRange : String
  dmzCidr : List String

variable (conf : IptablesConf)

/-- `metadata_forward`: the metadata address is DNATed to the metadata server, or
redirected to its port when the server is local. -/
def metadataForward (fault : Option ExecFault) : NetM Unit := do
  let rule := if conf.metadataHost ≠ "127.0.0.1" then
      "-s 0.0.0.0/0 -d 169.254.169.254/32 -p tcp -m tcp --dport 80 -j DNAT --to-destination " ++
        conf.metadataHost ++ ":" ++ toString conf.metadataPort
    else
      "-s 0.0.0.0/0 -d 169.254.169.254/32 -p tcp -m tcp --dport 80 -j REDIRECT --to-ports " ++
        toString conf.metadataPort
  onTable .ipv4Nat (·.addRule binaryName "PREROUTING" rule true false)
  IptablesManager.apply binaryName conf.useIpv6 fault

/-- `metadata_accept`. -/
def metadataAccept (fault : Option ExecFault) : NetM Unit := do
  onTable .ipv4Filter (·.addRule binaryName "INPUT"
    ("-s 0.0.0.0/0 -d " ++ conf.metadataHost ++ " -p tcp -m tcp --dport " ++
      toString conf.metadataPort ++ " -j ACCEPT") true false)
  IptablesManager.apply binaryName conf.useIpv6 fault

/-- `add_snat_rule`: nothing without a `routing_source_ip`. -/
def addSnatRule (ipRange : String) (fault : Option ExecFault) : NetM Unit :=
  if conf.routingSourceIp ≠ "" then do
    let rule := "-s " ++ ipRange ++ " -j SNAT --to-source " ++ conf.routingSourceIp
    let rule := if conf.publicInterface ≠ "" then rule ++ " -o " ++ conf.publicInterface else rule
    onTable .ipv4Nat (·.addRule binaryName "snat" rule true false)
    IptablesManager.apply binaryName conf.useIpv6 fault
  else pure ()

/-- `init_host`; an `ip_range` of `None` or `''` is `fixed_range`.  `fault₁` is the failed
command of `add_snat_rule`'s apply, `fault₂` that of its own. -/
def initHost (ipRange : Option String) (fault₁ fault₂ : Option ExecFault) : NetM Unit := do
  let ipRange := (ipRange.filter (· ≠ "")).getD conf.fixedRange
  addSnatRule binaryName conf ipRange fault₁
  onTable .ipv4Nat (·.addRule binaryName "POSTROUTING"
    ("-s " ++ ipRange ++ " -d " ++ conf.metadataHost ++ "/32 -j ACCEPT") true false)
  conf.dmzCidr.forM fun dmz => onTable .ipv4Nat (·.addRule binaryName "POSTROUTING"
    ("-s " ++ ipRange ++ " -d " ++ dmz ++ " -j ACCEPT") true false)
  onTable .ipv4Nat (·.addRule binaryName "POSTROUTING"
    ("-s " ++ ipRange ++ " -d " ++ ipRange ++ " -m conntrack ! --ctstate DNAT -j ACCEPT") true false)
  IptablesManager.apply binaryName conf.useIpv6 fault₂

/-- `ensure_vpn_forward`. -/
def ensureVpnForward (publicIp : String) (port : Nat) (privateIp : String)
    (fault : Option ExecFault) : NetM Unit := do
  onTable .ipv4Filter (·.addRule binaryName "FORWARD"
    ("-d " ++ privateIp ++ " -p udp --dport 1194 -j ACCEPT") true false)
  onTable .ipv4Nat (·.addRule binaryName "PREROUTING"
    ("-d " ++ publicIp ++ " -p udp --dport " ++ toString port ++ " -j DNAT --to " ++ privateIp ++
      ":1194") true false)
  onTable .ipv4Nat (·.addRule binaryName "OUTPUT"
    ("-d " ++ publicIp ++ " -p udp --dport " ++ toString port ++ " -j DNAT --to " ++ privateIp ++
      ":1194") true false)
  IptablesManager.apply binaryName conf.useIpv6 fault

/-- `floating_forward_rules`: the chain and text of each rule; a `device` of `None` is
`''`. -/
def floatingForwardRules (floatingIp fixedIp device : String) : List (String × String) :=
  let rule := "-s " ++ fixedIp ++ " -j SNAT --to " ++ floatingIp
  let rule := if device ≠ "" then rule ++ " -o " ++ device else rule
  [("PREROUTING", "-d " ++ floatingIp ++ " -j DNAT --to " ++ fixedIp),
   ("OUTPUT", "-d " ++ floatingIp ++ " -j DNAT --to " ++ fixedIp),
   ("float-snat", rule)]

/-- `ensure_floating_forward`. -/
def ensureFloatingForward (floatingIp fixedIp device : String) (fault : Option ExecFault) :
    NetM Unit := do
  (floatingForwardRules floatingIp fixedIp device).forM fun p =>
    onTable .ipv4Nat (·.addRule binaryName p.1 p.2 true false)
  IptablesManager.apply binaryName conf.useIpv6 fault

/-- `remove_floating_forward`. -/
def removeFloatingForward (floatingIp fixedIp device : String) (fault : Option ExecFault) :
    NetM Unit := do
  (floatingForwardRules floatingIp fixedIp device).forM fun p =>
    onTable .ipv4Nat fun t => .ok (t.removeRule p.1 p.2 true false)
  IptablesManager.apply binaryName conf.useIpv6 fault

/-- `_add_dnsmasq_accept_rules`: DHCP and DNS, over UDP and TCP, into `INPUT`. -/
def addDnsmasqAcceptRules (dev : String) (fault : Option ExecFault) : NetM Unit := do
  [67, 53].forM fun port => ["udp", "tcp"].forM fun proto =>
    onTable .ipv4Filter (·.addRule binaryName "INPUT"
      ("-i " ++ dev ++ " -p " ++ proto ++ " -m " ++ proto ++ " --dport " ++ toString port ++
        " -j ACCEPT") true false)
  IptablesManager.apply binaryName conf.useIpv6 fault

/-- A call of `linux_net` on the module's manager, with the failed command of each apply it
makes. -/
inductive NetCall where
  | metadataForward (fault : Option ExecFault)
  | metadataAccept (fault : Option ExecFault)
  | addSnatRule (ipRange : String) (fault : Option ExecFault)
  | initHost (ipRange : Option String) (fault₁ fault₂ : Option ExecFault)
  | ensureVpnForward (publicIp : String) (port : Nat) (privateIp : String)
      (fault : Option ExecFault)
  | ensureFloatingForward (floatingIp fixedIp device : String) (fault : Option ExecFault)
  | removeFloatingForward (floatingIp fixedIp device : String) (fault : Option ExecFault)
  | addDnsmasqAcceptRules (dev : String) (fault : Option ExecFault)
  | apply (fault : Option ExecFault)
  | deferApplyOn
  | deferApplyOff (fault : Option ExecFault)
  deriving DecidableEq, Repr

/-- What the call runs. -/
def NetCall.run : NetCall → NetM Unit
  | .metadataForward f => Network.metadataForward binaryName conf f
  | .metadataAccept f => Network.metadataAccept binaryName conf f
  | .addSnatRule r f => Network.addSnatRule binaryName conf r f
  | .initHost r f₁ f₂ => Network.initHost binaryName conf r f₁ f₂
  | .ensureVpnForward a p b f => Network.ensureVpnForward binaryName conf a p b f
  | .ensureFloatingForward a b d f => Network.ensureFloatingForward binaryName conf a b d f
  | .removeFloatingForward a b d f => Network.removeFloatingForward binaryName conf a b d f
  | .addDnsmasqAcceptRules d f => Network.addDnsmasqAcceptRules binaryName conf d f
  | .apply f => IptablesManager.apply binaryName conf.useIpv6 f
  | .deferApplyOn => IptablesManager.deferApplyOn
  | .deferApplyOff f => IptablesManager.deferApplyOff binaryName conf.useIpv6 f

/-- One call, returned or raised. -/
def NetStep (s s' : NetState) : Prop := ∃ c : NetCall, s' = NetM.after (c.run binaryName conf) s

/-- The states a run of calls leads to. -/
def NetRun : NetState → NetState → Prop := Relation.ReflTransGen (NetStep binaryName conf)

/-- The calls `cs`, one after another, each returned or raised. -/
def NetCall.runAll : List NetCall → NetState → NetState
  | [], s => s
  | c :: cs, s => NetCall.runAll cs (NetM.after (c.run binaryName conf) s)

end Calls

/-! ## What a call keeps -/

namespace NetM

variable {P : NetState → Prop} {α β γ : Type}

/-- `x` keeps the property `P` of the state, whether it returns or raises. -/
def Preserves (P : NetState → Prop) (x : NetM α) : Prop := ∀ s, P s → P (NetM.after x s)

/-- From a state that satisfies `P`, `x` raises no `ValueError`. -/
def NoValueError (P : NetState → Prop) (x : NetM α) : Prop :=
  ∀ s, P s → ∀ msg s', x s ≠ .error (.valueError msg) s'

theorem preserves_pure (a : α) : Preserves P (pure a : NetM α) := fun _ h => h

theorem noValueError_pure (a : α) : NoValueError P (pure a : NetM α) := fun _ _ _ _ => nofun

theorem Preserves.bind {x : NetM α} {f : α → NetM β} (hx : Preserves P x)
    (hf : ∀ a, Preserves P (f a)) : Preserves P (x >>= f) := by
  intro s hs
  have h := hx s hs
  unfold after at h ⊢
  rw [bind_apply]
  cases hxs : x s with
  | ok a s' => rw [hxs] at h; exact hf a s' h
  | error e s' => rw [hxs] at h; exact h

theorem NoValueError.bind {x : NetM α} {f : α → NetM β} (hx : NoValueError P x)
    (hxp : Preserves P x) (hf : ∀ a, NoValueError P (f a)) : NoValueError P (x >>= f) := by
  intro s hs msg s'
  have h := hxp s hs
  unfold after at h
  rw [bind_apply]
  cases hxs : x s with
  | ok a s₁ => rw [hxs] at h; exact hf a s₁ h msg s'
  | error e s₁ =>
    rintro ⟨⟩
    exact hx s hs msg s' hxs

theorem Preserves.forM {l : List γ} {f : γ → NetM Unit} (hf : ∀ a ∈ l, Preserves P (f a)) :
    Preserves P (l.forM f) := by
  induction l with
  | nil => exact preserves_pure _
  | cons a l ih =>
    rw [List.forM_cons']
    exact (hf a (.head _)).bind fun _ => ih fun b hb => hf b (.tail _ hb)

theorem NoValueError.forM {l : List γ} {f : γ → NetM Unit} (hf : ∀ a ∈ l, NoValueError P (f a))
    (hp : ∀ a ∈ l, Preserves P (f a)) : NoValueError P (l.forM f) := by
  induction l with
  | nil => exact noValueError_pure _
  | cons a l ih =>
    rw [List.forM_cons']
    exact (hf a (.head _)).bind (hp a (.head _)) fun _ =>
      ih (fun b hb => hf b (.tail _ hb)) fun b hb => hp b (.tail _ hb)

end NetM

open NetM

/-- The invariant of the module's manager, read off the state. -/
def Inv (s : NetState) : Prop := ManagerInv s.manager

/-- `x` keeps the manager invariant, and from a state that satisfies it raises no
`ValueError`. -/
structure Safe {α : Type} (x : NetM α) : Prop where
  preserves : Preserves Inv x
  noValueError : NoValueError Inv x

namespace Safe

variable {α β γ : Type}

theorem pure (a : α) : Safe (Pure.pure a : NetM α) := ⟨preserves_pure a, noValueError_pure a⟩

theorem bind {x : NetM α} {f : α → NetM β} (hx : Safe x) (hf : ∀ a, Safe (f a)) :
    Safe (x >>= f) :=
  ⟨hx.preserves.bind fun a => (hf a).preserves,
    hx.noValueError.bind hx.preserves fun a => (hf a).noValueError⟩

theorem forM {l : List γ} {f : γ → NetM Unit} (hf : ∀ a ∈ l, Safe (f a)) : Safe (l.forM f) :=
  ⟨.forM fun a h => (hf a h).preserves,
    .forM (fun a h => (hf a h).noValueError) fun a h => (hf a h).preserves⟩

theorem ite {c : Prop} [Decidable c] {x y : NetM α} (hx : Safe x) (hy : Safe y) :
    Safe (if c then x else y) := by
  split <;> assumption

end Safe

section Safety

variable (binaryName : String)

theorem ManagerInv.setTable {m : IptablesManager} (hm : ManagerInv m) {k : TableKey}
    {t : IptablesTable} (hwf : TableWF t) (hc : ∀ c ∈ initChains k, c ∈ t.chains)
    (hq : t.removeRules = []) : ManagerInv (m.setTable k t) := by
  refine ⟨fun j => ?_, fun j => ?_, fun j => ?_⟩ <;> by_cases hj : j = k <;>
    simp only [IptablesManager.setTable_tables, hj, if_true, if_false]
  all_goals first | (subst hj; assumption) | exact hm.wf j | exact hm.declared j | exact hm.queued j

/-- `add_rule` of a wrapped rule in one of the chains `__init__` declares. -/
theorem safe_addRule {k : TableKey} {chain : String} (hc : chain ∈ initChains k) (rule : String)
    (top : Bool) : Safe (onTable k (·.addRule binaryName chain rule true top)) := by
  have key : ∀ s : NetState, Inv s → ∃ t, (s.manager.tables k).addRule binaryName chain rule true top = .ok t ∧
      Inv { s with manager := s.manager.setTable k t } := fun s hs => by
    obtain ⟨t, h, hch, hq⟩ := IptablesTable.addRule_ok binaryName (s.manager.tables k) chain rule
      true top fun _ => hs.declared k chain hc
    exact ⟨t, h, hs.setTable ((hs.wf k).addRule h) (hch ▸ hs.declared k) (hq.trans (hs.queued k))⟩
  refine ⟨fun s hs => ?_, fun s hs msg s' => ?_⟩ <;> obtain ⟨t, h, ht⟩ := key s hs <;>
    simp only [onTable, after, h]
  · exact ht
  · exact nofun

/-- `remove_rule` of a wrapped rule. -/
theorem safe_removeRule (k : TableKey) (chain rule : String) (top : Bool) :
    Safe (onTable k fun t => .ok (t.removeRule chain rule true top)) := by
  refine ⟨fun s hs => ?_, fun s _ msg s' => by simp [onTable]⟩
  refine hs.setTable ((hs.wf k).removeRule chain rule true top) ?_ ?_
  · rw [IptablesTable.removeRule_chains]; exact hs.declared k
  · rw [IptablesTable.removeRule_removeRules_wrapped]; exact hs.queued k

/-- A turn of `_apply`: `_modify_rules` keeps the rules and chains of the table, and empties
its remove lists. -/
theorem safe_applyTable (fault : Option ExecFault) (k : TableKey) :
    Safe (applyTable binaryName fault k) := by
  have key : ∀ s : NetState, Inv s → ∀ {nf t},
      modifyRules binaryName (s.kernel k) (s.manager.tables k) = some (nf, t) →
        ManagerInv (s.manager.setTable k t) := fun s hs nf t h => by
    obtain ⟨deduped, kept, qc, q, -, hk, he⟩ := modifyRules_some binaryName h
    obtain ⟨-, rfl⟩ := Prod.mk.inj he
    have hq : q = [] := List.eq_nil_of_sublist_nil
      (hs.queued k ▸ (weedOutRemoves_sublist binaryName _ _ _ _ _ _ hk).2)
    exact hs.setTable ⟨(hs.wf k).wrapped, (hs.wf k).chains, (hs.wf k).unwrappedChains, .nil⟩
      (hs.declared k) (by simp [hq, flushRemoveRules])
  refine ⟨fun s hs => ?_, fun s _ msg s' => ?_⟩ <;> by_cases hsave : fault = some (.save k)
  · simpa [after, applyTable, hsave] using hs
  · rcases hm : modifyRules binaryName (s.kernel k) (s.manager.tables k) with _ | ⟨nf, t⟩
    · simpa [after, applyTable, hsave, hm] using hs
    · by_cases hres : fault = some (.restore k) <;> simp only [after, applyTable, hsave, hm, hres,
        if_false, if_true] <;> exact key s hs hm
  · simp [applyTable, hsave]
  · rcases hm : modifyRules binaryName (s.kernel k) (s.manager.tables k) with _ | ⟨nf, t⟩ <;>
      [skip; by_cases hres : fault = some (.restore k)] <;> simp [applyTable, hsave, hm, *]

theorem safe_get : Safe (get : NetM NetState) := ⟨fun _ h => h, fun _ _ _ _ => nofun⟩

theorem safe_setDeferred (b : Bool) : Safe (setDeferred b) :=
  ⟨fun _ hs => ⟨hs.wf, hs.declared, hs.queued⟩, fun _ _ _ _ => nofun⟩

theorem safe_apply' (useIpv6 : Bool) (fault : Option ExecFault) :
    Safe (IptablesManager.apply' binaryName useIpv6 fault) :=
  Safe.forM fun k _ => safe_applyTable binaryName fault k

theorem safe_apply (useIpv6 : Bool) (fault : Option ExecFault) :
    Safe (IptablesManager.apply binaryName useIpv6 fault) :=
  safe_get.bind fun _ => .ite (.pure ()) (safe_apply' binaryName useIpv6 fault)

variable (conf : IptablesConf)

theorem safe_metadataForward (fault : Option ExecFault) :
    Safe (metadataForward binaryName conf fault) :=
  (safe_addRule binaryName (by decide) _ _).bind fun _ => safe_apply binaryName _ fault

theorem safe_metadataAccept (fault : Option ExecFault) :
    Safe (metadataAccept binaryName conf fault) :=
  (safe_addRule binaryName (by decide) _ _).bind fun _ => safe_apply binaryName _ fault

theorem safe_addSnatRule (ipRange : String) (fault : Option ExecFault) :
    Safe (addSnatRule binaryName conf ipRange fault) :=
  .ite ((safe_addRule binaryName (by decide) _ _).bind fun _ => safe_apply binaryName _ fault)
    (.pure ())

theorem safe_initHost (ipRange : Option String) (fault₁ fault₂ : Option ExecFault) :
    Safe (initHost binaryName conf ipRange fault₁ fault₂) :=
  (safe_addSnatRule binaryName conf _ fault₁).bind fun _ =>
    (safe_addRule binaryName (by decide) _ _).bind fun _ =>
      (Safe.forM fun _ _ => safe_addRule binaryName (by decide) _ _).bind fun _ =>
        (safe_addRule binaryName (by decide) _ _).bind fun _ => safe_apply binaryName _ fault₂

theorem safe_ensureVpnForward (publicIp : String) (port : Nat) (privateIp : String)
    (fault : Option ExecFault) : Safe (ensureVpnForward binaryName conf publicIp port privateIp fault) :=
  (safe_addRule binaryName (by decide) _ _).bind fun _ =>
    (safe_addRule binaryName (by decide) _ _).bind fun _ =>
      (safe_addRule binaryName (by decide) _ _).bind fun _ => safe_apply binaryName _ fault

/-- Every chain of a floating IP's rules is one `__init__` declares in `nat`. -/
theorem floatingForwardRules_chains (floatingIp fixedIp device : String) :
    ∀ p ∈ floatingForwardRules floatingIp fixedIp device, p.1 ∈ initChains .ipv4Nat := by
  simp [floatingForwardRules, initChains]

theorem safe_ensureFloatingForward (floatingIp fixedIp device : String) (fault : Option ExecFault) :
    Safe (ensureFloatingForward binaryName conf floatingIp fixedIp device fault) :=
  (Safe.forM fun p hp => safe_addRule binaryName
    (floatingForwardRules_chains floatingIp fixedIp device p hp) _ _).bind fun _ =>
      safe_apply binaryName _ fault

theorem safe_removeFloatingForward (floatingIp fixedIp device : String) (fault : Option ExecFault) :
    Safe (removeFloatingForward binaryName conf floatingIp fixedIp device fault) :=
  (Safe.forM fun _ _ => safe_removeRule _ _ _ _).bind fun _ => safe_apply binaryName _ fault

theorem safe_addDnsmasqAcceptRules (dev : String) (fault : Option ExecFault) :
    Safe (addDnsmasqAcceptRules binaryName conf dev fault) :=
  (Safe.forM fun _ _ => Safe.forM fun _ _ => safe_addRule binaryName (by decide) _ _).bind
    fun _ => safe_apply binaryName _ fault

/-- Every call of the module is safe. -/
theorem NetCall.safe (c : NetCall) : Safe (c.run binaryName conf) := by
  cases c
  · exact safe_metadataForward binaryName conf _
  · exact safe_metadataAccept binaryName conf _
  · exact safe_addSnatRule binaryName conf _ _
  · exact safe_initHost binaryName conf _ _ _
  · exact safe_ensureVpnForward binaryName conf _ _ _ _
  · exact safe_ensureFloatingForward binaryName conf _ _ _ _
  · exact safe_removeFloatingForward binaryName conf _ _ _ _
  · exact safe_addDnsmasqAcceptRules binaryName conf _ _
  · exact safe_apply binaryName _ _
  · exact safe_setDeferred true
  · exact (safe_setDeferred false).bind fun _ => safe_apply' binaryName _ _

end Safety

/-! ## Runs from `__init__` -/

section Runs

variable (binaryName : String) (conf : IptablesConf)

theorem Inv.step {s s' : NetState} (hs : Inv s) (h : NetStep binaryName conf s s') : Inv s' := by
  obtain ⟨c, rfl⟩ := h
  exact (c.safe binaryName conf).preserves s hs

theorem Inv.run {s s' : NetState} (hs : Inv s) (h : NetRun binaryName conf s s') : Inv s' := by
  induction h with
  | refl => exact hs
  | tail _ hst ih => exact ih.step binaryName conf hst

/-- Over every run of the module's functions from the manager `__init__` builds, on any
kernel, whatever the calls' arguments and whichever commands fail, no call raises
`ValueError`: the chains the functions add rules to are those `__init__` declares, and no
function removes a chain. -/
theorem netRun_no_valueError {m : IptablesManager} (hm : IptablesManager.init binaryName = .ok m)
    (kernel : TableKey → List String) {s : NetState} (hr : NetRun binaryName conf ⟨m, kernel⟩ s)
    (c : NetCall) (msg : String) (s' : NetState) :
    c.run binaryName conf s ≠ .error (.valueError msg) s' := by
  obtain ⟨m', hm', hinv⟩ := IptablesManager.init_ok binaryName
  obtain rfl := Except.ok.inj (hm.symm.trans hm')
  exact (c.safe binaryName conf).noValueError s ((show Inv ⟨m, kernel⟩ from hinv).run binaryName conf hr)
    msg s'

/-- After `__init__` and one `ensure_floating_forward` on an empty kernel, `metadata_forward`
raises no `ValueError`. -/
theorem netRun_no_valueError_after_floating :
    let m := (IptablesManager.init "nova-network").toOption.getD ⟨fun _ => {}, false⟩
    let conf : IptablesConf := ⟨false, "127.0.0.1", 8775, "", "", "10.0.0.0/8", []⟩
    let s := NetM.after ((NetCall.ensureFloatingForward "172.24.4.3" "10.0.0.3" "" none).run
      "nova-network" conf) ⟨m, fun _ => []⟩
    IptablesManager.init "nova-network" = .ok m ∧ NetRun "nova-network" conf ⟨m, fun _ => []⟩ s ∧
      ∀ msg s', (NetCall.metadataForward none).run "nova-network" conf s ≠
        .error (.valueError msg) s' :=
  ⟨rfl, .single ⟨_, rfl⟩, netRun_no_valueError "nova-network" _ rfl _ (.single ⟨_, rfl⟩) _⟩

end Runs

/-! ## What an apply leaves in the kernel -/

section Kernel

variable (binaryName : String)

/-- Every line of the kernel's table `k` that carries `binary_name` is a line of the
manager's table `k`: nothing is left there of the component's earlier rules. -/
def Synced (s : NetState) (k : TableKey) : Prop :=
  ∀ x ∈ s.kernel k, isIn binaryName x = true → OwnLine binaryName (s.manager.tables k) x

theorem Synced.of_eq {s s' : NetState} {k : TableKey} (h : Synced binaryName s k)
    (hk : s'.kernel k = s.kernel k) (ht : s'.manager.tables k = s.manager.tables k) :
    Synced binaryName s' k := by
  unfold Synced; rw [hk, ht]; exact h

/-- A turn of `_apply` leaves the other tables, in the manager and in the kernel. -/
theorem applyTable_frame (fault : Option ExecFault) {k j : TableKey} (hj : j ≠ k) (s : NetState) :
    (NetM.after (applyTable binaryName fault k) s).kernel j = s.kernel j ∧
      (NetM.after (applyTable binaryName fault k) s).manager.tables j = s.manager.tables j := by
  by_cases hs : fault = some (.save k)
  · simp [after, applyTable, hs]
  rcases hm : modifyRules binaryName (s.kernel k) (s.manager.tables k) with _ | ⟨nf, t⟩
  · simp [after, applyTable, hs, hm]
  by_cases hr : fault = some (.restore k) <;>
    simp [after, applyTable, hs, hm, hr, hj, Function.update_noteq hj]

/-- The turns for the tables `l` leave every other table. -/
theorem forM_applyTable_frame (fault : Option ExecFault) {k : TableKey} {l : List TableKey}
    (hk : k ∉ l) (s : NetState) :
    (NetM.after (l.forM (applyTable binaryName fault)) s).kernel k = s.kernel k ∧
      (NetM.after (l.forM (applyTable binaryName fault)) s).manager.tables k = s.manager.tables k :=
  Preserves.forM (P := fun s' => s'.kernel k = s.kernel k ∧ s'.manager.tables k = s.manager.tables k)
    (fun j hj s' h => by
      obtain ⟨h₁, h₂⟩ := applyTable_frame binaryName fault (fun e : k = j => hk (e ▸ hj)) s'
      exact ⟨h₁.trans h.1, h₂.trans h.2⟩) s ⟨rfl, rfl⟩

/-- A turn of `_apply` that returns leaves its table synced: `iptables-restore` got the
rewrite of the table. -/
theorem applyTable_synced {fault : Option ExecFault} {k : TableKey} {s s' : NetState}
    (h : applyTable binaryName fault k s = .ok () s') : Synced binaryName s' k := by
  by_cases hs : fault = some (.save k)
  · simp [applyTable, hs] at h
  rcases hm : modifyRules binaryName (s.kernel k) (s.manager.tables k) with _ | ⟨nf, t⟩
  · simp [applyTable, hs, hm] at h
  by_cases hr : fault = some (.restore k)
  · simp [applyTable, hs, hm, hr] at h
  simp only [applyTable, hs, hm, hr, if_false, EStateM.Result.ok.injEq, true_and] at h
  subst h
  obtain ⟨deduped, kept, qc, q, -, -, he⟩ := modifyRules_some binaryName hm
  obtain ⟨-, rfl⟩ := Prod.mk.inj he
  intro x hx hb
  simp only [Function.update_same, IptablesManager.setTable_tables, if_true] at hx ⊢
  exact modifyRules_ownLine binaryName hm hx hb

theorem forM_applyTable_synced (fault : Option ExecFault) :
    ∀ (l : List TableKey) {s s' : NetState}, l.forM (applyTable binaryName fault) s = .ok () s' →
      ∀ k ∈ l, Synced binaryName s' k
  | [], _, _, _, k, hk => absurd hk (List.not_mem_nil k)
  | j :: l, s, s', h, k, hk => by
    rw [List.forM_cons', NetM.bind_apply] at h
    rcases h₁ : applyTable binaryName fault j s with ⟨⟨⟩, s₁⟩ | ⟨e, s₁⟩ <;> rw [h₁] at h <;>
      dsimp only at h
    · by_cases hkl : k ∈ l
      · exact forM_applyTable_synced fault l h k hkl
      obtain rfl := (List.mem_cons.1 hk).resolve_right hkl
      have hf := forM_applyTable_frame binaryName fault hkl s₁
      have hs' : NetM.after (l.forM (applyTable binaryName fault)) s₁ = s' := by
        simp only [after, h]
      rw [hs'] at hf
      exact (applyTable_synced binaryName h₁).of_eq binaryName hf.1 hf.2
    · cases h

/-- An `_apply` that returns leaves every table it visits synced: the kernel holds no line
of the component's earlier runs, only the rules and chains of the manager's tables. -/
theorem apply'_synced {useIpv6 : Bool} {fault : Option ExecFault} {s s' : NetState}
    (h : IptablesManager.apply' binaryName useIpv6 fault s = .ok () s') :
    ∀ k ∈ applyKeys useIpv6, Synced binaryName s' k :=
  forM_applyTable_synced binaryName fault _ h

/-- An `_apply` of empty tables on an empty kernel returns, and leaves `filter` synced. -/
theorem apply'_synced_empty :
    let run := IptablesManager.apply' "nova-network" false none
    let s : NetState := ⟨⟨fun _ => {}, false⟩, fun _ => []⟩
    run s = .ok () (NetM.after run s) ∧ Synced "nova-network" (NetM.after run s) .ipv4Filter :=
  ⟨rfl, @apply'_synced "nova-network" false none ⟨⟨fun _ => {}, false⟩, fun _ => []⟩ _ rfl _ (.head _)⟩

/-- The kernel lists its rule lines with their counts closed, as `iptables-save` writes
them. -/
def CountsClosed (s : NetState) : Prop :=
  ∀ k, ∀ x ∈ s.kernel k, startswith x "[" = true → ']' ∈ x.data

theorem CountsClosed.of_kernel {s s' : NetState} (h : CountsClosed s) (hk : s'.kernel = s.kernel) :
    CountsClosed s' := by
  unfold CountsClosed; rw [hk]; exact h

/-- A turn of `_apply` keeps the kernel's counts closed, whether it returns or raises. -/
theorem preserves_countsClosed_applyTable (fault : Option ExecFault) (k : TableKey) :
    Preserves CountsClosed (applyTable binaryName fault k) := by
  intro s hs
  by_cases hsave : fault = some (.save k)
  · simpa [after, applyTable, hsave] using hs
  rcases hm : modifyRules binaryName (s.kernel k) (s.manager.tables k) with _ | ⟨nf, t⟩
  · simpa [after, applyTable, hsave, hm] using hs
  by_cases hr : fault = some (.restore k)
  · simpa [after, applyTable, hsave, hm, hr] using hs
  simp only [after, applyTable, hsave, hm, hr, if_false]
  intro j x hx
  by_cases hj : j = k
  · subst hj
    simp only [Function.update_same] at hx
    exact modifyRules_countsClosed binaryName (hs j) hm x hx
  · simp only [Function.update_noteq hj] at hx
    exact hs j x hx

/-- With no command failing, the turns of `_apply` on a kernel whose counts are closed
return. -/
theorem forM_applyTable_none_ok :
    ∀ (l : List TableKey) {s : NetState}, CountsClosed s →
      ∃ s', l.forM (applyTable binaryName none) s = .ok () s'
  | [], s, _ => ⟨s, rfl⟩
  | k :: l, s, hs => by
    obtain ⟨⟨nf, t⟩, hm⟩ := exists_modifyRules_eq_some binaryName (s.manager.tables k) (hs k)
    have h₁ : applyTable binaryName none k s =
        .ok () { manager := s.manager.setTable k t, kernel := Function.update s.kernel k nf } := by
      simp [applyTable, hm]
    have hs₁ := preserves_countsClosed_applyTable binaryName none k s hs
    simp only [after, h₁] at hs₁
    obtain ⟨s', h'⟩ := forM_applyTable_none_ok l hs₁
    exact ⟨s', by rw [List.forM_cons', NetM.bind_apply, h₁]; exact h'⟩

/-- With no command failing, `_apply` on a kernel whose counts are closed returns. -/
theorem apply'_none_ok (useIpv6 : Bool) {s : NetState} (hs : CountsClosed s) :
    ∃ s', IptablesManager.apply' binaryName useIpv6 none s = .ok () s' :=
  forM_applyTable_none_ok binaryName _ hs

/-- A turn of `_apply` keeps the rules of every table and the deferral flag, whether it
returns or raises. -/
theorem applyTable_rules (fault : Option ExecFault) (k j : TableKey) (s : NetState) :
    ((NetM.after (applyTable binaryName fault k) s).manager.tables j).rules =
        (s.manager.tables j).rules ∧
      (NetM.after (applyTable binaryName fault k) s).manager.iptablesApplyDeferred =
        s.manager.iptablesApplyDeferred := by
  by_cases hsave : fault = some (.save k)
  · simp [after, applyTable, hsave]
  rcases hm : modifyRules binaryName (s.kernel k) (s.manager.tables k) with _ | ⟨nf, t⟩
  · simp [after, applyTable, hsave, hm]
  obtain ⟨deduped, kept, qc, q, -, -, he⟩ := modifyRules_some binaryName hm
  obtain ⟨-, rfl⟩ := Prod.mk.inj he
  by_cases hr : fault = some (.restore k) <;> by_cases hj : j = k <;>
    simp [after, applyTable, hsave, hm, hr, hj]

/-- `apply()` keeps the rules of every table and the deferral flag, whether it returns or
raises. -/
theorem preserves_rules_apply (useIpv6 : Bool) (fault : Option ExecFault) (k : TableKey)
    (rules : List IptablesRule) (d : Bool) :
    Preserves (fun s => (s.manager.tables k).rules = rules ∧ s.manager.iptablesApplyDeferred = d)
      (IptablesManager.apply binaryName useIpv6 fault) :=
  Preserves.bind (fun _ h => h) fun _ => by
    split
    · exact preserves_pure _
    · exact Preserves.forM fun j _ s h => by
        obtain ⟨h₁, h₂⟩ := applyTable_rules binaryName fault j k s
        exact ⟨h₁.trans h.1, h₂.trans h.2⟩

/-- `apply()` keeps the kernel's counts closed, whether it returns or raises. -/
theorem preserves_countsClosed_apply (useIpv6 : Bool) (fault : Option ExecFault) :
    Preserves CountsClosed (IptablesManager.apply binaryName useIpv6 fault) :=
  Preserves.bind (fun _ h => h) fun _ => by
    split
    · exact preserves_pure _
    · exact Preserves.forM fun j _ => preserves_countsClosed_applyTable binaryName fault j

/-- With applies not deferred, `apply()` is `_apply`. -/
theorem IptablesManager.apply_of_not_deferred (useIpv6 : Bool) (fault : Option ExecFault)
    {s : NetState} (h : s.manager.iptablesApplyDeferred = false) :
    IptablesManager.apply binaryName useIpv6 fault s =
      IptablesManager.apply' binaryName useIpv6 fault s := by
  simp only [IptablesManager.apply, NetM.bind_apply]
  show (if s.manager.iptablesApplyDeferred = true then (pure () : NetM Unit)
    else IptablesManager.apply' binaryName useIpv6 fault) s = _
  rw [h]
  rfl

/-- `add_rule` of a rule text without `$` stores the text as it is. -/
theorem onTable_addRule_eq {k : TableKey} {chain rule : String} {s : NetState} (top : Bool)
    (hc : chain ∈ (s.manager.tables k).chains) (hd : isIn "$" rule = false) :
    onTable k (·.addRule binaryName chain rule true top) s =
      .ok () { s with manager := s.manager.setTable k { s.manager.tables k with
        rules := (s.manager.tables k).rules ++ [⟨chain, rule, true, top⟩] } } := by
  simp [onTable, IptablesTable.addRule, hc, hd]

/-- Adding wrapped rules without `$` to chains `__init__` declares appends them to the table,
and changes nothing else but the manager's table. -/
theorem forM_addRule_eq (k : TableKey) :
    ∀ (l : List (String × String)) {s : NetState}, Inv s →
      (∀ p ∈ l, p.1 ∈ initChains k ∧ isIn "$" p.2 = false) →
      ∃ s', l.forM (fun p => onTable k (·.addRule binaryName p.1 p.2 true false)) s = .ok () s' ∧
        Inv s' ∧ s'.kernel = s.kernel ∧
        s'.manager.iptablesApplyDeferred = s.manager.iptablesApplyDeferred ∧
        (s'.manager.tables k).rules =
          (s.manager.tables k).rules ++ l.map fun p => (⟨p.1, p.2, true, false⟩ : IptablesRule)
  | [], s, hs, _ => ⟨s, rfl, hs, rfl, rfl, by simp⟩
  | p :: l, s, hs, hl => by
    have h₁ := onTable_addRule_eq binaryName false (hs.declared k p.1 (hl p (.head _)).1)
      (hl p (.head _)).2
    have hs₁ := (safe_addRule binaryName (hl p (.head _)).1 p.2 false).preserves s hs
    simp only [after, h₁] at hs₁
    obtain ⟨s', h', hs', hk', hd', hr'⟩ := forM_addRule_eq k l hs₁ fun q hq => hl q (.tail _ hq)
    refine ⟨s', by rw [List.forM_cons', NetM.bind_apply, h₁]; exact h', hs', hk', hd', ?_⟩
    rw [hr']
    simp

/-- Removing wrapped rules erases each, in turn, from the table, and changes nothing else but
the manager's table. -/
theorem forM_removeRule_eq (k : TableKey) :
    ∀ (l : List (String × String)) (s : NetState),
      ∃ s', l.forM (fun p => onTable k fun t => .ok (t.removeRule p.1 p.2 true false)) s =
          .ok () s' ∧ s'.kernel = s.kernel ∧
        s'.manager.iptablesApplyDeferred = s.manager.iptablesApplyDeferred ∧
        (s'.manager.tables k).rules = l.foldl (fun rules p =>
          let r : IptablesRule := ⟨p.1, p.2, true, false⟩
          if r ∈ rules then rules.erase r else rules) (s.manager.tables k).rules
  | [], s => ⟨s, rfl, rfl, rfl, rfl⟩
  | p :: l, s => by
    obtain ⟨s', h', hk', hd', hr'⟩ := forM_removeRule_eq k l
      { s with manager := s.manager.setTable k ((s.manager.tables k).removeRule p.1 p.2 true false) }
    refine ⟨s', by rw [List.forM_cons', NetM.bind_apply]; exact h', hk', hd', ?_⟩
    rw [hr']
    simp only [IptablesManager.setTable_tables, if_true, List.foldl_cons]
    simp only [IptablesTable.removeRule]
    split_ifs <;> rfl

/-- Erasing, one by one, rules appended after rules that hold none of them takes the appended
rules back off. -/
theorem foldl_erase_append (N : List IptablesRule) :
    ∀ l : List IptablesRule, (∀ r ∈ l, r ∉ N) →
      l.foldl (fun rules r => if r ∈ rules then rules.erase r else rules) (N ++ l) = N
  | [], _ => by simp
  | r :: l, h => by
    have hr : r ∈ N ++ r :: l := List.mem_append_right _ (.head _)
    rw [List.foldl_cons, if_pos hr, List.erase_append_right _ (h r (.head _)), List.erase_cons_head]
    exact foldl_erase_append N l fun r' hr' => h r' (.tail _ hr')

/-- `$` is not in a text without the character. -/
theorem isIn_dollar_eq_false {s : String} (h : '$' ∉ s.data) : isIn "$" s = false := by
  cases hb : isIn "$" s
  · rfl
  · exact absurd ((isInfix_iff.1 hb).subset (by decide : '$' ∈ "$".data)) h

/-- The rules of a floating IP are free of `$` when its addresses and device are. -/
theorem floatingForwardRules_no_dollar {floatingIp fixedIp device : String}
    (hd : '$' ∉ floatingIp.data ∧ '$' ∉ fixedIp.data ∧ '$' ∉ device.data) :
    ∀ p ∈ floatingForwardRules floatingIp fixedIp device, isIn "$" p.2 = false := by
  obtain ⟨h₁, h₂, h₃⟩ := hd
  intro p hp
  apply isIn_dollar_eq_false
  simp only [floatingForwardRules, List.mem_cons, List.mem_singleton, List.not_mem_nil,
    or_false] at hp
  rcases hp with rfl | rfl | rfl <;> [skip; skip; split] <;>
    simp [String.data_append, h₁, h₂, h₃]

/-- A wrapped rule's text carries `binary_name`, in its chain. -/
theorem isIn_str_wrapped (r : IptablesRule) (hr : r.wrap = true) :
    isIn binaryName (r.str binaryName) = true :=
  isInfix_iff.2 ⟨"[0:0] -A ".data, ("-" ++ r.chain ++ " " ++ r.rule).data, by
    simp [IptablesRule.str, hr, String.data_append]⟩

/-- A rule's text is no chain line: a line of its own that is a rule's text is the text of
one of the table's rules. -/
theorem ownLine_str {T : IptablesTable} {r : IptablesRule} (h : OwnLine binaryName T (r.str binaryName)) :
    ∃ r' ∈ T.rules, r.str binaryName = r'.str binaryName := by
  have hr : (r.str binaryName).data.head? = some '[' := by simp [IptablesRule.str, String.data_append]
  rcases h with h | ⟨n, -, h⟩ | ⟨n, -, h⟩
  · exact h
  all_goals rw [h] at hr; simp [String.data_append] at hr

/-- `ensure_floating_forward` then `remove_floating_forward` of one floating IP, whichever of
their commands fail, give the `nat` table back the rules it had.  When the removal's commands
do not fail and applies are not deferred, the removal returns and the kernel's `nat` table
holds none of the floating IP's rules.  The addresses and the device carry no `$`, the kernel's
counts are closed, and no rule of the table had the text of one of the floating IP's. -/
theorem floatingForward_round_trip (conf : IptablesConf) {s : NetState} (hs : Inv s)
    (hc : CountsClosed s) {floatingIp fixedIp device : String}
    (hd : '$' ∉ floatingIp.data ∧ '$' ∉ fixedIp.data ∧ '$' ∉ device.data)
    (hn : ∀ r ∈ (s.manager.tables .ipv4Nat).rules,
      ∀ p ∈ floatingForwardRules floatingIp fixedIp device,
        r.str binaryName ≠ (⟨p.1, p.2, true, false⟩ : IptablesRule).str binaryName)
    (fault₁ fault₂ : Option ExecFault) :
    let s₁ := NetM.after (ensureFloatingForward binaryName conf floatingIp fixedIp device fault₁) s
    ((NetM.after (removeFloatingForward binaryName conf floatingIp fixedIp device fault₂)
        s₁).manager.tables .ipv4Nat).rules = (s.manager.tables .ipv4Nat).rules ∧
      (fault₂ = none → s.manager.iptablesApplyDeferred = false →
        ∃ s₂, removeFloatingForward binaryName conf floatingIp fixedIp device none s₁ = .ok () s₂ ∧
          ∀ p ∈ floatingForwardRules floatingIp fixedIp device,
            (⟨p.1, p.2, true, false⟩ : IptablesRule).str binaryName ∉ s₂.kernel .ipv4Nat) := by
  intro s₁
  -- `ensure_floating_forward` appends the rules, and its `apply()` keeps them
  obtain ⟨sa, ha, -, hka, hda, hra⟩ := forM_addRule_eq binaryName .ipv4Nat _ hs fun p hp =>
    ⟨floatingForwardRules_chains floatingIp fixedIp device p hp,
      floatingForwardRules_no_dollar hd p hp⟩
  have hs₁ : s₁ = NetM.after (IptablesManager.apply binaryName conf.useIpv6 fault₁) sa := by
    simp only [s₁, ensureFloatingForward, NetM.after, NetM.bind_of_ok ha]
  obtain ⟨hr₁, hd₁⟩ := hs₁ ▸ preserves_rules_apply binaryName conf.useIpv6 fault₁ .ipv4Nat _ _ sa
    ⟨hra, rfl⟩
  have hc₁ : CountsClosed s₁ :=
    hs₁ ▸ preserves_countsClosed_apply binaryName _ _ sa (hc.of_kernel hka)
  -- `remove_floating_forward` erases them, and its `apply()` keeps what is left
  obtain ⟨sb, hb, hkb, hdb, hrb⟩ :=
    forM_removeRule_eq .ipv4Nat (floatingForwardRules floatingIp fixedIp device) s₁
  have hN : (sb.manager.tables .ipv4Nat).rules = (s.manager.tables .ipv4Nat).rules := by
    rw [hrb, hr₁]
    refine (List.foldl_map (fun p : String × String => (⟨p.1, p.2, true, false⟩ : IptablesRule))
      (fun (rules : List IptablesRule) r => if r ∈ rules then rules.erase r else rules)
        _ _).symm.trans
        (foldl_erase_append _ _ fun r hr hrN => ?_)
    obtain ⟨p, hp, rfl⟩ := List.mem_map.1 hr
    exact hn _ hrN p hp rfl
  have hs₂ : NetM.after (removeFloatingForward binaryName conf floatingIp fixedIp device fault₂) s₁ =
      NetM.after (IptablesManager.apply binaryName conf.useIpv6 fault₂) sb := by
    simp only [removeFloatingForward, NetM.after, NetM.bind_of_ok hb]
  refine ⟨hs₂ ▸ (preserves_rules_apply binaryName _ fault₂ .ipv4Nat _ _ sb ⟨hN, rfl⟩).1,
    fun hf hdef => ?_⟩
  -- with no command failing, the removal's `_apply` returns and syncs `nat`
  subst hf
  have hsb : sb.manager.iptablesApplyDeferred = false := hdb.trans (hd₁.trans (hda.trans hdef))
  have happly := IptablesManager.apply_of_not_deferred binaryName conf.useIpv6 none hsb
  obtain ⟨s₂, h₂⟩ := apply'_none_ok binaryName conf.useIpv6 (hc₁.of_kernel hkb)
  have hr₂ := (preserves_rules_apply binaryName conf.useIpv6 none .ipv4Nat _ _ sb ⟨hN, rfl⟩).1
  rw [NetM.after, happly, h₂] at hr₂
  refine ⟨s₂, by rw [removeFloatingForward, NetM.bind_of_ok hb, happly, h₂], fun p hp hx => ?_⟩
  have hsync := apply'_synced binaryName h₂ .ipv4Nat (by simp [applyKeys])
  obtain ⟨r, hr, he⟩ := ownLine_str binaryName (hsync _ hx (isIn_str_wrapped binaryName _ rfl))
  exact hn r (hr₂ ▸ hr) p hp he.symm

/-- The chains `__init__` declares, with no rules, on an empty kernel: a floating IP's
forwarding, added then removed, leaves neither rules nor kernel lines. -/
theorem floatingForward_round_trip_declared :
    let s : NetState := ⟨⟨fun k => { chains := initChains k }, false⟩, fun _ => []⟩
    let conf : IptablesConf := ⟨false, "127.0.0.1", 8775, "", "", "10.0.0.0/8", []⟩
    let s₁ := NetM.after (ensureFloatingForward "nova-network" conf "172.24.4.3" "10.0.0.3" "eth0"
      none) s
    Inv s ∧ CountsClosed s ∧
      (((NetM.after (removeFloatingForward "nova-network" conf "172.24.4.3" "10.0.0.3" "eth0"
          none) s₁).manager.tables .ipv4Nat).rules = [] ∧
        ∃ s₂, removeFloatingForward "nova-network" conf "172.24.4.3" "10.0.0.3" "eth0" none s₁ =
            .ok () s₂ ∧
          ∀ p ∈ floatingForwardRules "172.24.4.3" "10.0.0.3" "eth0",
            (⟨p.1, p.2, true, false⟩ : IptablesRule).str "nova-network" ∉ s₂.kernel .ipv4Nat) := by
  intro s conf
  have hs : Inv s := ⟨fun k => ⟨nofun, by cases k <;> decide, .nil, .nil⟩, fun _ _ => id, fun _ => rfl⟩
  have hc : CountsClosed s := fun _ _ => nofun
  have hd : '$' ∉ "172.24.4.3".data ∧ '$' ∉ "10.0.0.3".data ∧ '$' ∉ "eth0".data := by decide
  exact ⟨hs, hc, (floatingForward_round_trip "nova-network" conf hs hc hd nofun none none).imp id
    fun h => h rfl rfl⟩

end Kernel

/-! ## Deferred applies -/

section Deferral

variable (binaryName : String) (conf : IptablesConf)

/-- While applies are deferred, `apply()` does nothing. -/
theorem IptablesManager.apply_of_deferred (useIpv6 : Bool) (fault : Option ExecFault)
    {s : NetState} (h : s.manager.iptablesApplyDeferred = true) :
    IptablesManager.apply binaryName useIpv6 fault s = .ok () s := by
  simp only [IptablesManager.apply, NetM.bind_apply]
  show (if s.manager.iptablesApplyDeferred = true then (pure () : NetM Unit)
    else IptablesManager.apply' binaryName useIpv6 fault) s = _
  rw [if_pos h]
  rfl

/-- Every call but `defer_apply_off` reaches the state only through the tables' methods,
`apply()` and `defer_apply_on`: what they all keep, it keeps. -/
theorem NetCall.preserves_of_edits {P : NetState → Prop} (c : NetCall)
    (hc : ∀ f, c ≠ .deferApplyOff f) (hT : ∀ k f, Preserves P (onTable k f))
    (hA : ∀ u f, Preserves P (IptablesManager.apply binaryName u f))
    (hD : Preserves P (setDeferred true)) : Preserves P (c.run binaryName conf) := by
  have hS : ∀ r f, Preserves P (Network.addSnatRule binaryName conf r f) := fun r f => by
    unfold Network.addSnatRule; split
    · exact (hT _ _).bind fun _ => hA _ _
    · exact preserves_pure _
  cases c
  case metadataForward | metadataAccept => exact (hT _ _).bind fun _ => hA _ _
  case ensureVpnForward =>
    exact (hT _ _).bind fun _ => (hT _ _).bind fun _ => (hT _ _).bind fun _ => hA _ _
  case addSnatRule => exact hS _ _
  case initHost =>
    exact (hS _ _).bind fun _ => (hT _ _).bind fun _ =>
      (Preserves.forM fun _ _ => hT _ _).bind fun _ => (hT _ _).bind fun _ => hA _ _
  case ensureFloatingForward | removeFloatingForward =>
    exact (Preserves.forM fun _ _ => hT _ _).bind fun _ => hA _ _
  case addDnsmasqAcceptRules =>
    exact (Preserves.forM fun _ _ => Preserves.forM fun _ _ => hT _ _).bind fun _ => hA _ _
  case apply => exact hA _ _
  case deferApplyOn => exact hD
  case deferApplyOff f => exact absurd rfl (hc f)

theorem NetCall.runAll_preserves {P : NetState → Prop} :
    ∀ (cs : List NetCall), (∀ c ∈ cs, Preserves P (c.run binaryName conf)) →
      ∀ s, P s → P (NetCall.runAll binaryName conf cs s)
  | [], _, _, hs => hs
  | c :: cs, h, s, hs =>
    NetCall.runAll_preserves cs (fun c' hc' => h c' (.tail _ hc')) _ (h c (.head _) s hs)

/-- From a state whose applies are deferred, calls none of which is `defer_apply_off` leave the
kernel's tables as they were, and applies deferred, whatever their arguments and whether they
return or raise. -/
theorem deferred_runAll_kernel (cs : List NetCall) (hcs : ∀ c ∈ cs, ∀ f, c ≠ .deferApplyOff f)
    {s : NetState} (hd : s.manager.iptablesApplyDeferred = true) :
    (NetCall.runAll binaryName conf cs s).kernel = s.kernel ∧
      (NetCall.runAll binaryName conf cs s).manager.iptablesApplyDeferred = true := by
  refine NetCall.runAll_preserves binaryName conf
    (P := fun s' => s'.kernel = s.kernel ∧ s'.manager.iptablesApplyDeferred = true) cs
    (fun c hc => c.preserves_of_edits binaryName conf (hcs c hc) ?_ ?_ ?_) s ⟨rfl, hd⟩
  · intro k f s' h
    simp only [NetM.after, onTable]
    cases f (s'.manager.tables k) <;> exact h
  · intro u f s' h
    rw [NetM.after, IptablesManager.apply_of_deferred binaryName u f h.2]
    exact h
  · exact fun s' h => ⟨h.1, rfl⟩

/-- Deferred, a floating IP's forwarding and an explicit `apply()` leave the kernel as it
was. -/
theorem deferred_runAll_kernel_floating :
    let conf : IptablesConf := ⟨false, "127.0.0.1", 8775, "", "", "10.0.0.0/8", []⟩
    let s : NetState := ⟨⟨fun k => { chains := initChains k }, true⟩, fun _ => ["*nat"]⟩
    let cs := [NetCall.ensureFloatingForward "172.24.4.3" "10.0.0.3" "" none, .apply none]
    (∀ c ∈ cs, ∀ f, c ≠ .deferApplyOff f) ∧ s.manager.iptablesApplyDeferred = true ∧
      (NetCall.runAll "nova-network" conf cs s).kernel = s.kernel :=
  ⟨by simp, rfl, (deferred_runAll_kernel "nova-network" _ _ (by simp) rfl).1⟩

end Deferral

end FolsomCloud.Network
