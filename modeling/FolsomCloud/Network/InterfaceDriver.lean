import FolsomCloud.Network.Bridge

set_option autoImplicit false

/-!
# Network: the interface drivers, and the veth pair

The module-level `plug`, `unplug` and `get_dev` call the class `CONF.linuxnet_interface_driver`
names: the abstract `LinuxNetInterfaceDriver`, whose methods raise `NotImplementedError` (its
`plug` takes no `gateway`, so the module's `plug` raises `TypeError` first), the Linux bridge
driver of `Network/Bridge.lean`, the Open vSwitch driver, which makes the network's gateway
device an internal port of `CONF.linuxnet_ovs_integration_bridge`, and the Quantum Linux bridge
driver, which makes a tap device and a bridge of the network's own.  The last two add the same
two `FORWARD` rules as `ensure_bridge`, and neither calls `apply()`.  `_create_veth_pair`, for
the virt layer's VIF drivers, makes a veth pair after clearing stale devices of its names.

Results:

* whichever class is configured, `plug` and `unplug` keep the manager's invariant and raise no
  `ValueError`, whatever the host's commands do (`netSafe_linuxNetPlug`,
  `netSafe_linuxNetUnplug`);
* `plug` returns what `get_dev` returns, except on the Quantum driver with `gateway=False`,
  which returns the bridge's name instead of the device's (`linuxNetPlug_returns_getDev`,
  `quantumPlug_no_gateway`): that call adds `DROP` rules and makes neither the tap device nor
  the bridge;
* on the reference shell, a Quantum `plug` then `unplug` deletes the tap device but leaves the
  bridge, with the network's address, and the `ACCEPT` rules (`quantumPlug_unplug_exec`); an
  Open vSwitch `plug` then `unplug` gives the host back its links but leaves the rules
  (`ovsPlug_unplug_exec`), and a second Open vSwitch `plug` changes nothing
  (`ovsPlug_exec_present`);
* `_create_veth_pair` deletes `dev1_name` for a stale device of either name, so a stale
  `dev2_name` is never cleared and the pair is not made (`createVethPair_stale_dev2_raises`).
-/

namespace FolsomCloud.Network

open PyStr

namespace PyStr

/-- `s[0:stop]`. -/
def sliceTo (s : String) (stop : Nat) : String := ⟨s.data.take stop⟩

end PyStr

/-! ## The configuration and the network -/

/-- The classes `CONF.linuxnet_interface_driver` can name. -/
inductive InterfaceDriver where
  | linuxNet
  | linuxBridge
  | linuxOVS
  | quantumLinuxBridge
  deriving DecidableEq, Repr

/-- The options the drivers read. -/
structure DriverConf extends BridgeConf where
  linuxnetInterfaceDriver : InterfaceDriver
  linuxnetOvsIntegrationBridge : String
  deriving DecidableEq, Repr

/-- The columns of `network` the drivers read. -/
structure DriverNetwork extends BridgeNetwork where
  uuid : String
  dhcpServer : String
  cidr : String
  deriving DecidableEq, Repr

/-! ## The drivers -/

section Drivers

variable (sh : Shell) (binaryName : String)

/-- `except exception.ProcessExecutionError` around a command whose failure is only logged. -/
def swallowProcessError (e : BridgeErr) : BridgeM Unit :=
  match e with
  | .net (.processExecutionError _) => pure ()
  | e => throw e

/-- `_create_veth_pair(dev1_name, dev2_name)`: its clearing loop deletes `dev1_name` for a
stale device of either name. -/
def createVethPair (dev1Name dev2Name : String) : BridgeM Unit := do
  [dev1Name, dev2Name].forM fun dev => do
    if (← deviceExists sh dev) then
      tryCatch (call sh (.linkDelete dev1Name) (some [0, 2, 254])) swallowProcessError
  call sh (.linkAddVeth dev1Name dev2Name) (some [0])
  [dev1Name, dev2Name].forM fun dev => do
    call sh (.linkSetUp dev) (some [0])
    call sh (.linkSetPromisc dev) (some [0])

namespace LinuxBridgeInterfaceDriver

/-- `LinuxBridgeInterfaceDriver.get_dev(network)`. -/
def getDev (network : BridgeNetwork) : String := network.bridge

/-- `LinuxBridgeInterfaceDriver.unplug(network)`: it only returns the device. -/
def unplug (network : BridgeNetwork) : BridgeM String := pure (getDev network)

end LinuxBridgeInterfaceDriver

namespace LinuxOVSInterfaceDriver

/-- `LinuxOVSInterfaceDriver.get_dev(network)`: `gw-` and the uuid's first 11 characters. -/
def getDev (network : DriverNetwork) : String := "gw-" ++ sliceTo network.uuid 11

/-- `LinuxOVSInterfaceDriver.plug(network, mac_address, gateway)`: a device that exists is left
as it is; `0` stands for an unset `CONF.network_device_mtu`. -/
def plug (conf : DriverConf) (network : DriverNetwork) (macAddress : String) (gateway : Bool) :
    BridgeM String := do
  let dev := getDev network
  if !(← deviceExists sh dev) then
    let bridge := conf.linuxnetOvsIntegrationBridge
    call sh (.ovsAddPort bridge dev macAddress) (some [0])
    call sh (.linkSetAddress dev macAddress) (some [0])
    if conf.networkDeviceMtu ≠ 0 then
      call sh (.linkSetMtu dev conf.networkDeviceMtu) (some [0])
    call sh (.linkSetUp dev) (some [0])
    if !gateway then
      call sh (.ovsAddFlow bridge "priority=1,actions=drop") (some [0])
      call sh (.ovsAddFlow bridge
        ("udp,tp_dst=67,dl_dst=" ++ macAddress ++ ",priority=2,actions=normal")) (some [0])
      liftNet (addForwardRules binaryName bridge "DROP")
    else
      liftNet (addForwardRules binaryName bridge "ACCEPT")
  return dev

/-- `LinuxOVSInterfaceDriver.unplug(network)`. -/
def unplug (conf : DriverConf) (network : DriverNetwork) : BridgeM String := do
  let dev := getDev network
  call sh (.ovsDelPort conf.linuxnetOvsIntegrationBridge dev) (some [0])
  return dev

end LinuxOVSInterfaceDriver

namespace QuantumLinuxBridgeInterfaceDriver

/-- `QuantumLinuxBridgeInterfaceDriver.get_dev(network)`: `GATEWAY_INTERFACE_PREFIX` and the
uuid's first 11 characters. -/
def getDev (network : DriverNetwork) : String := "gw-" ++ sliceTo network.uuid 11

/-- `QuantumLinuxBridgeInterfaceDriver.get_bridge(network)`: `BRIDGE_NAME_PREFIX` and the
uuid's first 11 characters. -/
def getBridge (network : DriverNetwork) : String := "brq" ++ sliceTo network.uuid 11

/-- The `except exception.ProcessExecutionError` of `create_tap_dev`: `tunctl` is tried. -/
def tunctlFallback (dev : String) (e : BridgeErr) : BridgeM Unit :=
  match e with
  | .net (.processExecutionError _) => call sh (.tunctl dev) (some [0])
  | e => throw e

/-- `QuantumLinuxBridgeInterfaceDriver.create_tap_dev(dev, mac_address)`; `""` stands for no
`mac_address`. -/
def createTapDev (dev macAddress : String) : BridgeM Unit := do
  if !(← deviceExists sh dev) then
    tryCatch (call sh (.tuntapAdd dev) (some [0, 2, 254])) (tunctlFallback sh dev)
    if macAddress ≠ "" then
      call sh (.linkSetAddress dev macAddress) (some [0, 2, 254])
    call sh (.linkSetUp dev) (some [0, 2, 254])

/-- The address `plug` gives a new bridge: `'%s/%s' % (network['dhcp_server'],
network['cidr'].rpartition('/')[2])`. -/
def fullIp (network : DriverNetwork) : String :=
  network.dhcpServer ++ "/" ++ afterLastSlash network.cidr

/-- `QuantumLinuxBridgeInterfaceDriver.plug(network, mac_address, gateway)`. -/
def plug (network : DriverNetwork) (macAddress : String) (gateway : Bool) : BridgeM String := do
  let dev := getDev network
  let bridge := getBridge network
  if !gateway then
    liftNet (addForwardRules binaryName bridge "DROP")
    return bridge
  else
    liftNet (addForwardRules binaryName bridge "ACCEPT")
    createTapDev sh dev macAddress
    if !(← deviceExists sh bridge) then
      call sh (.brctlAddbr bridge) (some [0])
      call sh (.brctlSetfd bridge) (some [0])
      call sh (.brctlStp bridge) (some [0])
      call sh (.linkSetAddress bridge macAddress) (some [0, 2, 254])
      call sh (.linkSetUp bridge) (some [0, 2, 254])
      call sh (.addressAdd (fullIp network) bridge) (some [0, 2, 254])
    return dev

/-- `QuantumLinuxBridgeInterfaceDriver.unplug(network)`: `none` when the device does not exist;
a failed delete is logged and raised again. -/
def unplug (network : DriverNetwork) : BridgeM (Option String) := do
  let dev := getDev network
  if !(← deviceExists sh dev) then
    return none
  else
    call sh (.linkDelete dev) (some [0, 2, 254])
    return some dev

end QuantumLinuxBridgeInterfaceDriver

namespace LinuxNet

/-- The module-level `plug(network, mac_address, gateway)`: the `plug` of the class
`CONF.linuxnet_interface_driver` names (`_get_interface_driver`); `fault` is the failed
command of the Linux bridge driver's `apply()`.  The abstract driver's `plug` takes no
`gateway`, so the call raises `TypeError` before its `NotImplementedError`. -/
def plug (conf : DriverConf) (network : DriverNetwork) (macAddress : String) (gateway : Bool)
    (fault : Option ExecFault) : BridgeM String :=
  match conf.linuxnetInterfaceDriver with
  | .linuxNet => throw .typeError
  | .linuxBridge =>
    Network.plug sh binaryName conf.toBridgeConf network.toBridgeNetwork macAddress gateway fault
  | .linuxOVS => LinuxOVSInterfaceDriver.plug sh binaryName conf network macAddress gateway
  | .quantumLinuxBridge =>
    QuantumLinuxBridgeInterfaceDriver.plug sh binaryName network macAddress gateway

/-- The module-level `unplug(network)`; `none` is Python's `None`. -/
def unplug (conf : DriverConf) (network : DriverNetwork) : BridgeM (Option String) :=
  match conf.linuxnetInterfaceDriver with
  | .linuxNet => throw .notImplementedError
  | .linuxBridge => some <$> LinuxBridgeInterfaceDriver.unplug network.toBridgeNetwork
  | .linuxOVS => some <$> LinuxOVSInterfaceDriver.unplug sh conf network
  | .quantumLinuxBridge => QuantumLinuxBridgeInterfaceDriver.unplug sh network

/-- The module-level `get_dev(network)`. -/
def getDev (conf : DriverConf) (network : DriverNetwork) : BridgeM String :=
  match conf.linuxnetInterfaceDriver with
  | .linuxNet => throw .notImplementedError
  | .linuxBridge => pure (LinuxBridgeInterfaceDriver.getDev network.toBridgeNetwork)
  | .linuxOVS => pure (LinuxOVSInterfaceDriver.getDev network)
  | .quantumLinuxBridge => pure (QuantumLinuxBridgeInterfaceDriver.getDev network)

end LinuxNet

end Drivers

/-! ## Safety, whichever driver is configured -/

theorem BridgeM.tryCatch_apply {α : Type} (x : BridgeM α) (handle : BridgeErr → BridgeM α)
    (st : BridgeState) :
    tryCatch x handle st = match x st with
      | .ok a st' => .ok a st'
      | .error e st' => handle e st' := by
  show EStateM.tryCatch x handle st = _
  simp only [EStateM.tryCatch]
  cases x st <;> rfl

namespace HostOnly

variable {α β : Type}

theorem throw {e : BridgeErr} (he : ∀ msg, e ≠ .net (.valueError msg)) :
    HostOnly (MonadExcept.throw e : BridgeM α) :=
  ⟨fun _ => rfl, fun _ msg _ h => by cases h; exact he msg rfl⟩

/-- A handler run only on what `x` raises needs to be safe only on errors other than
`ValueError`. -/
theorem tryCatch {x : BridgeM α} {handle : BridgeErr → BridgeM α} (hx : HostOnly x)
    (hh : ∀ e, (∀ msg, e ≠ .net (.valueError msg)) → HostOnly (handle e)) :
    HostOnly (MonadExcept.tryCatch x handle) := by
  refine ⟨fun st => ?_, fun st msg st' => ?_⟩
  · have h := hx.net st
    unfold BridgeM.after at h ⊢
    rw [BridgeM.tryCatch_apply]
    cases hxs : x st with
    | ok a st₁ => rw [hxs] at h; exact h
    | error e st₁ =>
      rw [hxs] at h
      exact ((hh e fun msg he => hx.noValueError st msg st₁ (he ▸ hxs)).net st₁).trans h
  · rw [BridgeM.tryCatch_apply]
    cases hxs : x st with
    | ok a st₁ => rintro ⟨⟩
    | error e st₁ =>
      exact (hh e fun msg he => hx.noValueError st msg st₁ (he ▸ hxs)).noValueError st₁ msg st'

theorem map (f : α → β) {x : BridgeM α} (hx : HostOnly x) : HostOnly (f <$> x) :=
  hx.bind fun a => .pure (f a)

end HostOnly

theorem NetSafe.ite {α : Type} {c : Prop} [Decidable c] {x y : BridgeM α} (hx : NetSafe x)
    (hy : NetSafe y) : NetSafe (if c then x else y) := by
  split <;> assumption

section Safety

variable (sh : Shell) (binaryName : String)

theorem hostOnly_swallowProcessError (e : BridgeErr) (he : ∀ msg, e ≠ .net (.valueError msg)) :
    HostOnly (swallowProcessError e) := by
  unfold swallowProcessError
  split
  · exact .pure _
  · exact .throw he

theorem hostOnly_createVethPair (dev1Name dev2Name : String) :
    HostOnly (createVethPair sh dev1Name dev2Name) :=
  (HostOnly.forM fun _ _ => (hostOnly_deviceExists sh _).bind fun _ =>
      .ite (.tryCatch (hostOnly_call sh _ _) hostOnly_swallowProcessError) (.pure _)).bind fun _ =>
    (hostOnly_call sh _ _).bind fun _ =>
      HostOnly.forM fun _ _ => (hostOnly_call sh _ _).bind fun _ => hostOnly_call sh _ _

theorem hostOnly_tunctlFallback (dev : String) (e : BridgeErr)
    (he : ∀ msg, e ≠ .net (.valueError msg)) :
    HostOnly (QuantumLinuxBridgeInterfaceDriver.tunctlFallback sh dev e) := by
  unfold QuantumLinuxBridgeInterfaceDriver.tunctlFallback
  split
  · exact hostOnly_call sh _ _
  · exact .throw he

theorem hostOnly_createTapDev (dev macAddress : String) :
    HostOnly (QuantumLinuxBridgeInterfaceDriver.createTapDev sh dev macAddress) := by
  unfold QuantumLinuxBridgeInterfaceDriver.createTapDev
  dsimp only
  repeat' first
    | with_reducible exact HostOnly.pure _
    | with_reducible exact hostOnly_call sh _ _
    | with_reducible exact hostOnly_deviceExists sh _
    | with_reducible exact HostOnly.tryCatch (hostOnly_call sh _ _) (hostOnly_tunctlFallback sh _)
    | with_reducible apply HostOnly.bind
    | with_reducible apply HostOnly.ite
    | intro _

theorem netSafe_ovsPlug (conf : DriverConf) (network : DriverNetwork) (macAddress : String)
    (gateway : Bool) :
    NetSafe (LinuxOVSInterfaceDriver.plug sh binaryName conf network macAddress gateway) := by
  unfold LinuxOVSInterfaceDriver.plug
  dsimp only
  repeat' first
    | with_reducible exact NetSafe.pure _
    | with_reducible exact (hostOnly_call sh _ _).netSafe
    | with_reducible exact (hostOnly_deviceExists sh _).netSafe
    | with_reducible exact NetSafe.liftNet (safe_addForwardRules binaryName _ _)
    | with_reducible apply NetSafe.bind
    | with_reducible apply NetSafe.ite
    | intro _

theorem netSafe_quantumPlug (network : DriverNetwork) (macAddress : String) (gateway : Bool) :
    NetSafe (QuantumLinuxBridgeInterfaceDriver.plug sh binaryName network macAddress gateway) := by
  unfold QuantumLinuxBridgeInterfaceDriver.plug
  dsimp only
  repeat' first
    | with_reducible exact NetSafe.pure _
    | with_reducible exact (hostOnly_call sh _ _).netSafe
    | with_reducible exact (hostOnly_deviceExists sh _).netSafe
    | with_reducible exact (hostOnly_createTapDev sh _ _).netSafe
    | with_reducible exact NetSafe.liftNet (safe_addForwardRules binaryName _ _)
    | with_reducible apply NetSafe.bind
    | with_reducible apply NetSafe.ite
    | intro _

/-- Whichever class `CONF.linuxnet_interface_driver` names, the module-level `plug` keeps the
manager's invariant and raises no `ValueError`, whatever the host's commands do. -/
theorem netSafe_linuxNetPlug (conf : DriverConf) (network : DriverNetwork) (macAddress : String)
    (gateway : Bool) (fault : Option ExecFault) :
    NetSafe (LinuxNet.plug sh binaryName conf network macAddress gateway fault) := by
  unfold LinuxNet.plug
  split
  · exact (HostOnly.throw (e := .typeError) fun _ => nofun).netSafe
  · exact netSafe_plug sh binaryName _ _ _ _ _
  · exact netSafe_ovsPlug sh binaryName _ _ _ _
  · exact netSafe_quantumPlug sh binaryName _ _ _

/-- So does the module-level `unplug`, which changes only the host. -/
theorem netSafe_linuxNetUnplug (conf : DriverConf) (network : DriverNetwork) :
    NetSafe (LinuxNet.unplug sh conf network) := by
  unfold LinuxNet.unplug
  split
  · exact (HostOnly.throw (e := .notImplementedError) fun _ => nofun).netSafe
  · exact (HostOnly.map _ (.pure _)).netSafe
  · exact (HostOnly.map _ ((hostOnly_call sh _ _).bind fun _ => .pure _)).netSafe
  · exact ((hostOnly_deviceExists sh _).bind fun _ =>
      .ite (.pure _) ((hostOnly_call sh _ _).bind fun _ => .pure _)).netSafe

end Safety

/-! ## The device `plug` returns -/

/-- Whenever `x` returns, it returns `v`. -/
structure Returns {α : Type} (x : BridgeM α) (v : α) : Prop where
  eq : ∀ {st r st'}, x st = .ok r st' → r = v

namespace Returns

variable {α β : Type}

theorem pure (v : α) : Returns (Pure.pure v : BridgeM α) v := ⟨fun h => by cases h; rfl⟩

theorem bind {x : BridgeM α} {f : α → BridgeM β} {v : β} (hf : ∀ a, Returns (f a) v) :
    Returns (x >>= f) v := ⟨fun h => by
  obtain ⟨a, st₁, -, h⟩ := BridgeM.bind_eq_ok h
  exact (hf a).eq h⟩

theorem ite {c : Prop} [Decidable c] {x y : BridgeM α} {v : α} (hx : Returns x v)
    (hy : Returns y v) : Returns (if c then x else y) v := by
  split <;> assumption

end Returns

section Returns

variable (sh : Shell) (binaryName : String)

theorem returns_plug (conf : BridgeConf) (network : BridgeNetwork) (macAddress : String)
    (gateway : Bool) (fault : Option ExecFault) :
    Returns (plug sh binaryName conf network macAddress gateway fault) network.bridge := by
  unfold plug
  dsimp only
  split <;>
  repeat' first
    | with_reducible exact Returns.pure _
    | with_reducible apply Returns.bind
    | intro _

theorem returns_ovsPlug (conf : DriverConf) (network : DriverNetwork) (macAddress : String)
    (gateway : Bool) :
    Returns (LinuxOVSInterfaceDriver.plug sh binaryName conf network macAddress gateway)
      (LinuxOVSInterfaceDriver.getDev network) := by
  unfold LinuxOVSInterfaceDriver.plug
  dsimp only
  repeat' first
    | with_reducible exact Returns.pure _
    | with_reducible apply Returns.bind
    | with_reducible apply Returns.ite
    | intro _

theorem returns_quantumPlug (network : DriverNetwork) (macAddress : String) (gateway : Bool) :
    Returns (QuantumLinuxBridgeInterfaceDriver.plug sh binaryName network macAddress gateway)
      (if gateway then QuantumLinuxBridgeInterfaceDriver.getDev network
        else QuantumLinuxBridgeInterfaceDriver.getBridge network) := by
  unfold QuantumLinuxBridgeInterfaceDriver.plug
  dsimp only
  cases gateway <;> simp only [Bool.not_false, Bool.not_true, Bool.false_eq_true, if_true, if_false] <;>
  repeat' first
    | with_reducible exact Returns.pure _
    | with_reducible apply Returns.bind
    | with_reducible apply Returns.ite
    | intro _

/-- Whichever class is configured, the device `plug` returns is the one `get_dev` names, except
on the Quantum driver with `gateway=False`. -/
theorem linuxNetPlug_returns_getDev (conf : DriverConf) (network : DriverNetwork)
    (macAddress : String) (gateway : Bool) (fault : Option ExecFault) {st st' : BridgeState}
    {r : String} (hq : conf.linuxnetInterfaceDriver = .quantumLinuxBridge → gateway = true)
    (h : LinuxNet.plug sh binaryName conf network macAddress gateway fault st = .ok r st') :
    LinuxNet.getDev conf network st' = .ok r st' := by
  unfold LinuxNet.plug at h
  unfold LinuxNet.getDev
  cases hd : conf.linuxnetInterfaceDriver <;> rw [hd] at h
  · cases h
  · rw [(returns_plug sh binaryName _ _ _ _ _).eq h]; rfl
  · rw [(returns_ovsPlug sh binaryName _ _ _ _).eq h]; rfl
  · rw [(returns_quantumPlug sh binaryName _ _ _).eq h, if_pos (hq hd)]; rfl

end Returns

/-! ## The Quantum driver without a gateway -/

theorem getBridge_ne_getDev (network : DriverNetwork) :
    QuantumLinuxBridgeInterfaceDriver.getBridge network ≠
      QuantumLinuxBridgeInterfaceDriver.getDev network := fun h => by
  simpa [QuantumLinuxBridgeInterfaceDriver.getBridge, QuantumLinuxBridgeInterfaceDriver.getDev]
    using congrArg (·.data.head?) h

theorem dollar_not_mem_getBridge {network : DriverNetwork} (hd : '$' ∉ network.uuid.data) :
    '$' ∉ (QuantumLinuxBridgeInterfaceDriver.getBridge network).data := by
  simp only [QuantumLinuxBridgeInterfaceDriver.getBridge, sliceTo, String.data_append,
    List.mem_append, not_or]
  exact ⟨by decide, fun h => hd (List.mem_of_mem_take h)⟩

/-- On the Quantum driver, `plug` with `gateway=False` returns the bridge's name, not the
device's, and runs no command, so it makes neither the tap device nor the bridge: it only adds
the bridge's two `DROP` rules. -/
theorem quantumPlug_no_gateway (sh : Shell) (binaryName : String) (network : DriverNetwork)
    (macAddress : String) {st : BridgeState} (hs : Inv st.net) (hd : '$' ∉ network.uuid.data) :
    ∃ net, QuantumLinuxBridgeInterfaceDriver.plug sh binaryName network macAddress false st =
        .ok (QuantumLinuxBridgeInterfaceDriver.getBridge network) { st with net := net } ∧
      Inv net ∧ (net.manager.tables .ipv4Filter).rules = (st.net.manager.tables .ipv4Filter).rules ++
        (bridgeForwardRules (QuantumLinuxBridgeInterfaceDriver.getBridge network) "DROP").map
          fun p => ⟨p.1, p.2, true, false⟩ := by
  obtain ⟨net, hrun, hinv, -, -, hrules⟩ := forM_addRule_eq binaryName .ipv4Filter _ hs
    (bridgeForwardRules_ok false (dollar_not_mem_getBridge hd))
  refine ⟨net, ?_, hinv, hrules⟩
  unfold QuantumLinuxBridgeInterfaceDriver.plug
  exact BridgeM.bind_of_ok (liftNet_of_ok hrun)

/-! ## On the reference shell -/

section Reference

variable (binaryName : String)

theorem createTapDev_exec_absent {dev : String} (macAddress : String) {st : BridgeState}
    (hd : st.host.links dev = none) :
    QuantumLinuxBridgeInterfaceDriver.createTapDev Host.exec dev macAddress st =
      .ok () { st with host := st.host.set dev ⟨[], true, none, false⟩ } := by
  unfold QuantumLinuxBridgeInterfaceDriver.createTapDev
  simp only [BridgeM.bind_of_ok (deviceExists_exec _ _), hd, Option.isSome_none, Bool.not_false,
    if_true]
  split_ifs <;>
    simp [BridgeM.bind_apply, BridgeM.tryCatch_apply, call_apply, execute, Host.exec, hd]

/-- From a host with neither the tap device nor the bridge, a Quantum `plug` with a gateway
makes both, up, the bridge with the network's address and the device in no bridge. -/
theorem quantumPlug_exec_absent (network : DriverNetwork) (macAddress : String)
    {st : BridgeState} (hs : Inv st.net) (hd : '$' ∉ network.uuid.data)
    (hdev : st.host.links (QuantumLinuxBridgeInterfaceDriver.getDev network) = none)
    (hbr : st.host.links (QuantumLinuxBridgeInterfaceDriver.getBridge network) = none) :
    ∃ net, QuantumLinuxBridgeInterfaceDriver.plug Host.exec binaryName network macAddress true st =
        .ok (QuantumLinuxBridgeInterfaceDriver.getDev network)
          ⟨(st.host.set (QuantumLinuxBridgeInterfaceDriver.getDev network) ⟨[], true, none, false⟩).set
            (QuantumLinuxBridgeInterfaceDriver.getBridge network)
            ⟨[[QuantumLinuxBridgeInterfaceDriver.fullIp network]], true, none, true⟩, net⟩ ∧
      Inv net ∧ (net.manager.tables .ipv4Filter).rules = (st.net.manager.tables .ipv4Filter).rules ++
        (bridgeForwardRules (QuantumLinuxBridgeInterfaceDriver.getBridge network) "ACCEPT").map
          fun p => ⟨p.1, p.2, true, false⟩ := by
  obtain ⟨net, hrun, hinv, -, -, hrules⟩ := forM_addRule_eq binaryName .ipv4Filter _ hs
    (bridgeForwardRules_ok true (dollar_not_mem_getBridge hd))
  refine ⟨net, ?_, hinv, hrules⟩
  have hne := getBridge_ne_getDev network
  unfold QuantumLinuxBridgeInterfaceDriver.plug
  dsimp only
  simp only [Bool.not_true, Bool.false_eq_true, if_false]
  have hadd : addForwardRules binaryName (QuantumLinuxBridgeInterfaceDriver.getBridge network)
      "ACCEPT" st.net = .ok () net := hrun
  rw [BridgeM.bind_of_ok (liftNet_of_ok hadd),
    BridgeM.bind_of_ok (@createTapDev_exec_absent _ macAddress { st with net := net } hdev),
    BridgeM.bind_of_ok (deviceExists_exec _ _)]
  simp [BridgeM.bind_apply, BridgeM.map_apply, call_apply, execute, Host.exec, Host.addAddr, hbr,
    hne]

theorem quantumUnplug_exec_present (network : DriverNetwork) {st : BridgeState} {l : Link}
    (hdev : st.host.links (QuantumLinuxBridgeInterfaceDriver.getDev network) = some l) :
    QuantumLinuxBridgeInterfaceDriver.unplug Host.exec network st =
      .ok (some (QuantumLinuxBridgeInterfaceDriver.getDev network))
        { st with host := st.host.erase (QuantumLinuxBridgeInterfaceDriver.getDev network) } := by
  have hdel : st.host.exec (.linkDelete (QuantumLinuxBridgeInterfaceDriver.getDev network)) =
      ({}, st.host.erase (QuantumLinuxBridgeInterfaceDriver.getDev network)) := by
    simp [Host.exec, hdev]
  unfold QuantumLinuxBridgeInterfaceDriver.unplug
  rw [BridgeM.bind_of_ok (deviceExists_exec _ _), hdev]
  simp only [Option.isSome_some, Bool.not_true, Bool.false_eq_true, if_false]
  rw [BridgeM.bind_of_ok (@call_of_run Host.exec _ (some [0, 2, 254]) _ _ _ hdel rfl)]
  rfl

/-- On the reference shell, a Quantum `plug` with a gateway then `unplug`, from a host with
neither the tap device nor the bridge and no port of the device, deletes the device but leaves
the bridge, up and with the network's address, and leaves the bridge's `ACCEPT` rules in the
filter table. -/
theorem quantumPlug_unplug_exec (network : DriverNetwork) (macAddress : String)
    {st : BridgeState} (hs : Inv st.net) (hd : '$' ∉ network.uuid.data)
    (hdev : st.host.links (QuantumLinuxBridgeInterfaceDriver.getDev network) = none)
    (hbr : st.host.links (QuantumLinuxBridgeInterfaceDriver.getBridge network) = none)
    (hports : ∀ n l, st.host.links n = some l →
      l.master ≠ some (QuantumLinuxBridgeInterfaceDriver.getDev network)) :
    ∃ net, (QuantumLinuxBridgeInterfaceDriver.plug Host.exec binaryName network macAddress true >>=
        fun _ => QuantumLinuxBridgeInterfaceDriver.unplug Host.exec network) st =
        .ok (some (QuantumLinuxBridgeInterfaceDriver.getDev network))
          ⟨st.host.set (QuantumLinuxBridgeInterfaceDriver.getBridge network)
            ⟨[[QuantumLinuxBridgeInterfaceDriver.fullIp network]], true, none, true⟩, net⟩ ∧
      Inv net ∧ (net.manager.tables .ipv4Filter).rules = (st.net.manager.tables .ipv4Filter).rules ++
        (bridgeForwardRules (QuantumLinuxBridgeInterfaceDriver.getBridge network) "ACCEPT").map
          fun p => ⟨p.1, p.2, true, false⟩ := by
  obtain ⟨net, hplug, hinv, hrules⟩ :=
    quantumPlug_exec_absent binaryName network macAddress hs hd hdev hbr
  refine ⟨net, ?_, hinv, hrules⟩
  have hne := getBridge_ne_getDev network
  rw [BridgeM.bind_of_ok hplug, quantumUnplug_exec_present network (l := ⟨[], true, none, false⟩)
    (by simp [hne.symm]), Host.erase_set_of_ne _ hne (by simp), Host.erase_set_self hdev hports]

/-- From a host with the integration bridge and no device, an Open vSwitch `plug` makes the
device an internal port of the bridge, up, and adds the bridge's two rules, `ACCEPT` for a
gateway and `DROP` otherwise. -/
theorem ovsPlug_exec_absent (conf : DriverConf) (network : DriverNetwork) (macAddress : String)
    (gateway : Bool) {st : BridgeState} {lb : Link} (hs : Inv st.net)
    (hd : '$' ∉ conf.linuxnetOvsIntegrationBridge.data)
    (hbr : st.host.links conf.linuxnetOvsIntegrationBridge = some lb) (hlb : lb.isBridge = true)
    (hdev : st.host.links (LinuxOVSInterfaceDriver.getDev network) = none) :
    ∃ net, LinuxOVSInterfaceDriver.plug Host.exec binaryName conf network macAddress gateway st =
        .ok (LinuxOVSInterfaceDriver.getDev network)
          ⟨st.host.set (LinuxOVSInterfaceDriver.getDev network)
            ⟨[], true, some conf.linuxnetOvsIntegrationBridge, false⟩, net⟩ ∧
      Inv net ∧ (net.manager.tables .ipv4Filter).rules = (st.net.manager.tables .ipv4Filter).rules ++
        (bridgeForwardRules conf.linuxnetOvsIntegrationBridge
          (if gateway then "ACCEPT" else "DROP")).map fun p => ⟨p.1, p.2, true, false⟩ := by
  obtain ⟨net, hrun, hinv, -, -, hrules⟩ :=
    forM_addRule_eq binaryName .ipv4Filter _ hs (bridgeForwardRules_ok gateway hd)
  refine ⟨net, ?_, hinv, hrules⟩
  have hne : LinuxOVSInterfaceDriver.getDev network ≠ conf.linuxnetOvsIntegrationBridge :=
    fun h => by simp [h, hbr] at hdev
  have hadd : addForwardRules binaryName conf.linuxnetOvsIntegrationBridge
      (if gateway then "ACCEPT" else "DROP") st.net = .ok () net := hrun
  unfold LinuxOVSInterfaceDriver.plug
  dsimp only
  rw [BridgeM.bind_of_ok (deviceExists_exec _ _), hdev]
  simp only [Option.isSome_none, Bool.not_false, if_true]
  cases gateway <;>
    simp only [Bool.not_false, Bool.not_true, Bool.false_eq_true, if_true, if_false] at hadd ⊢ <;>
    split_ifs <;>
    simp [BridgeM.bind_apply, BridgeM.map_apply, call_apply, execute, Host.exec, hbr, hlb, hdev,
      hne, hne.symm, Option.filter, liftNet, hadd]

/-- An Open vSwitch `plug` that finds its device changes nothing, on the host or in the manager:
unlike the Linux bridge driver's, a second `plug` adds no rule again. -/
theorem ovsPlug_exec_present (conf : DriverConf) (network : DriverNetwork) (macAddress : String)
    (gateway : Bool) {st : BridgeState}
    (hdev : (st.host.links (LinuxOVSInterfaceDriver.getDev network)).isSome = true) :
    LinuxOVSInterfaceDriver.plug Host.exec binaryName conf network macAddress gateway st =
      .ok (LinuxOVSInterfaceDriver.getDev network) st := by
  unfold LinuxOVSInterfaceDriver.plug
  dsimp only
  rw [BridgeM.bind_of_ok (deviceExists_exec _ _), hdev]
  rfl

theorem ovsUnplug_exec (conf : DriverConf) (network : DriverNetwork) {st : BridgeState}
    {lb l : Link} (hbr : st.host.links conf.linuxnetOvsIntegrationBridge = some lb)
    (hlb : lb.isBridge = true) (hdev : st.host.links (LinuxOVSInterfaceDriver.getDev network) = some l)
    (hm : l.master = some conf.linuxnetOvsIntegrationBridge) :
    LinuxOVSInterfaceDriver.unplug Host.exec conf network st =
      .ok (LinuxOVSInterfaceDriver.getDev network)
        { st with host := st.host.erase (LinuxOVSInterfaceDriver.getDev network) } := by
  have hdel : st.host.exec (.ovsDelPort conf.linuxnetOvsIntegrationBridge
      (LinuxOVSInterfaceDriver.getDev network)) =
      ({}, st.host.erase (LinuxOVSInterfaceDriver.getDev network)) := by
    simp [Host.exec, hbr, hlb, hdev, hm, Option.filter]
  unfold LinuxOVSInterfaceDriver.unplug
  rw [BridgeM.bind_of_ok (@call_of_run Host.exec _ (some [0]) _ _ _ hdel rfl)]
  rfl

/-- On the reference shell, an Open vSwitch `plug` then `unplug`, from a host with the
integration bridge, no device and no port of it, gives the host back its links, but the filter
table keeps the two rules `plug` added. -/
theorem ovsPlug_unplug_exec (conf : DriverConf) (network : DriverNetwork) (macAddress : String)
    (gateway : Bool) {st : BridgeState} {lb : Link} (hs : Inv st.net)
    (hd : '$' ∉ conf.linuxnetOvsIntegrationBridge.data)
    (hbr : st.host.links conf.linuxnetOvsIntegrationBridge = some lb) (hlb : lb.isBridge = true)
    (hdev : st.host.links (LinuxOVSInterfaceDriver.getDev network) = none)
    (hports : ∀ n l, st.host.links n = some l →
      l.master ≠ some (LinuxOVSInterfaceDriver.getDev network)) :
    ∃ net, (LinuxOVSInterfaceDriver.plug Host.exec binaryName conf network macAddress gateway >>=
        fun _ => LinuxOVSInterfaceDriver.unplug Host.exec conf network) st =
        .ok (LinuxOVSInterfaceDriver.getDev network) ⟨st.host, net⟩ ∧
      Inv net ∧ (net.manager.tables .ipv4Filter).rules = (st.net.manager.tables .ipv4Filter).rules ++
        (bridgeForwardRules conf.linuxnetOvsIntegrationBridge
          (if gateway then "ACCEPT" else "DROP")).map fun p => ⟨p.1, p.2, true, false⟩ := by
  obtain ⟨net, hplug, hinv, hrules⟩ :=
    ovsPlug_exec_absent binaryName conf network macAddress gateway hs hd hbr hlb hdev
  refine ⟨net, ?_, hinv, hrules⟩
  have hne : LinuxOVSInterfaceDriver.getDev network ≠ conf.linuxnetOvsIntegrationBridge :=
    fun h => by simp [h, hbr] at hdev
  rw [BridgeM.bind_of_ok hplug, @ovsUnplug_exec conf network _ lb _ (by simp [hne.symm, hbr]) hlb
    (Host.set_links_self _ _ _) rfl, Host.erase_set_self hdev hports]

/-- With neither device present, `_create_veth_pair` makes both ends. -/
theorem createVethPair_exec_absent {dev1Name dev2Name : String} (hne : dev1Name ≠ dev2Name)
    {st : BridgeState} (h1 : st.host.links dev1Name = none) (h2 : st.host.links dev2Name = none) :
    createVethPair Host.exec dev1Name dev2Name st =
      .ok () { st with host := ((st.host.set dev1Name ⟨[], true, none, false⟩).set dev2Name
        ⟨[], true, none, false⟩) } := by
  unfold createVethPair
  simp [List.forM_cons', BridgeM.bind_apply, deviceExists_exec, call_apply, execute, Host.exec,
    h1, h2, hne, hne.symm]
  rw [Host.set_comm _ hne.symm, Host.set_set_self, Host.set_set_self]

/-- `_create_veth_pair` deletes `dev1_name` for a stale device of either name.  With no device
`dev1_name` and a stale `dev2_name`, the delete fails and is only logged, the stale device
stays, and `ip link add` raises, with the host as it was: the pair is never made. -/
theorem createVethPair_stale_dev2_raises {dev1Name dev2Name : String} {st : BridgeState}
    (h1 : st.host.links dev1Name = none) (h2 : (st.host.links dev2Name).isSome = true) :
    createVethPair Host.exec dev1Name dev2Name st =
      .error (.net (.processExecutionError
        (" ".intercalate (LinkCmd.linkAddVeth dev1Name dev2Name).argv))) st := by
  unfold createVethPair
  simp [List.forM_cons', BridgeM.bind_apply, BridgeM.tryCatch_apply, deviceExists_exec, call_apply,
    execute, Host.exec, h1, h2, swallowProcessError, cannotFindDevice]

end Reference

end FolsomCloud.Network
