import FolsomCloud.Network.IptablesManager
import FolsomCloud.Network.LinuxNet

set_option autoImplicit false

/-!
# Network: the Linux bridge driver (`LinuxBridgeInterfaceDriver`)

`plug` makes a network's bridge on the host.  On a VLAN network `ensure_vlan_bridge` first
makes the VLAN interface (`ensure_vlan`); `ensure_bridge` then makes the bridge unless a
link of that name exists, adds the interface to it, moves the interface's routes through a
gateway and its global IPv4 addresses onto it, and adds the bridge's two `FORWARD` rules to
the module's `iptables_manager`, which `plug` then applies.

The commands go through `_execute` (`utils.execute`, not in src), which raises
`ProcessExecutionError` for an exit code outside `check_exit_code`.  What a command does to
the host and what it prints is the shell `sh`, a parameter; `Host.exec` is the reference
shell, `ip`, `brctl`, `tunctl` and Open vSwitch acting on the host's links.  It keeps no
routing table.

Results:

* on the reference shell, `ensure_bridge` moves the interface's addresses onto a new bridge
  and makes the interface its port (`ensureBridge_moves_addresses`), and onto a link of the
  bridge's name that is no bridge it moves them just the same, returning normally with the
  interface in no bridge (`ensureBridge_non_bridge_unreported`): the `err` it checks after
  `brctl addif` is that of a later command; a second run changes no link
  (`ensureBridge_host_idempotent`);
* `plug` keeps the manager's invariant and raises no `ValueError` under every shell
  (`netSafe_plug`), and on a VLAN network it adds `ACCEPT` rules for the bridge whatever
  its `gateway` argument (`plug_vlan_accepts`);
* on the reference shell, plugging a VLAN network makes the VLAN interface a port of the
  bridge, and plugging it again changes no link (`plug_vlan_host_idempotent`).
-/

namespace FolsomCloud.Network

open PyStr

/-! ## The host's links and the commands on them -/

/-- The commands the interface drivers and `_create_veth_pair` run through `_execute` or
`utils.execute`. -/
inductive LinkCmd where
  | linkShow (dev : String)
  | linkAddVlan (link name : String) (vlanNum : Nat)
  | linkSetAddress (dev mac : String)
  | linkSetUp (dev : String)
  | linkSetMtu (dev : String) (mtu : Nat)
  | brctlAddbr (bridge : String)
  | brctlSetfd (bridge : String)
  | brctlStp (bridge : String)
  | brctlAddif (bridge interface : String)
  | routeShow (dev : String)
  | routeDel (fields : List String)
  | addrShow (dev : String)
  /-- `_ip_bridge_cmd('del', params, dev)` -/
  | addrDel (params : List String) (dev : String)
  /-- `_ip_bridge_cmd('add', params, dev)` -/
  | addrAdd (params : List String) (dev : String)
  | routeAdd (fields : List String)
  | linkDelete (dev : String)
  | linkAddVeth (dev1 dev2 : String)
  | linkSetPromisc (dev : String)
  | tuntapAdd (dev : String)
  | tunctl (dev : String)
  /-- `ip address add full_ip dev bridge` -/
  | addressAdd (fullIp dev : String)
  /-- `ovs-vsctl -- --may-exist add-port`, with the port made internal and its external ids -/
  | ovsAddPort (bridge dev macAddress : String)
  | ovsDelPort (bridge dev : String)
  | ovsAddFlow (bridge flow : String)
  deriving Repr

/-- The arguments each command passes to `_execute`. -/
def LinkCmd.argv : LinkCmd → List String
  | .linkShow dev => ["ip", "link", "show", "dev", dev]
  | .linkAddVlan link name vlanNum =>
    ["ip", "link", "add", "link", link, "name", name, "type", "vlan", "id", toString vlanNum]
  | .linkSetAddress dev mac => ["ip", "link", "set", dev, "address", mac]
  | .linkSetUp dev => ["ip", "link", "set", dev, "up"]
  | .linkSetMtu dev mtu => ["ip", "link", "set", dev, "mtu", toString mtu]
  | .brctlAddbr bridge => ["brctl", "addbr", bridge]
  | .brctlSetfd bridge => ["brctl", "setfd", bridge, "0"]
  | .brctlStp bridge => ["brctl", "stp", bridge, "off"]
  | .brctlAddif bridge interface => ["brctl", "addif", bridge, interface]
  | .routeShow dev => ["ip", "route", "show", "dev", dev]
  | .routeDel fields => ["ip", "route", "del"] ++ fields
  | .addrShow dev => ["ip", "addr", "show", "dev", dev, "scope", "global"]
  | .addrDel params dev => ipBridgeCmd "del" params dev
  | .addrAdd params dev => ipBridgeCmd "add" params dev
  | .routeAdd fields => ["ip", "route", "add"] ++ fields
  | .linkDelete dev => ["ip", "link", "delete", dev]
  | .linkAddVeth dev1 dev2 => ["ip", "link", "add", dev1, "type", "veth", "peer", "name", dev2]
  | .linkSetPromisc dev => ["ip", "link", "set", dev, "promisc", "on"]
  | .tuntapAdd dev => ["ip", "tuntap", "add", dev, "mode", "tap"]
  | .tunctl dev => ["tunctl", "-b", "-t", dev]
  | .addressAdd fullIp dev => ["ip", "address", "add", fullIp, "dev", dev]
  | .ovsAddPort bridge dev macAddress =>
    ["ovs-vsctl", "--", "--may-exist", "add-port", bridge, dev,
     "--", "set", "Interface", dev, "type=internal",
     "--", "set", "Interface", dev, "external-ids:iface-id=" ++ dev,
     "--", "set", "Interface", dev, "external-ids:iface-status=active",
     "--", "set", "Interface", dev, "external-ids:attached-mac=" ++ macAddress]
  | .ovsDelPort bridge dev => ["ovs-vsctl", "--", "--if-exists", "del-port", bridge, dev]
  | .ovsAddFlow bridge flow => ["ovs-ofctl", "add-flow", bridge, flow]

/-- What a command leaves for `_execute`: its exit code, its output cut into lines and each
line into its fields (`out.split('\n')`, `line.split()`), and its stderr. -/
structure ExecResult where
  exitCode : Nat := 0
  out : List (List String) := []
  err : String := ""
  deriving DecidableEq, Repr

/-- A link of the host: its global IPv4 addresses (each the `ip_params` of its `inet` line,
the address first), whether it is up, the bridge it is a port of, and whether it is a
bridge. -/
structure Link where
  addrs : List (List String)
  up : Bool
  master : Option String
  isBridge : Bool
  deriving DecidableEq, Repr

/-- The host's links, by name. -/
structure Host where
  links : String → Option Link

/-- The host with link `name` replaced or added. -/
def Host.set (h : Host) (name : String) (l : Link) : Host := ⟨Function.update h.links name (some l)⟩

@[simp] theorem Host.set_links_self (h : Host) (name : String) (l : Link) :
    (h.set name l).links name = some l :=
  Function.update_same _ _ _

@[simp] theorem Host.set_links_of_ne {h : Host} {name n : String} (l : Link) (hn : n ≠ name) :
    (h.set name l).links n = h.links n :=
  Function.update_noteq hn _ _

@[simp] theorem Host.set_set_self (h : Host) (name : String) (l l' : Link) :
    (h.set name l).set name l' = h.set name l' := by
  simp only [Host.set, Function.update_idem]

theorem Host.set_comm (h : Host) {n m : String} (hnm : n ≠ m) (l l' : Link) :
    (h.set n l).set m l' = (h.set m l').set n l := by
  simp only [Host.set, Function.update_comm hnm]

theorem Host.set_of_links {h : Host} {name : String} {l : Link} (hl : h.links name = some l) :
    h.set name l = h := by
  rw [Host.set, ← hl, Function.update_eq_self]

theorem Host.links_injective {h h' : Host} (e : h.links = h'.links) : h = h' := by
  cases h
  cases e
  rfl

/-- The host with link `name` deleted; the links that were its ports leave it. -/
def Host.erase (h : Host) (name : String) : Host :=
  ⟨fun n => if n = name then none
    else (h.links n).map fun l => if l.master = some name then { l with master := none } else l⟩

@[simp] theorem Host.erase_links_self (h : Host) (name : String) : (h.erase name).links name = none :=
  if_pos rfl

/-- Deleting a link that is no link's bridge leaves the other links. -/
theorem Host.erase_links_of_ne {h : Host} {name n : String} (hn : n ≠ name)
    (hp : ∀ l, h.links n = some l → l.master ≠ some name) : (h.erase name).links n = h.links n := by
  simp only [Host.erase, if_neg hn]
  cases hl : h.links n with
  | none => rfl
  | some l => simp [hp l hl]

theorem Host.erase_set_of_ne (h : Host) {name n : String} (hn : n ≠ name) {l : Link}
    (hm : l.master ≠ some name) : (h.set n l).erase name = (h.erase name).set n l := by
  refine Host.links_injective (funext fun m => ?_)
  by_cases hm' : m = n
  · subst hm'
    simp [Host.erase, hn, hm]
  · simp only [Host.erase, Host.set, Function.update_noteq hm']

/-- A link made and deleted again leaves the host as it was, when no link was its port. -/
theorem Host.erase_set_self {h : Host} {name : String} (hd : h.links name = none)
    (hp : ∀ n l, h.links n = some l → l.master ≠ some name) (l : Link) :
    (h.set name l).erase name = h := by
  refine Host.links_injective (funext fun n => ?_)
  by_cases hn : n = name
  · subst hn
    simp [hd]
  · rw [Host.erase_links_of_ne hn fun l' hl' => hp n l' (by simpa [hn] using hl'),
      Host.set_links_of_ne _ hn]

/-- `ip`'s answer for a link that does not exist. -/
def cannotFindDevice (dev : String) : ExecResult :=
  { exitCode := 1, err := "Cannot find device \"" ++ dev ++ "\"\n" }

/-- `ip link show` and `ip addr show` on a link that does not exist. -/
def deviceDoesNotExist (dev : String) : ExecResult :=
  { exitCode := 1, err := "Device \"" ++ dev ++ "\" does not exist.\n" }

theorem deviceDoesNotExist_err_ne (dev : String) : (deviceDoesNotExist dev).err ≠ "" := fun h => by
  simpa [deviceDoesNotExist] using congrArg String.data h

/-- `ip addr add` of the address `params` (its first field) to link `dev`. -/
def Host.addAddr (h : Host) (params : List String) (dev : String) : ExecResult × Host :=
  match h.links dev with
  | some l =>
    if params.head? ∈ l.addrs.map List.head? then
      ({ exitCode := 2, err := "RTNETLINK answers: File exists\n" }, h)
    else ({}, h.set dev { l with addrs := l.addrs ++ [params] })
  | none => (cannotFindDevice dev, h)

/-- The reference shell: what `ip`, `brctl`, `tunctl` and Open vSwitch do to the host's links
and print.  It keeps no routing table (`ip route show` lists no route and `ip route del` finds
none), no MAC address, MTU, promiscuous flag or flow, and no veth peer: `ip link delete` of one
end of a pair leaves the other. -/
def Host.exec (h : Host) : LinkCmd → ExecResult × Host
  | .linkShow dev => (if (h.links dev).isSome then {} else deviceDoesNotExist dev, h)
  | .linkAddVlan link name _ =>
    if (h.links name).isSome then ({ exitCode := 2, err := "RTNETLINK answers: File exists\n" }, h)
    else if (h.links link).isSome then ({}, h.set name ⟨[], false, none, false⟩)
    else (cannotFindDevice link, h)
  | .linkSetAddress dev _ | .linkSetMtu dev _ | .linkSetPromisc dev =>
    (if (h.links dev).isSome then {} else cannotFindDevice dev, h)
  | .linkSetUp dev =>
    match h.links dev with
    | some l => ({}, h.set dev { l with up := true })
    | none => (cannotFindDevice dev, h)
  | .brctlAddbr bridge =>
    if (h.links bridge).isSome then
      ({ exitCode := 1,
         err := "device " ++ bridge ++ " already exists; can\x27t create bridge with the same name\n" }, h)
    else ({}, h.set bridge ⟨[], false, none, true⟩)
  | .brctlSetfd bridge | .brctlStp bridge =>
    (if ((h.links bridge).map (·.isBridge)) = some true then {}
      else { exitCode := 1, err := "bridge " ++ bridge ++ " does not exist!\n" }, h)
  | .brctlAddif bridge interface =>
    match (h.links bridge).filter (·.isBridge), h.links interface with
    | none, _ => ({ exitCode := 1, err := "bridge " ++ bridge ++ " does not exist!\n" }, h)
    | some _, none => ({ exitCode := 1, err := "interface " ++ interface ++ " does not exist!\n" }, h)
    | some _, some l =>
      if l.master.isSome then
        ({ exitCode := 1, err := "device " ++ interface ++
            " is already a member of a bridge; can\x27t enslave it to bridge " ++ bridge ++ ".\n" }, h)
      else ({}, h.set interface { l with master := some bridge })
  | .routeShow dev => (if (h.links dev).isSome then {} else cannotFindDevice dev, h)
  | .routeDel _ => ({ exitCode := 2, err := "RTNETLINK answers: No such process\n" }, h)
  | .routeAdd _ => ({}, h)
  | .addrShow dev =>
    match h.links dev with
    | some l => ({ out := l.addrs.map fun a => "inet" :: a ++ [dev] }, h)
    | none => (deviceDoesNotExist dev, h)
  | .addrDel params dev =>
    match h.links dev with
    | some l =>
      if params.head? ∈ l.addrs.map List.head? then
        ({}, h.set dev { l with addrs := l.addrs.eraseP (·.head? = params.head?) })
      else ({ exitCode := 2, err := "RTNETLINK answers: Cannot assign requested address\n" }, h)
    | none => (cannotFindDevice dev, h)
  | .addrAdd params dev => h.addAddr params dev
  | .addressAdd fullIp dev => h.addAddr [fullIp] dev
  | .linkDelete dev => if (h.links dev).isSome then ({}, h.erase dev) else (cannotFindDevice dev, h)
  | .linkAddVeth dev1 dev2 =>
    if (h.links dev1).isSome || (h.links dev2).isSome then
      ({ exitCode := 2, err := "RTNETLINK answers: File exists\n" }, h)
    else ({}, (h.set dev1 ⟨[], false, none, false⟩).set dev2 ⟨[], false, none, false⟩)
  | .tuntapAdd dev =>
    if (h.links dev).isSome then
      ({ exitCode := 1, err := "ioctl(TUNSETIFF): Device or resource busy\n" }, h)
    else ({}, h.set dev ⟨[], false, none, false⟩)
  | .tunctl dev =>
    if (h.links dev).isSome then ({ exitCode := 1, err := "TUNSETIFF: Device or resource busy\n" }, h)
    else ({ out := [[dev]] }, h.set dev ⟨[], false, none, false⟩)
  | .ovsAddPort bridge dev _ =>
    match (h.links bridge).filter (·.isBridge), h.links dev with
    | none, _ => ({ exitCode := 1, err := "ovs-vsctl: no bridge named " ++ bridge ++ "\n" }, h)
    | some _, none => ({}, h.set dev ⟨[], false, some bridge, false⟩)
    | some _, some l =>
      if l.master = some bridge then ({}, h)
      else ({ exitCode := 1, err := "ovs-vsctl: cannot create a port named " ++ dev ++
        " because a port named " ++ dev ++ " already exists\n" }, h)
  | .ovsDelPort bridge dev =>
    match (h.links bridge).filter (·.isBridge), h.links dev with
    | none, _ => ({ exitCode := 1, err := "ovs-vsctl: no bridge named " ++ bridge ++ "\n" }, h)
    | some _, none => ({}, h)
    | some _, some l =>
      if l.master = some bridge then ({}, h.erase dev)
      else
        ({ exitCode := 1,
           err := "ovs-vsctl: bridge " ++ bridge ++ " does not have a port " ++ dev ++ "\n" }, h)
  | .ovsAddFlow bridge _ =>
    (if ((h.links bridge).map (·.isBridge)) = some true then {}
      else { exitCode := 1, err := "ovs-ofctl: " ++ bridge ++ " is not a bridge or a socket\n" }, h)

/-- What runs the commands: the host's answer to each, and the host it leaves. -/
abbrev Shell := Host → LinkCmd → ExecResult × Host

/-! ## The driver's state -/

/-- What the driver's functions act on: the host's links, and the module's
`iptables_manager` with the kernel's tables. -/
structure BridgeState where
  host : Host
  net : NetState

/-- What they raise: what the manager's calls and `_execute` raise, `NovaException`, and what
a call of the abstract `LinuxNetInterfaceDriver` raises. -/
inductive BridgeErr where
  | net (e : NetErr)
  | novaException (msg : String)
  | notImplementedError
  /-- a call with more arguments than the method takes -/
  | typeError
  deriving DecidableEq, Repr

/-- A call of the driver; the state survives an exception. -/
abbrev BridgeM := EStateM BridgeErr BridgeState

namespace BridgeM

variable {α β : Type}

/-- The state `x` leaves, whether it returns or raises. -/
def after (x : BridgeM α) (st : BridgeState) : BridgeState :=
  match x st with
  | .ok _ st' => st'
  | .error _ st' => st'

theorem bind_apply (x : BridgeM α) (f : α → BridgeM β) (st : BridgeState) :
    (x >>= f) st = match x st with
      | .ok a st' => f a st'
      | .error e st' => .error e st' := by
  cases h : x st <;> simp only [bind, EStateM.bind, h]

theorem bind_of_ok {x : BridgeM α} {f : α → BridgeM β} {st st' : BridgeState} {a : α}
    (h : x st = .ok a st') : (x >>= f) st = f a st' := by
  rw [bind_apply, h]

@[simp] theorem pure_apply (a : α) (st : BridgeState) : (pure a : BridgeM α) st = .ok a st := rfl

theorem map_apply (f : α → β) (x : BridgeM α) (st : BridgeState) :
    (f <$> x) st = match x st with
      | .ok a st' => .ok (f a) st'
      | .error e st' => .error e st' := by
  show EStateM.map f x st = _
  simp only [EStateM.map]
  cases x st <;> rfl

theorem after_of_ok {x : BridgeM α} {st st' : BridgeState} {a : α} (h : x st = .ok a st') :
    after x st = st' := by
  simp only [after, h]

theorem after_bind (x : BridgeM α) (f : α → BridgeM β) (st : BridgeState) :
    after (x >>= f) st = match x st with
      | .ok a st₁ => after (f a) st₁
      | .error _ st₁ => st₁ := by
  simp only [after, bind_apply]
  cases x st <;> rfl

theorem bind_eq_ok {x : BridgeM α} {f : α → BridgeM β} {st st' : BridgeState} {b : β}
    (h : (x >>= f) st = .ok b st') : ∃ a st₁, x st = .ok a st₁ ∧ f a st₁ = .ok b st' := by
  rw [bind_apply] at h
  cases hx : x st with
  | ok a st₁ => rw [hx] at h; exact ⟨a, st₁, rfl, h⟩
  | error e st₁ => rw [hx] at h; cases h

end BridgeM

/-- A call on the module's manager, on the driver's state. -/
def liftNet {α : Type} (x : NetM α) : BridgeM α := fun st =>
  match x st.net with
  | .ok a s => .ok a { st with net := s }
  | .error e s => .error (.net e) { st with net := s }

/-! ## The driver -/

section Driver

variable (sh : Shell) (binaryName : String)

/-- `_execute(*cmd, check_exit_code=...)`: `none` is `check_exit_code=False`. -/
def execute (c : LinkCmd) (checkExitCode : Option (List Nat)) :
    BridgeM (List (List String) × String) := fun st =>
  let r := sh st.host c
  if checkExitCode.all (·.contains r.1.exitCode) then .ok (r.1.out, r.1.err) { st with host := r.2 }
  else .error (.net (.processExecutionError (" ".intercalate c.argv))) { st with host := r.2 }

/-- `_execute` whose output is not read. -/
def call (c : LinkCmd) (checkExitCode : Option (List Nat)) : BridgeM Unit := do
  let _ ← execute sh c checkExitCode

/-- `_device_exists(device)`: `ip link show` writes nothing to stderr. -/
def deviceExists (device : String) : BridgeM Bool := do
  let (_, err) ← execute sh (.linkShow device) none
  return decide (err = "")

/-- `LinuxBridgeInterfaceDriver.ensure_vlan(vlan_num, bridge_interface, mac_address)`, with
`CONF.network_device_mtu` as `mtu`; `0` and `""` stand for an unset option or argument. -/
def ensureVlan (mtu vlanNum : Nat) (bridgeInterface macAddress : String) : BridgeM String := do
  let interface := "vlan" ++ toString vlanNum
  if !(← deviceExists sh interface) then
    call sh (.linkAddVlan bridgeInterface interface vlanNum) (some [0, 2, 254])
    if macAddress ≠ "" then
      call sh (.linkSetAddress interface macAddress) (some [0, 2, 254])
    call sh (.linkSetUp interface) (some [0, 2, 254])
    if mtu ≠ 0 then
      call sh (.linkSetMtu interface mtu) (some [0, 2, 254])
  return interface

/-- `ensure_bridge`'s creation of a bridge whose name no link has. -/
def createBridge (bridge : String) : BridgeM Unit := do
  call sh (.brctlAddbr bridge) (some [0])
  call sh (.brctlSetfd bridge) (some [0])
  call sh (.brctlStp bridge) (some [0])
  call sh (.linkSetUp bridge) (some [0])

/-- The `ip_params` and the label (`fields[1:-1]`, `fields[-1]`) of a line of `ip addr show`
whose first field is `inet`. -/
def inetLine (fields : List String) : Option (List String × String) :=
  (inetParams fields).map fun params => (params, fields.getLastD "")

/-- The turn of `ensure_bridge`'s loop over the lines of `ip addr show`: the address of an
`inet` line leaves the link the line names for the bridge. -/
def moveAddrLine (bridge : String) (fields : List String) : BridgeM Unit :=
  match inetLine fields with
  | some (params, label) => do
    call sh (.addrDel params label) (some [0, 2, 254])
    call sh (.addrAdd params bridge) (some [0, 2, 254])
  | none => pure ()

/-- The stderr `ensure_bridge` lets pass: `"device %s is already a member of a bridge;"
"can't ensubordinate it to bridge %s.\n" % (interface, bridge)`. -/
def alreadyMemberErr (interface bridge : String) : String :=
  "device " ++ interface ++ " is already a member of a bridge;can\x27t ensubordinate it to bridge " ++
    bridge ++ ".\n"

/-- The part of `ensure_bridge`'s `if interface:` block after `brctl addif`: the routes
through a gateway (`via`) are deleted, the addresses moved, the routes added back, and the
`err` of the last command read (`old_routes` is the filter of the route lines, deleted in
order). -/
def moveToBridge (bridge interface : String) : BridgeM Unit := do
  let (out, _) ← execute sh (.routeShow interface) (some [0])
  let oldRoutes := out.filter fun fields => fields ≠ [] ∧ "via" ∈ fields
  oldRoutes.forM fun fields => call sh (.routeDel fields) (some [0])
  let (out, err) ← execute sh (.addrShow interface) (some [0])
  out.forM (moveAddrLine sh bridge)
  oldRoutes.forM fun fields => call sh (.routeAdd fields) (some [0])
  if err ≠ "" ∧ err ≠ alreadyMemberErr interface bridge then
    throw (.novaException ("Failed to add interface: " ++ err))

/-- The two rules `ensure_bridge` adds to the `FORWARD` chain of the IPv4 `filter` table,
for the bridge and `target` (`ACCEPT` for a gateway, `DROP` otherwise). -/
def bridgeForwardRules (bridge target : String) : List (String × String) :=
  [("FORWARD", "--in-interface " ++ bridge ++ " -j " ++ target),
   ("FORWARD", "--out-interface " ++ bridge ++ " -j " ++ target)]

/-- `ipv4_filter.add_rule` of the bridge's two rules. -/
def addForwardRules (bridge target : String) : NetM Unit :=
  (bridgeForwardRules bridge target).forM fun p =>
    onTable .ipv4Filter (·.addRule binaryName p.1 p.2 true false)

/-- The links part of `ensure_bridge`: the bridge made unless a link of its name exists, and,
for an interface, `brctl addif` and the moves. -/
def bridgeLinks (bridge interface : String) : BridgeM Unit := do
  if !(← deviceExists sh bridge) then createBridge sh bridge
  if interface ≠ "" then
    -- its `out, err` are overwritten by the next `_execute` before they are read
    let _ ← execute sh (.brctlAddif bridge interface) none
    moveToBridge sh bridge interface

/-- `LinuxBridgeInterfaceDriver.ensure_bridge(bridge, interface, net_attrs, gateway)`;
`""` stands for a missing `interface`, and `net_attrs` is not read. -/
def ensureBridge (bridge interface : String) (gateway : Bool) : BridgeM Unit := do
  bridgeLinks sh bridge interface
  liftNet (addForwardRules binaryName bridge (if gateway then "ACCEPT" else "DROP"))

/-- `LinuxBridgeInterfaceDriver.ensure_vlan_bridge(vlan_num, bridge, bridge_interface,
net_attrs, mac_address)`: its `ensure_bridge` takes the default `gateway=True`. -/
def ensureVlanBridge (mtu vlanNum : Nat) (bridge bridgeInterface macAddress : String) :
    BridgeM String := do
  let interface ← ensureVlan sh mtu vlanNum bridgeInterface macAddress
  ensureBridge sh binaryName bridge interface true
  return interface

/-- The columns of `network` that `plug` reads. -/
structure BridgeNetwork where
  vlan : Option Nat
  bridge : String
  bridgeInterface : String
  deriving DecidableEq, Repr

/-- The options (`CONF`) the driver reads; `""` and `0` stand for unset ones. -/
structure BridgeConf where
  vlanInterface : String
  flatInterface : String
  networkDeviceMtu : Nat
  useIpv6 : Bool
  deriving DecidableEq, Repr

/-- `LinuxBridgeInterfaceDriver.plug(network, mac_address, gateway)`, with the failed
command of its `iptables_manager.apply()`. -/
def plug (conf : BridgeConf) (network : BridgeNetwork) (macAddress : String) (gateway : Bool)
    (fault : Option ExecFault) : BridgeM String := do
  match network.vlan with
  | some vlan =>
    let iface := if conf.vlanInterface ≠ "" then conf.vlanInterface else network.bridgeInterface
    let _ ← ensureVlanBridge sh binaryName conf.networkDeviceMtu vlan network.bridge iface
      macAddress
  | none =>
    let iface := if conf.flatInterface ≠ "" then conf.flatInterface else network.bridgeInterface
    ensureBridge sh binaryName network.bridge iface gateway
  liftNet (IptablesManager.apply binaryName conf.useIpv6 fault)
  return network.bridge

end Driver

/-! ## Runs of the commands -/

section Runs

variable (sh : Shell)

/-- A command whose exit code passes the check returns its output and stderr. -/
theorem execute_of_run {c : LinkCmd} {chk : Option (List Nat)} {st : BridgeState}
    {r : ExecResult} {h : Host} (hx : sh st.host c = (r, h))
    (hc : chk.all (·.contains r.exitCode) = true) :
    execute sh c chk st = .ok (r.out, r.err) { st with host := h } := by
  simp only [execute, hx, hc, if_true]

theorem call_apply (c : LinkCmd) (chk : Option (List Nat)) (st : BridgeState) :
    call sh c chk st = match execute sh c chk st with
      | .ok _ st' => .ok () st'
      | .error e st' => .error e st' := by
  simp only [call, BridgeM.bind_apply]
  cases execute sh c chk st <;> rfl

theorem call_of_run {c : LinkCmd} {chk : Option (List Nat)} {st : BridgeState}
    {r : ExecResult} {h : Host} (hx : sh st.host c = (r, h))
    (hc : chk.all (·.contains r.exitCode) = true) :
    call sh c chk st = .ok () { st with host := h } := by
  simp only [call, BridgeM.bind_of_ok (execute_of_run sh hx hc), BridgeM.pure_apply]

theorem liftNet_of_ok {α : Type} {x : NetM α} {st : BridgeState} {a : α} {s : NetState}
    (h : x st.net = .ok a s) : liftNet x st = .ok a { st with net := s } := by
  simp only [liftNet, h]

theorem liftNet_eq_ok {α : Type} {x : NetM α} {st st' : BridgeState} {a : α}
    (h : liftNet x st = .ok a st') : x st.net = .ok a st'.net := by
  unfold liftNet at h
  split at h <;> cases h
  assumption

end Runs

section Reference

variable (binaryName : String)

theorem deviceExists_exec (device : String) (st : BridgeState) :
    deviceExists Host.exec device st = .ok (st.host.links device).isSome st := by
  unfold deviceExists
  rw [BridgeM.bind_of_ok (@execute_of_run Host.exec (.linkShow device) none st _ _ rfl rfl)]
  cases h : st.host.links device <;>
    simp [Host.exec, h, deviceDoesNotExist_err_ne]

theorem createBridge_exec {bridge : String} {st : BridgeState} (hb : st.host.links bridge = none) :
    createBridge Host.exec bridge st =
      .ok () { st with host := st.host.set bridge ⟨[], true, none, true⟩ } := by
  simp [createBridge, BridgeM.bind_apply, call_apply, execute, Host.exec, hb]

theorem vlanName_ne_empty (vlan : Nat) : "vlan" ++ toString vlan ≠ "" := fun h => by
  simpa using congrArg String.data h

/-- `ensure_vlan` on the reference shell makes the VLAN interface, up, when no link has its
name and the parent link exists. -/
theorem ensureVlan_exec_absent {mtu vlanNum : Nat} {bridgeInterface : String} (macAddress : String)
    {st : BridgeState} (hv : st.host.links ("vlan" ++ toString vlanNum) = none)
    (hp : (st.host.links bridgeInterface).isSome = true) :
    ensureVlan Host.exec mtu vlanNum bridgeInterface macAddress st =
      .ok ("vlan" ++ toString vlanNum)
        { st with host := st.host.set ("vlan" ++ toString vlanNum) ⟨[], true, none, false⟩ } := by
  unfold ensureVlan
  simp only [BridgeM.bind_of_ok (deviceExists_exec _ _), hv, Option.isSome_none, Bool.not_false,
    if_true]
  split_ifs <;> simp [BridgeM.bind_apply, BridgeM.map_apply, call_apply, execute, Host.exec, hv, hp]

/-- `ensure_vlan` changes nothing when a link has the VLAN interface's name. -/
theorem ensureVlan_exec_present {mtu vlanNum : Nat} {bridgeInterface : String} (macAddress : String)
    {st : BridgeState} (hv : (st.host.links ("vlan" ++ toString vlanNum)).isSome = true) :
    ensureVlan Host.exec mtu vlanNum bridgeInterface macAddress st =
      .ok ("vlan" ++ toString vlanNum) st := by
  unfold ensureVlan
  simp only [BridgeM.bind_of_ok (deviceExists_exec _ _), hv, Bool.not_true, Bool.false_eq_true,
    if_false]
  rfl

/-- The `inet` line `ip addr show` prints for an address of a link. -/
@[simp] theorem inetLine_inet (a : List String) (dev : String) :
    inetLine ("inet" :: a ++ [dev]) = some (a, dev) := by
  simp only [inetLine, List.cons_append, inetParams, List.dropLast_concat, Option.map_some']
  rw [← List.cons_append, List.getLastD_concat]

/-- One turn of the address loop: the link's first address leaves it for the bridge. -/
theorem moveAddrLine_exec {bridge interface : String} (hbi : bridge ≠ interface)
    {st : BridgeState} {li lb : Link} {a : List String} {l : List (List String)}
    (hi : st.host.links interface = some li) (ha : li.addrs = a :: l)
    (hb : st.host.links bridge = some lb) (hfresh : a.head? ∉ lb.addrs.map List.head?) :
    moveAddrLine Host.exec bridge ("inet" :: a ++ [interface]) st =
      .ok () { st with host := ((st.host.set interface { li with addrs := l }).set bridge
        { lb with addrs := lb.addrs ++ [a] }) } := by
  have hdel : st.host.exec (.addrDel a interface) = ({}, st.host.set interface { li with addrs := l }) := by
    simp [Host.exec, hi, ha]
  have hadd : (st.host.set interface { li with addrs := l }).exec (.addrAdd a bridge) =
      ({}, (st.host.set interface { li with addrs := l }).set bridge { lb with addrs := lb.addrs ++ [a] }) := by
    simp [Host.exec, Host.addAddr, hbi, hb, hfresh]
  simp only [moveAddrLine, inetLine_inet]
  rw [BridgeM.bind_of_ok (@call_of_run Host.exec _ (some [0, 2, 254]) _ _ _ hdel rfl)]
  exact call_of_run Host.exec hadd rfl

/-- The address loop over the `inet` lines of the interface's addresses moves them all, in
order, to the end of the bridge's. -/
theorem forM_moveAddrLine_exec {bridge interface : String} (hbi : bridge ≠ interface) :
    ∀ (l : List (List String)) (st : BridgeState) (li lb : Link),
      st.host.links interface = some li → li.addrs = l → st.host.links bridge = some lb →
      ((lb.addrs ++ l).map List.head?).Nodup →
      (l.map fun a => "inet" :: a ++ [interface]).forM (moveAddrLine Host.exec bridge) st =
        .ok () { st with host := ((st.host.set interface { li with addrs := [] }).set bridge
          { lb with addrs := lb.addrs ++ l }) }
  | [], st, ⟨_, _, _, _⟩, ⟨_, _, _, _⟩, hi, ha, hb, _ => by
    subst ha
    simp only [List.append_nil, List.map_nil, List.forM_nil]
    rw [Host.set_of_links hi, Host.set_of_links hb]
    rfl
  | a :: l, st, li, lb, hi, ha, hb, hnd => by
    have hfresh : a.head? ∉ lb.addrs.map List.head? := by
      simp only [List.map_append, List.map_cons, List.nodup_append, List.nodup_cons] at hnd
      exact fun h => hnd.2.2 h (.head _)
    rw [List.map_cons, List.forM_cons', BridgeM.bind_of_ok (moveAddrLine_exec hbi hi ha hb hfresh),
      forM_moveAddrLine_exec hbi l _ { li with addrs := l } { lb with addrs := lb.addrs ++ [a] }
        (by simp [hbi.symm]) rfl (by simp) (by simpa using hnd)]
    simp [Host.set_comm _ hbi.symm]

/-- On the reference shell, `ensure_bridge`'s moves leave the interface with no address and
the bridge with the interface's addresses after its own, and raise nothing. -/
theorem moveToBridge_exec {bridge interface : String} (hbi : bridge ≠ interface)
    {st : BridgeState} {li lb : Link} (hi : st.host.links interface = some li)
    (hb : st.host.links bridge = some lb) (hnd : ((lb.addrs ++ li.addrs).map List.head?).Nodup) :
    moveToBridge Host.exec bridge interface st =
      .ok () { st with host := ((st.host.set interface { li with addrs := [] }).set bridge
        { lb with addrs := lb.addrs ++ li.addrs }) } := by
  have hroute : st.host.exec (.routeShow interface) = ({}, st.host) := by simp [Host.exec, hi]
  have haddr : st.host.exec (.addrShow interface) =
      ({ out := li.addrs.map fun a => "inet" :: a ++ [interface] }, st.host) := by
    simp [Host.exec, hi]
  unfold moveToBridge
  rw [BridgeM.bind_of_ok (@execute_of_run Host.exec _ (some [0]) _ _ _ hroute rfl)]
  dsimp only
  rw [List.filter_nil, List.forM_nil', BridgeM.bind_of_ok (BridgeM.pure_apply _ _),
    BridgeM.bind_of_ok (@execute_of_run Host.exec _ (some [0]) _ _ _ haddr rfl)]
  dsimp only
  rw [BridgeM.bind_of_ok (forM_moveAddrLine_exec hbi li.addrs _ li lb hi rfl hb hnd), List.forM_nil',
    BridgeM.bind_of_ok (BridgeM.pure_apply _ _)]
  rfl

/-- The links part on the reference shell when no link has the bridge's name and the
interface is in no bridge: the bridge is made, the interface becomes its port and its
addresses move onto it. -/
theorem bridgeLinks_exec_absent {bridge interface : String} (hbi : bridge ≠ interface)
    (hne : interface ≠ "") {st : BridgeState} {li : Link}
    (hb : st.host.links bridge = none) (hi : st.host.links interface = some li)
    (hm : li.master = none) (hnd : (li.addrs.map List.head?).Nodup) :
    bridgeLinks Host.exec bridge interface st =
      .ok () { st with host := ((st.host.set interface { li with addrs := [], master := some bridge }).set
        bridge ⟨li.addrs, true, none, true⟩) } := by
  set h₁ := st.host.set bridge ⟨[], true, none, true⟩
  have hadd : h₁.exec (.brctlAddif bridge interface) =
      ({}, h₁.set interface { li with master := some bridge }) := by
    simp [h₁, Host.exec, hbi.symm, hi, hm, Option.filter]
  have hmove := @moveToBridge_exec bridge interface hbi
    { st with host := h₁.set interface { li with master := some bridge } }
    { li with master := some bridge } ⟨[], true, none, true⟩ (by simp) (by simp [h₁, hbi]) (by simpa using hnd)
  unfold bridgeLinks
  rw [BridgeM.bind_of_ok (deviceExists_exec _ _), hb]
  simp only [Option.isSome_none, Bool.not_false, if_true, if_pos hne]
  rw [BridgeM.bind_of_ok (createBridge_exec hb),
    BridgeM.bind_of_ok (@execute_of_run Host.exec _ none { st with host := h₁ } _ _ hadd rfl), hmove]
  simp only [h₁, Host.set_set_self, Host.set_comm _ hbi, List.nil_append]

/-- The links part on the reference shell when a link has the bridge's name and `brctl addif`
changes nothing (that link is no bridge, or the interface is a port already): nothing is
made, and the interface's addresses still move onto that link. -/
theorem bridgeLinks_exec_present {bridge interface : String} (hbi : bridge ≠ interface)
    (hne : interface ≠ "") {st : BridgeState} {lb li : Link}
    (hb : st.host.links bridge = some lb) (hi : st.host.links interface = some li)
    (hadd : (st.host.exec (.brctlAddif bridge interface)).2 = st.host)
    (hnd : ((lb.addrs ++ li.addrs).map List.head?).Nodup) :
    bridgeLinks Host.exec bridge interface st =
      .ok () { st with host := ((st.host.set interface { li with addrs := [] }).set bridge
        { lb with addrs := lb.addrs ++ li.addrs }) } := by
  have hx : st.host.exec (.brctlAddif bridge interface) =
      ((st.host.exec (.brctlAddif bridge interface)).1, st.host) := Prod.ext rfl hadd
  unfold bridgeLinks
  rw [BridgeM.bind_of_ok (deviceExists_exec _ _), hb]
  simp only [Option.isSome_some, Bool.not_true, Bool.false_eq_true, if_false, if_pos hne]
  rw [BridgeM.bind_of_ok (BridgeM.pure_apply _ _),
    BridgeM.bind_of_ok (@execute_of_run Host.exec _ none st _ _ hx rfl), moveToBridge_exec hbi hi hb hnd]

/-- A second run of the links part finds the bridge made and the interface its port with no
address left: it changes no link. -/
theorem bridgeLinks_exec_settled {bridge interface : String} (hbi : bridge ≠ interface)
    (hne : interface ≠ "") {st : BridgeState} {lb li : Link}
    (hb : st.host.links bridge = some lb) (hbr : lb.isBridge = true)
    (hi : st.host.links interface = some li) (hm : li.master.isSome = true) (ha : li.addrs = [])
    (hnd : (lb.addrs.map List.head?).Nodup) :
    bridgeLinks Host.exec bridge interface st = .ok () st := by
  have hadd : (st.host.exec (.brctlAddif bridge interface)).2 = st.host := by
    simp [Host.exec, hb, hbr, hi, hm, Option.filter]
  rw [bridgeLinks_exec_present hbi hne hb hi hadd (by simpa [ha] using hnd)]
  obtain ⟨_, _, _, _⟩ := li
  subst ha
  simp only [List.append_nil]
  rw [Host.set_of_links hi, Host.set_of_links hb]

theorem ensureBridge_of_links {sh : Shell} {bridge interface : String} (gateway : Bool)
    {st st' : BridgeState} (h : bridgeLinks sh bridge interface st = .ok () st') :
    ensureBridge sh binaryName bridge interface gateway st =
      liftNet (addForwardRules binaryName bridge (if gateway then "ACCEPT" else "DROP")) st' :=
  BridgeM.bind_of_ok h

theorem after_congr {α : Type} {x y : BridgeM α} {st st' : BridgeState} (h : x st = y st') :
    BridgeM.after x st = BridgeM.after y st' := by
  simp only [BridgeM.after, h]

@[simp] theorem after_liftNet_host {α : Type} (x : NetM α) (st : BridgeState) :
    (BridgeM.after (liftNet x) st).host = st.host := by
  simp only [BridgeM.after, liftNet]
  cases x st.net <;> rfl

/-- The bridge's rules are free of `$` when its name is, for either target. -/
theorem bridgeForwardRules_ok {bridge : String} (gateway : Bool) (hd : '$' ∉ bridge.data) :
    ∀ p ∈ bridgeForwardRules bridge (if gateway then "ACCEPT" else "DROP"),
      p.1 ∈ initChains .ipv4Filter ∧ isIn "$" p.2 = false := by
  have ht : '$' ∉ (if gateway then "ACCEPT" else "DROP").data := by split <;> decide
  intro p hp
  simp only [bridgeForwardRules, List.mem_cons, List.mem_singleton, List.not_mem_nil, or_false] at hp
  rcases hp with rfl | rfl <;>
    exact ⟨by simp [initChains], isIn_dollar_eq_false (by simp [String.data_append, hd, ht])⟩

/-- On the reference shell, from a host where no link has the bridge's name and the interface
is in no bridge, `ensure_bridge` returns.  The bridge is made and up, the interface is its
port with no address left, the bridge has the interface's addresses, no other link changes,
and the filter table gains the bridge's two `FORWARD` rules. -/
theorem ensureBridge_moves_addresses {st : BridgeState} {bridge interface : String} {li : Link}
    (gateway : Bool) (hs : Inv st.net) (hd : '$' ∉ bridge.data) (hbi : bridge ≠ interface)
    (hne : interface ≠ "") (hb : st.host.links bridge = none)
    (hi : st.host.links interface = some li) (hm : li.master = none)
    (hnd : (li.addrs.map List.head?).Nodup) :
    ∃ net, ensureBridge Host.exec binaryName bridge interface gateway st =
        .ok () ⟨(st.host.set interface { li with addrs := [], master := some bridge }).set bridge
          ⟨li.addrs, true, none, true⟩, net⟩ ∧
      Inv net ∧ (net.manager.tables .ipv4Filter).rules = (st.net.manager.tables .ipv4Filter).rules ++
        (bridgeForwardRules bridge (if gateway then "ACCEPT" else "DROP")).map
          fun p => ⟨p.1, p.2, true, false⟩ := by
  obtain ⟨net, hrun, hinv, -, -, hrules⟩ :=
    forM_addRule_eq binaryName .ipv4Filter _ hs (bridgeForwardRules_ok gateway hd)
  refine ⟨net, ?_, hinv, hrules⟩
  rw [ensureBridge_of_links binaryName gateway (bridgeLinks_exec_absent hbi hne hb hi hm hnd)]
  exact liftNet_of_ok hrun

/-- A host with `eth0` holding one address and no link `br100`, and the manager as
`__init__` declares its chains. -/
theorem ensureBridge_moves_addresses_eth0 :
    let li : Link := ⟨[["10.0.0.2/24", "brd", "10.0.0.255"]], true, none, false⟩
    let st : BridgeState := ⟨⟨fun n => if n = "eth0" then some li else none⟩,
      ⟨⟨fun k => { chains := initChains k }, false⟩, fun _ => []⟩⟩
    Inv st.net ∧ st.host.links "br100" = none ∧ st.host.links "eth0" = some li ∧
      ∃ net, ensureBridge Host.exec "nova-network" "br100" "eth0" true st =
          .ok () ⟨(st.host.set "eth0" { li with addrs := [], master := some "br100" }).set "br100"
            ⟨li.addrs, true, none, true⟩, net⟩ ∧
        Inv net ∧ (net.manager.tables .ipv4Filter).rules = (st.net.manager.tables .ipv4Filter).rules ++
          (bridgeForwardRules "br100" (if true then "ACCEPT" else "DROP")).map
            fun p => ⟨p.1, p.2, true, false⟩ :=
  have hs : Inv ⟨⟨fun k => { chains := initChains k }, false⟩, fun _ => []⟩ :=
    ⟨fun k => ⟨nofun, by cases k <;> decide, .nil, .nil⟩, fun _ _ => id, fun _ => rfl⟩
  ⟨hs, rfl, rfl, ensureBridge_moves_addresses "nova-network" true hs (by decide) (by decide)
    (by decide) rfl rfl rfl (by decide)⟩

/-- When a link that is no bridge has the bridge's name, `brctl addif` fails, and
`ensure_bridge` does not report it: it returns, with the interface's addresses moved onto that
link and the interface in no bridge. -/
theorem ensureBridge_non_bridge_unreported {st : BridgeState} {bridge interface : String}
    {lb li : Link} (gateway : Bool) (hs : Inv st.net) (hd : '$' ∉ bridge.data)
    (hbi : bridge ≠ interface) (hne : interface ≠ "") (hb : st.host.links bridge = some lb)
    (hnb : lb.isBridge = false) (hi : st.host.links interface = some li) (hm : li.master = none)
    (hnd : ((lb.addrs ++ li.addrs).map List.head?).Nodup) :
    ∃ net, ensureBridge Host.exec binaryName bridge interface gateway st =
      .ok () ⟨(st.host.set interface { li with addrs := [] }).set bridge
        { lb with addrs := lb.addrs ++ li.addrs }, net⟩ ∧
      (((st.host.set interface { li with addrs := [] }).set bridge
        { lb with addrs := lb.addrs ++ li.addrs }).links interface).bind Link.master = none := by
  obtain ⟨net, hrun, -⟩ :=
    forM_addRule_eq binaryName .ipv4Filter _ hs (bridgeForwardRules_ok gateway hd)
  have hadd : (st.host.exec (.brctlAddif bridge interface)).2 = st.host := by
    simp [Host.exec, hb, hnb, Option.filter]
  refine ⟨net, ?_, by simp [hbi.symm, hm]⟩
  rw [ensureBridge_of_links binaryName gateway (bridgeLinks_exec_present hbi hne hb hi hadd hnd)]
  exact liftNet_of_ok hrun

/-- A plain link `br100`, no bridge, already on the host beside `eth0`. -/
theorem ensureBridge_non_bridge_unreported_plain :
    let lb : Link := ⟨[], true, none, false⟩
    let li : Link := ⟨[["10.0.0.2/24", "brd", "10.0.0.255"]], true, none, false⟩
    let st : BridgeState := ⟨⟨fun n => if n = "eth0" then some li else if n = "br100" then some lb
      else none⟩, ⟨⟨fun k => { chains := initChains k }, false⟩, fun _ => []⟩⟩
    Inv st.net ∧ st.host.links "br100" = some lb ∧ st.host.links "eth0" = some li ∧
      ∃ net, ensureBridge Host.exec "nova-network" "br100" "eth0" true st =
        .ok () ⟨(st.host.set "eth0" { li with addrs := [] }).set "br100"
          { lb with addrs := lb.addrs ++ li.addrs }, net⟩ ∧
        (((st.host.set "eth0" { li with addrs := [] }).set "br100"
          { lb with addrs := lb.addrs ++ li.addrs }).links "eth0").bind Link.master = none :=
  have hs : Inv ⟨⟨fun k => { chains := initChains k }, false⟩, fun _ => []⟩ :=
    ⟨fun k => ⟨nofun, by cases k <;> decide, .nil, .nil⟩, fun _ _ => id, fun _ => rfl⟩
  ⟨hs, rfl, rfl, ensureBridge_non_bridge_unreported "nova-network" true hs (by decide) (by decide)
    (by decide) rfl rfl rfl rfl (by decide)⟩

/-- `ensure_bridge` is idempotent on the host's links: run again after a first run from a host
with no link of the bridge's name, it changes no link, whatever the manager's calls do. -/
theorem ensureBridge_host_idempotent {st : BridgeState} {bridge interface : String} {li : Link}
    (gateway : Bool) (hbi : bridge ≠ interface) (hne : interface ≠ "")
    (hb : st.host.links bridge = none) (hi : st.host.links interface = some li)
    (hm : li.master = none) (hnd : (li.addrs.map List.head?).Nodup) :
    (BridgeM.after (ensureBridge Host.exec binaryName bridge interface gateway)
        (BridgeM.after (ensureBridge Host.exec binaryName bridge interface gateway) st)).host =
      (BridgeM.after (ensureBridge Host.exec binaryName bridge interface gateway) st).host := by
  rw [after_congr (ensureBridge_of_links binaryName gateway
    (bridgeLinks_exec_absent hbi hne hb hi hm hnd))]
  set st₁ := BridgeM.after (liftNet (addForwardRules binaryName bridge
    (if gateway then "ACCEPT" else "DROP"))) { st with host := ((st.host.set interface
      { li with addrs := [], master := some bridge }).set bridge ⟨li.addrs, true, none, true⟩) }
  have h₁ : st₁.host = _ := after_liftNet_host _ _
  rw [after_congr (ensureBridge_of_links binaryName gateway (@bridgeLinks_exec_settled bridge
    interface hbi hne st₁ ⟨li.addrs, true, none, true⟩ { li with addrs := [], master := some bridge }
    (by simp [h₁]) rfl (by simp [h₁, hbi.symm]) rfl rfl hnd)), after_liftNet_host]

/-- Plugging `eth0` into a new `br100` twice. -/
theorem ensureBridge_host_idempotent_eth0 :
    let li : Link := ⟨[["10.0.0.2/24", "brd", "10.0.0.255"]], true, none, false⟩
    let st : BridgeState := ⟨⟨fun n => if n = "eth0" then some li else none⟩,
      ⟨⟨fun k => { chains := initChains k }, false⟩, fun _ => []⟩⟩
    st.host.links "br100" = none ∧ st.host.links "eth0" = some li ∧
      (BridgeM.after (ensureBridge Host.exec "nova-network" "br100" "eth0" false)
          (BridgeM.after (ensureBridge Host.exec "nova-network" "br100" "eth0" false) st)).host =
        (BridgeM.after (ensureBridge Host.exec "nova-network" "br100" "eth0" false) st).host :=
  ⟨rfl, rfl, ensureBridge_host_idempotent "nova-network" false (by decide) (by decide) rfl rfl rfl
    (by decide)⟩

end Reference

/-! ## What the driver does to the manager -/

/-- `x` changes only the host: it leaves the manager and the kernel's tables, and raises no
`ValueError`. -/
structure HostOnly {α : Type} (x : BridgeM α) : Prop where
  net : ∀ st, (BridgeM.after x st).net = st.net
  noValueError : ∀ st msg st', x st ≠ .error (.net (.valueError msg)) st'

/-- `x` keeps the manager's invariant and, from a state that satisfies it, raises no
`ValueError`. -/
structure NetSafe {α : Type} (x : BridgeM α) : Prop where
  preserves : ∀ st, Inv st.net → Inv (BridgeM.after x st).net
  noValueError : ∀ st, Inv st.net → ∀ msg st', x st ≠ .error (.net (.valueError msg)) st'

namespace HostOnly

variable {α β γ : Type}

theorem pure (a : α) : HostOnly (Pure.pure a : BridgeM α) := ⟨fun _ => rfl, fun _ _ _ => nofun⟩

theorem bind {x : BridgeM α} {f : α → BridgeM β} (hx : HostOnly x) (hf : ∀ a, HostOnly (f a)) :
    HostOnly (x >>= f) := by
  refine ⟨fun st => ?_, fun st msg st' => ?_⟩
  · have h := hx.net st
    rw [BridgeM.after_bind]
    unfold BridgeM.after at h
    cases hxs : x st with
    | ok a st₁ => rw [hxs] at h; exact ((hf a).net st₁).trans h
    | error e st₁ => rw [hxs] at h; exact h
  · rw [BridgeM.bind_apply]
    cases hxs : x st with
    | ok a st₁ => exact (hf a).noValueError st₁ msg st'
    | error e st₁ => rintro ⟨⟩; exact hx.noValueError st msg st' hxs

theorem forM {l : List γ} {f : γ → BridgeM PUnit} (hf : ∀ a ∈ l, HostOnly (f a)) :
    HostOnly (l.forM f) := by
  induction l with
  | nil => exact pure _
  | cons a l ih =>
    rw [List.forM_cons']
    exact (hf a (.head _)).bind fun _ => ih fun b hb => hf b (.tail _ hb)

theorem ite {c : Prop} [Decidable c] {x y : BridgeM α} (hx : HostOnly x) (hy : HostOnly y) :
    HostOnly (if c then x else y) := by
  split <;> assumption

/-- A program that changes only the host keeps everything of the manager. -/
theorem netSafe {x : BridgeM α} (h : HostOnly x) : NetSafe x :=
  ⟨fun st hs => (h.net st).symm ▸ hs, fun st _ => h.noValueError st⟩

end HostOnly

section HostOnly

variable (sh : Shell)

theorem hostOnly_execute (c : LinkCmd) (chk : Option (List Nat)) : HostOnly (execute sh c chk) := by
  refine ⟨fun st => ?_, fun st msg st' => ?_⟩ <;> simp only [BridgeM.after, execute] <;> split_ifs <;>
    simp

theorem hostOnly_call (c : LinkCmd) (chk : Option (List Nat)) : HostOnly (call sh c chk) :=
  (hostOnly_execute sh c chk).bind fun _ => .pure _

theorem hostOnly_throw {α : Type} (msg : String) :
    HostOnly (throw (.novaException msg) : BridgeM α) :=
  ⟨fun _ => rfl, fun _ _ _ h => by cases h⟩

theorem hostOnly_deviceExists (device : String) : HostOnly (deviceExists sh device) :=
  (hostOnly_execute sh _ _).bind fun _ => .pure _

theorem hostOnly_moveAddrLine (bridge : String) (fields : List String) :
    HostOnly (moveAddrLine sh bridge fields) := by
  unfold moveAddrLine
  split
  · exact (hostOnly_call sh _ _).bind fun _ => hostOnly_call sh _ _
  · exact .pure _

theorem hostOnly_moveToBridge (bridge interface : String) :
    HostOnly (moveToBridge sh bridge interface) :=
  (hostOnly_execute sh _ _).bind fun _ =>
    (HostOnly.forM fun _ _ => hostOnly_call sh _ _).bind fun _ =>
      (hostOnly_execute sh _ _).bind fun _ =>
        (HostOnly.forM fun _ _ => hostOnly_moveAddrLine sh _ _).bind fun _ =>
          (HostOnly.forM fun _ _ => hostOnly_call sh _ _).bind fun _ =>
            .ite (hostOnly_throw _) (.pure _)

theorem hostOnly_bridgeLinks (bridge interface : String) :
    HostOnly (bridgeLinks sh bridge interface) := by
  unfold bridgeLinks createBridge
  dsimp only
  repeat' first
    | with_reducible exact HostOnly.pure _
    | with_reducible exact hostOnly_execute sh _ _
    | with_reducible exact hostOnly_call sh _ _
    | with_reducible exact hostOnly_deviceExists sh _
    | with_reducible exact hostOnly_moveToBridge sh _ _
    | with_reducible apply HostOnly.bind
    | with_reducible apply HostOnly.ite
    | intro _

theorem hostOnly_ensureVlan (mtu vlanNum : Nat) (bridgeInterface macAddress : String) :
    HostOnly (ensureVlan sh mtu vlanNum bridgeInterface macAddress) := by
  unfold ensureVlan
  dsimp only
  repeat' first
    | with_reducible exact HostOnly.pure _
    | with_reducible exact hostOnly_call sh _ _
    | with_reducible exact hostOnly_deviceExists sh _
    | with_reducible apply HostOnly.bind
    | with_reducible apply HostOnly.ite
    | intro _

end HostOnly

namespace NetSafe

variable {α β : Type}

theorem pure (a : α) : NetSafe (Pure.pure a : BridgeM α) := (HostOnly.pure a).netSafe

theorem bind {x : BridgeM α} {f : α → BridgeM β} (hx : NetSafe x) (hf : ∀ a, NetSafe (f a)) :
    NetSafe (x >>= f) := by
  refine ⟨fun st hs => ?_, fun st hs msg st' => ?_⟩
  · have h := hx.preserves st hs
    rw [BridgeM.after_bind]
    unfold BridgeM.after at h
    cases hxs : x st with
    | ok a st₁ => rw [hxs] at h; exact (hf a).preserves st₁ h
    | error e st₁ => rw [hxs] at h; exact h
  · have h := hx.preserves st hs
    unfold BridgeM.after at h
    rw [BridgeM.bind_apply]
    cases hxs : x st with
    | ok a st₁ => rw [hxs] at h; exact (hf a).noValueError st₁ h msg st'
    | error e st₁ => rintro ⟨⟩; exact hx.noValueError st hs msg st' hxs

/-- A call on the module's manager that is safe there is safe on the driver's state. -/
theorem liftNet {x : NetM α} (hx : Safe x) : NetSafe (Network.liftNet x) := by
  refine ⟨fun st hs => ?_, fun st hs msg st' h => ?_⟩
  · have h := hx.preserves st.net hs
    simp only [BridgeM.after, Network.liftNet]
    unfold NetM.after at h
    split at h <;> simp only [*]
  · simp only [Network.liftNet] at h
    split at h
    · cases h
    · next e s he =>
      cases h
      exact hx.noValueError st.net hs msg s he

end NetSafe

/-- The bridge's two rules go to the `FORWARD` chain. -/
theorem bridgeForwardRules_chain {bridge target : String} :
    ∀ p ∈ bridgeForwardRules bridge target, p.1 ∈ initChains .ipv4Filter := by
  simp [bridgeForwardRules, initChains]

theorem safe_addForwardRules (binaryName bridge target : String) :
    Safe (addForwardRules binaryName bridge target) :=
  Safe.forM fun p hp => safe_addRule binaryName (bridgeForwardRules_chain p hp) p.2 false

section Plug

variable (sh : Shell) (binaryName : String)

theorem netSafe_ensureBridge (bridge interface : String) (gateway : Bool) :
    NetSafe (ensureBridge sh binaryName bridge interface gateway) :=
  (hostOnly_bridgeLinks sh bridge interface).netSafe.bind fun _ =>
    .liftNet (safe_addForwardRules binaryName bridge _)

theorem netSafe_ensureVlanBridge (mtu vlanNum : Nat) (bridge bridgeInterface macAddress : String) :
    NetSafe (ensureVlanBridge sh binaryName mtu vlanNum bridge bridgeInterface macAddress) :=
  (hostOnly_ensureVlan sh mtu vlanNum bridgeInterface macAddress).netSafe.bind fun _ =>
    (netSafe_ensureBridge sh binaryName bridge _ true).bind fun _ => .pure _

/-- `plug` keeps the manager's invariant and raises no `ValueError`, whatever the host's
commands do and whichever command of its `apply` fails. -/
theorem netSafe_plug (conf : BridgeConf) (network : BridgeNetwork) (macAddress : String)
    (gateway : Bool) (fault : Option ExecFault) :
    NetSafe (plug sh binaryName conf network macAddress gateway fault) := by
  unfold plug
  split
  · exact (netSafe_ensureVlanBridge sh binaryName _ _ _ _ _).bind fun _ =>
      (NetSafe.liftNet (safe_apply binaryName _ fault)).bind fun _ => .pure _
  · exact (netSafe_ensureBridge sh binaryName _ _ gateway).bind fun _ =>
      (NetSafe.liftNet (safe_apply binaryName _ fault)).bind fun _ => .pure _

/-- On a VLAN network `plug` adds `ACCEPT` rules for the bridge whatever its `gateway`
argument: `ensure_vlan_bridge` does not pass `gateway` on, so `ensure_bridge` takes its
default `True`.  Whenever `plug` returns, the filter table holds its rules from before
followed by the bridge's two `ACCEPT` rules. -/
theorem plug_vlan_accepts (conf : BridgeConf) {vlan : Nat} {bridge bridgeInterface : String}
    (macAddress : String) (gateway : Bool) (fault : Option ExecFault) {st st' : BridgeState}
    {r : String} (hs : Inv st.net) (hd : '$' ∉ bridge.data)
    (h : plug sh binaryName conf ⟨some vlan, bridge, bridgeInterface⟩ macAddress gateway fault st =
      .ok r st') :
    (st'.net.manager.tables .ipv4Filter).rules = (st.net.manager.tables .ipv4Filter).rules ++
      (bridgeForwardRules bridge "ACCEPT").map fun p => ⟨p.1, p.2, true, false⟩ := by
  obtain ⟨_, st₁, hvb, hrest⟩ := BridgeM.bind_eq_ok h
  obtain ⟨_, _, hunit, hrest⟩ := BridgeM.bind_eq_ok hrest
  cases hunit
  obtain ⟨_, st₂, happly, hpure⟩ := BridgeM.bind_eq_ok hrest
  cases hpure
  obtain ⟨_, st₀, hvlan, hvb⟩ := BridgeM.bind_eq_ok hvb
  obtain ⟨_, _, heb, hpure⟩ := BridgeM.bind_eq_ok hvb
  cases hpure
  obtain ⟨_, st₀', hlinks, hrules⟩ := BridgeM.bind_eq_ok heb
  have hnet : st₀'.net = st.net := by
    rw [← BridgeM.after_of_ok hlinks, (hostOnly_bridgeLinks sh _ _).net, ← BridgeM.after_of_ok hvlan,
      (hostOnly_ensureVlan sh _ _ _ _).net]
  obtain ⟨s, hrun, -, -, -, hr⟩ :=
    forM_addRule_eq binaryName .ipv4Filter _ (hnet ▸ hs) (bridgeForwardRules_ok true hd)
  cases (liftNet_eq_ok hrules).symm.trans hrun
  have hkeep := preserves_rules_apply binaryName conf.useIpv6 fault .ipv4Filter _ _ st₁.net ⟨rfl, rfl⟩
  rw [NetM.after, liftNet_eq_ok happly] at hkeep
  rw [hkeep.1, hr, hnet, if_pos rfl]

/-- On the reference shell, a VLAN network whose VLAN interface and bridge do not exist yet
is plugged up to the manager's `apply()`: the VLAN interface is up and a port of the new
bridge, and the manager has gained the bridge's `ACCEPT` rules, keeping its invariant. -/
theorem plug_vlan_exec (conf : BridgeConf) {vlan : Nat} {bridge bridgeInterface : String}
    (macAddress : String) (gateway : Bool) (fault : Option ExecFault) {st : BridgeState}
    (hs : Inv st.net) (hd : '$' ∉ bridge.data)
    (hp : (st.host.links (if conf.vlanInterface ≠ "" then conf.vlanInterface
      else bridgeInterface)).isSome = true)
    (hv : st.host.links ("vlan" ++ toString vlan) = none) (hb : st.host.links bridge = none)
    (hbv : bridge ≠ "vlan" ++ toString vlan) :
    ∃ net, Inv net ∧ net.manager.iptablesApplyDeferred = st.net.manager.iptablesApplyDeferred ∧
      plug Host.exec binaryName conf ⟨some vlan, bridge, bridgeInterface⟩ macAddress gateway fault st =
        (liftNet (IptablesManager.apply binaryName conf.useIpv6 fault) >>= fun _ => pure bridge)
          ⟨(st.host.set ("vlan" ++ toString vlan) ⟨[], true, some bridge, false⟩).set bridge
            ⟨[], true, none, true⟩, net⟩ := by
  obtain ⟨net, hrun, hinv, -, hdef, -⟩ :=
    forM_addRule_eq binaryName .ipv4Filter _ hs (bridgeForwardRules_ok true hd)
  refine ⟨net, hinv, hdef, ?_⟩
  have hlinks := @bridgeLinks_exec_absent bridge _ hbv (vlanName_ne_empty vlan)
    { st with host := st.host.set ("vlan" ++ toString vlan) ⟨[], true, none, false⟩ }
    ⟨[], true, none, false⟩ (by simp [hbv, hb]) (by simp) rfl (by simp)
  simp only [Host.set_set_self] at hlinks
  have hvb : ensureVlanBridge Host.exec binaryName conf.networkDeviceMtu vlan bridge
      (if conf.vlanInterface ≠ "" then conf.vlanInterface else bridgeInterface) macAddress st =
        .ok ("vlan" ++ toString vlan) ⟨(st.host.set ("vlan" ++ toString vlan)
          ⟨[], true, some bridge, false⟩).set bridge ⟨[], true, none, true⟩, net⟩ := by
    unfold ensureVlanBridge
    rw [BridgeM.bind_of_ok (ensureVlan_exec_absent macAddress hv hp),
      BridgeM.bind_of_ok ((ensureBridge_of_links binaryName true hlinks).trans (liftNet_of_ok hrun))]
    rfl
  unfold plug
  dsimp only
  rw [BridgeM.bind_of_ok hvb]
  rfl

/-- A VLAN network plugged with `gateway=False` on a host with `eth1`, applies deferred. -/
theorem plug_vlan_accepts_gateway_off :
    let st : BridgeState := ⟨⟨fun n => if n = "eth1" then some ⟨[], true, none, false⟩ else none⟩,
      ⟨⟨fun k => { chains := initChains k }, true⟩, fun _ => []⟩⟩
    let conf : BridgeConf := ⟨"", "", 0, false⟩
    Inv st.net ∧ ∃ st', plug Host.exec "nova-network" conf ⟨some 100, "br100", "eth1"⟩ "" false none st =
        .ok "br100" st' ∧
      (st'.net.manager.tables .ipv4Filter).rules = (st.net.manager.tables .ipv4Filter).rules ++
        (bridgeForwardRules "br100" "ACCEPT").map fun p => ⟨p.1, p.2, true, false⟩ :=
  by
  intro st conf
  have hs : Inv st.net :=
    ⟨fun k => ⟨nofun, by cases k <;> decide, .nil, .nil⟩, fun _ _ => id, fun _ => rfl⟩
  obtain ⟨net, -, hdef, hrun⟩ := @plug_vlan_exec "nova-network" conf 100 "br100" "eth1" "" false none
    st hs (by decide) rfl rfl rfl (by decide)
  have h := hrun.trans (BridgeM.bind_of_ok (liftNet_of_ok (IptablesManager.apply_of_deferred _ _ _ hdef)))
  exact ⟨hs, _, h, plug_vlan_accepts Host.exec "nova-network" conf "" false none hs (by decide) h⟩

end Plug

/-! ## What a plug leaves on the host -/

/-- `x` changes only the manager's state: it leaves the host. -/
def NetOnly {α : Type} (x : BridgeM α) : Prop := ∀ st, (BridgeM.after x st).host = st.host

namespace NetOnly

variable {α β : Type}

theorem pure (a : α) : NetOnly (Pure.pure a : BridgeM α) := fun _ => rfl

theorem liftNet (x : NetM α) : NetOnly (Network.liftNet x) := after_liftNet_host x

theorem bind {x : BridgeM α} {f : α → BridgeM β} (hx : NetOnly x) (hf : ∀ a, NetOnly (f a)) :
    NetOnly (x >>= f) := fun st => by
  have h := hx st
  rw [BridgeM.after_bind]
  unfold BridgeM.after at h
  cases hxs : x st with
  | ok a st₁ => rw [hxs] at h; exact ((hf a) st₁).trans h
  | error e st₁ => rw [hxs] at h; exact h

end NetOnly

/-- After `x`, a continuation that changes only the manager's state leaves the host as `x`
leaves it. -/
theorem after_bind_host {α β : Type} {x : BridgeM α} {f : α → BridgeM β} (hf : ∀ a, NetOnly (f a))
    (st : BridgeState) : (BridgeM.after (x >>= f) st).host = (BridgeM.after x st).host := by
  rw [BridgeM.after_bind]
  unfold BridgeM.after
  cases x st with
  | ok a st₁ => exact hf a st₁
  | error e st₁ => rfl

/-- On a VLAN network, `plug` leaves the host as the links part of its `ensure_bridge`
leaves it, run on the interface `ensure_vlan` returns. -/
theorem plug_vlan_host {sh : Shell} {binaryName : String} {conf : BridgeConf} {vlan : Nat}
    {bridge bridgeInterface macAddress : String} {gateway : Bool} {fault : Option ExecFault}
    {st st₁ : BridgeState} {interface : String}
    (h : ensureVlan sh conf.networkDeviceMtu vlan
      (if conf.vlanInterface ≠ "" then conf.vlanInterface else bridgeInterface) macAddress st =
        .ok interface st₁) :
    (BridgeM.after (plug sh binaryName conf ⟨some vlan, bridge, bridgeInterface⟩ macAddress gateway
      fault) st).host = (BridgeM.after (bridgeLinks sh bridge interface) st₁).host := by
  unfold plug ensureVlanBridge ensureBridge
  dsimp only
  rw [after_bind_host fun _ => (NetOnly.pure _).bind fun _ => (NetOnly.liftNet _).bind fun _ =>
      NetOnly.pure _, BridgeM.after_bind, h]
  dsimp only
  rw [after_bind_host fun _ => NetOnly.pure _, after_bind_host fun _ => NetOnly.liftNet _]

/-- On the reference shell, plugging a VLAN network whose VLAN interface and bridge do not
exist yet makes the VLAN interface, up and a port of the bridge, and the bridge, up.  Plugging
it again changes no link, whatever the manager's calls do. -/
theorem plug_vlan_host_idempotent (binaryName : String) (conf : BridgeConf) {vlan : Nat}
    {bridge bridgeInterface : String} (macAddress : String) (gateway : Bool)
    (fault : Option ExecFault) {st : BridgeState}
    (hp : (st.host.links (if conf.vlanInterface ≠ "" then conf.vlanInterface
      else bridgeInterface)).isSome = true)
    (hv : st.host.links ("vlan" ++ toString vlan) = none) (hb : st.host.links bridge = none)
    (hbv : bridge ≠ "vlan" ++ toString vlan) :
    (BridgeM.after (plug Host.exec binaryName conf ⟨some vlan, bridge, bridgeInterface⟩ macAddress
        gateway fault) st).host =
      (st.host.set ("vlan" ++ toString vlan) ⟨[], true, some bridge, false⟩).set bridge
        ⟨[], true, none, true⟩ ∧
    (BridgeM.after (plug Host.exec binaryName conf ⟨some vlan, bridge, bridgeInterface⟩ macAddress
        gateway fault) (BridgeM.after (plug Host.exec binaryName conf ⟨some vlan, bridge,
          bridgeInterface⟩ macAddress gateway fault) st)).host =
      (BridgeM.after (plug Host.exec binaryName conf ⟨some vlan, bridge, bridgeInterface⟩ macAddress
        gateway fault) st).host := by
  set st₂ := BridgeM.after (plug Host.exec binaryName conf ⟨some vlan, bridge, bridgeInterface⟩
    macAddress gateway fault) st
  have hfirst : st₂.host = (st.host.set ("vlan" ++ toString vlan) ⟨[], true, some bridge, false⟩).set
      bridge ⟨[], true, none, true⟩ := by
    rw [plug_vlan_host (ensureVlan_exec_absent macAddress hv hp),
      BridgeM.after_of_ok (@bridgeLinks_exec_absent bridge _ hbv (vlanName_ne_empty vlan)
        { st with host := st.host.set ("vlan" ++ toString vlan) ⟨[], true, none, false⟩ }
        ⟨[], true, none, false⟩ (by simp [hbv, hb]) (by simp) rfl (by simp))]
    simp
  refine ⟨hfirst, ?_⟩
  rw [plug_vlan_host (ensureVlan_exec_present macAddress (by simp [hfirst, hbv.symm])),
    BridgeM.after_of_ok (@bridgeLinks_exec_settled bridge _ hbv (vlanName_ne_empty vlan) st₂
      ⟨[], true, none, true⟩ ⟨[], true, some bridge, false⟩ (by simp [hfirst]) rfl
      (by simp [hfirst, hbv.symm]) rfl rfl (by simp))]

/-- VLAN 100 on `eth1`, plugged twice with `gateway=False`. -/
theorem plug_vlan_host_idempotent_eth1 :
    let st : BridgeState := ⟨⟨fun n => if n = "eth1" then some ⟨[], true, none, false⟩ else none⟩,
      ⟨⟨fun k => { chains := initChains k }, false⟩, fun _ => []⟩⟩
    let conf : BridgeConf := ⟨"", "", 0, false⟩
    st.host.links ("vlan" ++ toString 100) = none ∧ st.host.links "br100" = none ∧
    (BridgeM.after (plug Host.exec "nova-network" conf ⟨some 100, "br100", "eth1"⟩ "" false none)
        st).host =
      (st.host.set ("vlan" ++ toString 100) ⟨[], true, some "br100", false⟩).set "br100"
        ⟨[], true, none, true⟩ ∧
    (BridgeM.after (plug Host.exec "nova-network" conf ⟨some 100, "br100", "eth1"⟩ "" false none)
        (BridgeM.after (plug Host.exec "nova-network" conf ⟨some 100, "br100", "eth1"⟩ "" false none)
          st)).host =
      (BridgeM.after (plug Host.exec "nova-network" conf ⟨some 100, "br100", "eth1"⟩ "" false none)
        st).host :=
  ⟨rfl, rfl, plug_vlan_host_idempotent "nova-network" _ "" false none rfl rfl rfl (by decide)⟩

end FolsomCloud.Network
