import Mathlib.Data.List.Basic

set_option autoImplicit false

/-!
# Network: the DHCP options and the gateway device (`nova/network/linux_net.py`)

Two functions of the driver that configure a host's bridge and its `dnsmasq`.

`get_dhcp_opts` writes, for `dnsmasq`'s `--dhcp-optsfile`, an empty default-gateway option
for the fixed IPs whose interface is not its instance's first: an instance with several
interfaces gets one default route, through its first.  The loop that picks each
instance's first interface leaves its loop variable bound to the last instance it
visited, and the loop over the records then compares every record with that one
instance's first interface (`getDhcpOpts_eq`), not with its own instance's; the intended
output is `dhcpOptsIntended`.

`initialize_gateway_device` makes the network's DHCP address the first global IPv4
address of the bridge: when it is not, every address is deleted and re-added with the
DHCP address first, and the routes through a gateway (`via`), which the kernel drops with
their address, are deleted first and added back last.  `ip addr add/del` and
`ip route add/del` are read as edits of the device's address and route lists
(`Device.apply`); the output of `ip addr show` is any listing whose `inet` lines are the
device's addresses, the output of `ip route show` lists its routes.  The commands keep
every other address and every `via` route, and put the DHCP address first
(`initializeGatewayDevice_first_address`).

Command output is taken already cut into lines and each line into its whitespace-separated
fields (`out.split('\n')`, `line.split()`): those are what the loops read.
-/

namespace FolsomCloud.Network

/-! ## `get_dhcp_opts` -/

/-- A row of `network_get_associated_fixed_ips`, with the columns `get_dhcp_opts` reads. -/
structure FixedIpDatum where
  instanceUuid : Nat
  vifId : Nat
  deriving DecidableEq, Repr

/-- `_host_dhcp_network`. -/
def hostDhcpNetwork (d : FixedIpDatum) : String := "NW-" ++ toString d.vifId

/-- `_host_dhcp_opts`: an empty option 3 (the default gateway) for the record's tag. -/
def hostDhcpOpts (d : FixedIpDatum) : String := hostDhcpNetwork d ++ "," ++ toString 3

/-- One turn of the loop over `instance_set`: the dictionary `default_gw_vif` gains the
first interface of instance `u`, if it has one, and the loop variable is `u`. -/
def defaultGwStep (vifs : Nat → List Nat) (s : (Nat → Option Nat) × Option Nat) (u : Nat) :
    (Nat → Option Nat) × Option Nat :=
  match vifs u with
  | [] => (s.1, some u)
  | v :: _ => (Function.update s.1 u (some v), some u)

/-- `get_dhcp_opts` on the records `data` of the network, where `vifs u` lists the ids of
the interfaces of instance `u` (`virtual_interface_get_by_instance`) and `order` is the
order in which the loop visits `instance_set`.  After that loop, `instance_uuid` is still
bound to the last instance it visited, and the second loop reads it for every record;
`none` is the `NameError` of an empty loop, which a non-empty `data` never meets. -/
def getDhcpOpts (data : List FixedIpDatum) (vifs : Nat → List Nat) (order : List Nat) :
    Option String :=
  if data.isEmpty then some ""
  else
    let s := order.foldl (defaultGwStep vifs) (fun _ => none, none)
    s.2.map fun instanceUuid =>
      "\n".intercalate ((data.filter fun d =>
        (s.1 instanceUuid).any (· != d.vifId)).map hostDhcpOpts)

/-- What the loop's comment asks for: a record gets the empty gateway option when its own
instance has a first interface and it is another interface. -/
def dhcpOptsIntended (data : List FixedIpDatum) (vifs : Nat → List Nat) : String :=
  "\n".intercalate ((data.filter fun d =>
    (vifs d.instanceUuid).head?.any (· != d.vifId)).map hostDhcpOpts)

/-- The dictionary after the loop holds the first interface of every visited instance
that has one, over what it held before. -/
theorem foldl_defaultGwStep_fst (vifs : Nat → List Nat) (u : Nat) :
    ∀ (order : List Nat) (s : (Nat → Option Nat) × Option Nat),
      (order.foldl (defaultGwStep vifs) s).1 u =
        ((if u ∈ order then (vifs u).head? else none).or (s.1 u))
  | [], s => by simp
  | a :: order, s => by
    rw [List.foldl_cons, foldl_defaultGwStep_fst vifs u order]
    unfold defaultGwStep
    by_cases hu : u = a
    · subst hu
      cases h : vifs u <;> by_cases hm : u ∈ order <;> simp [h, hm]
    · cases h : vifs a <;> simp [hu, Function.update_noteq hu]

/-- The loop variable after the loop is the last instance visited. -/
theorem foldl_defaultGwStep_snd (vifs : Nat → List Nat) :
    ∀ (order : List Nat) (s : (Nat → Option Nat) × Option Nat),
      (order.foldl (defaultGwStep vifs) s).2 = order.getLast?.or s.2
  | [], s => by simp
  | a :: order, s => by
    rw [List.foldl_cons, foldl_defaultGwStep_snd vifs order]
    unfold defaultGwStep
    cases order <;> cases vifs a <;> simp [List.getLast?_cons]

/-- Every record is compared with the first interface of the last instance the loop
visited, whatever its own instance: a record gets the empty gateway option exactly when
that one interface exists and is not the record's. -/
theorem getDhcpOpts_eq (data : List FixedIpDatum) (vifs : Nat → List Nat) (order : List Nat)
    (hd : data ≠ []) (ho : order ≠ []) :
    getDhcpOpts data vifs order = some ("\n".intercalate ((data.filter fun d =>
      (vifs (order.getLast ho)).head?.any (· != d.vifId)).map hostDhcpOpts)) := by
  have hlast : order.getLast? = some (order.getLast ho) := List.getLast?_eq_getLast order ho
  simp only [getDhcpOpts, List.isEmpty_iff, hd, if_false, foldl_defaultGwStep_snd, hlast,
    Option.or_some, Option.or_none, Option.map_some', foldl_defaultGwStep_fst,
    List.getLast_mem, if_true]

/-- Two instances, each with one interface, one fixed IP on each: no record is on a second
interface, yet the loop visiting `1` then `2` gives instance 1's record the empty gateway
option (and the other order gives it to instance 2's). -/
theorem getDhcpOpts_denies_gateway_to_primary_vif :
    let data : List FixedIpDatum := [⟨1, 10⟩, ⟨2, 20⟩]
    let vifs : Nat → List Nat := fun u => if u = 1 then [10] else if u = 2 then [20] else []
    data ≠ [] ∧ [1, 2] ≠ [] ∧ getDhcpOpts data vifs [1, 2] = some "NW-10,3" ∧
      dhcpOptsIntended data vifs = "" := by
  intro data vifs
  refine ⟨by simp [data], by simp, ?_, by decide⟩
  rw [getDhcpOpts_eq data vifs [1, 2] (by simp [data]) (by simp)]
  decide

example : getDhcpOpts [⟨1, 10⟩, ⟨2, 20⟩]
    (fun u => if u = 1 then [10] else if u = 2 then [20] else []) [2, 1] = some "NW-20,3" := by
  decide

/-! ## `initialize_gateway_device` -/

/-- The columns of `network_ref` the function reads. -/
structure NetworkRef where
  dhcpServer : String
  cidr : String
  broadcast : String
  cidrV6 : String := ""
  deriving DecidableEq, Repr

/-- The options (`CONF`) it reads. -/
structure GatewayConf where
  sendArpForHa : Bool := false
  sendArpForHaCount : Nat := 3
  useIpv6 : Bool := false
  deriving DecidableEq, Repr

/-- The commands the function runs through `_execute`. -/
inductive IpCmd where
  | sysctlIpForward
  | addrShow (dev : String)
  | routeShow (dev : String)
  | routeDel (dst dev : String)
  /-- `_ip_bridge_cmd('del', params, dev)` -/
  | addrDel (params : List String) (dev : String)
  /-- `_ip_bridge_cmd('add', params, dev)` -/
  | addrAdd (params : List String) (dev : String)
  | routeAdd (fields : List String)
  /-- `send_arp_for_ip(ip, dev, count)` -/
  | arping (ip dev : String) (count : Nat)
  | addrChangeV6 (cidr dev : String)
  deriving DecidableEq, Repr

/-- `_ip_bridge_cmd(action, params, device)`. -/
def ipBridgeCmd (action : String) (params : List String) (device : String) : List String :=
  ["ip", "addr", action] ++ params ++ ["dev", device]

/-- The arguments each command passes to `_execute`. -/
def IpCmd.argv : IpCmd → List String
  | .sysctlIpForward => ["sysctl", "-w", "net.ipv4.ip_forward=1"]
  | .addrShow dev => ["ip", "addr", "show", "dev", dev, "scope", "global"]
  | .routeShow dev => ["ip", "route", "show", "dev", dev]
  | .routeDel dst dev => ["ip", "route", "del", dst, "dev", dev]
  | .addrDel params dev => ipBridgeCmd "del" params dev
  | .addrAdd params dev => ipBridgeCmd "add" params dev
  | .routeAdd fields => ["ip", "route", "add"] ++ fields
  | .arping ip dev count => ["arping", "-U", ip, "-A", "-I", dev, "-c", toString count]
  | .addrChangeV6 cidr dev => ["ip", "-f", "inet6", "addr", "change", cidr, "dev", dev]

/-- `s.rpartition('/')[2]`: the text after the last `/`, or all of `s`. -/
def afterLastSlash (s : String) : String := ⟨(s.data.reverse.takeWhile (· ≠ '/')).reverse⟩

/-- `full_ip`: the DHCP server's address with the network's prefix length. -/
def fullIp (n : NetworkRef) : String := n.dhcpServer ++ "/" ++ afterLastSlash n.cidr

/-- `ip_params` of a line of `ip addr show` whose first field is `inet`: the fields
between the first and the last (the label). -/
def inetParams : List String → Option (List String)
  | "inet" :: rest => some rest.dropLast
  | _ => none

/-- `initialize_gateway_device(dev, network_ref)`, given the output `addrOut` of
`ip addr show` and `routeOut` of `ip route show`: the commands it runs, in order.  `none`
is the `IndexError` of `ip_params[0]` on an `inet` line with no address. -/
def initializeGatewayDevice (conf : GatewayConf) (dev : String) (networkRef : Option NetworkRef)
    (addrOut routeOut : List (List String)) : Option (List IpCmd) :=
  match networkRef with
  | none => some []
  | some n =>
    let full := fullIp n
    let oldIpParams := addrOut.filterMap inetParams
    if [] ∈ oldIpParams then none
    else
      let newIpParams := [full, "brd", n.broadcast] :: oldIpParams.filter (·.head? ≠ some full)
      let oldRoutes := routeOut.filter fun fields => fields ≠ [] ∧ "via" ∈ fields
      let swap :=
        if (oldIpParams.head?.bind List.head?) ≠ some full then
          [.routeShow dev] ++ oldRoutes.map (fun fields => .routeDel (fields.headD "") dev) ++
            oldIpParams.map (.addrDel · dev) ++ newIpParams.map (.addrAdd · dev) ++
            oldRoutes.map .routeAdd ++
            (if conf.sendArpForHa ∧ 0 < conf.sendArpForHaCount then
              [.arping n.dhcpServer dev conf.sendArpForHaCount] else [])
        else []
      some ([.sysctlIpForward, .addrShow dev] ++ swap ++
        (if conf.useIpv6 then [.addrChangeV6 n.cidrV6 dev] else []))

/-- A device's global IPv4 addresses (each the `ip_params` of its `inet` line, so its first
field is the address) and its routes (each the fields of its `ip route show` line). -/
structure Device where
  addrs : List (List String)
  routes : List (List String)
  addrs_ne : ∀ a ∈ addrs, a ≠ []

/-- `ip addr add/del` and `ip route add/del` as edits of the device's lists: an add
appends, a delete removes the first entry for the address or destination; the other
commands change neither list. -/
def Device.apply (d : Device) : IpCmd → Device
  | .addrAdd params _ =>
    if h : params = [] then d
    else
      { d with
        addrs := d.addrs ++ [params]
        addrs_ne := fun a ha => by
          rcases List.mem_append.1 ha with ha | ha
          · exact d.addrs_ne a ha
          · exact (List.mem_singleton.1 ha) ▸ h }
  | .addrDel params _ =>
    { d with
      addrs := d.addrs.eraseP (·.head? = params.head?)
      addrs_ne := fun a ha => d.addrs_ne a ((List.eraseP_sublist _).subset ha) }
  | .routeDel dst _ => { d with routes := d.routes.eraseP (·.head? = some dst) }
  | .routeAdd fields => { d with routes := d.routes ++ [fields] }
  | _ => d

/-- Running a list of commands on the device. -/
def Device.run (d : Device) (cmds : List IpCmd) : Device := cmds.foldl Device.apply d

@[simp] theorem Device.run_nil (d : Device) : d.run [] = d := rfl

@[simp] theorem Device.run_append (d : Device) (l₁ l₂ : List IpCmd) :
    d.run (l₁ ++ l₂) = (d.run l₁).run l₂ := List.foldl_append _ _ _ _

/-- Whether the command edits the address list. -/
def IpCmd.editsAddrs : IpCmd → Bool
  | .addrAdd _ _ | .addrDel _ _ => true
  | _ => false

/-- Whether the command edits the route list. -/
def IpCmd.editsRoutes : IpCmd → Bool
  | .routeDel _ _ | .routeAdd _ => true
  | _ => false

theorem Device.apply_addrs {d : Device} {c : IpCmd} (h : c.editsAddrs = false) :
    (d.apply c).addrs = d.addrs := by
  cases c <;> simp_all [IpCmd.editsAddrs, Device.apply]

theorem Device.apply_routes {d : Device} {c : IpCmd} (h : c.editsRoutes = false) :
    (d.apply c).routes = d.routes := by
  cases c <;> simp_all [IpCmd.editsRoutes, Device.apply]
  split <;> rfl

/-- Commands that do not edit the addresses leave them. -/
theorem Device.run_addrs : ∀ (d : Device) (cmds : List IpCmd),
    (∀ c ∈ cmds, c.editsAddrs = false) → (d.run cmds).addrs = d.addrs
  | _, [], _ => rfl
  | d, c :: cmds, h => by
    rw [show d.run (c :: cmds) = (d.apply c).run cmds from rfl,
      Device.run_addrs _ cmds fun c' hc' => h c' (.tail _ hc'), Device.apply_addrs (h c (.head _))]

/-- Commands that do not edit the routes leave them. -/
theorem Device.run_routes : ∀ (d : Device) (cmds : List IpCmd),
    (∀ c ∈ cmds, c.editsRoutes = false) → (d.run cmds).routes = d.routes
  | _, [], _ => rfl
  | d, c :: cmds, h => by
    rw [show d.run (c :: cmds) = (d.apply c).run cmds from rfl,
      Device.run_routes _ cmds fun c' hc' => h c' (.tail _ hc'),
      Device.apply_routes (h c (.head _))]

/-- Commands that edit neither list leave the device. -/
theorem Device.run_of_inert (d : Device) (cmds : List IpCmd)
    (h : ∀ c ∈ cmds, c.editsAddrs = false ∧ c.editsRoutes = false) : d.run cmds = d := by
  have ha := Device.run_addrs d cmds fun c hc => (h c hc).1
  have hr := Device.run_routes d cmds fun c hc => (h c hc).2
  revert ha hr
  cases d.run cmds
  cases d
  rintro rfl rfl
  rfl

/-- Deleting the listed addresses in their listed order empties the list: each delete
removes the head. -/
theorem Device.run_addrDel : ∀ (d : Device) (dev : String) (l : List (List String)),
    d.addrs = l → (d.run (l.map (.addrDel · dev))).addrs = []
  | _, _, [], h => h
  | d, dev, a :: l, h => by
    have ha : a ≠ [] := d.addrs_ne a (h ▸ .head _)
    refine Device.run_addrDel (d.apply (.addrDel a dev)) dev l ?_
    simp [Device.apply, h, List.eraseP_cons_of_pos]

/-- Adding non-empty addresses appends them in order. -/
theorem Device.run_addrAdd : ∀ (d : Device) (dev : String) (l : List (List String)),
    (∀ a ∈ l, a ≠ []) → (d.run (l.map (.addrAdd · dev))).addrs = d.addrs ++ l
  | _, _, [], _ => by simp
  | d, dev, a :: l, h => by
    rw [List.map_cons, show d.run (.addrAdd a dev :: l.map (.addrAdd · dev)) =
      (d.apply (.addrAdd a dev)).run (l.map (.addrAdd · dev)) from rfl,
      Device.run_addrAdd _ dev l fun b hb => h b (.tail _ hb)]
    simp [Device.apply, h a (.head _)]

/-- Adding routes appends them in order. -/
theorem Device.run_routeAdd : ∀ (d : Device) (l : List (List String)),
    (d.run (l.map .routeAdd)).routes = d.routes ++ l
  | _, [] => by simp
  | d, r :: l => by
    rw [List.map_cons, show d.run (.routeAdd r :: l.map .routeAdd) =
      (d.apply (.routeAdd r)).run (l.map .routeAdd) from rfl, Device.run_routeAdd]
    simp [Device.apply]

/-- `initialize_gateway_device` on a device whose `ip addr show` lists its addresses and
whose `ip route show` lists its routes runs without error, and leaves the device with the
DHCP address `dhcp_server/prefix` as its first global IPv4 address, every other address
it had still there, and every route through a gateway it had restored. -/
theorem initializeGatewayDevice_first_address (conf : GatewayConf) (dev : String)
    (n : NetworkRef) (d : Device) (addrOut : List (List String))
    (hout : addrOut.filterMap inetParams = d.addrs) :
    ∃ cmds, initializeGatewayDevice conf dev (some n) addrOut d.routes = some cmds ∧
      ((d.run cmds).addrs.head?.bind List.head? = some (fullIp n) ∧
        (∀ a ∈ d.addrs, a.head? ≠ some (fullIp n) → a ∈ (d.run cmds).addrs) ∧
        (∀ r ∈ d.routes, "via" ∈ r → r ∈ (d.run cmds).routes)) := by
  have hne : [] ∉ d.addrs := fun h => d.addrs_ne [] h rfl
  simp only [initializeGatewayDevice, hout, if_neg hne]
  refine ⟨_, rfl, ?_⟩
  have hend : ∀ c ∈ (if conf.sendArpForHa = true ∧ 0 < conf.sendArpForHaCount then
      [IpCmd.arping n.dhcpServer dev conf.sendArpForHaCount] else []) ++
      (if conf.useIpv6 then [IpCmd.addrChangeV6 n.cidrV6 dev] else []),
      c.editsAddrs = false ∧ c.editsRoutes = false := by
    intro c hc
    rcases List.mem_append.1 hc with hc | hc <;> split at hc <;>
      simp_all [IpCmd.editsAddrs, IpCmd.editsRoutes]
  have hstart : d.run [.sysctlIpForward, .addrShow dev] = d :=
    Device.run_of_inert _ _ (by simp [IpCmd.editsAddrs, IpCmd.editsRoutes])
  by_cases hc : d.addrs.head?.bind List.head? = some (fullIp n)
  · simp only [hc, ne_eq, not_true_eq_false, if_false, List.append_nil, Device.run_append,
      hstart]
    rw [Device.run_of_inert _ _ fun c h => hend c (List.mem_append_right _ h)]
    exact ⟨hc, fun a ha _ => ha, fun r hr _ => hr⟩
  · rw [if_pos hc]
    simp only [Device.run_append, hstart]
    set oldRoutes := d.routes.filter fun fields => decide (fields ≠ [] ∧ "via" ∈ fields)
    set new := [fullIp n, "brd", n.broadcast] ::
      d.addrs.filter fun x => decide (x.head? ≠ some (fullIp n)) with hnew
    set d₁ := (d.run [.routeShow dev]).run
      (oldRoutes.map fun fields => .routeDel (fields.headD "") dev)
    have h₁ : d₁.addrs = d.addrs :=
      (Device.run_addrs _ _ (by simp [IpCmd.editsAddrs])).trans
        (Device.run_addrs _ _ (by simp [IpCmd.editsAddrs]))
    set d₂ := (d₁.run (d.addrs.map (.addrDel · dev))).run (new.map (.addrAdd · dev))
    have h₂ : d₂.addrs = new := by
      rw [Device.run_addrAdd _ _ _ fun a ha => ?_, Device.run_addrDel _ _ _ h₁, List.nil_append]
      rcases List.mem_cons.1 ha with rfl | ha
      · simp
      · exact d.addrs_ne a (List.mem_filter.1 ha).1
    rw [← Device.run_append, Device.run_of_inert _ _ hend,
      Device.run_addrs _ _ (by simp [IpCmd.editsAddrs]), h₂, Device.run_routeAdd]
    refine ⟨by simp [hnew], fun a ha hne => List.mem_cons_of_mem _ (by simpa [ha] using hne),
      fun r hr hv => List.mem_append_right _ (List.mem_filter.2 ⟨hr, ?_⟩)⟩
    simpa using ⟨List.ne_nil_of_mem hv, hv⟩

/-- A bridge whose DHCP address `10.0.0.1/24` is its second address, behind `10.0.0.5/24`,
with a default route through `10.0.0.254`: `ip addr show` lists the link, both addresses
and an IPv6 address. -/
theorem initializeGatewayDevice_moves_dhcp_address_first :
    let d : Device :=
      { addrs := [["10.0.0.5/24", "brd", "10.0.0.255", "scope", "global"],
          ["10.0.0.1/24", "brd", "10.0.0.255", "scope", "global", "secondary"]]
        routes := [["10.0.0.0/24", "proto", "kernel", "scope", "link", "src", "10.0.0.5"],
          ["default", "via", "10.0.0.254"]]
        addrs_ne := by simp }
    let addrOut : List (List String) := [["4:", "br100:", "<BROADCAST,MULTICAST,UP>"],
      ["inet", "10.0.0.5/24", "brd", "10.0.0.255", "scope", "global", "br100"],
      ["inet", "10.0.0.1/24", "brd", "10.0.0.255", "scope", "global", "secondary", "br100"],
      ["inet6", "fe80::1/64", "scope", "link"]]
    let n : NetworkRef := { dhcpServer := "10.0.0.1", cidr := "10.0.0.0/24", broadcast := "10.0.0.255" }
    addrOut.filterMap inetParams = d.addrs ∧
    ∃ cmds, initializeGatewayDevice {} "br100" (some n) addrOut d.routes = some cmds ∧
      ((d.run cmds).addrs.head?.bind List.head? = some (fullIp n) ∧
        (∀ a ∈ d.addrs, a.head? ≠ some (fullIp n) → a ∈ (d.run cmds).addrs) ∧
        (∀ r ∈ d.routes, "via" ∈ r → r ∈ (d.run cmds).routes)) :=
  ⟨by decide, initializeGatewayDevice_first_address {} "br100" _ _ _ (by decide)⟩

end FolsomCloud.Network
