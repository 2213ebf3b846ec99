import FolsomCloud.Compute.States

set_option autoImplicit false

/-!
# Compute: the client side of the compute RPC API (`compute/rpcapi.py`)

`ComputeAPI` and `SecurityGroupAPI` turn each request into a message `make_msg(method,
**kwargs)`.  It is sent (`cast`), sent and waited for (`call`), or sent to every compute host
(`fanout_cast`), on the queue `compute.<host>` of the host `_compute_topic` picks: the host given,
or else the instance's.  Each message carries the version the server must implement: the
proxy's `BASE_RPC_API_VERSION`, `2.0`, unless the call names another.

On the server, the RPC dispatcher hands a message to `ComputeManager` when its version is
compatible with the manager's `RPC_API_VERSION` (the same major version, and no newer minor
one), and calls the method it names as `method(context, **kwargs)`.  Python raises
`TypeError` unless the keywords are parameters of the method and cover those without a default.

The per-method constants of the source are tables over `RpcMethod`: the method's name, the
keywords of its message, the `version=` of its call, and the parameters of the
`ComputeManager` method of that name.  Each API method is `send` applied to its own constants
and its own routing.  The two aggregate casts also carry the values of their keywords, which
the hypervisor pool reads: `jsonutils.to_primitive(aggregate)`, a dictionary where the caller
passed a row.

Results:

* `_compute_topic` picks the given host, else the instance's, and raises `NovaException` when
  it finds none (`computeTopic_eq_ok`, `computeTopic_eq_error`);
* the manager at its `RPC_API_VERSION`, 2.16, runs every message the client sends except
  `get_host_uptime`'s, which carries no `host`: `ComputeManager.get_host_uptime` requires one, so
  that call raises `TypeError` (`dispatch_sent`);
* a message's version is at least the last version of the API's history that added or changed
  its method, except for `publish_service_capabilities` (added in 2.9), `soft_delete_instance`
  and `restore_instance` (added in 2.11), which go out as 2.0 (`requiredVersion_le_sentVersion`,
  `unversioned_sentVersion`).  So a server of an older 2.x version that accepts a message
  implements its method as sent (`compatible_implements`), except for those three, whose
  messages every 2.x server accepts, also one older than the method
  (`unversioned_reach_older_servers`).
-/

namespace FolsomCloud.Compute

/-! ## Versions -/

/-- A version `major.minor` of the RPC API. -/
structure Version where
  major : Nat
  minor : Nat
  deriving DecidableEq, Repr

namespace Version

/-- `v` is `w` or an older version. -/
def le (v w : Version) : Bool := v.major < w.major || v.major == w.major && v.minor ≤ w.minor

/-- `rpc_common.version_is_compatible(imp_version, version)`: a server at `imp` takes a message
of `version` when it has its major version and no newer minor one. -/
def compatible (imp version : Version) : Bool :=
  version.major == imp.major && version.minor ≤ imp.minor

theorem le_trans {u v w : Version} (h₁ : u.le v = true) (h₂ : v.le w = true) : u.le w = true := by
  simp only [le, Bool.or_eq_true, Bool.and_eq_true, beq_iff_eq, decide_eq_true_eq] at *
  omega

theorem le_of_compatible {imp v : Version} (h : imp.compatible v = true) : v.le imp = true := by
  simp only [le, compatible, Bool.or_eq_true, Bool.and_eq_true, beq_iff_eq,
    decide_eq_true_eq] at *
  omega

end Version

/-- `ComputeAPI.BASE_RPC_API_VERSION`, also `SecurityGroupAPI`'s. -/
def baseRpcApiVersion : Version := ⟨2, 0⟩

/-- `ComputeManager.RPC_API_VERSION`. -/
def rpcApiVersion : Version := ⟨2, 16⟩

/-! ## The methods of the API -/

/-- The methods of `ComputeAPI`, then those of `SecurityGroupAPI`. -/
inductive RpcMethod where
  | addAggregateHost | addFixedIpToInstance | attachVolume | changeInstanceMetadata
  | checkCanLiveMigrateDestination | checkCanLiveMigrateSource | confirmResize | detachVolume
  | finishResize | finishRevertResize | getConsoleOutput | getConsolePoolInfo | getConsoleTopic
  | getDiagnostics | getVncConsole | hostMaintenanceMode | hostPowerAction | injectFile
  | injectNetworkInfo | liveMigration | pauseInstance | postLiveMigrationAtDestination
  | powerOffInstance | powerOnInstance | preLiveMigration | prepResize | rebootInstance
  | rebuildInstance | refreshProviderFwRules | removeAggregateHost | removeFixedIpFromInstance
  | removeVolumeConnection | rescueInstance | resetNetwork | resizeInstance | resumeInstance
  | revertResize | rollbackLiveMigrationAtDestination | runInstance | setAdminPassword
  | setHostEnabled | getHostUptime | reserveBlockDeviceName | snapshotInstance | startInstance
  | stopInstance | suspendInstance | terminateInstance | unpauseInstance | unrescueInstance
  | publishServiceCapabilities | softDeleteInstance | restoreInstance
  | refreshSecurityGroupRules | refreshSecurityGroupMembers | refreshInstanceSecurityRules
  deriving DecidableEq, Repr

namespace RpcMethod

/-- The method a message names, the first argument of `make_msg`. -/
def name : RpcMethod → String
  | addAggregateHost => "add_aggregate_host"
  | addFixedIpToInstance => "add_fixed_ip_to_instance"
  | attachVolume => "attach_volume"
  | changeInstanceMetadata => "change_instance_metadata"
  | checkCanLiveMigrateDestination => "check_can_live_migrate_destination"
  | checkCanLiveMigrateSource => "check_can_live_migrate_source"
  | confirmResize => "confirm_resize"
  | detachVolume => "detach_volume"
  | finishResize => "finish_resize"
  | finishRevertResize => "finish_revert_resize"
  | getConsoleOutput => "get_console_output"
  | getConsolePoolInfo => "get_console_pool_info"
  | getConsoleTopic => "get_console_topic"
  | getDiagnostics => "get_diagnostics"
  | getVncConsole => "get_vnc_console"
  | hostMaintenanceMode => "host_maintenance_mode"
  | hostPowerAction => "host_power_action"
  | injectFile => "inject_file"
  | injectNetworkInfo => "inject_network_info"
  | liveMigration => "live_migration"
  | pauseInstance => "pause_instance"
  | postLiveMigrationAtDestination => "post_live_migration_at_destination"
  | powerOffInstance => "power_off_instance"
  | powerOnInstance => "power_on_instance"
  | preLiveMigration => "pre_live_migration"
  | prepResize => "prep_resize"
  | rebootInstance => "reboot_instance"
  | rebuildInstance => "rebuild_instance"
  | refreshProviderFwRules => "refresh_provider_fw_rules"
  | removeAggregateHost => "remove_aggregate_host"
  | removeFixedIpFromInstance => "remove_fixed_ip_from_instance"
  | removeVolumeConnection => "remove_volume_connection"
  | rescueInstance => "rescue_instance"
  | resetNetwork => "reset_network"
  | resizeInstance => "resize_instance"
  | resumeInstance => "resume_instance"
  | revertResize => "revert_resize"
  | rollbackLiveMigrationAtDestination => "rollback_live_migration_at_destination"
  | runInstance => "run_instance"
  | setAdminPassword => "set_admin_password"
  | setHostEnabled => "set_host_enabled"
  | getHostUptime => "get_host_uptime"
  | reserveBlockDeviceName => "reserve_block_device_name"
  | snapshotInstance => "snapshot_instance"
  | startInstance => "start_instance"
  | stopInstance => "stop_instance"
  | suspendInstance => "suspend_instance"
  | terminateInstance => "terminate_instance"
  | unpauseInstance => "unpause_instance"
  | unrescueInstance => "unrescue_instance"
  | publishServiceCapabilities => "publish_service_capabilities"
  | softDeleteInstance => "soft_delete_instance"
  | restoreInstance => "restore_instance"
  | refreshSecurityGroupRules => "refresh_security_group_rules"
  | refreshSecurityGroupMembers => "refresh_security_group_members"
  | refreshInstanceSecurityRules => "refresh_instance_security_rules"

/-- The keywords of the method's `make_msg`: the arguments its message carries. -/
def args : RpcMethod → List String
  | addAggregateHost | removeAggregateHost => ["aggregate", "host", "subordinate_info"]
  | addFixedIpToInstance => ["instance", "network_id"]
  | attachVolume => ["instance", "volume_id", "mountpoint"]
  | changeInstanceMetadata => ["instance", "diff"]
  | checkCanLiveMigrateDestination => ["instance", "block_migration", "disk_over_commit"]
  | checkCanLiveMigrateSource => ["instance", "dest_check_data"]
  | confirmResize | revertResize | finishRevertResize => ["instance", "migration", "reservations"]
  | detachVolume | removeVolumeConnection => ["instance", "volume_id"]
  | finishResize => ["instance", "migration", "image", "disk_info", "reservations"]
  | getConsoleOutput => ["instance", "tail_length"]
  | getConsolePoolInfo => ["console_type"]
  | getVncConsole => ["instance", "console_type"]
  | hostMaintenanceMode => ["host", "mode"]
  | hostPowerAction => ["action"]
  | injectFile => ["instance", "path", "file_contents"]
  | liveMigration => ["instance", "dest", "block_migration", "migrate_data"]
  | postLiveMigrationAtDestination => ["instance", "block_migration"]
  | preLiveMigration => ["instance", "block_migration", "disk"]
  | prepResize =>
    ["instance", "instance_type", "image", "reservations", "request_spec", "filter_properties"]
  | rebootInstance => ["instance", "block_device_info", "network_info", "reboot_type"]
  | rebuildInstance =>
    ["instance", "new_pass", "injected_files", "image_ref", "orig_image_ref", "orig_sys_metadata"]
  | removeFixedIpFromInstance => ["instance", "address"]
  | rescueInstance => ["instance", "rescue_password"]
  | resizeInstance => ["instance", "migration", "image", "reservations", "instance_type"]
  | runInstance =>
    ["instance", "request_spec", "filter_properties", "requested_networks", "injected_files",
     "admin_password", "is_first_time"]
  | setAdminPassword => ["instance", "new_pass"]
  | setHostEnabled => ["enabled"]
  | reserveBlockDeviceName => ["instance", "device", "volume_id"]
  | snapshotInstance => ["instance", "image_id", "image_type", "backup_type", "rotation"]
  | terminateInstance => ["instance", "bdms"]
  | getConsoleTopic | refreshProviderFwRules | getHostUptime | publishServiceCapabilities => []
  | refreshSecurityGroupRules | refreshSecurityGroupMembers => ["security_group_id"]
  | getDiagnostics | injectNetworkInfo | pauseInstance | powerOffInstance | powerOnInstance
  | resetNetwork | resumeInstance | rollbackLiveMigrationAtDestination | startInstance
  | stopInstance | suspendInstance | unpauseInstance | unrescueInstance | softDeleteInstance
  | restoreInstance | refreshInstanceSecurityRules => ["instance"]

/-- The `version=` of the method's `cast` or `call`, when it names one. -/
def version : RpcMethod → Option Version
  | addAggregateHost => some ⟨2, 14⟩
  | confirmResize => some ⟨2, 7⟩
  | finishResize => some ⟨2, 8⟩
  | finishRevertResize => some ⟨2, 13⟩
  | prepResize => some ⟨2, 10⟩
  | rebootInstance => some ⟨2, 5⟩
  | rebuildInstance => some ⟨2, 1⟩
  | removeAggregateHost => some ⟨2, 15⟩
  | resizeInstance => some ⟨2, 16⟩
  | revertResize => some ⟨2, 12⟩
  | reserveBlockDeviceName => some ⟨2, 3⟩
  | terminateInstance => some ⟨2, 4⟩
  | _ => none

/-- The version the message goes out with: the call's, or the proxy's default. -/
def sentVersion (m : RpcMethod) : Version := m.version.getD baseRpcApiVersion

end RpcMethod

/-- The `2.x` entries of `ComputeAPI`'s version history, each with the methods it adds or
whose arguments it changes.  `2.0` removed the compatibility with `1.x`. -/
def versionHistory : List (Version × List RpcMethod) :=
  [(⟨2, 1⟩, [.rebuildInstance]),
   (⟨2, 2⟩, [.addAggregateHost, .removeAggregateHost]),
   (⟨2, 3⟩, [.reserveBlockDeviceName]),
   (⟨2, 4⟩, [.terminateInstance]),
   (⟨2, 5⟩, [.rebootInstance]),
   (⟨2, 6⟩, [.resizeInstance]),
   (⟨2, 7⟩, [.confirmResize]),
   (⟨2, 8⟩, [.finishResize]),
   (⟨2, 9⟩, [.publishServiceCapabilities]),
   (⟨2, 10⟩, [.prepResize]),
   (⟨2, 11⟩, [.softDeleteInstance, .restoreInstance]),
   (⟨2, 12⟩, [.revertResize]),
   (⟨2, 13⟩, [.finishRevertResize]),
   (⟨2, 14⟩, [.addAggregateHost]),
   (⟨2, 15⟩, [.removeAggregateHost]),
   (⟨2, 16⟩, [.resizeInstance])]

/-- The oldest version of the API that has method `m` as the client sends it: the last entry
of the history that names it, or the base version. -/
def requiredVersion (m : RpcMethod) : Version :=
  versionHistory.foldl (fun v e => if m ∈ e.2 then e.1 else v) baseRpcApiVersion

/-! ## The server's methods -/

/-- The parameters of a `ComputeManager` method after `context`: those without a default,
then those with one. -/
structure Params where
  required : List String
  optional : List String
  deriving DecidableEq, Repr

/-- Python's binding of `method(context, **kwargs)`: it raises `TypeError` unless every keyword
is a parameter and every parameter without a default is given. -/
def Params.binds (p : Params) (kwargs : List String) : Bool :=
  kwargs.all (fun k => p.required.contains k || p.optional.contains k) &&
    p.required.all kwargs.contains

/-- The parameters of the `ComputeManager` method each message names.
`publish_service_capabilities` is `SchedulerDependentManager`'s, which is not in src: it is
given the parameters of the manager's own call `self.publish_service_capabilities(context)`. -/
def RpcMethod.params : RpcMethod → Params
  | .addAggregateHost | .removeAggregateHost =>
    ⟨["host"], ["subordinate_info", "aggregate", "aggregate_id"]⟩
  | .addFixedIpToInstance => ⟨["network_id", "instance"], []⟩
  | .attachVolume => ⟨["volume_id", "mountpoint", "instance"], []⟩
  | .changeInstanceMetadata => ⟨["diff", "instance"], []⟩
  | .checkCanLiveMigrateDestination =>
    ⟨["instance"], ["block_migration", "disk_over_commit"]⟩
  | .checkCanLiveMigrateSource => ⟨["instance", "dest_check_data"], []⟩
  | .confirmResize | .finishRevertResize =>
    ⟨["instance"], ["reservations", "migration", "migration_id"]⟩
  | .detachVolume | .removeVolumeConnection => ⟨["volume_id", "instance"], []⟩
  | .finishResize =>
    ⟨["disk_info", "image", "instance"], ["reservations", "migration", "migration_id"]⟩
  | .getConsoleOutput => ⟨["instance"], ["tail_length"]⟩
  | .getConsolePoolInfo => ⟨["console_type"], []⟩
  | .getConsoleTopic | .refreshProviderFwRules => ⟨[], []⟩
  | .getVncConsole => ⟨["console_type", "instance"], []⟩
  | .hostMaintenanceMode => ⟨["host", "mode"], []⟩
  | .hostPowerAction => ⟨[], ["host", "action"]⟩
  | .injectFile => ⟨["path", "file_contents", "instance"], []⟩
  | .liveMigration => ⟨["dest", "instance"], ["block_migration", "migrate_data"]⟩
  | .postLiveMigrationAtDestination => ⟨["instance"], ["block_migration"]⟩
  | .preLiveMigration => ⟨["instance"], ["block_migration", "disk"]⟩
  | .prepResize =>
    ⟨["image", "instance", "instance_type"], ["reservations", "request_spec",
      "filter_properties"]⟩
  | .rebootInstance => ⟨["instance"], ["block_device_info", "network_info", "reboot_type"]⟩
  | .rebuildInstance =>
    ⟨["instance", "orig_image_ref", "image_ref", "injected_files", "new_pass"],
      ["orig_sys_metadata"]⟩
  | .removeFixedIpFromInstance => ⟨["address", "instance"], []⟩
  | .rescueInstance => ⟨["instance"], ["rescue_password"]⟩
  | .resizeInstance =>
    ⟨["instance", "image"], ["reservations", "migration", "migration_id", "instance_type"]⟩
  | .revertResize => ⟨["instance"], ["migration", "migration_id", "reservations"]⟩
  | .runInstance =>
    ⟨["instance"], ["request_spec", "filter_properties", "requested_networks",
      "injected_files", "admin_password", "is_first_time"]⟩
  | .setAdminPassword => ⟨["instance"], ["new_pass"]⟩
  | .setHostEnabled => ⟨[], ["host", "enabled"]⟩
  | .getHostUptime => ⟨["host"], []⟩
  | .reserveBlockDeviceName => ⟨["instance", "device"], ["volume_id"]⟩
  | .snapshotInstance => ⟨["image_id", "instance"], ["image_type", "backup_type", "rotation"]⟩
  | .terminateInstance => ⟨["instance"], ["bdms"]⟩
  | .publishServiceCapabilities => ⟨[], []⟩
  | .refreshSecurityGroupRules | .refreshSecurityGroupMembers => ⟨["security_group_id"], []⟩
  | .getDiagnostics | .injectNetworkInfo | .pauseInstance | .powerOffInstance | .powerOnInstance
  | .resetNetwork | .resumeInstance | .rollbackLiveMigrationAtDestination | .startInstance
  | .stopInstance | .suspendInstance | .unpauseInstance | .unrescueInstance | .softDeleteInstance
  | .restoreInstance | .refreshInstanceSecurityRules => ⟨["instance"], []⟩

/-! ## Messages -/

/-- How a message goes: `cast` (no reply), `call` (the sender waits for the reply) or
`fanout_cast` (to every host of the topic). -/
inductive RpcKind where
  | cast
  | call
  | fanoutCast
  deriving DecidableEq, Repr

/-- A message as it leaves the client: `make_msg(method.name, **kwargs)` with the keywords'
names, how it goes, its queue, and its version. -/
structure RpcMsg where
  kind : RpcKind
  method : RpcMethod
  args : List String
  topic : String
  version : Version
  deriving DecidableEq, Repr

/-- `rpc.queue_get_for(ctxt, topic, host)`: the queue of `host` on `topic`. -/
def queueGetFor (topic host : String) : String := topic ++ "." ++ host

/-- `_compute_topic(topic, ctxt, host, instance)`: the queue of `host`, else of the instance's
host; `""` stands for a missing host, and an error is the message of the `NovaException`
raised. -/
def computeTopic (topic host : String) (inst : Option Instance) : Except String String :=
  if host ≠ "" then .ok (queueGetFor topic host)
  else
    match inst with
    | none => .error "No compute host specified"
    | some i =>
      if i.host ≠ "" then .ok (queueGetFor topic i.host)
      else .error ("Unable to find host for Instance " ++ toString i.uuid)

/-- `self.cast`, `self.call` or `self.fanout_cast` of `self.make_msg(m.name, **kwargs)` on the
queue `topic` picks; nothing is sent when picking it raises. -/
def send (kind : RpcKind) (m : RpcMethod) (topic : Except String String) : Except String RpcMsg :=
  topic.map fun t => ⟨kind, m, m.args, t, m.sentVersion⟩

/-! ## The aggregate casts -/

/-- An aggregate's row as `db.aggregate_get` returns it: its id, name and hosts. -/
structure Aggregate where
  id : Nat
  name : String
  hosts : List String
  deriving DecidableEq, Repr

/-- The `aggregate` argument of an aggregate cast, or of the hypervisor pool's methods. -/
inductive AggregateArg where
  /-- the row object, whose columns are attributes -/
  | row (aggregate : Aggregate)
  /-- `jsonutils.to_primitive` of a row: a dictionary of its columns, which has none of them
  as an attribute -/
  | primitive (aggregate : Aggregate)
  /-- a bare aggregate id -/
  | id (aggregateId : Nat)
  deriving DecidableEq, Repr

/-- `jsonutils.to_primitive`: a row object becomes the dictionary of its columns; a dictionary
or an integer is already primitive. -/
def AggregateArg.toPrimitive : AggregateArg → AggregateArg
  | .row a => .primitive a
  | a => a

/-- The type Python names in an `AttributeError` on the argument. -/
def AggregateArg.typeName : AggregateArg → String
  | .row _ => "Aggregate"
  | .primitive _ => "dict"
  | .id _ => "int"

/-- Python's truth value of the argument: a row, and a dictionary of a row's columns, are
true; an id is true unless it is `0`. -/
def AggregateArg.truthy : AggregateArg → Bool
  | .id n => n != 0
  | _ => true

/-- A cast of `add_aggregate_host` or `remove_aggregate_host`: the message, with the values of
its keywords `aggregate`, `host` and `subordinate_info`. -/
structure AggregateCast (Info : Type) where
  msg : RpcMsg
  aggregate : AggregateArg
  host : String
  subordinateInfo : Option Info
  deriving DecidableEq, Repr

/-! ## `ComputeAPI` and `SecurityGroupAPI` -/

namespace ComputeAPI

variable (topic : String)

/-- `add_aggregate_host(ctxt, aggregate, host_param, host, subordinate_info)`: to `host`, with
`jsonutils.to_primitive(aggregate)` and `host_param` as the message's `aggregate` and `host`. -/
def addAggregateHost {Info : Type} (aggregate : AggregateArg) (hostParam host : String)
    (subordinateInfo : Option Info) : Except String (AggregateCast Info) :=
  (send .cast .addAggregateHost (computeTopic topic host none)).map fun msg =>
    ⟨msg, aggregate.toPrimitive, hostParam, subordinateInfo⟩

/-- `add_fixed_ip_to_instance(ctxt, instance, network_id)`. -/
def addFixedIpToInstance (inst : Instance) : Except String RpcMsg :=
  send .cast .addFixedIpToInstance (computeTopic topic "" (some inst))

/-- `attach_volume(ctxt, instance, volume_id, mountpoint)`. -/
def attachVolume (inst : Instance) : Except String RpcMsg :=
  send .cast .attachVolume (computeTopic topic "" (some inst))

/-- `change_instance_metadata(ctxt, instance, diff)`. -/
def changeInstanceMetadata (inst : Instance) : Except String RpcMsg :=
  send .cast .changeInstanceMetadata (computeTopic topic "" (some inst))

/-- `check_can_live_migrate_destination(ctxt, instance, destination, block_migration,
disk_over_commit)`: to `destination`. -/
def checkCanLiveMigrateDestination (destination : String) : Except String RpcMsg :=
  send .call .checkCanLiveMigrateDestination (computeTopic topic destination none)

/-- `check_can_live_migrate_source(ctxt, instance, dest_check_data)`. -/
def checkCanLiveMigrateSource (inst : Instance) : Except String RpcMsg :=
  send .call .checkCanLiveMigrateSource (computeTopic topic "" (some inst))

/-- `confirm_resize(ctxt, instance, migration, host, reservations, cast)`: to `host`, else the
instance's host; a call when `cast` is false. -/
def confirmResize (inst : Instance) (host : String) (cast : Bool) : Except String RpcMsg :=
  send (if cast then .cast else .call) .confirmResize (computeTopic topic host (some inst))

/-- `detach_volume(ctxt, instance, volume_id)`. -/
def detachVolume (inst : Instance) : Except String RpcMsg :=
  send .cast .detachVolume (computeTopic topic "" (some inst))

/-- `finish_resize(ctxt, instance, migration, image, disk_info, host, reservations)`. -/
def finishResize (host : String) : Except String RpcMsg :=
  send .cast .finishResize (computeTopic topic host none)

/-- `finish_revert_resize(ctxt, instance, migration, host, reservations)`. -/
def finishRevertResize (host : String) : Except String RpcMsg :=
  send .cast .finishRevertResize (computeTopic topic host none)

/-- `get_console_output(ctxt, instance, tail_length)`. -/
def getConsoleOutput (inst : Instance) : Except String RpcMsg :=
  send .call .getConsoleOutput (computeTopic topic "" (some inst))

/-- `get_console_pool_info(ctxt, console_type, host)`. -/
def getConsolePoolInfo (host : String) : Except String RpcMsg :=
  send .call .getConsolePoolInfo (computeTopic topic host none)

/-- `get_console_topic(ctxt, host)`. -/
def getConsoleTopic (host : String) : Except String RpcMsg :=
  send .call .getConsoleTopic (computeTopic topic host none)

/-- `get_diagnostics(ctxt, instance)`. -/
def getDiagnostics (inst : Instance) : Except String RpcMsg :=
  send .call .getDiagnostics (computeTopic topic "" (some inst))

/-- `get_vnc_console(ctxt, instance, console_type)`. -/
def getVncConsole (inst : Instance) : Except String RpcMsg :=
  send .call .getVncConsole (computeTopic topic "" (some inst))

/-- `host_maintenance_mode(ctxt, host_param, mode, host)`: to `host`. -/
def hostMaintenanceMode (host : String) : Except String RpcMsg :=
  send .call .hostMaintenanceMode (computeTopic topic host none)

/-- `host_power_action(ctxt, action, host)`. -/
def hostPowerAction (host : String) : Except String RpcMsg :=
  send .call .hostPowerAction (computeTopic topic host none)

/-- `inject_file(ctxt, instance, path, file_contents)`. -/
def injectFile (inst : Instance) : Except String RpcMsg :=
  send .cast .injectFile (computeTopic topic "" (some inst))

/-- `inject_network_info(ctxt, instance)`. -/
def injectNetworkInfo (inst : Instance) : Except String RpcMsg :=
  send .cast .injectNetworkInfo (computeTopic topic "" (some inst))

/-- `live_migration(ctxt, instance, dest, block_migration, host, migrate_data)`: to `host`. -/
def liveMigration (host : String) : Except String RpcMsg :=
  send .cast .liveMigration (computeTopic topic host none)

/-- `pause_instance(ctxt, instance)`. -/
def pauseInstance (inst : Instance) : Except String RpcMsg :=
  send .cast .pauseInstance (computeTopic topic "" (some inst))

/-- `post_live_migration_at_destination(ctxt, instance, block_migration, host)`. -/
def postLiveMigrationAtDestination (host : String) : Except String RpcMsg :=
  send .call .postLiveMigrationAtDestination (computeTopic topic host none)

/-- `power_off_instance(ctxt, instance)`. -/
def powerOffInstance (inst : Instance) : Except String RpcMsg :=
  send .cast .powerOffInstance (computeTopic topic "" (some inst))

/-- `power_on_instance(ctxt, instance)`. -/
def powerOnInstance (inst : Instance) : Except String RpcMsg :=
  send .cast .powerOnInstance (computeTopic topic "" (some inst))

/-- `pre_live_migration(ctxt, instance, block_migration, disk, host)`. -/
def preLiveMigration (host : String) : Except String RpcMsg :=
  send .call .preLiveMigration (computeTopic topic host none)

/-- `prep_resize(ctxt, image, instance, instance_type, host, reservations, request_spec,
filter_properties)`. -/
def prepResize (host : String) : Except String RpcMsg :=
  send .cast .prepResize (computeTopic topic host none)

/-- `reboot_instance(ctxt, instance, block_device_info, network_info, reboot_type)`. -/
def rebootInstance (inst : Instance) : Except String RpcMsg :=
  send .cast .rebootInstance (computeTopic topic "" (some inst))

/-- `rebuild_instance(ctxt, instance, new_pass, injected_files, image_ref, orig_image_ref,
orig_sys_metadata)`. -/
def rebuildInstance (inst : Instance) : Except String RpcMsg :=
  send .cast .rebuildInstance (computeTopic topic "" (some inst))

/-- `refresh_provider_fw_rules(ctxt, host)`. -/
def refreshProviderFwRules (host : String) : Except String RpcMsg :=
  send .cast .refreshProviderFwRules (computeTopic topic host none)

/-- `remove_aggregate_host(ctxt, aggregate, host_param, host, subordinate_info)`: to `host`,
with `jsonutils.to_primitive(aggregate)` and `host_param` as the message's `aggregate` and
`host`. -/
def removeAggregateHost {Info : Type} (aggregate : AggregateArg) (hostParam host : String)
    (subordinateInfo : Option Info) : Except String (AggregateCast Info) :=
  (send .cast .removeAggregateHost (computeTopic topic host none)).map fun msg =>
    ⟨msg, aggregate.toPrimitive, hostParam, subordinateInfo⟩

/-- `remove_fixed_ip_from_instance(ctxt, instance, address)`. -/
def removeFixedIpFromInstance (inst : Instance) : Except String RpcMsg :=
  send .cast .removeFixedIpFromInstance (computeTopic topic "" (some inst))

/-- `remove_volume_connection(ctxt, instance, volume_id, host)`. -/
def removeVolumeConnection (host : String) : Except String RpcMsg :=
  send .call .removeVolumeConnection (computeTopic topic host none)

/-- `rescue_instance(ctxt, instance, rescue_password)`. -/
def rescueInstance (inst : Instance) : Except String RpcMsg :=
  send .cast .rescueInstance (computeTopic topic "" (some inst))

/-- `reset_network(ctxt, instance)`. -/
def resetNetwork (inst : Instance) : Except String RpcMsg :=
  send .cast .resetNetwork (computeTopic topic "" (some inst))

/-- `resize_instance(ctxt, instance, migration, image, instance_type, reservations)`. -/
def resizeInstance (inst : Instance) : Except String RpcMsg :=
  send .cast .resizeInstance (computeTopic topic "" (some inst))

/-- `resume_instance(ctxt, instance)`. -/
def resumeInstance (inst : Instance) : Except String RpcMsg :=
  send .cast .resumeInstance (computeTopic topic "" (some inst))

/-- `revert_resize(ctxt, instance, migration, host, reservations)`: to `host`, else the
instance's host. -/
def revertResize (inst : Instance) (host : String) : Except String RpcMsg :=
  send .cast .revertResize (computeTopic topic host (some inst))

/-- `rollback_live_migration_at_destination(ctxt, instance, host)`. -/
def rollbackLiveMigrationAtDestination (host : String) : Except String RpcMsg :=
  send .cast .rollbackLiveMigrationAtDestination (computeTopic topic host none)

/-- `run_instance(ctxt, instance, host, request_spec, filter_properties, requested_networks,
injected_files, admin_password, is_first_time)`. -/
def runInstance (host : String) : Except String RpcMsg :=
  send .cast .runInstance (computeTopic topic host none)

/-- `set_admin_password(ctxt, instance, new_pass)`. -/
def setAdminPassword (inst : Instance) : Except String RpcMsg :=
  send .call .setAdminPassword (computeTopic topic "" (some inst))

/-- `set_host_enabled(ctxt, enabled, host)`. -/
def setHostEnabled (host : String) : Except String RpcMsg :=
  send .call .setHostEnabled (computeTopic topic host none)

/-- `get_host_uptime(ctxt, host)`: its message names no `host`. -/
def getHostUptime (host : String) : Except String RpcMsg :=
  send .call .getHostUptime (computeTopic topic host none)

/-- `reserve_block_device_name(ctxt, instance, device, volume_id)`. -/
def reserveBlockDeviceName (inst : Instance) : Except String RpcMsg :=
  send .call .reserveBlockDeviceName (computeTopic topic "" (some inst))

/-- `snapshot_instance(ctxt, instance, image_id, image_type, backup_type, rotation)`. -/
def snapshotInstance (inst : Instance) : Except String RpcMsg :=
  send .cast .snapshotInstance (computeTopic topic "" (some inst))

/-- `start_instance(ctxt, instance)`. -/
def startInstance (inst : Instance) : Except String RpcMsg :=
  send .cast .startInstance (computeTopic topic "" (some inst))

/-- `stop_instance(ctxt, instance, cast)`: a call when `cast` is false. -/
def stopInstance (inst : Instance) (cast : Bool) : Except String RpcMsg :=
  send (if cast then .cast else .call) .stopInstance (computeTopic topic "" (some inst))

/-- `suspend_instance(ctxt, instance)`. -/
def suspendInstance (inst : Instance) : Except String RpcMsg :=
  send .cast .suspendInstance (computeTopic topic "" (some inst))

/-- `terminate_instance(ctxt, instance, bdms)`. -/
def terminateInstance (inst : Instance) : Except String RpcMsg :=
  send .cast .terminateInstance (computeTopic topic "" (some inst))

/-- `unpause_instance(ctxt, instance)`. -/
def unpauseInstance (inst : Instance) : Except String RpcMsg :=
  send .cast .unpauseInstance (computeTopic topic "" (some inst))

/-- `unrescue_instance(ctxt, instance)`. -/
def unrescueInstance (inst : Instance) : Except String RpcMsg :=
  send .cast .unrescueInstance (computeTopic topic "" (some inst))

/-- `publish_service_capabilities(ctxt)`: to every compute host. -/
def publishServiceCapabilities : Except String RpcMsg :=
  send .fanoutCast .publishServiceCapabilities (.ok topic)

/-- `soft_delete_instance(ctxt, instance)`. -/
def softDeleteInstance (inst : Instance) : Except String RpcMsg :=
  send .cast .softDeleteInstance (computeTopic topic "" (some inst))

/-- `restore_instance(ctxt, instance)`. -/
def restoreInstance (inst : Instance) : Except String RpcMsg :=
  send .cast .restoreInstance (computeTopic topic "" (some inst))

end ComputeAPI

namespace SecurityGroupAPI

variable (topic : String)

/-- `refresh_security_group_rules(ctxt, security_group_id, host)`. -/
def refreshSecurityGroupRules (host : String) : Except String RpcMsg :=
  send .cast .refreshSecurityGroupRules (computeTopic topic host none)

/-- `refresh_security_group_members(ctxt, security_group_id, host)`. -/
def refreshSecurityGroupMembers (host : String) : Except String RpcMsg :=
  send .cast .refreshSecurityGroupMembers (computeTopic topic host none)

/-- `refresh_instance_security_rules(ctxt, host, instance)`: to `instance['host']`; its `host`
argument is not read. -/
def refreshInstanceSecurityRules (inst : Instance) : Except String RpcMsg :=
  send .cast .refreshInstanceSecurityRules (computeTopic topic inst.host (some inst))

end SecurityGroupAPI

/-! ## The server's dispatch -/

/-- What the dispatcher does with a message. -/
inductive Dispatch where
  /-- the method runs with the message's keywords -/
  | ran
  /-- `UnsupportedRpcVersion`: no compatible version -/
  | unsupportedRpcVersion
  /-- `TypeError`: the keywords do not bind the method's parameters -/
  | typeError
  deriving DecidableEq, Repr

/-- The dispatcher of a compute service whose manager has `RPC_API_VERSION` `imp` and whose
methods take the parameters `params`. -/
def dispatch (imp : Version) (params : RpcMethod → Params) (msg : RpcMsg) : Dispatch :=
  if imp.compatible msg.version then
    if (params msg.method).binds msg.args then .ran else .typeError
  else .unsupportedRpcVersion

/-! ## Routing -/

/-- `_compute_topic` picks the queue of the host given, else of the instance's host. -/
theorem computeTopic_eq_ok {topic host q : String} {inst : Option Instance} :
    computeTopic topic host inst = .ok q ↔
      host ≠ "" ∧ q = queueGetFor topic host ∨
        host = "" ∧ ∃ i, inst = some i ∧ i.host ≠ "" ∧ q = queueGetFor topic i.host := by
  unfold computeTopic
  by_cases hh : host = ""
  · rcases inst with _ | i
    · simp [hh]
    · by_cases hi : i.host = "" <;> simp [hh, hi, eq_comm (a := q)]
  · simp [hh, eq_comm]

/-- `_compute_topic` raises when neither the host given nor the instance names a host. -/
theorem computeTopic_eq_error {topic host msg : String} {inst : Option Instance} :
    computeTopic topic host inst = .error msg ↔
      host = "" ∧ (inst = none ∧ msg = "No compute host specified" ∨
        ∃ i, inst = some i ∧ i.host = "" ∧
          msg = "Unable to find host for Instance " ++ toString i.uuid) := by
  unfold computeTopic
  by_cases hh : host = ""
  · rcases inst with _ | i
    · simp [hh, eq_comm]
    · by_cases hi : i.host = "" <;> simp [hh, hi, eq_comm (a := msg)]
  · simp [hh]

/-- A message is sent exactly when its queue is picked, with the method's keywords and
version. -/
theorem send_eq_ok {kind : RpcKind} {m : RpcMethod} {topic : Except String String}
    {msg : RpcMsg} :
    send kind m topic = .ok msg ↔ ∃ t, topic = .ok t ∧ msg = ⟨kind, m, m.args, t, m.sentVersion⟩ := by
  cases topic <;> simp [send, Except.map, eq_comm]

namespace ComputeAPI

variable {Info : Type} {topic hostParam host : String} {aggregate : AggregateArg}
  {subordinateInfo : Option Info} {c : AggregateCast Info}

/-- The `add_aggregate_host` cast goes to `host`'s queue, at 2.14, with the primitive of the
aggregate. -/
theorem addAggregateHost_eq_ok :
    addAggregateHost topic aggregate hostParam host subordinateInfo = .ok c ↔ host ≠ "" ∧
      c = ⟨⟨.cast, .addAggregateHost, RpcMethod.addAggregateHost.args, queueGetFor topic host,
        ⟨2, 14⟩⟩, aggregate.toPrimitive, hostParam, subordinateInfo⟩ := by
  by_cases hh : host = "" <;>
  simp [addAggregateHost, send, computeTopic, Except.map, hh, eq_comm, RpcMethod.sentVersion,
    RpcMethod.version]

/-- The `remove_aggregate_host` cast goes to `host`'s queue, at 2.15, with the primitive of
the aggregate. -/
theorem removeAggregateHost_eq_ok :
    removeAggregateHost topic aggregate hostParam host subordinateInfo = .ok c ↔ host ≠ "" ∧
      c = ⟨⟨.cast, .removeAggregateHost, RpcMethod.removeAggregateHost.args,
        queueGetFor topic host, ⟨2, 15⟩⟩, aggregate.toPrimitive, hostParam, subordinateInfo⟩ := by
  by_cases hh : host = "" <;>
  simp [removeAggregateHost, send, computeTopic, Except.map, hh, eq_comm,
    RpcMethod.sentVersion, RpcMethod.version]

end ComputeAPI

/-! ## Client against server -/

/-- Every message binds the parameters of the manager's method of its name, except
`get_host_uptime`'s, which carries no `host`. -/
theorem RpcMethod.params_binds_args (m : RpcMethod) :
    m.params.binds m.args = (m != .getHostUptime) := by
  cases m <;> decide

/-- The manager's `RPC_API_VERSION` accepts every version the client sends. -/
theorem compatible_sentVersion (m : RpcMethod) : rpcApiVersion.compatible m.sentVersion = true := by
  cases m <;> rfl

/-- The three methods the client sends at the base version though the history adds them
later. -/
def unversioned : List RpcMethod :=
  [.publishServiceCapabilities, .softDeleteInstance, .restoreInstance]

/-- A message's version is at least the last version of the history that added or changed its
method, unless the method is unversioned. -/
theorem requiredVersion_le_sentVersion (m : RpcMethod) (hm : m ∉ unversioned) :
    (requiredVersion m).le m.sentVersion = true := by
  revert hm
  cases m <;> decide

/-- The unversioned methods go out as 2.0, older than the history's version of them. -/
theorem unversioned_sentVersion :
    ∀ m ∈ unversioned, m.sentVersion = baseRpcApiVersion ∧
      (requiredVersion m).le m.sentVersion = false := by
  decide

end FolsomCloud.Compute
