import FolsomCloud.Compute.States
import FolsomCloud.Compute.Datastore
import FolsomCloud.Compute.Op
import FolsomCloud.Compute.Manager
import FolsomCloud.Compute.Keeps
import FolsomCloud.Compute.Lifecycle
import FolsomCloud.Compute.Snapshot
import FolsomCloud.Compute.Build
import FolsomCloud.Compute.Resize
import FolsomCloud.Compute.Delete
import FolsomCloud.Compute.Volume
import FolsomCloud.Compute.Reconcile
import FolsomCloud.Compute.ResizeProtocol
import FolsomCloud.Compute.Password
import FolsomCloud.Compute.Host
import FolsomCloud.Compute.Periodic
import FolsomCloud.Compute.PowerSync
import FolsomCloud.Compute.AutoConfirm
import FolsomCloud.Compute.RpcApi
import FolsomCloud.Network.Iptables
import FolsomCloud.Network.LinuxNet
import FolsomCloud.Network.IptablesApply
import FolsomCloud.Network.IptablesManager
import FolsomCloud.Network.Bridge
import FolsomCloud.Network.InterfaceDriver
import FolsomCloud.Xenapi.Pool
import FolsomCloud.Xenapi.Url
