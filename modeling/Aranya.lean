import Aranya.Connectivity.Theorems.AMQP
import Aranya.Connectivity.Theorems.Discarded
import Aranya.Connectivity.Theorems.EncodedSize
import Aranya.Connectivity.Theorems.IoTHub
import Aranya.Connectivity.Theorems.MQTT
import Aranya.Connectivity.Theorems.Panics
import Aranya.Connectivity.Theorems.PostData
import Aranya.Connectivity.Theorems.SessionIds
import Aranya.Controller.Theorems.ConnectivityService
import Aranya.Controller.Theorems.EdgeDevice
import Aranya.Controller.Theorems.FieldHooks
import Aranya.Controller.Theorems.Gating
import Aranya.Controller.Theorems.Heartbeat
import Aranya.Controller.Theorems.Mesh
import Aranya.Controller.Theorems.NodeCert
import Aranya.Controller.Theorems.NodeClusterRole
import Aranya.Controller.Theorems.NodeWrites
import Aranya.Controller.Theorems.PodCIDRs
import Aranya.Controller.Theorems.PodRoleEnsure
import Aranya.Controller.Theorems.SysPod
import Aranya.Controller.Theorems.TenantPod
import Aranya.Controller.Theorems.TenantPodTracking
import Aranya.IPAM.Theorems.BlockRuns
import Aranya.IPAM.Theorems.Runs
import Aranya.Mesh.Theorems.Wireguard
import Aranya.Metrics.Theorems.Manager
import Aranya.Peripheral.Theorems.Manager
import Aranya.Pod.Theorems.Admission
import Aranya.Pod.Theorems.Copies
import Aranya.Pod.Theorems.HostExecStatus
import Aranya.Pod.Theorems.InitContainers
import Aranya.Pod.Theorems.Mounts
import Aranya.Pod.Theorems.PodAddresses
import Aranya.Pod.Theorems.PortForward
import Aranya.Pod.Theorems.SecurityContext
import Aranya.Pod.Theorems.ServiceReferences
import Aranya.Pod.Theorems.StatusShape
import Aranya.Pod.Theorems.StatusWrites
import Aranya.Pod.Theorems.StorageView
import Aranya.Pod.Theorems.Terminal
import Aranya.Pod.Theorems.VolumeLists
import Aranya.Pod.Theorems.VolumesInUse
import Aranya.Reconcile.Theorems.Reconciler
import Aranya.Util.Theorems.PodCache
import Aranya.VirtualNode.Theorems.Clients
import Aranya.VirtualNode.Theorems.Connected
import Aranya.VirtualNode.Theorems.ExtInfo
import Aranya.VirtualNode.Theorems.Lease
import Aranya.VirtualNode.Theorems.NodeSync
import Aranya.VirtualNode.Theorems.OnlineGate
import Aranya.VirtualNode.Theorems.Rejection
import Aranya.VirtualNode.Theorems.Replacement
