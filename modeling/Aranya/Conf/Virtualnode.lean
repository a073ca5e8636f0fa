import Aranya.Apis.EdgeDevice

namespace Aranya.Conf

structure VirtualnodeNodeMetricsConfig where
  os : Bytes
  metrics : Apis.MetricsConfig
  deriving DecidableEq, Repr

-- Durations are in nanoseconds, that of leases also in seconds.
structure VirtualnodeNodeConfig where
  recreateIfPatchFailed : Bool
  mirrorSyncInterval : Int
  forceSyncInterval : Int
  leaseEnabled : Bool
  leaseDuration : Int
  leaseDurationSeconds : Int
  metrics : List VirtualnodeNodeMetricsConfig
  deriving DecidableEq, Repr

structure VirtualnodePodConfig where
  logDir : Bytes
  forceSyncInterval : Int
  streamCreationTimeout : Int
  streamIdleTimeout : Int
  dns : Apis.PodDNSConfig
  clusterDomain : Bytes
  allocatable : Int
  metrics : Apis.MetricsConfig
  deriving DecidableEq, Repr

structure VirtualnodeStorageConfig where
  enabled : Bool
  rootDir : Bytes
  kubeletPluginsDir : Bytes
  kubeletRegistrationDir : Bytes
  deriving DecidableEq, Repr

def VirtualnodeStorageConfig.zero : VirtualnodeStorageConfig where
  enabled := false
  rootDir := []
  kubeletPluginsDir := []
  kubeletRegistrationDir := []

structure VirtualnodeNetworkBackendConfig where
  driver : Bytes
  preSharedKey : Bytes
  keepalive : Int
  deriving DecidableEq, Repr

structure VirtualnodeNetworkConfig where
  enabled : Bool
  addresses : List Bytes
  backend : VirtualnodeNetworkBackendConfig
  deriving DecidableEq, Repr

def VirtualnodeNetworkConfig.zero : VirtualnodeNetworkConfig where
  enabled := false
  addresses := []
  backend := ⟨[], [], 0⟩

structure VirtualnodeConnectivityConfig where
  unarySessionTimeout : Int
  backoffInitialDelay : Int
  backoffMaxDelay : Int
  backoffFactor : Float

structure VirtualnodeConfig where
  node : VirtualnodeNodeConfig
  pod : VirtualnodePodConfig
  storage : VirtualnodeStorageConfig
  network : VirtualnodeNetworkConfig
  connectivity : VirtualnodeConnectivityConfig

def VirtualnodeConfig.zero : VirtualnodeConfig where
  node := ⟨false, 0, 0, false, 0, 0, []⟩
  pod := ⟨[], 0, 0, 0, ⟨[], [], []⟩, [], 0, ⟨false, [], []⟩⟩
  storage := .zero
  network := .zero
  connectivity := ⟨0, 0, 0, 0⟩

def millisecond : Int :=
  1000000

namespace VirtualnodeConfig

def pick {α : Type} (value : Option α) (valid : α → Bool) (default : α) : α :=
  (value.filter valid).getD default

def overrideConnectivity (parseFloat : Bytes → Float) (c : VirtualnodeConnectivityConfig)
    (spec : Apis.ConnectivitySpec) : VirtualnodeConnectivityConfig where
  unarySessionTimeout := pick spec.unarySessionTimeout (· ≥ millisecond) c.unarySessionTimeout
  backoffInitialDelay := pick spec.backoffInitialDelay (· > 100 * millisecond) c.backoffInitialDelay
  backoffMaxDelay := pick spec.backoffMaxDelay (· > 100 * millisecond) c.backoffMaxDelay
  backoffFactor :=
    if spec.backoffFactor = [] then c.backoffFactor
    else pick (some (parseFloat spec.backoffFactor)) (· > 1) c.backoffFactor

def overrideNode (c : VirtualnodeNodeConfig) (spec : Apis.NodeSpec) : VirtualnodeNodeConfig :=
  { c with
    forceSyncInterval := spec.forceSyncInterval.getD c.forceSyncInterval
    metrics := (spec.metrics.map fun m => [⟨[], m⟩]).getD c.metrics }

def overridePod (c : VirtualnodePodConfig) (spec : Apis.PodSpec) : VirtualnodePodConfig :=
  { c with
    forceSyncInterval := spec.forceSyncInterval.getD c.forceSyncInterval
    dns := spec.dns.getD c.dns
    metrics := spec.metrics.getD c.metrics
    allocatable := pick (some spec.allocatable) (· > 0) c.allocatable }

-- Storage and network are not enabled in the new configuration.
def overrideWith (parseFloat : Bytes → Float) (c : VirtualnodeConfig) (spec : Apis.EdgeDeviceSpec) :
    VirtualnodeConfig :=
  let newConfig : VirtualnodeConfig :=
    { node := overrideNode c.node spec.node
      pod := overridePod c.pod spec.pod
      storage := .zero
      network := .zero
      connectivity := overrideConnectivity parseFloat c.connectivity spec.connectivity }
  { newConfig with
    storage := { newConfig.storage with enabled := spec.storageEnabled && newConfig.storage.enabled }
    network := { newConfig.network with enabled := spec.network.enabled && newConfig.network.enabled } }

end VirtualnodeConfig
end Aranya.Conf
