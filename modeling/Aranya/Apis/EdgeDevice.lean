import Aranya.Kube.Objects
import Aranya.Lib.List

namespace Aranya.Apis

open Std (ExtTreeMap)

structure MetricsConfig where
  enabled : Bool
  collect : List Bytes
  extraArgs : List Bytes
  deriving DecidableEq, Repr

structure NodeClusterRolePermissions where
  nodeVerbs : List Bytes
  statusVerbs : List Bytes
  deriving DecidableEq, Repr

-- Flags which are not set are `none`.
structure PodRolePermissions where
  podVerbs : List Bytes
  statusVerbs : List Bytes
  allowExec : Option Bool
  allowAttach : Option Bool
  allowPortForward : Option Bool
  allowLog : Option Bool
  deriving DecidableEq, Repr

structure NodeSpec where
  forceSyncInterval : Option Int
  labels : Kube.Labels
  annotations : Option Kube.Labels
  taints : List Kube.Taint
  metrics : Option MetricsConfig
  clusterRolePermissions : ExtTreeMap Bytes NodeClusterRolePermissions

structure PodDNSConfig where
  servers : List Bytes
  searches : List Bytes
  options : List Bytes
  deriving DecidableEq, Repr

structure PodSpec where
  forceSyncInterval : Option Int
  dns : Option PodDNSConfig
  ipv4CIDR : Bytes
  ipv6CIDR : Bytes
  metrics : Option MetricsConfig
  allocatable : Int
  rolePermissions : ExtTreeMap Bytes PodRolePermissions
  virtualPodRolePermissions : ExtTreeMap Bytes PodRolePermissions

structure NetworkMeshSpec where
  interfaceName : Bytes
  mtu : Int
  listenPort : Int
  routingTable : Int
  firewallMark : Int
  ipv4Addr : Bytes
  ipv6Addr : Bytes
  extraAllowedCIDRs : List Bytes
  deriving DecidableEq, Repr

structure NetworkSpec where
  enabled : Bool
  mesh : NetworkMeshSpec
  deriving DecidableEq, Repr

structure ConnectivitySpec where
  unarySessionTimeout : Option Int
  backoffInitialDelay : Option Int
  backoffMaxDelay : Option Int
  backoffFactor : Bytes
  deriving DecidableEq, Repr

structure EdgeDeviceSpec where
  connectivity : ConnectivitySpec
  node : NodeSpec
  pod : PodSpec
  storageEnabled : Bool
  network : NetworkSpec

def EdgeDeviceSpec.zero : EdgeDeviceSpec where
  connectivity := ⟨none, none, none, []⟩
  node := ⟨none, ∅, none, [], none, ∅⟩
  pod := ⟨none, none, [], [], none, 0, ∅, ∅⟩
  storageEnabled := false
  network := ⟨false, ⟨[], 0, 0, 0, 0, [], [], []⟩⟩

structure EdgeDevice where
  name : Bytes
  ns : Bytes
  clusterName : Bytes
  spec : EdgeDeviceSpec
  meshIPv4Addr : Bytes
  meshIPv6Addr : Bytes

-- Each name is used once.
structure EdgeDevices (sysNS : Bytes) where
  list : List EdgeDevice
  nodup : (list.map EdgeDevice.name).Nodup
  inNS : ∀ ed ∈ list, ed.ns = sysNS

def EdgeDevices.singleton (ed : EdgeDevice) : EdgeDevices ed.ns where
  list := [ed]
  nodup := List.nodup_singleton _
  inNS := by simp

def EdgeDevices.get {sysNS : Bytes} (eds : EdgeDevices sysNS) (name : Bytes) : Option EdgeDevice :=
  eds.list.find? (·.name = name)

variable {sysNS name : Bytes} {eds : EdgeDevices sysNS} {ed : EdgeDevice}

theorem EdgeDevices.get_eq_some_iff : eds.get name = some ed ↔ ed ∈ eds.list ∧ ed.name = name :=
  find?_key_eq_some_iff eds.nodup

theorem EdgeDevices.get_name (h : ed ∈ eds.list) : eds.get ed.name = some ed :=
  get_eq_some_iff.mpr ⟨h, rfl⟩

end Aranya.Apis
