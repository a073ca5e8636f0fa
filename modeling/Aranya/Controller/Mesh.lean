import Aranya.Conf.Virtualnode
import Aranya.IPAM.Manager

namespace Aranya.EdgeDevice

open Std (ExtTreeMap)
open IPAM (IPAddressManager)
open Net (IPNet)

structure StorageOptions where
  storageRootDir : Bytes
  kubeletRegistrationDir : Bytes
  kubeletPluginsDir : Bytes
  deriving DecidableEq, Repr

-- The result is `none` for `nil`.
def prepareStorageOptions (vnConfig : Conf.VirtualnodeConfig) : Option StorageOptions :=
  if !vnConfig.storage.enabled then
    none
  else
    some {
      storageRootDir := vnConfig.storage.rootDir
      kubeletRegistrationDir := vnConfig.storage.kubeletRegistrationDir
      kubeletPluginsDir := vnConfig.storage.kubeletPluginsDir }

structure WireguardOpts where
  logLevel : Bytes
  preSharedKey : Bytes
  privateKey : Bytes
  keepaliveSeconds : Int
  listenPort : Int
  routingTable : Int
  firewallMark : Int
  deriving DecidableEq, Repr

structure NetworkOptions where
  interfaceName : Bytes
  mtu : Int
  provider : Bytes
  addresses : List Bytes
  extraAllowedCIDRs : List Bytes
  publicAddresses : List Bytes
  wireguardOpts : Option WireguardOpts
  deriving DecidableEq, Repr

def NetworkOptions.zero : NetworkOptions where
  interfaceName := []
  mtu := 0
  provider := []
  addresses := []
  extraAllowedCIDRs := []
  publicAddresses := []
  wireguardOpts := none

structure Secret where
  stringData : ExtTreeMap Bytes Bytes
  data : ExtTreeMap Bytes Bytes

def accessMap (d1 d2 : ExtTreeMap Bytes Bytes) (key : Bytes) : Option Bytes :=
  match d1[key]? with
  | some v => some v
  | none => d2[key]?

def networkMeshDriverWireguard : Bytes :=
  str "wireguard"

def meshConfigKeyWireguardPrivateKey : Bytes :=
  str "wireguard.private-key"

def prefixMeshInterfaceProviderAranya : Bytes :=
  str "aranya:mesh:"

structure MeshTexts extends Net.Texts where
  ipText : Bytes → Bytes
  ipNetText : IPNet → Bytes
  encode64 : Bytes → Bytes
  seconds : Int → Int
  ipNetText_ne : ∀ ipNet, ipNetText ipNet ≠ []

structure Addresses where
  ipv4 : Option IPNet
  ipv6 : Option IPNet
  deriving DecidableEq, Repr

structure Mesh where
  meshIPAMv4 : Option IPAddressManager
  meshIPAMv6 : Option IPAddressManager

section Allocation

variable (net : MeshTexts)

def requestedIP (fixed recorded : Bytes) : Option Bytes :=
  let ipReq := if fixed = [] then recorded else fixed
  let ipReq :=
    if ipReq = [] then
      ipReq
    else
      match net.parseCIDR ipReq with
      | .ok (ip, _) => net.ipText ip
      | .error _ => ipReq
  net.parseIP ipReq

def allocateIP (family : Bytes) (m : Option IPAddressManager) (ipReq : Option Bytes) :
    Except IPAM.Fault (Option IPAddressManager × Except Bytes (Option IPNet)) :=
  match m with
  | none => .ok (none, .ok none)
  | some m => do
    match ← m.allocate ipReq with
    | (m, .ok ip) => return (some m, .ok (some ip))
    | (m, .error e) => return (some m, .error (str "failed to allocate " ++ family ++ str " address: " ++ e))

-- Nothing is put back if the second address is not available.
def allocateIPs (mesh : Mesh) (edgeDevice : Apis.EdgeDevice) :
    Except IPAM.Fault (Mesh × Except Bytes Addresses) := do
  let spec := edgeDevice.spec.network.mesh
  let ipv4Req := requestedIP net spec.ipv4Addr edgeDevice.meshIPv4Addr
  let ipv6Req := requestedIP net spec.ipv6Addr edgeDevice.meshIPv6Addr
  match ← allocateIP (str "ipv4") mesh.meshIPAMv4 ipv4Req with
  | (v4, .error e) => return ({ mesh with meshIPAMv4 := v4 }, .error e)
  | (v4, .ok ipv4) =>
    let mesh := { mesh with meshIPAMv4 := v4 }
    match ← allocateIP (str "ipv6") mesh.meshIPAMv6 ipv6Req with
    | (v6, .error e) => return ({ mesh with meshIPAMv6 := v6 }, .error e)
    | (v6, .ok ipv6) => return ({ mesh with meshIPAMv6 := v6 }, .ok ⟨ipv4, ipv6⟩)

def newWireguardOpts (backend : Conf.VirtualnodeNetworkBackendConfig) (spec : Apis.NetworkMeshSpec)
    (privateKey : Bytes) : WireguardOpts where
  logLevel := str "debug"
  preSharedKey := backend.preSharedKey
  privateKey := net.encode64 privateKey
  keepaliveSeconds := net.seconds backend.keepalive
  listenPort := spec.listenPort.bmod (2 ^ 32)
  routingTable := spec.routingTable.bmod (2 ^ 32)
  firewallMark := spec.firewallMark.bmod (2 ^ 32)

def newNetworkOptions (publicAddresses : List Bytes) (backend : Conf.VirtualnodeNetworkBackendConfig)
    (edgeDevice : Apis.EdgeDevice) (secret : Option Secret) (ips : Addresses) :
    Except IPAM.Fault (Except Bytes NetworkOptions) :=
  let spec := edgeDevice.spec.network.mesh
  let addresses := ((ips.ipv4.toList ++ ips.ipv6.toList).map net.ipNetText).filter (· ≠ [])
  if addresses = [] then
    .ok (.error (str "no ip address allocated"))
  else if backend.driver = networkMeshDriverWireguard then
    match secret with
    | none => .error .nilDereference
    | some secret =>
      match accessMap secret.stringData secret.data meshConfigKeyWireguardPrivateKey with
      | none => .ok (.error (str "no private key for wireguard mesh"))
      | some privateKey =>
        .ok <| .ok {
          interfaceName := spec.interfaceName
          mtu := spec.mtu
          provider := prefixMeshInterfaceProviderAranya ++ edgeDevice.name
          addresses := addresses
          extraAllowedCIDRs := spec.extraAllowedCIDRs
          publicAddresses := publicAddresses
          wireguardOpts := some (newWireguardOpts net backend spec privateKey) }
  else
    .ok (.error (str "unknown backend driver: " ++ backend.driver))

def prepareMesh (publicAddresses : List Bytes) (backend : Conf.VirtualnodeNetworkBackendConfig) (mesh : Mesh)
    (edgeDevice : Apis.EdgeDevice) (secret : Option Secret) :
    Except IPAM.Fault (Mesh × Except Bytes (NetworkOptions × Addresses)) :=
  if mesh.meshIPAMv4.isNone && mesh.meshIPAMv6.isNone then
    .ok (mesh, .error (str "no mesh ip cidr configured"))
  else do
    match ← allocateIPs net mesh edgeDevice with
    | (mesh, .error e) => return (mesh, .error e)
    | (mesh, .ok ips) =>
      let opts ← newNetworkOptions net publicAddresses backend edgeDevice secret ips
      return (mesh, opts.map fun opts => (opts, ips))

def prepareNetworkOptions (config vnConfig : Conf.VirtualnodeConfig) (mesh : Mesh)
    (edgeDevice : Apis.EdgeDevice) (secret : Option Secret) :
    Except IPAM.Fault (Mesh × Except Bytes (NetworkOptions × Addresses)) :=
  if !vnConfig.network.enabled then
    .ok (mesh, .ok (.zero, ⟨none, none⟩))
  else
    prepareMesh net config.network.addresses vnConfig.network.backend mesh edgeDevice secret

-- Where the rest of `instantiateEdgeDevice` can fail.
inductive Failure
  | preparation
  | creation
  | addition
  | start
  deriving DecidableEq, Repr

structure MeshNodes where
  mesh : Mesh
  nodes : Bytes → Option Addresses

namespace MeshNodes

-- Nothing is put back into the address pools.
def delete (s : MeshNodes) (name : Bytes) : MeshNodes :=
  { s with nodes := Function.update s.nodes name none }

variable (parseFloat : Bytes → Float)

def instantiateEdgeDevice (s : MeshNodes) (config : Conf.VirtualnodeConfig) (edgeDevice : Apis.EdgeDevice)
    (secret : Option Secret) (failure : Option Failure) : Except IPAM.Fault (MeshNodes × Bool) :=
  let name := edgeDevice.name
  if failure = some .preparation then
    .ok (s, false)
  else do
    let vnConfig := config.overrideWith parseFloat edgeDevice.spec
    match ← prepareNetworkOptions net config vnConfig s.mesh edgeDevice secret with
    | (mesh, .error _) => return ({ s with mesh := mesh }, false)
    | (mesh, .ok (_, ips)) =>
      let s := { s with mesh := mesh }
      if failure = some .creation then
        return (s, false)
      else if failure = some .addition then
        return (s.delete name, false)
      else
        let s := s.delete name
        let s := { s with nodes := Function.update s.nodes name (some ips) }
        return if failure = some .start then (s.delete name, false) else (s, true)

inductive Action
  | instantiate (edgeDevice : Apis.EdgeDevice) (secret : Option Secret) (failure : Option Failure)
  | update (name : Bytes)
  | delete (name : Bytes)

-- An update deletes the virtual node and schedules another instantiation.
def step (config : Conf.VirtualnodeConfig) (s : MeshNodes) : Action → Option MeshNodes
  | .instantiate edgeDevice secret failure =>
    (s.instantiateEdgeDevice net parseFloat config edgeDevice secret failure).toOption.map Prod.fst
  | .update name | .delete name => some (s.delete name)

end MeshNodes

end Allocation

end Aranya.EdgeDevice
