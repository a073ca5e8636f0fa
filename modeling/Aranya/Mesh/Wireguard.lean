import Aranya.Controller.Mesh
import Aranya.Lib.Base64
import Aranya.Lib.Chan

namespace Aranya.Mesh

open Std (ExtTreeSet)
open EdgeDevice (WireguardOpts)

structure NetworkInterface where
  name : Bytes
  mtu : Int
  addresses : List Bytes

-- The arguments of `net.JoinHostPort`, which make up the text of an endpoint.
structure Endpoint where
  host : Bytes
  port : Int

structure Peer where
  publicKey : Bytes
  preSharedKey : Bytes
  endpoint : Endpoint
  persistentKeepaliveInterval : Int
  allowedIPs : List Bytes

structure Routing where
  enabled : Bool
  table : Int
  firewallMark : Int

structure DriverWireguard where
  logLevel : Bytes
  privateKey : Bytes
  peers : List Peer
  listenPort : Int
  routing : Routing

inductive Config
  | wireguard (md : Option DriverWireguard)
  | other

-- Pointers which can be `nil` are optional.
structure HostNetworkInterface where
  metadata : Option NetworkInterface
  provider : Bytes
  config : Config

structure Functions extends Net.Texts where
  ipText : Bytes → Bytes
  publicKey : Bytes → Bytes

def isLoopback (ip : Bytes) : Bool :=
  match Net.to4 ip with
  | some ip4 => ip4.head? = some 127
  | none => ip = List.replicate 15 0 ++ [1]

def isLinkLocalUnicast (ip : Bytes) : Bool :=
  match Net.to4 ip with
  | some ip4 => ip4.take 2 = [169, 254]
  | none => ip.length = 16 && ip.getD 0 0 = 0xfe && ip.getD 1 0 &&& 0xc0 = 0x80

def isLinkLocalMulticast (ip : Bytes) : Bool :=
  match Net.to4 ip with
  | some ip4 => ip4.take 3 = [224, 0, 0]
  | none => ip.length = 16 && ip.getD 0 0 = 0xff && ip.getD 1 0 &&& 0x0f = 0x02

-- The first bytes of the address of each block, its length and the length of its prefix.
def privateIPBlocks : List (Bytes × Nat × Nat) :=
  [([127], 4, 8), ([10], 4, 8), ([172, 16], 4, 12), ([192, 168], 4, 16), ([169, 254], 4, 16), ([100, 64], 4, 10),
   (List.replicate 15 0 ++ [1], 16, 128), ([0xfe, 0x80], 16, 10), ([0xfc], 16, 7)]

def blockContains (ip : Bytes) : Bytes × Nat × Nat → Bool
  | (pre, size, ones) =>
    let ip := Net.checkIPv4 ip
    let net := pre ++ List.replicate (size - pre.length) 0
    ip.length = size && Octets.toNat net / 2 ^ (8 * size - ones) = Octets.toNat ip / 2 ^ (8 * size - ones)

def isPrivateIP (ip : Bytes) : Bool :=
  isLoopback ip || isLinkLocalUnicast ip || isLinkLocalMulticast ip || privateIPBlocks.any (blockContains ip)

structure Collected where
  addresses : ExtTreeSet Bytes
  managedIfaces : List HostNetworkInterface

def prefixMeshInterfaceProviderAranya : Bytes :=
  str "aranya:mesh:"

def wireguardKeyLength : Nat :=
  32

namespace Collected

variable (net : Functions) (c : Collected) (iface : HostNetworkInterface)

def addManaged : Collected :=
  { c with managedIfaces := c.managedIfaces ++ [iface] }

def usableAddress (skip : Bytes → Bool) (addr : Bytes) : Option Bytes :=
  match net.parseCIDR addr with
  | .error _ => none
  | .ok (ip, _) => if skip ip then none else some (net.ipText ip)

def addAddresses (skip : Bytes → Bool) : Except Fault Collected :=
  match iface.metadata with
  | none => .error .nilDereference
  | some md =>
    .ok { c with addresses := (md.addresses.filterMap (usableAddress net skip)).foldl .insert c.addresses }

def visitCloud (tenantNS : Bytes) : Except Fault Collected :=
  if iface.provider = prefixMeshInterfaceProviderAranya ++ tenantNS then
    -- managed interfaces don't have ip address accessible from outside
    .ok (c.addManaged iface)
  else
    c.addAddresses net iface isPrivateIP

-- In contrast to a cloud member, the addresses of a managed interface are added as well.
def visitEdge : Except Fault Collected :=
  let c := if prefixMeshInterfaceProviderAranya.isPrefixOf iface.provider then c.addManaged iface else c
  c.addAddresses net iface fun ip => isLoopback ip || isLinkLocalUnicast ip

end Collected

structure WireguardMeshDriver where
  ifname : Bytes
  mtu : Int
  provider : Bytes
  addresses : List Bytes
  publicAddresses : List Bytes
  options : WireguardOpts

namespace WireguardMeshDriver

variable (net : Functions) (d : WireguardMeshDriver)

def newPeer (allowedIPs : List Bytes) (md : DriverWireguard) (pk addr : Bytes) : Peer where
  publicKey := Base64.encode (net.publicKey pk)
  preSharedKey := d.options.preSharedKey
  endpoint := ⟨addr, md.listenPort⟩
  persistentKeepaliveInterval := d.options.keepaliveSeconds
  allowedIPs := allowedIPs

def usableKey (iface : HostNetworkInterface) : Except Fault (Option (DriverWireguard × Bytes)) :=
  match iface.config with
  | .other => .ok none
  | .wireguard none => .error .nilDereference
  | .wireguard (some md) =>
    if md.listenPort ≤ 0 then .ok none
    else
      match Base64.decode md.privateKey with
      | none => .ok none
      | some pk => .ok (if pk.length ≠ wireguardKeyLength then none else some (md, pk))

def ifacePeers (addresses allowedIPs : List Bytes) (iface : HostNetworkInterface) : Except Fault (List Peer) := do
  match ← usableKey iface with
  | none => return []
  | some (md, pk) => return addresses.map (d.newPeer net allowedIPs md pk)

def memberPeers (allowedIPs : HostNetworkInterface → List Bytes) (c : Collected) : Except Fault (List Peer) := do
  let peers ← c.managedIfaces.mapM fun iface => d.ifacePeers net c.addresses.toList (allowedIPs iface) iface
  return peers.flatten

def cloudMember (tenantNS : Bytes) (meshCIDRs : List Bytes) (peerCIDRs : Bytes → List Bytes)
    (memberIfaces : List HostNetworkInterface) : Except Fault (List Peer) := do
  let c ← memberIfaces.foldlM (fun c iface => c.visitCloud net iface tenantNS) ⟨.ofList d.publicAddresses, []⟩
  d.memberPeers net (fun iface => meshCIDRs ++ peerCIDRs iface.provider) c

-- The name of the own interface is given if the member is the device itself, which is ignored then.
def edgeLoop : Collected → List HostNetworkInterface → Except Fault (Option Bytes × List Peer)
  | c, [] => do
    let peers ← d.memberPeers net (fun _ => []) c
    return (none, peers)
  | c, iface :: memberIfaces =>
    if iface.provider = d.provider then
      match iface.config with
      | .other => return (none, [])
      | .wireguard _ =>
        match iface.metadata with
        | none => .error .nilDereference
        | some md => return (if md.name ≠ [] then some md.name else none, [])
    else do
      let c ← c.visitEdge net iface
      edgeLoop c memberIfaces

def edgeMember (memberIfaces : List HostNetworkInterface) : Except Fault (Option Bytes × List Peer) :=
  d.edgeLoop net ⟨∅, []⟩ memberIfaces

def defaultIfname (os : Bytes) : Bytes :=
  if os = str "openbsd" then str "tun"
  else if os = str "darwin" then str "utun"
  else str "wg"

def generateEnsureRequest (os tenantNS : Bytes) (meshCIDRs : List Bytes) (peerCIDRs : Bytes → List Bytes)
    (cloudMembers edgeMembers : List (List HostNetworkInterface)) : Except Fault HostNetworkInterface := do
  let cloud ← cloudMembers.mapM (d.cloudMember net tenantNS meshCIDRs peerCIDRs)
  let edge ← edgeMembers.mapM (d.edgeMember net)
  let ifname := edge.foldl (fun ifname member => member.fst.getD ifname) (defaultIfname os)
  return {
    metadata := some {
      name := if d.ifname ≠ [] then d.ifname else ifname
      mtu := d.mtu.bmod 4294967296
      addresses := d.addresses }
    provider := d.provider
    config := .wireguard <| some {
      logLevel := d.options.logLevel
      privateKey := d.options.privateKey
      peers := cloud.flatten ++ edge.flatMap Prod.snd
      listenPort := d.options.listenPort
      routing := ⟨true, d.options.routingTable, d.options.firewallMark⟩ } }

end WireguardMeshDriver
end Aranya.Mesh
