import Aranya.IPAM.Theorems.Ranges
import Aranya.Mesh.Wireguard

namespace Aranya.Mesh

open Std (ExtTreeSet)

variable {net : Functions} {d : WireguardMeshDriver} {tenantNS : Bytes} {c c' : Collected}
    {iface : HostNetworkInterface} {member ifaces : List HostNetworkInterface} {skip : Bytes → Bool} {a : Bytes}
    {peer : Peer} {peers : List Peer}

def HostNetworkInterface.Reports (iface : HostNetworkInterface) (net : Functions) (skip : Bytes → Bool)
    (a : Bytes) : Prop :=
  ∃ md addr ip cidr, iface.metadata = some md ∧ addr ∈ md.addresses ∧ net.parseCIDR addr = .ok (ip, cidr) ∧
    skip ip = false ∧ a = net.ipText ip

theorem HostNetworkInterface.Reports.any (h : iface.Reports net skip a) :
    iface.Reports net (fun _ => false) a := by
  obtain ⟨md, addr, ip, cidr, hm, ha, hp, -, he⟩ := h
  exact ⟨md, addr, ip, cidr, hm, ha, hp, rfl, he⟩

def CloudManaged (tenantNS : Bytes) (iface : HostNetworkInterface) : Prop :=
  iface.provider = prefixMeshInterfaceProviderAranya ++ tenantNS

def EdgeManaged (iface : HostNetworkInterface) : Prop :=
  prefixMeshInterfaceProviderAranya.isPrefixOf iface.provider = true

instance : Decidable (EdgeManaged iface) :=
  inferInstanceAs (Decidable (_ = true))

def isLocal (ip : Bytes) : Bool :=
  isLoopback ip || isLinkLocalUnicast ip

namespace Collected

structure Gathers (M : HostNetworkInterface → Prop) (A : HostNetworkInterface → Bytes → Prop)
    (ifaces : List HostNetworkInterface) (c c' : Collected) : Prop where
  managed : ∀ iface, iface ∈ c'.managedIfaces ↔ iface ∈ c.managedIfaces ∨ iface ∈ ifaces ∧ M iface
  addresses : ∀ a, a ∈ c'.addresses ↔ a ∈ c.addresses ∨ ∃ iface ∈ ifaces, A iface a

theorem Gathers.cons {M : HostNetworkInterface → Prop} {A : HostNetworkInterface → Bytes → Prop} {c₁ : Collected}
    (hm : ∀ x, x ∈ c₁.managedIfaces ↔ x ∈ c.managedIfaces ∨ x = iface ∧ M iface)
    (ha : ∀ a, a ∈ c₁.addresses ↔ a ∈ c.addresses ∨ A iface a) (h : Gathers M A ifaces c₁ c') :
    Gathers M A (iface :: ifaces) c c' := by
  constructor
  case managed => grind [h.managed]
  case addresses => simp [h.addresses, ha, or_assoc]

theorem usableAddress_eq_some_iff {addr : Bytes} : usableAddress net skip addr = some a ↔
    ∃ ip cidr, net.parseCIDR addr = .ok (ip, cidr) ∧ skip ip = false ∧ a = net.ipText ip := by
  rw [usableAddress]
  split
  case h_1 hp => simp [hp]
  case h_2 ip _ hp => grind

theorem addAddresses_gathers (h : c.addAddresses net iface skip = .ok c') :
    c'.managedIfaces = c.managedIfaces ∧
      ∀ a, a ∈ c'.addresses ↔ a ∈ c.addresses ∨ iface.Reports net skip a := by
  rw [addAddresses] at h
  split at h
  case h_1 => cases h
  case h_2 md hm =>
    cases h
    refine ⟨rfl, fun a => ?_⟩
    have hi (s : ExtTreeSet Bytes) (b a : Bytes) : a ∈ s.insert b ↔ a ∈ s ∨ b = a := by
      simp [or_comm]
    refine (foldl_collects (fun (s : ExtTreeSet Bytes) a => a ∈ s) _ hi).trans ?_
    simp [HostNetworkInterface.Reports, hm, usableAddress_eq_some_iff]

theorem foldlM_visitCloud
    (h : ifaces.foldlM (fun c iface => c.visitCloud net iface tenantNS) c = .ok c') :
    Gathers (CloudManaged tenantNS) (fun iface a => ¬CloudManaged tenantNS iface ∧ iface.Reports net isPrivateIP a)
      ifaces c c' := by
  induction ifaces generalizing c
  case nil =>
    cases h
    constructor <;> simp
  case cons iface ifaces hi =>
    obtain ⟨c₁, hc, h⟩ := Except.bind_eq_ok_iff.mp h
    simp only [visitCloud] at hc
    split at hc
    case isTrue hm =>
      have hm : CloudManaged tenantNS iface := hm
      cases hc
      exact .cons (by simp [addManaged, hm]) (by simp [addManaged, hm]) (hi h)
    case isFalse hm =>
      have hm : ¬CloudManaged tenantNS iface := hm
      obtain ⟨h₁, h₂⟩ := addAddresses_gathers hc
      exact .cons (by simp [h₁, hm]) (by simp [h₂, hm]) (hi h)

theorem Gathers.visitEdge {c₁ : Collected} (hc : c.visitEdge net iface = .ok c₁)
    (h : Gathers EdgeManaged (fun iface a => iface.Reports net isLocal a) ifaces c₁ c') :
    Gathers EdgeManaged (fun iface a => iface.Reports net isLocal a) (iface :: ifaces) c c' := by
  simp only [Collected.visitEdge] at hc
  split at hc
  case isTrue hm =>
    have hm : EdgeManaged iface := hm
    obtain ⟨h₁, h₂⟩ := addAddresses_gathers hc
    exact .cons (by simp [h₁, addManaged, hm]) h₂ h
  case isFalse hm =>
    have hm : ¬EdgeManaged iface := hm
    obtain ⟨h₁, h₂⟩ := addAddresses_gathers hc
    exact .cons (by simp [h₁, hm]) h₂ h

end Collected

@[mk_iff]
structure Usable (iface : HostNetworkInterface) (md : DriverWireguard) (pk : Bytes) : Prop where
  config : iface.config = .wireguard (some md)
  listenPort : 0 < md.listenPort
  privateKey : Base64.decode md.privateKey = some pk
  length : pk.length = wireguardKeyLength

namespace WireguardMeshDriver

theorem usableKey_eq_some_iff {md : DriverWireguard} {pk : Bytes} :
    usableKey iface = .ok (some (md, pk)) ↔ Usable iface md pk := by
  rw [usableKey, usable_iff]
  split
  case h_1 hc => simp [hc]
  case h_2 hc => simp [hc]
  case h_3 md' hc =>
    simp only [hc, Config.wireguard.injEq, Option.some.injEq]
    grind

theorem mem_memberPeers_iff {allowedIPs : HostNetworkInterface → List Bytes}
    (h : d.memberPeers net allowedIPs c = .ok peers) : peer ∈ peers ↔
      ∃ iface ∈ c.managedIfaces, ∃ md pk, Usable iface md pk ∧
        ∃ a ∈ c.addresses, peer = d.newPeer net (allowedIPs iface) md pk a := by
  obtain ⟨pss, hp, h⟩ := Except.bind_eq_ok_iff.mp h
  cases h
  rw [List.mem_flatten, Except.exists_mem_mapM_iff hp]
  refine exists_congr fun iface => and_congr_right fun _ => ?_
  simp only [ifacePeers, Except.bind_eq_ok_iff, ← usableKey_eq_some_iff, ← ExtTreeSet.mem_toList]
  constructor
  case mp =>
    rintro ⟨_, ⟨x, hx, h⟩, hm⟩
    cases x <;> cases h
    case none.refl => cases hm
    case some.refl x =>
      obtain ⟨a, ha, rfl⟩ := List.mem_map.mp hm
      exact ⟨x.fst, x.snd, hx, a, ha, rfl⟩
  case mpr =>
    rintro ⟨md, pk, hx, a, ha, rfl⟩
    exact ⟨_, ⟨_, hx, rfl⟩, List.mem_map_of_mem ha⟩

theorem cloudMember_peers {meshCIDRs : List Bytes} {peerCIDRs : Bytes → List Bytes}
    (h : d.cloudMember net tenantNS meshCIDRs peerCIDRs member = .ok peers) (hp : peer ∈ peers) :
    ∃ iface ∈ member, CloudManaged tenantNS iface ∧ ∃ md pk, Usable iface md pk ∧
      ∃ a, (a ∈ d.publicAddresses ∨
          ∃ other ∈ member, ¬CloudManaged tenantNS other ∧ other.Reports net isPrivateIP a) ∧
        peer = d.newPeer net (meshCIDRs ++ peerCIDRs iface.provider) md pk a := by
  obtain ⟨c, hc, h⟩ := Except.bind_eq_ok_iff.mp h
  have hg := Collected.foldlM_visitCloud hc
  obtain ⟨iface, hi, md, pk, hu, a, ha, rfl⟩ := (mem_memberPeers_iff h).mp hp
  obtain ⟨hi, hm⟩ := ((hg.managed iface).mp hi).resolve_left (by simp)
  refine ⟨iface, hi, hm, md, pk, hu, a, ?_, rfl⟩
  simpa using (hg.addresses a).mp ha

-- Nothing stems from the device itself. Of others, all interfaces are looked at.
theorem edgeLoop_peers {name : Option Bytes} (h : d.edgeLoop net c member = .ok (name, peers)) :
    ((∃ iface ∈ member, iface.provider = d.provider) ∧ peers = []) ∨
    (∀ iface ∈ member, iface.provider ≠ d.provider) ∧
      ∃ c', Collected.Gathers EdgeManaged (fun iface a => iface.Reports net isLocal a) member c c' ∧
        d.memberPeers net (fun _ => []) c' = .ok peers := by
  induction member generalizing c
  case nil =>
    obtain ⟨_, hp, h⟩ := Except.bind_eq_ok_iff.mp h
    cases h
    exact .inr ⟨by simp, c, by constructor <;> simp, hp⟩
  case cons iface member hi =>
    rw [edgeLoop] at h
    split at h
    case isTrue ho =>
      have hp : peers = [] := by
        split at h
        case h_1 => cases h; rfl
        case h_2 =>
          split at h
          case h_1 => cases h
          case h_2 => cases h; rfl
      exact .inl ⟨⟨iface, List.mem_cons_self, ho⟩, hp⟩
    case isFalse ho =>
      obtain ⟨c₁, hc, h⟩ := Except.bind_eq_ok_iff.mp h
      rcases hi h with ⟨⟨x, hx, ho⟩, hp⟩ | ⟨hn, c', hg, hp⟩
      case inl => exact .inl ⟨⟨x, List.mem_cons_of_mem _ hx, ho⟩, hp⟩
      case inr => exact .inr ⟨List.forall_mem_cons.mpr ⟨ho, hn⟩, c', hg.visitEdge hc, hp⟩

theorem mem_edgeMember_iff {name : Option Bytes} (h : d.edgeMember net member = .ok (name, peers)) :
    peer ∈ peers ↔ (∀ iface ∈ member, iface.provider ≠ d.provider) ∧
      ∃ iface ∈ member, EdgeManaged iface ∧ ∃ md pk, Usable iface md pk ∧
        ∃ a, (∃ other ∈ member, other.Reports net isLocal a) ∧ peer = d.newPeer net [] md pk a := by
  rcases edgeLoop_peers h with ⟨⟨iface, hi, ho⟩, rfl⟩ | ⟨hn, c, hg, hp⟩
  case inl => exact iff_of_false (by simp) fun hn => hn.left iface hi ho
  case inr =>
    rw [and_iff_right hn, mem_memberPeers_iff hp]
    simp [hg.managed, hg.addresses, and_assoc]

def Stems (net : Functions) (iface : HostNetworkInterface) (peer : Peer) : Prop :=
  ∃ md pk, Usable iface md pk ∧ peer.publicKey = Base64.encode (net.publicKey pk) ∧
    peer.endpoint.port = md.listenPort

def CloudPeer (net : Functions) (d : WireguardMeshDriver) (tenantNS : Bytes) (member : List HostNetworkInterface)
    (peer : Peer) : Prop :=
  (∃ iface ∈ member, CloudManaged tenantNS iface ∧ Stems net iface peer) ∧
    (peer.endpoint.host ∈ d.publicAddresses ∨
      ∃ other ∈ member, ¬CloudManaged tenantNS other ∧ other.Reports net isPrivateIP peer.endpoint.host)

def EdgePeer (net : Functions) (member : List HostNetworkInterface) (peer : Peer) : Prop :=
  ∃ iface ∈ member, EdgeManaged iface ∧ Stems net iface peer

-- The peers of the cloud members come before those of the edge members, each from a managed interface of
-- its member, and none of the device itself.
def PeersStem (net : Functions) (d : WireguardMeshDriver) (tenantNS : Bytes)
    (cloudMembers edgeMembers : List (List HostNetworkInterface)) (req : HostNetworkInterface) : Prop :=
  ∃ md cloud edge, req.config = .wireguard (some md) ∧ md.peers = cloud.flatten ++ edge.flatten ∧
    List.Forall₂ (fun member peers => ∀ peer ∈ peers, CloudPeer net d tenantNS member peer) cloudMembers cloud ∧
    List.Forall₂ (fun member peers => (∀ peer ∈ peers, EdgePeer net member peer) ∧
      ((∃ iface ∈ member, iface.provider = d.provider) → peers = [])) edgeMembers edge

variable {os : Bytes} {meshCIDRs : List Bytes} {peerCIDRs : Bytes → List Bytes}
    {cloudMembers edgeMembers : List (List HostNetworkInterface)} {req : HostNetworkInterface}

theorem peers_stem
    (h : d.generateEnsureRequest net os tenantNS meshCIDRs peerCIDRs cloudMembers edgeMembers = .ok req) :
    PeersStem net d tenantNS cloudMembers edgeMembers req := by
  obtain ⟨cloud, hc, h⟩ := Except.bind_eq_ok_iff.mp h
  obtain ⟨edge, he, h⟩ := Except.bind_eq_ok_iff.mp h
  cases h
  refine ⟨_, cloud, edge.map Prod.snd, rfl, rfl, ?_, ?_⟩
  case refine_1 =>
    refine (Except.mapM_eq_ok_iff.mp hc).imp fun member peers hm peer hp => ?_
    obtain ⟨iface, hi, hg, md, pk, hu, a, ha, rfl⟩ := cloudMember_peers hm hp
    exact ⟨⟨iface, hi, hg, md, pk, hu, rfl, rfl⟩, ha⟩
  case refine_2 =>
    rw [List.forall₂_map_right_iff]
    refine (Except.mapM_eq_ok_iff.mp he).imp fun member x hm => ⟨fun peer hp => ?_, fun ⟨iface, hi, ho⟩ => ?_⟩
    case refine_1 =>
      obtain ⟨-, iface, hi, hg, md, pk, hu, a, -, rfl⟩ := (mem_edgeMember_iff hm).mp hp
      exact ⟨iface, hi, hg, md, pk, hu, rfl, rfl⟩
    case refine_2 =>
      refine List.eq_nil_iff_forall_not_mem.mpr fun peer hp => ?_
      exact ((mem_edgeMember_iff hm).mp hp).left iface hi ho

def rawFunctions : Functions :=
  { IPAM.IPAddressManager.rawTexts with
    ipText := id
    publicKey := id }

def sampleDriver : WireguardMeshDriver where
  ifname := []
  mtu := 1420
  provider := str "aranya:mesh:me"
  addresses := []
  publicAddresses := [[1, 2, 3, 4]]
  options := ⟨[], [], [], 0, 0, 0, 0⟩

-- An interface with the address `10.0.0.1`.
def sampleInterface (provider : Bytes) : HostNetworkInterface where
  metadata := some ⟨str "wg0", 1420, [[10, 0, 0, 1, 24]]⟩
  provider := provider
  config := .wireguard (some ⟨[], Base64.encode (.replicate 32 0), [], 51820, ⟨true, 0, 0⟩⟩)

def sampleRequest (cloudMembers edgeMembers : List (List HostNetworkInterface)) :
    Except Fault HostNetworkInterface :=
  sampleDriver.generateEnsureRequest rawFunctions [] (str "ns") [] (fun _ => []) cloudMembers edgeMembers

-- One peer of a cloud member and one of an edge member.
theorem peers_stem_both :
    let cloudMembers := [[sampleInterface (str "aranya:mesh:ns")]]
    let edgeMembers := [[sampleInterface (str "aranya:mesh:x")]]
    ∃ req md, sampleRequest cloudMembers edgeMembers = .ok req ∧ req.config = .wireguard (some md) ∧
      md.peers.length = 2 ∧ PeersStem rawFunctions sampleDriver (str "ns") cloudMembers edgeMembers req := by
  intro cloudMembers edgeMembers
  obtain ⟨req, md, h, hc, hl⟩ : ∃ req md, sampleRequest cloudMembers edgeMembers = .ok req ∧
      req.config = .wireguard (some md) ∧ md.peers.length = 2 := ⟨_, _, rfl, rfl, rfl⟩
  exact ⟨req, md, h, hc, hl, peers_stem h⟩

def OnlyManaged (net : Functions) (member : List HostNetworkInterface) (a : Bytes) : Prop :=
  (∃ iface ∈ member, EdgeManaged iface ∧ iface.Reports net (fun _ => false) a) ∧
    ∀ iface ∈ member, iface.Reports net (fun _ => false) a → EdgeManaged iface

def AvoidsMesh (net : Functions) (d : WireguardMeshDriver)
    (edgeMembers : List (List HostNetworkInterface)) : Prop :=
  ∀ member ∈ edgeMembers, ∀ name peers, d.edgeMember net member = .ok (name, peers) →
    ∀ peer ∈ peers, ¬OnlyManaged net member peer.endpoint.host

-- This is so iff the addresses of the managed interfaces of a member that gets peers are addresses of other
-- interfaces as well.
theorem avoidsMesh_iff
    (h : d.generateEnsureRequest net os tenantNS meshCIDRs peerCIDRs cloudMembers edgeMembers = .ok req) :
    AvoidsMesh net d edgeMembers ↔
    ∀ member ∈ edgeMembers, (∀ iface ∈ member, iface.provider ≠ d.provider) →
      (∃ iface ∈ member, EdgeManaged iface ∧ ∃ md pk, Usable iface md pk) →
      ∀ iface ∈ member, EdgeManaged iface → ∀ a, iface.Reports net isLocal a →
        ∃ other ∈ member, ¬EdgeManaged other ∧ other.Reports net (fun _ => false) a := by
  obtain ⟨_, _, h⟩ := Except.bind_eq_ok_iff.mp h
  obtain ⟨edge, he, -⟩ := Except.bind_eq_ok_iff.mp h
  constructor
  case mp =>
    rintro ha member hm hn ⟨managed, hi, hg, md, pk, hu⟩ iface hi' hg' a hr
    obtain ⟨x, hx⟩ := Except.exists_eq_ok_of_mapM he hm
    have hp := (mem_edgeMember_iff hx).mpr ⟨hn, managed, hi, hg, md, pk, hu, a, ⟨iface, hi', hr⟩, rfl⟩
    by_contra hc
    refine ha member hm x.fst x.snd hx _ hp ⟨⟨iface, hi', hg', hr.any⟩, fun other ho hr => ?_⟩
    by_contra hg
    exact hc ⟨other, ho, hg, hr⟩
  case mpr =>
    rintro hc member hm name peers hx peer hp ⟨-, ho⟩
    obtain ⟨hn, managed, hi, hg, md, pk, hu, a, ⟨iface, hi', hr⟩, rfl⟩ := (mem_edgeMember_iff hx).mp hp
    have hg' := ho iface hi' hr.any
    obtain ⟨other, hi'', hn', hr'⟩ := hc member hm hn ⟨managed, hi, hg, md, pk, hu⟩ iface hi' hg' a hr
    exact hn' (ho other hi'' hr')

-- Another interface of the member has the same address.
theorem avoidsMesh_iff_shared :
    let edgeMembers := [[sampleInterface (str "aranya:mesh:x"), sampleInterface (str "static")]]
    ∃ req, sampleRequest [] edgeMembers = .ok req ∧ AvoidsMesh rawFunctions sampleDriver edgeMembers := by
  intro edgeMembers
  obtain ⟨req, h⟩ : ∃ req, sampleRequest [] edgeMembers = .ok req := ⟨_, rfl⟩
  refine ⟨req, h, (avoidsMesh_iff h).mpr ?_⟩
  intro member hm _ _ iface hi _ a hr
  obtain rfl := List.mem_singleton.mp hm
  refine ⟨sampleInterface (str "static"), by simp, by decide, ?_⟩
  obtain rfl | rfl : iface = _ ∨ iface = _ := by simpa using hi
  all_goals exact hr.any

-- The member has its address on a managed interface only.
theorem not_avoidsMesh_single :
    let edgeMembers := [[sampleInterface (str "aranya:mesh:x")]]
    ∃ req, sampleRequest [] edgeMembers = .ok req ∧ ¬AvoidsMesh rawFunctions sampleDriver edgeMembers := by
  refine ⟨_, rfl, fun h => ?_⟩
  refine h _ List.mem_cons_self none _ rfl _ List.mem_cons_self ⟨⟨_, List.mem_cons_self, ?_, ?_⟩, ?_⟩
  case refine_1 => decide
  case refine_2 => exact ⟨_, [10, 0, 0, 1, 24], _, _, rfl, List.mem_cons_self, rfl, rfl, rfl⟩
  case refine_3 =>
    intro iface hi _
    obtain rfl := List.mem_singleton.mp hi
    decide

end WireguardMeshDriver
end Aranya.Mesh
