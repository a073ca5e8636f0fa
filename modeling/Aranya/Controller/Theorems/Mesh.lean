import Aranya.Controller.Theorems.Gating
import Aranya.IPAM.Theorems.Manager

namespace Aranya.EdgeDevice

open IPAM (IPAddressManager)
open Net (IPNet ipString)

inductive Family
  | ipv4
  | ipv6

def Mesh.pool (mesh : Mesh) : Family → Option IPAddressManager
  | .ipv4 => mesh.meshIPAMv4
  | .ipv6 => mesh.meshIPAMv6

def Addresses.get (ips : Addresses) : Family → Option IPNet
  | .ipv4 => ips.ipv4
  | .ipv6 => ips.ipv6

-- The address which is fixed for an edge device, or else the one which is recorded for it.
def request (net : MeshTexts) (ed : Apis.EdgeDevice) : Family → Option Bytes
  | .ipv4 => requestedIP net ed.spec.network.mesh.ipv4Addr ed.meshIPv4Addr
  | .ipv6 => requestedIP net ed.spec.network.mesh.ipv6Addr ed.meshIPv6Addr

def Outstanding (m : Option IPAddressManager) (key : Bytes) : Prop :=
  ∃ m', m = some m' ∧ ∃ b ∈ m'.blocks, key ∈ b.allocated

namespace MeshNodes

variable {net : MeshTexts} {parseFloat : Bytes → Float} {config : Conf.VirtualnodeConfig} {mesh : Mesh}
    {ed : Apis.EdgeDevice} {secret : Option Secret} {failure : Option Failure} {s s' : MeshNodes} {a : Action}
    {as : List Action} {name : Bytes} {ok : Bool}

def Owned (s : MeshNodes) : Prop :=
  ∀ f key, Outstanding (s.mesh.pool f) key ↔
    ∃ name ips ip, s.nodes name = some ips ∧ ips.get f = some ip ∧ key = ipString ip.ip

def Reinstantiates (net : MeshTexts) (parseFloat : Bytes → Float) (config : Conf.VirtualnodeConfig)
    (s : MeshNodes) (ed : Apis.EdgeDevice) (secret : Option Secret) : Prop :=
  ∃ s' ips, s.instantiateEdgeDevice net parseFloat config ed secret none = .ok (s', true) ∧
    s'.nodes ed.name = some ips ∧
    ∀ f ip, s.mesh.pool f ≠ none → request net ed f = some ip →
      ∃ ipNet, ips.get f = some ipNet ∧ ipString ipNet.ip = ipString ip

-- As the network is never enabled, all virtual nodes are without addresses.
structure Unassigned (mesh : Mesh) (s : MeshNodes) : Prop where
  mesh : s.mesh = mesh
  nodes : ∀ {name ips}, s.nodes name = some ips → ips = ⟨none, none⟩

theorem Unassigned.update (u : s.Unassigned mesh) {node : Option Addresses}
    (h : ∀ ips, node = some ips → ips = ⟨none, none⟩) :
    { s with nodes := Function.update s.nodes name node }.Unassigned mesh where
  mesh := u.mesh
  nodes {name' ips} hn := by
    by_cases hne : name' = name
    case pos =>
      subst hne
      exact h ips <| by simpa using hn
    case neg => exact u.nodes <| by simpa [hne] using hn

theorem Unassigned.delete (u : s.Unassigned mesh) : (s.delete name).Unassigned mesh :=
  u.update nofun

def instantiated (s : MeshNodes) (name : Bytes) : MeshNodes :=
  { s with nodes := Function.update (s.delete name).nodes name (some ⟨none, none⟩) }

theorem Unassigned.instantiate (u : s.Unassigned mesh)
    (h : s.instantiateEdgeDevice net parseFloat config ed secret failure = .ok (s', ok)) :
    s'.Unassigned mesh := by
  have hn : (s.instantiated ed.name).Unassigned mesh := u.delete.update fun _ h => (Option.some.inj h).symm
  rw [instantiateEdgeDevice] at h
  split at h
  case isTrue => cases h; exact u
  case isFalse =>
    simp only [prepareNetworkOptions_overrideWith] at h
    -- What is left are the later steps, of which each may fail.
    obtain ⟨x, hx, h⟩ := Except.bind_eq_ok_iff.mp h
    cases hx
    dsimp only at h
    split at h
    case isTrue => cases h; exact u
    case isFalse =>
      split at h
      case isTrue => cases h; exact u.delete
      case isFalse =>
        split at h
        case isTrue => cases h; exact hn.delete
        case isFalse => cases h; exact hn

theorem Unassigned.step (u : s.Unassigned mesh) (h : s.step net parseFloat config a = some s') :
    s'.Unassigned mesh := by
  cases a
  case instantiate ed secret failure =>
    obtain ⟨⟨s'', ok⟩, hr, hs⟩ := Option.map_eq_some_iff.mp h
    cases hs
    exact u.instantiate (Except.toOption_eq_some_iff.mp hr)
  case update => cases h; exact u.delete
  case delete => cases h; exact u.delete

theorem Unassigned.owned (u : s.Unassigned mesh) (h : ∀ f key, ¬Outstanding (mesh.pool f) key) : s.Owned := by
  intro f key
  refine iff_of_false (u.mesh ▸ h f key) ?_
  rintro ⟨name, ips, ip, hn, hi, -⟩
  cases u.nodes hn
  cases f <;> cases hi

theorem instantiateEdgeDevice_eq : s.instantiateEdgeDevice net parseFloat config ed secret none =
    .ok (s.instantiated ed.name, true) := by
  rw [instantiateEdgeDevice]
  simp only [prepareNetworkOptions_overrideWith]
  rfl

theorem reinstantiates_iff : s.Reinstantiates net parseFloat config ed secret ↔
    ∀ f, s.mesh.pool f ≠ none → request net ed f = none := by
  constructor
  case mp =>
    rintro ⟨s', ips, hs, hn, h⟩ f hp
    cases instantiateEdgeDevice_eq.symm.trans hs
    obtain rfl : ⟨none, none⟩ = ips := by simpa [instantiated] using hn
    rw [Option.eq_none_iff_forall_ne_some]
    intro ip hr
    obtain ⟨ipNet, hi, -⟩ := h f ip hp hr
    cases f <;> cases hi
  case mpr =>
    intro h
    refine ⟨_, _, instantiateEdgeDevice_eq, Function.update_self .., fun f ip hp hr => ?_⟩
    cases (h f hp).symm.trans hr

-- No address is ever allocated. So an edge device is instantiated again, but not with its address.
theorem owned_and_reinstantiates_iff (hn : ∀ name, s.nodes name = none)
    (ho : ∀ f key, ¬Outstanding (s.mesh.pool f) key) (e : Execution (step net parseFloat config) s as s') :
    s'.Owned ∧
    (∀ ed secret mesh' res, prepareNetworkOptions net config (config.overrideWith parseFloat ed.spec) s'.mesh ed
      secret = .ok (mesh', res) → mesh' = s'.mesh) ∧
    ∀ ed secret, s'.Reinstantiates net parseFloat config ed secret ↔
      ∀ f, s.mesh.pool f ≠ none → request net ed f = none := by
  have u : s'.Unassigned s.mesh := e.preserves Unassigned.step ⟨rfl, fun h => by cases (hn _).symm.trans h⟩
  refine ⟨u.owned ho, ?prepare, fun ed secret => u.mesh ▸ reinstantiates_iff⟩
  case prepare =>
    intro ed secret mesh' res h
    cases prepareNetworkOptions_overrideWith.symm.trans h
    rfl

section Example

def rawTexts : MeshTexts where
  toTexts := IPAddressManager.rawTexts
  ipText ip := ip
  ipNetText ipNet := 0 :: ipNet.ip
  encode64 key := key
  seconds d := d
  ipNetText_ne _ := List.cons_ne_nil _ _

def smallPool : MeshNodes where
  mesh := ⟨some (IPAddressManager.new.addAddressBlock rawTexts.toTexts [10, 0, 0, 0, 29] [] []).fst, none⟩
  nodes := fun _ => none

def fixedAddress : Apis.EdgeDevice where
  name := [1]
  ns := []
  clusterName := []
  spec := { Apis.EdgeDeviceSpec.zero with network := ⟨true, ⟨[], 0, 0, 0, 0, [10, 0, 0, 2, 29], [], []⟩⟩ }
  meshIPv4Addr := []
  meshIPv6Addr := []

def wireguard : Conf.VirtualnodeConfig :=
  { Conf.VirtualnodeConfig.zero with network := ⟨true, [], ⟨networkMeshDriverWireguard, [], 0⟩⟩ }

def privateKey : Secret :=
  ⟨Std.ExtTreeMap.insert ∅ meshConfigKeyWireguardPrivateKey [7], ∅⟩

theorem not_outstanding_smallPool (f : Family) (key : Bytes) : ¬Outstanding (smallPool.mesh.pool f) key := by
  rintro ⟨m, hm, b, hb, hk⟩
  cases f
  case ipv6 => cases hm
  case ipv4 =>
    cases hm
    cases List.mem_singleton.mp hb
    cases hk

def again : List Action :=
  [.instantiate fixedAddress (some privateKey) none, .delete [1],
   .instantiate fixedAddress (some privateKey) none]

theorem execution_again : ∃ s, Execution (step rawTexts (fun _ => 2) wireguard) smallPool again s ∧
    s.nodes [1] = some ⟨none, none⟩ := by
  have h (s : MeshNodes) : s.step rawTexts (fun _ => 2) wireguard
      (.instantiate fixedAddress (some privateKey) none) = some (s.instantiated [1]) := by
    rw [step, instantiateEdgeDevice_eq]
    rfl
  exact ⟨_, .trans (h _) <| .trans rfl <| .single (h _), by simp [instantiated]⟩

theorem owned_and_reinstantiates_iff_again : ∃ s,
    Execution (step rawTexts (fun _ => 2) wireguard) smallPool again s ∧ s.Owned := by
  obtain ⟨s, e, -⟩ := execution_again
  exact ⟨s, e, (owned_and_reinstantiates_iff (fun _ => rfl) not_outstanding_smallPool e).left⟩

-- Although the network is enabled everywhere, the edge device does not get its address, neither before its
-- virtual node is deleted nor afterwards.
theorem not_reinstantiates_again :
    wireguard.network.enabled ∧ fixedAddress.spec.network.enabled ∧
    ∃ s, Execution (step rawTexts (fun _ => 2) wireguard) smallPool again s ∧
      s.nodes [1] = some ⟨none, none⟩ ∧ request rawTexts fixedAddress .ipv4 = Net.to16 [10, 0, 0, 2] ∧
      ¬smallPool.Reinstantiates rawTexts (fun _ => 2) wireguard fixedAddress (some privateKey) ∧
      ¬s.Reinstantiates rawTexts (fun _ => 2) wireguard fixedAddress (some privateKey) := by
  obtain ⟨s, e, hn⟩ := execution_again
  have hr : request rawTexts fixedAddress .ipv4 = Net.to16 [10, 0, 0, 2] := rfl
  have hp {s : MeshNodes} (hm : s.mesh = smallPool.mesh) :
      ¬s.Reinstantiates rawTexts (fun _ => 2) wireguard fixedAddress (some privateKey) := by
    rw [reinstantiates_iff, hm]
    intro h
    cases hr.symm.trans <| h .ipv4 (Option.some_ne_none _)
  have u : s.Unassigned smallPool.mesh := e.preserves Unassigned.step ⟨rfl, nofun⟩
  exact ⟨rfl, rfl, s, e, hn, hr, hp rfl, hp u.mesh⟩

end Example

end MeshNodes

end Aranya.EdgeDevice
