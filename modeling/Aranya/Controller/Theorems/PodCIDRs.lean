import Aranya.Controller.Theorems.Node
import Aranya.Network.Manager

namespace Aranya

namespace Net.Texts

variable {net : Texts} {text : Bytes} {bits : Nat}

structure ParsesCIDRs (net : Texts) : Prop where
  empty : ∀ r, net.parseCIDR [] ≠ .ok r
  ipv4 : ∀ {text ip n}, net.parseCIDR text = .ok (ip, n) → n.bits = ipv4Bits → to4 ip ≠ none

def IsCIDR (net : Texts) (bits : Nat) (text : Bytes) : Prop :=
  ∃ ip n, net.parseCIDR text = .ok (ip, n) ∧ n.bits = bits

def IsIPv4Mapped (net : Texts) (text : Bytes) : Prop :=
  ∃ ip n, net.parseCIDR text = .ok (ip, n) ∧ to4 ip ≠ none

theorem IsCIDR.ne_nil (h : net.IsCIDR bits text) (laws : net.ParsesCIDRs) : text ≠ [] := by
  rintro rfl
  obtain ⟨ip, n, hp, -⟩ := h
  exact laws.empty _ hp

theorem IsCIDR.mapped (h : net.IsCIDR ipv4Bits text) (laws : net.ParsesCIDRs) : net.IsIPv4Mapped text := by
  obtain ⟨ip, n, hp, hb⟩ := h
  exact ⟨ip, n, hp, laws.ipv4 hp hb⟩

end Net.Texts

open Net

variable {net : Net.Texts} {cidr : Bytes} {cidrs : List Bytes}

def assignCIDR (net : Net.Texts) (x : Bytes × Bytes) (cidr : Bytes) : Bytes × Bytes :=
  match net.parseCIDR cidr with
  | .error _ => x
  | .ok (ip, _) => if to4 ip = none then (cidr, x.snd) else (x.fst, cidr)

theorem assignCIDR_nil (laws : net.ParsesCIDRs) (x : Bytes × Bytes) : assignCIDR net x [] = x := by
  simp only [assignCIDR]
  split
  case h_1 => rfl
  case h_2 hp => exact absurd hp (laws.empty _)

theorem assignCIDR_mapped (h : net.IsIPv4Mapped cidr) (x : Bytes × Bytes) :
    assignCIDR net x cidr = (x.fst, cidr) := by
  obtain ⟨ip, n, hp, hm⟩ := h
  simp [assignCIDR, hp, hm]

theorem assignCIDR_not_mapped {bits} (h : net.IsCIDR bits cidr) (hm : ¬net.IsIPv4Mapped cidr)
    (x : Bytes × Bytes) : assignCIDR net x cidr = (cidr, x.snd) := by
  obtain ⟨ip, n, hp, -⟩ := h
  have hn : to4 ip = none := by
    by_contra hc
    exact hm ⟨ip, n, hp, hc⟩
  simp [assignCIDR, hp, hn]

namespace EdgeDevice.Controller

open Network (Manager)

variable {c : Controller} {ed : Apis.EdgeDevice} {port : Int}

def podCIDRs (net : Net.Texts) (c : Controller) (ed : Apis.EdgeDevice) (port : Int) : Manager :=
  let node := c.newNodeForEdgeDevice ed port
  let (ipv4, ipv6) := getPodCIDRWithIPVersion net node.podCIDR node.podCIDRs
  Manager.new.setPodCIDRs ipv4 ipv6

theorem getPodCIDR_setPodCIDRs_new {ipv4 ipv6 : Bytes} :
    (Manager.new.setPodCIDRs ipv4 ipv6).getPodCIDR false = ipv4 ∧
    (Manager.new.setPodCIDRs ipv4 ipv6).getPodCIDR true = ipv6 := by
  by_cases h₄ : ipv4 = [] <;> by_cases h₆ : ipv6 = [] <;>
    simp [Manager.setPodCIDRs, Manager.getPodCIDR, Manager.new, h₄, h₆]

def nodeCIDRs (ed : Apis.EdgeDevice) : List Bytes :=
  let cidrs := [ed.spec.pod.ipv4CIDR, ed.spec.pod.ipv6CIDR].filter (· ≠ [])
  cidrs.headD [] :: cidrs

theorem podCIDRs_getPodCIDR :
    (podCIDRs net c ed port).getPodCIDR false = ((nodeCIDRs ed).foldl (assignCIDR net) ([], [])).fst ∧
    (podCIDRs net c ed port).getPodCIDR true = ((nodeCIDRs ed).foldl (assignCIDR net) ([], [])).snd :=
  getPodCIDR_setPodCIDRs_new

-- Ranges are assigned to the other family. So the network manager gets those of the edge device only if no
-- IPv4 range is configured and that of IPv6, if any, stands for IPv4 addresses.
theorem podCIDRs_round_trip_iff (laws : net.ParsesCIDRs)
    (h₄ : ed.spec.pod.ipv4CIDR = [] ∨ net.IsCIDR ipv4Bits ed.spec.pod.ipv4CIDR)
    (h₆ : ed.spec.pod.ipv6CIDR = [] ∨ net.IsCIDR ipv6Bits ed.spec.pod.ipv6CIDR) :
    ((podCIDRs net c ed port).getPodCIDR false = ed.spec.pod.ipv4CIDR ∧
     (podCIDRs net c ed port).getPodCIDR true = ed.spec.pod.ipv6CIDR) ↔
    ed.spec.pod.ipv4CIDR = [] ∧ (ed.spec.pod.ipv6CIDR = [] ∨ net.IsIPv4Mapped ed.spec.pod.ipv6CIDR) := by
  rw [podCIDRs_getPodCIDR.left, podCIDRs_getPodCIDR.right, nodeCIDRs]
  generalize ed.spec.pod.ipv4CIDR = v4 at h₄ ⊢
  generalize ed.spec.pod.ipv6CIDR = v6 at h₆ ⊢
  rcases h₄ with rfl | h₄ <;> rcases h₆ with rfl | h₆
  case inl.inl => simp [assignCIDR_nil laws]
  case inl.inr =>
    have hn := h₆.ne_nil laws
    by_cases hm : net.IsIPv4Mapped v6
    case pos => simp [hn, hm, assignCIDR_mapped hm]
    case neg => simp [hn, hm, assignCIDR_not_mapped h₆ hm]
  case inr.inl =>
    have hn := h₄.ne_nil laws
    simp [hn, hn.symm, assignCIDR_mapped (h₄.mapped laws)]
  case inr.inr =>
    have hn := h₄.ne_nil laws
    have hn' := h₆.ne_nil laws
    by_cases hm : net.IsIPv4Mapped v6
    case pos => simp [hn, hn', hn.symm, assignCIDR_mapped (h₄.mapped laws), assignCIDR_mapped hm]
    case neg =>
      -- the same text is not a range of both families
      have he : v6 ≠ v4 := fun he => hm (he ▸ h₄.mapped laws)
      simp [hn, hn', he, assignCIDR_mapped (h₄.mapped laws), assignCIDR_not_mapped h₆ hm]

def threeRanges : Net.Texts where
  parseCIDR text :=
    if text = str "10.0.0.0/24" then
      .ok (v4InV6Prefix ++ [10, 0, 0, 0], ⟨[10, 0, 0, 0], 24, 32, by decide, by decide, by decide, by decide⟩)
    else if text = str "fd00::/64" then
      .ok (0xfd :: .replicate 15 0, ⟨0xfd :: .replicate 15 0, 64, 128, by decide, by decide, by decide, by decide⟩)
    else if text = str "::ffff:10.1.0.0/120" then
      .ok (v4InV6Prefix ++ [10, 1, 0, 0],
        ⟨v4InV6Prefix ++ [10, 1, 0, 0], 120, 128, by decide, by decide, by decide, by decide⟩)
    else
      .error (str "invalid CIDR address: " ++ text)
  parseIP _ := none
  quote text := text
  length_parseIP := by simp

theorem threeRanges_laws : threeRanges.ParsesCIDRs where
  empty r h := by simp [threeRanges, str] at h
  ipv4 h hb := by
    simp only [threeRanges] at h
    split at h
    case isTrue => cases h; decide
    case isFalse =>
      split at h
      case isTrue => cases h; cases hb
      case isFalse =>
        split at h
        case isTrue => cases h; cases hb
        case isFalse => cases h

def withCIDRs (ipv4 ipv6 : String) : Apis.EdgeDevice where
  name := [1]
  ns := str "edge"
  clusterName := []
  spec := { Apis.EdgeDeviceSpec.zero with pod := ⟨none, none, str ipv4, str ipv6, none, 0, ∅, ∅⟩ }
  meshIPv4Addr := []
  meshIPv6Addr := []

theorem podCIDRs_round_trip_iff_mapped :
    let m := podCIDRs threeRanges (single true false) (withCIDRs "" "::ffff:10.1.0.0/120") 10250
    m.getPodCIDR false = str "" ∧ m.getPodCIDR true = str "::ffff:10.1.0.0/120" := by
  refine podCIDRs_round_trip_iff threeRanges_laws (.inl rfl) (.inr ⟨_, _, rfl, rfl⟩) |>.mpr ⟨rfl, .inr ?_⟩
  exact ⟨_, _, rfl, by decide⟩

-- The ranges of the two families are swapped.
theorem not_podCIDRs_round_trip :
    let m := podCIDRs threeRanges (single true false) (withCIDRs "10.0.0.0/24" "fd00::/64") 10250
    threeRanges.IsCIDR ipv4Bits (str "10.0.0.0/24") ∧ threeRanges.IsCIDR ipv6Bits (str "fd00::/64") ∧
    m.getPodCIDR false = str "fd00::/64" ∧ m.getPodCIDR true = str "10.0.0.0/24" :=
  ⟨⟨_, _, rfl, rfl⟩, ⟨_, _, rfl, rfl⟩, rfl, rfl⟩

end EdgeDevice.Controller
end Aranya
