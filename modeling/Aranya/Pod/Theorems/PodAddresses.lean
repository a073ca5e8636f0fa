import Aranya.Lib.List
import Aranya.Pod.Samples

namespace Aranya.Pod

variable {net : Net.Texts} {interfaces : List Runtime.Interface} {iface : Runtime.Interface} {family : IPFamily}
    {addr text : Bytes} {pod : Kube.Pod} {ps : Runtime.PodStatusMsg} {forInitContainers : Bool}
    {status : Kube.PodStatus}

-- An address with the length of a prefix is not empty, and it is not a plain address.
structure PrefixTexts (net : Net.Texts) : Prop where
  empty : ∀ r, net.parseCIDR [] ≠ .ok r
  plain : ∀ {text r}, net.parseCIDR text = .ok r → net.parseIP text = none

def isLoopback (ip : Bytes) : Bool :=
  match Net.to4 ip with
  | some ip => ip.head? = some 127
  | none => ip = List.replicate 15 0 ++ [1]

def ReportedAddress (net : Net.Texts) (interfaces : List Runtime.Interface) (ip : Bytes) : Prop :=
  ∃ iface ∈ interfaces, ∃ addr ∈ iface.addresses,
    net.parseIP addr = some ip ∨ ∃ cidr, net.parseCIDR addr = .ok (ip, cidr)

structure AddressesSound (net : Net.Texts) (interfaces : List Runtime.Interface) (status : Kube.PodStatus) :
    Prop where
  plain : ∀ text ∈ status.podIPs, ∃ ip,
    net.parseIP text = some ip ∧ isLoopback ip = false ∧ ReportedAddress net interfaces ip
  first : status.podIP = status.podIPs.headD []
  family : status.podIPs.Pairwise fun text₁ text₂ => ∀ ip₁ ip₂,
    net.parseIP text₁ = some ip₁ → net.parseIP text₂ = some ip₂ → (Net.to4 ip₁).isSome ≠ (Net.to4 ip₂).isSome

def HasCIDR (net : Net.Texts) (interfaces : List Runtime.Interface) : Prop :=
  ∃ iface ∈ interfaces, iface.name ≠ str "lo0" ∧ ∃ addr ∈ iface.addresses, ∃ r, net.parseCIDR addr = .ok r

def lastAddress (net : Net.Texts) (interfaces : List Runtime.Interface) (family : IPFamily) : Option Bytes :=
  interfaces.filter (·.name ≠ str "lo0") |>.flatMap Runtime.Interface.addresses
    |>.filter (cidrFamily net · = some family) |>.getLast?

theorem mirrorStatus_eq_some (h : mirrorStatus (cidrFamily net) pod ps forInitContainers = some status) :
    ∃ status', mirrorAddresses (cidrFamily net) ps status' = status := by
  obtain ⟨status', _, h⟩ := Option.map_eq_some_iff.mp h
  exact ⟨status', h⟩

theorem podIPs_mirrorAddresses (h : ps.network = some interfaces) :
    (mirrorAddresses (cidrFamily net) ps status).podIPs =
    [(lastAddress net interfaces .ipv4).getD [], (lastAddress net interfaces .ipv6).getD []].filter (· ≠ []) := by
  rw [mirrorAddresses, h]
  rfl

theorem podIP_mirrorAddresses (h : ps.network = some interfaces) :
    (mirrorAddresses (cidrFamily net) ps status).podIP =
    (mirrorAddresses (cidrFamily net) ps status).podIPs.headD [] := by
  have hf : ∀ ipv4 ipv6, (getPodIPs ipv4 ipv6).fst = (getPodIPs ipv4 ipv6).snd.headD [] := by
    intro ipv4 ipv6
    by_cases h₄ : ipv4 = []
    case pos => by_cases h₆ : ipv6 = [] <;> simp [getPodIPs, h₄, h₆]
    case neg => simp [getPodIPs, h₄]
  rw [mirrorAddresses, h]
  exact hf _ _

theorem cidrFamily_eq_some : (∃ family, cidrFamily net addr = some family) ↔ ∃ r, net.parseCIDR addr = .ok r := by
  rw [cidrFamily]
  cases net.parseCIDR addr
  case error e => simp
  case ok r => simp

theorem lastAddress_of_mem (hi : iface ∈ interfaces) (hn : iface.name ≠ str "lo0") (ha : addr ∈ iface.addresses)
    (hf : cidrFamily net addr = some family) : ∃ text, lastAddress net interfaces family = some text := by
  have hm : addr ∈ (interfaces.filter (·.name ≠ str "lo0")).flatMap Runtime.Interface.addresses :=
    List.mem_flatMap.mpr ⟨iface, List.mem_filter.mpr ⟨hi, by simpa using hn⟩, ha⟩
  have hm := List.mem_filter (p := (cidrFamily net · = some family)).mpr ⟨hm, decide_eq_true hf⟩
  exact getLast?_of_mem hm

theorem lastAddress_cases (h : lastAddress net interfaces family = some text) :
    HasCIDR net interfaces ∧ ∃ r, net.parseCIDR text = .ok r := by
  obtain ⟨hm, hf⟩ := List.mem_filter.mp (List.mem_of_getLast? h)
  obtain ⟨iface, hi, ha⟩ := List.mem_flatMap.mp hm
  obtain ⟨hi, hn⟩ := List.mem_filter.mp hi
  have hr := cidrFamily_eq_some.mp ⟨family, of_decide_eq_true hf⟩
  exact ⟨⟨iface, hi, by simpa using hn, text, ha, hr⟩, hr⟩

-- The addresses are recorded as they are reported, with the length of a prefix. So they are only right if
-- none is.
theorem addressesSound_iff (laws : PrefixTexts net) (hs : ps.network = some interfaces)
    (hm : mirrorStatus (cidrFamily net) pod ps forInitContainers = some status) :
    AddressesSound net interfaces status ↔ ¬HasCIDR net interfaces := by
  obtain ⟨status, rfl⟩ := mirrorStatus_eq_some hm
  constructor
  case mp =>
    intro h ⟨iface, hi, hn, addr, ha, hr⟩
    obtain ⟨family, hf⟩ := cidrFamily_eq_some.mpr hr
    obtain ⟨text, ht⟩ := lastAddress_of_mem hi hn ha hf
    obtain ⟨-, r, hr⟩ := lastAddress_cases ht
    have hm : text ∈ (mirrorAddresses (cidrFamily net) ps status).podIPs := by
      rw [podIPs_mirrorAddresses hs, List.mem_filter]
      have hne : text ≠ [] := fun he => laws.empty r (he ▸ hr)
      cases family
      case ipv4 => simp [ht, hne]
      case ipv6 => simp [ht, hne]
    obtain ⟨ip, hp, -⟩ := h.plain text hm
    cases (laws.plain hr).symm.trans hp
  case mpr =>
    intro h
    have hl : ∀ family, lastAddress net interfaces family = none := by
      intro family
      by_contra hl
      obtain ⟨text, ht⟩ := Option.ne_none_iff_exists'.mp hl
      exact h (lastAddress_cases ht).left
    have he : (mirrorAddresses (cidrFamily net) ps status).podIPs = [] := by
      simp [podIPs_mirrorAddresses hs, hl]
    constructor
    case plain => simp [he]
    case first => exact podIP_mirrorAddresses hs
    case family => simp [he]

def v4Net (ip : Bytes) (ones : Fin 33) (length : ip.length = 4)
    (masked : Octets.toNat ip % 2 ^ (Net.ipv4Bits - ones) = 0) : Net.CIDR where
  ip := ip
  ones := ones
  bits := Net.ipv4Bits
  family := .inl rfl
  length := length
  le := Nat.le_of_lt_succ ones.isLt
  masked := masked

def twoAddresses : Net.Texts where
  parseCIDR text :=
    if text = str "10.0.0.1/24" then
      .ok (Net.v4InV6Prefix ++ [10, 0, 0, 1], v4Net [10, 0, 0, 0] 24 rfl rfl)
    else if text = str "127.0.0.1/8" then
      .ok (Net.v4InV6Prefix ++ [127, 0, 0, 1], v4Net [127, 0, 0, 0] 8 rfl rfl)
    else
      .error (str "invalid CIDR address: " ++ text)
  parseIP text := if text = str "10.0.0.1" then some (Net.v4InV6Prefix ++ [10, 0, 0, 1]) else none
  quote text := text
  length_parseIP := by
    intro text ip h
    split at h
    case isTrue => cases h; rfl
    case isFalse => cases h

theorem twoAddresses_plain :
    twoAddresses.parseCIDR (str "10.0.0.1") = .error (str "invalid CIDR address: 10.0.0.1") :=
  rfl

theorem twoAddresses_laws : PrefixTexts twoAddresses where
  empty r h := by simp [twoAddresses, str] at h
  plain h := by
    apply if_neg
    rintro rfl
    cases twoAddresses_plain.symm.trans h

def reportOf (iface addr : String) : Runtime.PodStatusMsg where
  uid := str "1"
  network := some [⟨str iface, [str addr]⟩]
  containers := ∅

-- A plain address is not recorded at all.
theorem addressesSound_plain :
    ∃ status, mirrorStatus (cidrFamily twoAddresses) samplePod (reportOf "eth0" "10.0.0.1") false = some status ∧
      AddressesSound twoAddresses [⟨str "eth0", [str "10.0.0.1"]⟩] status := by
  cases hm : mirrorStatus (cidrFamily twoAddresses) samplePod (reportOf "eth0" "10.0.0.1") false
  case none => cases hm
  case some status =>
    refine ⟨status, rfl, (addressesSound_iff twoAddresses_laws rfl hm).mpr ?_⟩
    simp [HasCIDR, twoAddresses_plain]

-- The length of the prefix is recorded, and so is a loopback address of another interface than `lo0`.
theorem not_addressesSound_prefix_length :
    ∃ status status',
      mirrorStatus (cidrFamily twoAddresses) samplePod (reportOf "eth0" "10.0.0.1/24") false = some status ∧
      status.podIPs = [str "10.0.0.1/24"] ∧ twoAddresses.parseIP (str "10.0.0.1/24") = none ∧
      ¬AddressesSound twoAddresses [⟨str "eth0", [str "10.0.0.1/24"]⟩] status ∧
      mirrorStatus (cidrFamily twoAddresses) samplePod (reportOf "lo" "127.0.0.1/8") false = some status' ∧
      status'.podIP = str "127.0.0.1/8" := by
  have hp : twoAddresses.parseIP (str "10.0.0.1/24") = none := by decide
  refine ⟨_, _, rfl, by decide, hp, fun h => ?_, rfl, by decide⟩
  obtain ⟨ip, hi, -⟩ := h.plain (str "10.0.0.1/24") (by decide)
  cases hp.symm.trans hi

end Aranya.Pod
