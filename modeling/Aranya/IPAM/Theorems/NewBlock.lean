import Aranya.IPAM.Theorems.Ranges

namespace Aranya

namespace Net
namespace CIDR

variable {n : CIDR}

def first (n : CIDR) : Nat :=
  Octets.toNat n.ip

def last (n : CIDR) : Nat :=
  n.first + (2 ^ (n.bits - n.ones) - 1)

theorem first_lt : n.first < 2 ^ n.bits := by
  rw [← IPAM.pow_family n.family, ← n.length]
  exact Octets.toNat_lt n.ip

theorem first_le_last : n.first ≤ n.last :=
  Nat.le_add_right ..

theorem last_lt : n.last < 2 ^ n.bits :=
  add_lt_two_pow n.masked (Nat.sub_le ..) first_lt

def Mapped (n : CIDR) : Prop :=
  n.bits = ipv6Bits ∧ ∃ y, n.ip = v4InV6Prefix ++ y

def Inside (n : CIDR) (ip : Bytes) : Prop :=
  ∃ x, IPAM.normFunc n.bits ip = some x ∧ n.first ≤ Octets.toNat x ∧ Octets.toNat x ≤ n.last

-- An IPv4 address is not one of an IPv6 network, even if the number of its long form is.
def Accepts (n : CIDR) (ip : Bytes) : Prop :=
  n.Inside ip ∧ (n.bits = ipv6Bits → (to4 ip).isSome → n.Mapped)

variable {ip x y : Bytes}

theorem toNat_mapped (h : y.length = 4) :
    Octets.toNat (v4InV6Prefix ++ y) = 2 ^ 32 * 65535 + Octets.toNat y := by
  rw [Octets.toNat_append, h]
  rfl

theorem toNat_lt_of_length (h : y.length = 4) : Octets.toNat y < 2 ^ 32 := by
  have := Octets.toNat_lt y
  rwa [h] at this

theorem Mapped.masked (h : n.ip = v4InV6Prefix ++ y) (hy : y.length = 4) :
    n.bits - n.ones ≤ 32 ∧ Octets.toNat y % 2 ^ (n.bits - n.ones) = 0 := by
  have hm := Nat.dvd_of_mod_eq_zero n.masked
  rw [h, toNat_mapped hy] at hm
  have hlt := toNat_lt_of_length hy
  have hk : n.bits - n.ones ≤ 32 := by
    by_contra hk
    have hd : 2 ^ 33 ∣ 2 ^ 32 * 65535 + Octets.toNat y := (Nat.pow_dvd_pow 2 (not_le.mp hk)).trans hm
    omega
  refine ⟨hk, Nat.mod_eq_zero_of_dvd ?_⟩
  exact (Nat.dvd_add_right <| (Nat.pow_dvd_pow 2 hk).mul_right _).mp hm

theorem Mapped.contains (h : n.ip = v4InV6Prefix ++ y) (hy : y.length = 4) (hx : x.length = 4) :
    Octets.toNat y / 2 ^ (n.bits - n.ones) = Octets.toNat x / 2 ^ (n.bits - n.ones) ↔
    n.first ≤ Octets.toNat (v4InV6Prefix ++ x) ∧ Octets.toNat (v4InV6Prefix ++ x) ≤ n.last := by
  rw [div_two_pow_eq_iff (Mapped.masked h hy).right, last, first, h, toNat_mapped hy, toNat_mapped hx]
  omega

theorem Mapped.to4_of_le (h : n.ip = v4InV6Prefix ++ y) (hy : y.length = 4) (hl : ip.length = 16)
    (h₁ : n.first ≤ Octets.toNat ip) (h₂ : Octets.toNat ip ≤ n.last) : ip.take 12 = v4InV6Prefix := by
  obtain ⟨hk, hm⟩ := Mapped.masked h hy
  have hlt := add_lt_two_pow hm hk (toNat_lt_of_length hy)
  have hd := toNat_lt_of_length (y := ip.drop 12) (by simp [hl])
  have ha : Octets.toNat (ip.take 12 ++ ip.drop 12) =
      256 ^ 4 * Octets.toNat (ip.take 12) + Octets.toNat (ip.drop 12) := by
    rw [Octets.toNat_append, List.length_drop, hl]
  rw [List.take_append_drop] at ha
  rw [last, first, h, toNat_mapped hy] at *
  apply Octets.toNat_injective (by simp [hl, v4InV6Prefix])
  show Octets.toNat (ip.take 12) = 65535
  omega

theorem contains_iff_of_check (hx : checkIPv4 n.ip = y) (hy : checkIPv4 ip = x)
    (hl : x.length = y.length) (hm : Octets.toNat y % 2 ^ (n.bits - n.ones) = 0) :
    n.contains ip = true ↔
    Octets.toNat y ≤ Octets.toNat x ∧ Octets.toNat x ≤ Octets.toNat y + (2 ^ (n.bits - n.ones) - 1) := by
  rw [← div_two_pow_eq_iff hm]
  simp [CIDR.contains, hx, hy, hl]

theorem not_contains_of_check (hx : checkIPv4 n.ip = y) (hy : checkIPv4 ip = x)
    (hl : x.length ≠ y.length) : n.contains ip = false := by
  simp [CIDR.contains, hx, hy, hl]

theorem checkIPv4_of_none (h : to4 ip = none) : checkIPv4 ip = ip := by
  simp [checkIPv4, h]

theorem checkIPv4_of_some (h : to4 ip = some x) : checkIPv4 ip = x := by
  simp [checkIPv4, h]

theorem contains_iff_of_ipv4 (hf : n.bits = ipv4Bits) (hl : ip.length = 16) :
    n.contains ip = true ↔ n.Accepts ip := by
  have hn : n.ip.length = 4 := n.length.trans (by rw [hf]; rfl)
  have hc : checkIPv4 n.ip = n.ip := by simp [checkIPv4, to4, hn]
  have hb : n.bits ≠ ipv6Bits := by rw [hf]; decide
  have hN : IPAM.normFunc n.bits ip = to4 ip := by rw [hf]; rfl
  rw [Accepts, Inside, hN]
  cases h₄ : to4 ip
  case none => simp [not_contains_of_check hc (checkIPv4_of_none h₄) (by simp [hl, hn])]
  case some x =>
    rw [contains_iff_of_check hc (checkIPv4_of_some h₄) (by rw [length_to4 h₄, hn]) n.masked]
    simp [first, last, hb]

theorem accepts_iff_of_ipv6 (hf : n.bits = ipv6Bits) (hl : ip.length = 16) :
    n.Accepts ip ↔ (n.first ≤ Octets.toNat ip ∧ Octets.toNat ip ≤ n.last) ∧ ((to4 ip).isSome → n.Mapped) := by
  have hN : IPAM.normFunc n.bits ip = some ip := by
    rw [hf]
    exact IPAM.normFunc_of_length (.inr rfl) hl
  rw [Accepts, Inside, hN]
  simp [hf]

theorem contains_iff_of_ipv6 (hf : n.bits = ipv6Bits) (hn₄ : to4 n.ip = none) (hl : ip.length = 16) :
    n.contains ip = true ↔ n.Accepts ip := by
  have hn : n.ip.length = 16 := n.length.trans (by rw [hf]; rfl)
  have hc := checkIPv4_of_none hn₄
  have hm : ¬n.Mapped := by
    rintro ⟨-, y, hy⟩
    cases hn₄.symm.trans ((to4_eq_some_iff hn).mpr hy)
  rw [accepts_iff_of_ipv6 hf hl]
  cases h₄ : to4 ip
  case none =>
    rw [contains_iff_of_check hc (checkIPv4_of_none h₄) (hl.trans hn.symm) n.masked]
    simp [first, last]
  case some x =>
    simp [not_contains_of_check hc (checkIPv4_of_some h₄) (by simp [hn, length_to4 h₄]), hm]

theorem contains_iff_of_mapped (hf : n.bits = ipv6Bits) (hn₄ : to4 n.ip = some y) (hl : ip.length = 16) :
    n.contains ip = true ↔ n.Accepts ip := by
  have hn : n.ip.length = 16 := n.length.trans (by rw [hf]; rfl)
  have hc := checkIPv4_of_some hn₄
  have hy := (to4_eq_some_iff hn).mp hn₄
  have hm : n.Mapped := ⟨hf, y, hy⟩
  have hk := (Mapped.masked hy (length_to4 hn₄)).right
  rw [accepts_iff_of_ipv6 hf hl]
  cases h₄ : to4 ip
  case none =>
    rw [not_contains_of_check hc (checkIPv4_of_none h₄) (by simp [hl, length_to4 hn₄])]
    simp only [Bool.false_eq_true, false_iff]
    rintro ⟨⟨h₁, h₂⟩, -⟩
    have ht := Mapped.to4_of_le hy (length_to4 hn₄) hl h₁ h₂
    simp [to4, hl, ht] at h₄
  case some x =>
    have hx := (to4_eq_some_iff hl).mp h₄
    have hlen : x.length = y.length := (length_to4 h₄).trans (length_to4 hn₄).symm
    rw [contains_iff_of_check hc (checkIPv4_of_some h₄) hlen hk, ← div_two_pow_eq_iff hk,
      Mapped.contains hy (length_to4 hn₄) (length_to4 h₄), ← hx]
    simp [hm]

theorem contains_iff (hl : ip.length = 16) : n.contains ip = true ↔ n.Accepts ip := by
  cases n.family
  case inl hf => exact contains_iff_of_ipv4 hf hl
  case inr hf =>
    cases hn₄ : to4 n.ip
    case none => exact contains_iff_of_ipv6 hf hn₄ hl
    case some y => exact contains_iff_of_mapped hf hn₄ hl

end CIDR
end Net

namespace IPAM

open Net

variable {net : Texts} {n : CIDR} {m : Nat} {ip what text cidr start stop : Bytes} {b : Block}

structure Bound (n : CIDR) (ip : Bytes) (m : Nat) : Prop where
  norm : normFunc n.bits ip = some (intToIP m n.bits)
  length : ip.length = n.bits / 8 ∨ ip.length = 16
  first : n.first ≤ m
  last : m ≤ n.last

theorem Bound.lt (h : Bound n ip m) : m < 2 ^ n.bits :=
  h.last.trans_lt CIDR.last_lt

theorem Bound.setBytes (h : Bound n ip m) : setBytes (normFunc n.bits ip) = m := by
  rw [h.norm, IPAM.setBytes, Option.getD_some, toNat_intToIP n.family h.lt]

theorem intToIP_first : intToIP n.first n.bits = n.ip :=
  intToIP_toNat n.length

theorem Bound.network : Bound n n.ip n.first where
  norm := intToIP_first ▸ normFunc_of_length n.family length_intToIP
  length := .inl n.length
  first := le_rfl
  last := CIDR.first_le_last

theorem Bound.of_accepts (hl : ip.length = 16) (h : n.Accepts ip) :
    Bound n ip (IPAM.setBytes (normFunc n.bits ip)) := by
  obtain ⟨⟨x, hx, h₁, h₂⟩, -⟩ := h
  have hs : IPAM.setBytes (normFunc n.bits ip) = Octets.toNat x := by
    rw [hx, IPAM.setBytes, Option.getD_some]
  rw [hs]
  exact ⟨by rw [hx, intToIP_toNat (length_normFunc n.family hx)], .inr hl, h₁, h₂⟩

theorem Bound.toNat_mod (h : Bound n ip m) : Octets.toNat ip % 2 ^ n.bits = m := by
  have hm := toNat_intToIP n.family h.lt
  have hlt := Octets.toNat_lt ip
  by_cases hl : ip.length = n.bits / 8
  case pos =>
    rw [hl, pow_family n.family] at hlt
    have he := normFunc_of_length n.family hl
    rw [h.norm] at he
    rw [Nat.mod_eq_of_lt hlt, ← Option.some.inj he, hm]
  case neg =>
    have hl' := h.length.resolve_left hl
    have hf : n.bits = ipv4Bits := n.family.resolve_right fun hf => hl (by rw [hl', hf]; rfl)
    have hN := h.norm
    have hp : normFunc n.bits ip = to4 ip := by rw [hf]; rfl
    rw [hp, to4_eq_some_iff hl'] at hN
    have hi : (intToIP m n.bits).length = 4 := length_intToIP.trans (by rw [hf]; rfl)
    rw [hN, CIDR.toNat_mapped hi, hm]
    have := h.lt
    rw [hf] at this ⊢
    replace this : m < 2 ^ 32 := this
    show (2 ^ 32 * 65535 + m) % 2 ^ 32 = m
    omega

theorem Bound.lastIP (h : Bound n ip m) : lastIP ip n.bits n.ones = intToIP n.last n.bits := by
  have hv : ((2 ^ (n.bits - n.ones) - 1) ||| Octets.toNat ip) % 2 ^ n.bits = n.last := by
    have hk : 2 ^ (n.bits - n.ones) ≤ 2 ^ n.bits := Nat.pow_le_pow_right (by omega) (Nat.sub_le ..)
    have hp : 0 < 2 ^ (n.bits - n.ones) := Nat.two_pow_pos _
    have hd := (div_two_pow_eq_iff n.masked).mpr ⟨h.first, h.last⟩
    rw [Nat.or_mod_two_pow, h.toNat_mod, Nat.mod_eq_of_lt (by omega), or_two_pow_sub_one, ← hd,
      Nat.mul_div_cancel' (Nat.dvd_of_mod_eq_zero n.masked)]
    rfl
  refine Octets.toNat_injective (length_intToIP.trans length_intToIP.symm) ?_
  rw [toNat_intToIP n.family CIDR.last_lt, ← hv, ← pow_family n.family]
  exact Octets.toNat_ofNat

theorem Bound.broadcast (h : Bound n ip m) : Bound n (IPAM.lastIP ip n.bits n.ones) n.last where
  norm := h.lastIP ▸ normFunc_of_length n.family length_intToIP
  length := .inl length_intToIP
  first := CIDR.first_le_last
  last := le_rfl

theorem Bound.equal_iff {m' : Nat} (h : Bound n ip m) (hm : m' < 2 ^ n.bits) :
    equal ip (intToIP m' n.bits) = true ↔ m = m' := by
  rw [Net.equal_iff, ipString_normFunc h.norm]
  constructor
  case mp => exact ipString_intToIP_injective n.family h.lt hm
  case mpr => rintro rfl; rfl

theorem Bound.checkIPv4 (h : Bound n ip m) : checkIPv4 ip = Net.checkIPv4 (intToIP m n.bits) := by
  have hN := h.norm
  cases n.family
  case inl hf =>
    have hl : (intToIP m n.bits).length = 4 := length_intToIP.trans (by rw [hf]; rfl)
    have hp : normFunc n.bits ip = to4 ip := by rw [hf]; rfl
    have hi : to4 (intToIP m n.bits) = some (intToIP m n.bits) := by simp [to4, hl]
    rw [Net.checkIPv4, ← hp, hN, Net.checkIPv4, hi]
    rfl
  case inr hf =>
    have hl : ip.length = n.bits / 8 := h.length.elim id fun hl => by rw [hl, hf]; rfl
    have he := normFunc_of_length n.family hl
    rw [hN] at he
    rw [Option.some.inj he]

theorem four_dvd (h₁ : n.ones + 1 ≠ n.bits) (h₂ : n.ones ≠ n.bits) : 2 ^ 2 ∣ 2 ^ (n.bits - n.ones) := by
  have := n.le
  exact Nat.pow_dvd_pow 2 (by omega)

def startFor (n : CIDR) (m : Nat) : Nat :=
  if n.ones ≠ n.bits ∧ m = n.first then m + 1 else m

def endFor (n : CIDR) (m : Nat) : Nat :=
  if n.ones ≠ n.bits ∧ m = n.last then m - 1 else m

theorem Bound.startIntOf (h : Bound n ip m) (hp : n.ones + 1 ≠ n.bits) : startIntOf n ip = startFor n m := by
  have he : equal ip n.ip = true ↔ m = n.first := by
    rw [← intToIP_first, h.equal_iff CIDR.first_lt]
  rw [IPAM.startIntOf, startFor]
  simp only [he]
  split
  case isFalse => exact h.setBytes
  case isTrue hc =>
    obtain ⟨hne, rfl⟩ := hc
    have hd : 2 ^ 2 ∣ n.first := (four_dvd hp hne).trans (Nat.dvd_of_mod_eq_zero n.masked)
    have hw : ¬Wraps n.bits n.first := by
      rintro (hw | ⟨-, hw⟩)
      case inl =>
        have := n.le
        have : 2 ^ 2 ∣ 2 ^ n.bits := Nat.pow_dvd_pow 2 (by omega)
        omega
      case inr => omega
    have hlt : n.first + 1 < 2 ^ n.bits := by
      have := CIDR.first_lt (n := n)
      have : n.first + 1 ≠ 2 ^ n.bits := fun hw' => hw (.inl hw')
      omega
    rw [inc, h.checkIPv4, ← inc, normFunc_inc n.family h.lt hw, IPAM.setBytes, Option.getD_some,
      toNat_intToIP n.family hlt]

theorem Bound.endIntOf (h : Bound n ip m) (hp : n.ones + 1 ≠ n.bits) : endIntOf n ip = endFor n m := by
  have he : equal ip (IPAM.lastIP n.ip n.bits n.ones) = true ↔ m = n.last := by
    rw [Bound.network.lastIP, h.equal_iff CIDR.last_lt]
  rw [IPAM.endIntOf, endFor]
  simp only [he]
  split
  case isFalse => exact h.setBytes
  case isTrue hc =>
    obtain ⟨hne, rfl⟩ := hc
    have hd : 2 ^ 2 ∣ n.first := (four_dvd hp hne).trans (Nat.dvd_of_mod_eq_zero n.masked)
    have hk := four_dvd hp hne
    have hk' : 0 < 2 ^ (n.bits - n.ones) := Nat.two_pow_pos _
    have hl : n.last % 4 = 3 := by
      rw [CIDR.last]
      omega
    rw [dec, h.checkIPv4, ← dec, normFunc_dec n.family h.lt (by omega) (by omega), IPAM.setBytes,
      Option.getD_some, toNat_intToIP n.family ((Nat.sub_le ..).trans_lt h.lt)]

def Requested (net : Texts) (n : CIDR) (text : Bytes) (default m : Nat) : Prop :=
  if text = [] then m = default
  else ∃ ip, net.parseIP text = some ip ∧ setBytes (normFunc n.bits ip) = m

def Refused (accepts : CIDR → Bytes → Prop) (net : Texts) (n : CIDR) (text : Bytes) : Prop :=
  text ≠ [] ∧ ∀ ip, net.parseIP text = some ip → ¬accepts n ip

theorem boundIP_cases (net : Texts) (what text : Bytes) {default : Bytes} {d : Nat} (hd : Bound n default d) :
    (∃ e, boundIP net n what text default = .error e) ∧ Refused CIDR.Accepts net n text ∨
    ∃ ip m, boundIP net n what text default = .ok ip ∧ Bound n ip m ∧ Requested net n text d m ∧
      ¬Refused CIDR.Accepts net n text := by
  by_cases ht : text = []
  case pos =>
    refine .inr ⟨default, d, by rw [boundIP, if_pos ht], hd, by rw [Requested, if_pos ht], ?_⟩
    exact fun hr => hr.left ht
  case neg =>
    rw [boundIP, if_neg ht]
    cases hi : net.parseIP text
    case none =>
      refine .inl ⟨⟨_, rfl⟩, ht, fun ip hp => ?_⟩
      rw [hi] at hp
      cases hp
    case some ip =>
      have hl := net.length_parseIP hi
      by_cases hc : n.contains ip = true
      case pos =>
        have ha := (CIDR.contains_iff hl).mp hc
        refine .inr ⟨ip, _, by simp [hc], .of_accepts hl ha, ?_, fun hr => hr.right ip hi ha⟩
        rw [Requested, if_neg ht]
        exact ⟨ip, hi, rfl⟩
      case neg =>
        refine .inl ⟨⟨_, by simp only [hc]; rfl⟩, ht, fun ip' hi' ha => hc ?_⟩
        cases hi.symm.trans hi'
        exact (CIDR.contains_iff hl).mpr ha

theorem Requested.unique {d m m' : Nat} (h : Requested net n text d m) (h' : Requested net n text d m') :
    m = m' := by
  rw [Requested] at h h'
  split at h
  case isTrue ht =>
    rw [if_pos ht] at h'
    rw [h, h']
  case isFalse ht =>
    rw [if_neg ht] at h'
    obtain ⟨ip, hi, rfl⟩ := h
    obtain ⟨ip', hi', rfl⟩ := h'
    cases hi.symm.trans hi'
    rfl

structure Built (net : Texts) (cidr start stop : Bytes) (b : Block) (n : CIDR) : Prop where
  parsed : ∃ ip, net.parseCIDR cidr = .ok (ip, n)
  mask : b.mask = ⟨n.ones, n.bits⟩
  le : b.startInt ≤ b.endInt
  inside : n.first ≤ b.startInt ∧ b.endInt ≤ n.last
  interior : n.ones ≠ n.bits → b.startInt ≠ n.first ∧ b.endInt ≠ n.last
  start_exact : ∃ m, Requested net n start n.first m ∧ b.startInt = startFor n m
  end_exact : ∃ m, Requested net n stop n.last m ∧ b.endInt = endFor n m

inductive Fails (accepts : CIDR → Bytes → Prop) (net : Texts) (cidr start stop : Bytes) : Prop
  | cidr {e : Bytes} :
    net.parseCIDR cidr = .error e → Fails accepts net cidr start stop
  | prefixLength {ip : Bytes} {n : CIDR} :
    net.parseCIDR cidr = .ok (ip, n) → n.ones + 1 = n.bits → Fails accepts net cidr start stop
  | start {ip : Bytes} {n : CIDR} :
    net.parseCIDR cidr = .ok (ip, n) → Refused accepts net n start → Fails accepts net cidr start stop
  | stop {ip : Bytes} {n : CIDR} :
    net.parseCIDR cidr = .ok (ip, n) → Refused accepts net n stop → Fails accepts net cidr start stop
  | order {ip : Bytes} {n : CIDR} {m m' : Nat} :
    net.parseCIDR cidr = .ok (ip, n) → Requested net n start n.first m → Requested net n stop n.last m' →
    endFor n m' < startFor n m → Fails accepts net cidr start stop

theorem le_startFor : m ≤ startFor n m := by
  rw [startFor]
  split
  case isTrue => exact Nat.le_succ m
  case isFalse => exact le_rfl

theorem endFor_le : endFor n m ≤ m := by
  rw [endFor]
  split
  case isTrue => exact Nat.sub_le m 1
  case isFalse => exact le_rfl

theorem first_ne_startFor (h : n.ones ≠ n.bits) : startFor n m ≠ n.first := by
  rw [startFor]
  split
  case isTrue hc => omega
  case isFalse hc => exact fun hm => hc ⟨h, hm⟩

theorem last_pos (h : n.ones ≠ n.bits) : 0 < n.last := by
  have hk : 1 < 2 ^ (n.bits - n.ones) := Nat.one_lt_two_pow (by have := n.le; omega)
  rw [CIDR.last]
  omega

theorem last_ne_endFor (h : n.ones ≠ n.bits) : endFor n m ≠ n.last := by
  have hl := last_pos h
  rw [endFor]
  split
  case isTrue hc => omega
  case isFalse hc => exact fun hm => hc ⟨h, hm⟩

theorem Built.of_bound {startIP endIP : Bytes} {s e : Nat} (hc : ∃ ip, net.parseCIDR cidr = .ok (ip, n))
    (hm : b.mask = ⟨n.ones, n.bits⟩) (hp : n.ones + 1 ≠ n.bits) (hbs : Bound n startIP s) (hbe : Bound n endIP e)
    (hs : b.startInt = IPAM.startIntOf n startIP) (he : b.endInt = IPAM.endIntOf n endIP)
    (hrs : Requested net n start n.first s) (hre : Requested net n stop n.last e) :
    Built net cidr start stop b n := by
  have hs' := hs.trans (hbs.startIntOf hp)
  have he' := he.trans (hbe.endIntOf hp)
  exact {
    parsed := hc
    mask := hm
    le := b.le
    inside := ⟨(hbs.first.trans le_startFor).trans_eq hs'.symm, he'.trans_le (endFor_le.trans hbe.last)⟩
    interior := fun hn => ⟨hs'.trans_ne (first_ne_startFor hn), he'.trans_ne (last_ne_endFor hn)⟩
    start_exact := ⟨s, hrs, hs'⟩
    end_exact := ⟨e, hre, he'⟩ }

theorem Fails.elim {accepts : CIDR → Bytes → Prop} {s e : Nat} (h : Fails accepts net cidr start stop)
    (hc : net.parseCIDR cidr = .ok (ip, n)) (hp : n.ones + 1 ≠ n.bits)
    (hns : ¬Refused accepts net n start) (hne : ¬Refused accepts net n stop)
    (hrs : Requested net n start n.first s) (hre : Requested net n stop n.last e) :
    endFor n e < startFor n s := by
  cases h
  case cidr hc' => cases hc.symm.trans hc'
  case prefixLength hc' h => cases hc.symm.trans hc'; exact (hp h).elim
  case start hc' h => cases hc.symm.trans hc'; exact (hns h).elim
  case stop hc' h => cases hc.symm.trans hc'; exact (hne h).elim
  case order hc' h₁ h₂ h =>
    cases hc.symm.trans hc'
    rwa [hrs.unique h₁, hre.unique h₂]

theorem newBlock_cases (net : Texts) (cidr start stop : Bytes) :
    (∃ e, newBlock net cidr start stop = .error e) ∧ Fails CIDR.Accepts net cidr start stop ∨
    ∃ b n, newBlock net cidr start stop = .ok b ∧ Built net cidr start stop b n ∧
      ¬Fails CIDR.Accepts net cidr start stop := by
  rw [newBlock]
  cases hc : net.parseCIDR cidr
  case error e => exact .inl ⟨⟨_, rfl⟩, .cidr hc⟩
  case ok x =>
    obtain ⟨ip, n⟩ := x
    by_cases hp : n.ones + 1 = n.bits
    case pos => exact .inl ⟨⟨_, if_pos hp⟩, .prefixLength hc hp⟩
    case neg =>
      simp only [if_neg hp]
      cases boundIP_cases net (str "start") start (Bound.network (n := n))
      case inl hs =>
        obtain ⟨⟨e, hs⟩, hr⟩ := hs
        exact .inl ⟨⟨e, by rw [hs]; rfl⟩, .start hc hr⟩
      case inr hs =>
        obtain ⟨startIP, s, hs, hbs, hrs, hns⟩ := hs
        cases boundIP_cases net (str "end") stop hbs.broadcast
        case inl he =>
          obtain ⟨⟨e, he⟩, hr⟩ := he
          exact .inl ⟨⟨e, by simp only [hs, he, bind, Except.bind]⟩, .stop hc hr⟩
        case inr he =>
          obtain ⟨endIP, e, he, hbe, hre, hne⟩ := he
          have ho : startIntOf n startIP ≤ endIntOf n endIP ↔ startFor n s ≤ endFor n e := by
            rw [hbs.startIntOf hp, hbe.endIntOf hp]
          simp only [hs, he, bind, Except.bind]
          by_cases hle : startIntOf n startIP ≤ endIntOf n endIP
          case neg =>
            rw [dif_neg hle]
            rw [ho] at hle
            exact .inl ⟨⟨_, rfl⟩, .order hc hrs hre (not_le.mp hle)⟩
          case pos =>
            rw [dif_pos hle]
            refine .inr ⟨_, n, rfl, .of_bound ⟨ip, hc⟩ rfl hp hbs hbe rfl rfl hrs hre, fun hf => ?_⟩
            exact not_lt.mpr (ho.mp hle) (hf.elim hc hp hns hne hrs hre)

theorem Built.of_newBlock (h : newBlock net cidr start stop = .ok b) : ∃ n, Built net cidr start stop b n := by
  cases newBlock_cases net cidr start stop
  case inl hc =>
    obtain ⟨⟨e, he⟩, -⟩ := hc
    cases h.symm.trans he
  case inr hc =>
    obtain ⟨b', n, hb, hB, -⟩ := hc
    cases h.symm.trans hb
    exact ⟨n, hB⟩

theorem newBlock_error_iff :
    (∃ e, newBlock net cidr start stop = .error e) ↔ Fails CIDR.Accepts net cidr start stop := by
  cases newBlock_cases net cidr start stop
  case inl h => exact iff_of_true h.left h.right
  case inr h =>
    obtain ⟨b, n, hb, -, hf⟩ := h
    refine iff_of_false ?_ hf
    rintro ⟨e, he⟩
    cases hb.symm.trans he

-- There is none iff a text is not parsed or not accepted, the prefix is too long, or nothing is left.
theorem newBlock_exact (net : Texts) (cidr start stop : Bytes) :
    (∀ b, newBlock net cidr start stop = .ok b → ∃ n, Built net cidr start stop b n) ∧
    ((∃ e, newBlock net cidr start stop = .error e) ↔ Fails CIDR.Accepts net cidr start stop) :=
  ⟨fun _ => Built.of_newBlock, newBlock_error_iff⟩

-- The number of ::ffff:1.2.3.4 is one of ::/64, but the address counts as an IPv4 address.
theorem newBlock_refuses_mapped :
    newBlock IPAddressManager.rawTexts (List.replicate 16 0 ++ [64]) (v4InV6Prefix ++ [1, 2, 3, 4]) [] =
      .error (str "invalid start ip: out of cidr range") ∧
    ¬Fails CIDR.Inside IPAddressManager.rawTexts (List.replicate 16 0 ++ [64])
      (v4InV6Prefix ++ [1, 2, 3, 4]) [] := by
  refine ⟨rfl, fun hf => ?_⟩
  cases hf
  case cidr hc => cases hc
  case prefixLength hc h => cases hc; cases h
  case start hc h => cases hc; exact h.right _ rfl ⟨_, rfl, by decide, by decide⟩
  case stop hc h => exact h.left rfl
  case order hc h₁ h₂ h =>
    cases hc
    have hm : _ = 281470698652420 := h₁.unique ⟨_, rfl, rfl⟩
    cases hm
    cases h₂
    exact absurd h (by decide)

end IPAM
end Aranya
