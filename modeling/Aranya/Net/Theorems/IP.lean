import Aranya.IPAM.Block

namespace Aranya
namespace Net

variable {ip x y : Bytes}

theorem ipString_of_length_4 (h : ip.length = 4) : ipString ip = v4InV6Prefix ++ ip := by
  simp [ipString, to16, h]

theorem ipString_of_length_16 (h : ip.length = 16) : ipString ip = ip := by
  simp [ipString, to16, h]

theorem ipString_of_length_ne (h₁ : ip.length ≠ 4) (h₂ : ip.length ≠ 16) : ipString ip = ip := by
  simp [ipString, to16, h₁, h₂]

theorem to4_eq_some_iff (h : ip.length = 16) : to4 ip = some x ↔ ip = v4InV6Prefix ++ x := by
  simp only [to4, h, Nat.reduceEqDiff, if_false, true_and]
  constructor
  case mp =>
    intro hx
    split at hx
    case isTrue hp => cases hx; rw [← hp, List.take_append_drop]
    case isFalse => cases hx
  case mpr =>
    intro hx
    simp [hx, v4InV6Prefix]

theorem ipString_to4 (h : to4 ip = some x) : ipString ip = ipString x := by
  have hx := length_to4 h
  by_cases hl : ip.length = 4
  case pos =>
    obtain rfl : ip = x := by simpa [to4, hl] using h
    rfl
  case neg =>
    have hl' : ip.length = 16 := by
      by_contra hn
      simp [to4, hl, hn] at h
    rw [ipString_of_length_16 hl', ipString_of_length_4 hx]
    exact (to4_eq_some_iff hl').mp h

theorem ipString_to16 (h : to16 ip = some x) : ipString ip = ipString x := by
  rw [ipString_of_length_16 (length_to16 h), ipString, h, Option.getD_some]

theorem length_ipString (ip : Bytes) : (ipString ip).length = if ip.length = 4 then 16 else ip.length := by
  split
  case isTrue h => simp [ipString_of_length_4 h, h, v4InV6Prefix]
  case isFalse h =>
    by_cases h' : ip.length = 16
    case pos => rw [ipString_of_length_16 h']
    case neg => rw [ipString_of_length_ne h h']

theorem ipString_injective (h : ipString x = ipString y) (hl : x.length = y.length) : x = y := by
  by_cases h₁ : x.length = 4
  case pos =>
    rw [ipString_of_length_4 h₁, ipString_of_length_4 (hl ▸ h₁)] at h
    exact List.append_cancel_left h
  case neg =>
    by_cases h₂ : x.length = 16
    case pos => rwa [ipString_of_length_16 h₂, ipString_of_length_16 (hl ▸ h₂)] at h
    case neg => rwa [ipString_of_length_ne h₁ h₂, ipString_of_length_ne (hl ▸ h₁) (hl ▸ h₂)] at h

theorem equal_iff : equal x y = true ↔ ipString x = ipString y := by
  have hp {a b : Bytes} (ha : a.length = 4) (hb : b.length = 16) :
      (b.take 12 = v4InV6Prefix ∧ a = b.drop 12) ↔ v4InV6Prefix ++ a = b := by
    constructor
    case mp => rintro ⟨h₁, h₂⟩; rw [← h₁, h₂, List.take_append_drop]
    case mpr => intro h; simp [← h, v4InV6Prefix]
  have hlx := length_ipString x
  have hly := length_ipString y
  simp only [equal]
  split
  case isTrue hl =>
    simp only [decide_eq_true_eq]
    exact ⟨fun h => h ▸ rfl, fun h => ipString_injective h hl⟩
  case isFalse hl =>
    split
    case isTrue h =>
      rw [decide_eq_true_eq, hp h.left h.right, ipString_of_length_4 h.left, ipString_of_length_16 h.right]
    case isFalse h₁ =>
      split
      case isTrue h =>
        rw [decide_eq_true_eq, ipString_of_length_16 h.left, ipString_of_length_4 h.right,
          eq_comm (a := List.drop 12 x), hp h.right h.left, eq_comm]
      case isFalse h₂ =>
        -- The texts do not even have the same length.
        simp only [Bool.false_eq_true, false_iff]
        intro h
        rw [h] at hlx
        grind

end Net

namespace IPAM

open Net

variable {bits n m : Nat} {ip x : Bytes}

theorem pow_family (hf : bits = ipv4Bits ∨ bits = ipv6Bits) : 256 ^ (bits / 8) = 2 ^ bits := by
  cases hf
  case inl hf => subst hf; rfl
  case inr hf => subst hf; rfl

theorem length_intToIP : (intToIP n bits).length = bits / 8 :=
  Octets.length_ofNat

theorem toNat_intToIP (hf : bits = ipv4Bits ∨ bits = ipv6Bits) (h : n < 2 ^ bits) :
    Octets.toNat (intToIP n bits) = n := by
  rw [intToIP, Octets.toNat_ofNat, pow_family hf, Nat.mod_eq_of_lt h]

theorem intToIP_toNat (h : x.length = bits / 8) : intToIP (Octets.toNat x) bits = x := by
  rw [intToIP, ← h, Octets.ofNat_toNat]

theorem normFunc_of_length (hf : bits = ipv4Bits ∨ bits = ipv6Bits) (h : x.length = bits / 8) :
    normFunc bits x = some x := by
  cases hf
  case inl hf =>
    subst hf
    replace h : x.length = 4 := h
    simp [normFunc, to4, h]
  case inr hf =>
    subst hf
    replace h : x.length = 16 := h
    simp [normFunc, to16, h]

theorem ipString_normFunc (h : normFunc bits ip = some x) : ipString ip = ipString x := by
  simp only [normFunc] at h
  split at h
  case isTrue => exact ipString_to16 h
  case isFalse => exact ipString_to4 h

theorem normFunc_of_ipString (hf : bits = ipv4Bits ∨ bits = ipv6Bits) (hl : x.length = bits / 8)
    (h : ipString ip = ipString x) : normFunc bits ip = some x := by
  have hi := length_ipString ip
  cases hf
  case inl hf =>
    subst hf
    replace hl : x.length = 4 := hl
    rw [ipString_of_length_4 hl] at h
    by_cases h₄ : ip.length = 4
    case pos =>
      rw [ipString_of_length_4 h₄] at h
      obtain rfl : ip = x := List.append_cancel_left h
      exact normFunc_of_length (.inl rfl) h₄
    case neg =>
      have h₁₆ : ip.length = 16 := by
        rw [h, if_neg h₄, List.length_append, hl] at hi
        exact hi.symm
      exact (to4_eq_some_iff h₁₆).mpr (ipString_of_length_16 h₁₆ ▸ h)
  case inr hf =>
    subst hf
    replace hl : x.length = 16 := hl
    rw [ipString_of_length_16 hl] at h
    by_cases h₄ : ip.length = 4
    case pos => simp [normFunc, to16, h₄, ← h, ipString_of_length_4 h₄]
    case neg =>
      rw [h, if_neg h₄, hl] at hi
      rw [ipString_of_length_16 hi.symm] at h
      simp [normFunc, to16, ← h, ← hi]

theorem ipString_intToIP_injective (hf : bits = ipv4Bits ∨ bits = ipv6Bits) (hn : n < 2 ^ bits)
    (hm : m < 2 ^ bits) (h : ipString (intToIP n bits) = ipString (intToIP m bits)) : n = m := by
  have := ipString_injective h (length_intToIP.trans length_intToIP.symm)
  rw [← toNat_intToIP hf hn, this, toNat_intToIP hf hm]

-- The last addresses of both families, and the last IPv4 address in its long form, since only its last four
-- bytes are incremented.
def Wraps (bits n : Nat) : Prop :=
  n + 1 = 2 ^ bits ∨ bits = ipv6Bits ∧ n + 1 = 2 ^ 48

-- The functions of `go-cidr` change an IPv4 address in its long form like the one in its short form.
theorem normFunc_checkIPv4 {f : Bytes → Bytes} (hf : bits = ipv4Bits ∨ bits = ipv6Bits)
    (hl : ∀ bs, (f bs).length = bs.length) (hm : Octets.toNat (f (intToIP n bits)) = m)
    (hp : ∀ y, intToIP n bits = v4InV6Prefix ++ y → Octets.toNat (v4InV6Prefix ++ f y) = m) :
    normFunc bits (f (checkIPv4 (intToIP n bits))) = some (intToIP m bits) := by
  have hl' : (intToIP n bits).length = bits / 8 := length_intToIP
  suffices hs : ∃ x, normFunc bits (f (checkIPv4 (intToIP n bits))) = some x ∧ Octets.toNat x = m by
    obtain ⟨x, hx, hn⟩ := hs
    rw [hx, ← hn, intToIP_toNat (length_normFunc hf hx)]
  -- All bytes are changed if the address is not the long form of an IPv4 address.
  have ha (hc : checkIPv4 (intToIP n bits) = intToIP n bits) :
      ∃ x, normFunc bits (f (checkIPv4 (intToIP n bits))) = some x ∧ Octets.toNat x = m :=
    ⟨_, by rw [hc, normFunc_of_length hf ((hl _).trans hl')], hm⟩
  cases hc : to4 (intToIP n bits)
  case none => exact ha (by rw [checkIPv4, hc, Option.getD_none])
  case some y =>
    cases hf
    case inl hf =>
      subst hf
      replace hl' : (intToIP n ipv4Bits).length = 4 := hl'
      exact ha (by simp [checkIPv4, to4, hl'])
    case inr hf =>
      subst hf
      have hy := length_to4 hc
      refine ⟨v4InV6Prefix ++ f y, ?_, hp y ((to4_eq_some_iff hl').mp hc)⟩
      simp [checkIPv4, hc, normFunc, to16, hl, hy]

theorem toNat_mapped {y : Bytes} (hn : n < 2 ^ bits) (hf : bits = ipv4Bits ∨ bits = ipv6Bits)
    (h : intToIP n bits = v4InV6Prefix ++ y) :
    y.length = 4 ∧ bits = ipv6Bits ∧ n = 256 ^ 4 * 65535 + Octets.toNat y := by
  have hl := congrArg List.length h
  rw [length_intToIP, List.length_append] at hl
  replace hl : bits / 8 = 12 + y.length := hl
  cases hf
  case inl hf =>
    subst hf
    have : ipv4Bits / 8 = 4 := rfl
    omega
  case inr hf =>
    subst hf
    have : ipv6Bits / 8 = 16 := rfl
    have hy : y.length = 4 := by omega
    refine ⟨hy, rfl, ?_⟩
    rw [← toNat_intToIP (.inr rfl) hn, h, Octets.toNat_append, hy]
    rfl

theorem normFunc_inc (hf : bits = ipv4Bits ∨ bits = ipv6Bits) (hn : n < 2 ^ bits) (hw : ¬Wraps bits n) :
    normFunc bits (inc (intToIP n bits)) = some (intToIP (n + 1) bits) := by
  have hn' : n + 1 < 2 ^ bits := by
    have : n + 1 ≠ 2 ^ bits := fun h => hw (.inl h)
    omega
  refine normFunc_checkIPv4 hf (fun _ => Octets.length_inc) ?_ fun y hy => ?_
  case refine_1 =>
    rw [Octets.toNat_inc, length_intToIP, pow_family hf, toNat_intToIP hf hn, Nat.mod_eq_of_lt hn']
  case refine_2 =>
    obtain ⟨hy, hb, hv⟩ := toNat_mapped hn hf hy
    have hw' : n + 1 ≠ 2 ^ 48 := fun h => hw (.inr ⟨hb, h⟩)
    have hlt := Octets.toNat_lt y
    rw [hy] at hlt
    rw [Octets.toNat_append, Octets.length_inc, hy, Octets.toNat_inc, hy, Nat.mod_eq_of_lt (by omega)]
    have : Octets.toNat v4InV6Prefix = 65535 := rfl
    omega

-- Not for the first addresses of both families, nor for the first IPv4 address in its long form.
theorem normFunc_dec (hf : bits = ipv4Bits ∨ bits = ipv6Bits) (hn : n < 2 ^ bits) (h₀ : n ≠ 0)
    (hm : n ≠ 256 ^ 4 * 65535) : normFunc bits (dec (intToIP n bits)) = some (intToIP (n - 1) bits) := by
  refine normFunc_checkIPv4 hf (fun _ => Octets.length_dec) ?_ fun y hy => ?_
  case refine_1 =>
    have ht := toNat_intToIP hf hn
    rw [Octets.toNat_dec (by omega), ht]
  case refine_2 =>
    obtain ⟨hy, -, hv⟩ := toNat_mapped hn hf hy
    rw [Octets.toNat_append, Octets.length_dec, hy, Octets.toNat_dec (by omega)]
    have : Octets.toNat v4InV6Prefix = 65535 := rfl
    omega

end IPAM
end Aranya
