import Aranya.Net.Theorems.IP

namespace Aranya.IPAM

open Net

namespace Block

variable {b : Block} {n m fuel : Nat} {r : Option Nat} {ip : Bytes}

instance : Membership Nat Block where
  mem b n := b.startInt ≤ n ∧ n ≤ b.endInt

theorem mem_iff : n ∈ b ↔ b.startInt ≤ n ∧ n ≤ b.endInt :=
  Iff.rfl

def key (b : Block) (n : Nat) : Bytes :=
  ipString (intToIP n b.mask.bits)

theorem ipString_intToIP : ipString (intToIP n b.mask.bits) = b.key n :=
  rfl

theorem mem_lt (h : n ∈ b) : n < 2 ^ b.mask.bits :=
  h.right.trans_lt b.lt

theorem key_injective (hn : n ∈ b) (hm : m ∈ b) (h : b.key n = b.key m) : n = m :=
  ipString_intToIP_injective b.family (mem_lt hn) (mem_lt hm) h

def Regular (b : Block) : Prop :=
  ∀ n ∈ b, ¬Wraps b.mask.bits n

theorem regular_of_lt (hb : b.mask.bits = ipv4Bits) (h : b.endInt + 1 < 2 ^ 32) : b.Regular := by
  rintro n hn (hw | ⟨hw, -⟩)
  case inl =>
    rw [hb] at hw
    replace hw : n + 1 = 2 ^ 32 := hw
    have := hn.right
    omega
  case inr => cases hb.symm.trans hw

-- The addresses are handed out in order: all before the next one are allocated, and all of them if there is
-- none.
structure Valid (b : Block) : Prop where
  allocated : ∀ {k}, k ∈ b.allocated → ∃ n ∈ b, k = b.key n
  next : ∀ {n}, b.next = some n → n ∈ b ∧ b.key n ∉ b.allocated
  below : ∀ {m}, m ∈ b → (∀ n, b.next = some n → m < n) → b.key m ∈ b.allocated

structure NextFree (b : Block) (n : Nat) (r : Option Nat) : Prop where
  found : ∀ {k}, r = some k → k ∈ b ∧ n < k ∧ b.key k ∉ b.allocated
  skipped : ∀ {m}, m ∈ b → n < m → (∀ k, r = some k → m < k) → b.key m ∈ b.allocated

theorem findUnused_succ (hr : b.Regular) (hn : n ∈ b) :
    b.findUnused (fuel + 1) (intToIP n b.mask.bits) =
      if b.endInt < n + 1 then .ok none
      else if b.key (n + 1) ∈ b.allocated then b.findUnused fuel (intToIP (n + 1) b.mask.bits)
      else .ok (some (n + 1)) := by
  have hw := hr n hn
  have hn' : n + 1 < 2 ^ b.mask.bits := by
    have := mem_lt hn
    have : n + 1 ≠ 2 ^ b.mask.bits := fun h => hw (.inl h)
    omega
  rw [findUnused, normFunc_inc b.family (mem_lt hn) hw, Option.getD_some, toNat_intToIP b.family hn', key]

-- The loop ends, since every round moves on to the next address of the block.
theorem findUnused_nextFree (hr : b.Regular) (hn : n ∈ b) (hl : b.endInt < n + fuel) :
    ∃ r, b.findUnused fuel (intToIP n b.mask.bits) = .ok r ∧ b.NextFree n r := by
  induction fuel generalizing n
  case zero => exact absurd hl (by simpa using hn.right)
  case succ fuel hi =>
    rw [findUnused_succ hr hn]
    split
    case isTrue he =>
      refine ⟨none, rfl, nofun, ?_⟩
      intro m hm hlt
      have := hm.right
      omega
    case isFalse he =>
      have hn' : n + 1 ∈ b := ⟨by have := hn.left; omega, by omega⟩
      split
      case isTrue ha =>
        obtain ⟨r, hf, hr'⟩ := hi hn' (by omega)
        refine ⟨r, hf, ?found, ?skipped⟩
        case found =>
          intro k hk
          obtain ⟨hk, hlt, ha⟩ := hr'.found hk
          exact ⟨hk, by omega, ha⟩
        case skipped =>
          intro m hm hlt hk
          by_cases he : m = n + 1
          case pos => exact he ▸ ha
          case neg => exact hr'.skipped hm (by omega) hk
      case isFalse ha =>
        refine ⟨some (n + 1), rfl, ?found, ?skipped⟩
        case found => rintro k ⟨⟩; exact ⟨hn', by omega, ha⟩
        case skipped => exact fun _ hlt hk => absurd (hk _ rfl) (by omega)

theorem moveToNextUnused_none (h : b.next = none) : b.moveToNextUnused = .ok (b, none) := by
  rw [moveToNextUnused, h]

theorem moveToNextUnused_some (hr : b.Regular) (hn : n ∈ b) (h : b.next = some n) :
    ∃ r, b.moveToNextUnused = .ok ({ b with next := r }, some (intToIP n b.mask.bits)) ∧
      b.NextFree n r := by
  obtain ⟨r, hf, hn'⟩ := findUnused_nextFree hr hn (b.lt.trans_le (Nat.le_add_left ..))
  refine ⟨r, ?_, hn'⟩
  simp only [moveToNextUnused, h, hf]
  rfl

theorem Valid.new (hn : b.next = some b.startInt) (ha : b.allocated = ∅) : b.Valid where
  allocated hk := by simp [ha] at hk
  next hk := by
    cases hn.symm.trans hk
    exact ⟨⟨le_rfl, b.le⟩, by simp [ha]⟩
  below hm hk := absurd (hk _ hn) (not_lt.mpr hm.left)

theorem Valid.move (v : b.Valid) (h : b.next = some n) (hf : b.NextFree n r) :
    { b with next := r, allocated := insert (b.key n) b.allocated }.Valid where
  allocated hk := by
    cases Finset.mem_insert.mp hk
    case inl hk => exact ⟨n, (v.next h).left, hk⟩
    case inr hk => exact v.allocated hk
  next hk := by
    obtain ⟨hk, hlt, ha⟩ := hf.found hk
    refine ⟨hk, fun hi => ?_⟩
    cases Finset.mem_insert.mp hi
    case inl he => exact hlt.ne' (key_injective hk (v.next h).left he)
    case inr hi => exact ha hi
  below {m} hm hk := by
    cases lt_trichotomy m n
    case inl hlt =>
      exact Finset.mem_insert_of_mem <| v.below hm fun n' hn' => Option.some.inj (h.symm.trans hn') ▸ hlt
    case inr hge =>
      cases hge
      case inl he => exact Finset.mem_insert.mpr <| .inl (he ▸ rfl)
      case inr hgt => exact Finset.mem_insert_of_mem <| hf.skipped hm hgt hk

theorem Valid.insert (v : b.Valid) (hm : m ∈ b) (hne : b.next ≠ some m) :
    { b with allocated := insert (b.key m) b.allocated }.Valid where
  allocated hk := by
    cases Finset.mem_insert.mp hk
    case inl hk => exact ⟨m, hm, hk⟩
    case inr hk => exact v.allocated hk
  next {n} hn := by
    obtain ⟨hn', ha⟩ := v.next hn
    refine ⟨hn', fun hi => ?_⟩
    cases Finset.mem_insert.mp hi
    case inl he => exact hne (key_injective hn' hm he ▸ hn)
    case inr hi => exact ha hi
  below hm hk := Finset.mem_insert_of_mem (v.below hm hk)

theorem Valid.erase (v : b.Valid) (hm : m ∈ b) (ha : b.key m ∈ b.allocated) (h : b.next = some n) :
    { b with next := if m < n then some m else b.next, allocated := b.allocated.erase (b.key m) }.Valid where
  allocated hk := v.allocated (Finset.mem_of_mem_erase hk)
  next {k} hk := by
    by_cases hlt : m < n
    case pos =>
      simp only [if_pos hlt] at hk
      cases hk
      exact ⟨hm, fun hi => Finset.notMem_erase _ _ hi⟩
    case neg =>
      simp only [if_neg hlt] at hk
      exact ⟨(v.next hk).left, fun hi => (v.next hk).right (Finset.mem_of_mem_erase hi)⟩
  below {k} hk hb := by
    have hne : m ≠ n := fun he => (v.next h).right (he ▸ ha)
    have hkn : k < n ∧ k ≠ m := by
      by_cases hlt : m < n
      case pos =>
        simp only [if_pos hlt] at hb
        have := hb m rfl
        omega
      case neg =>
        simp only [if_neg hlt] at hb
        have := hb n h
        omega
    refine Finset.mem_erase.mpr ⟨fun he => hkn.right (key_injective hk hm he), ?_⟩
    exact v.below hk fun n' hn' => Option.some.inj (h.symm.trans hn') ▸ hkn.left

def Known (b : Block) (ip : Bytes) : Prop :=
  normFunc b.mask.bits ip ≠ none ∨ b.startInt ≠ 0

theorem normFunc_of_key (hk : ipString ip = b.key n) :
    normFunc b.mask.bits ip = some (intToIP n b.mask.bits) :=
  normFunc_of_ipString b.family length_intToIP hk

theorem contains_of_key (hn : n ∈ b) (hk : ipString ip = b.key n) : b.contains ip = true := by
  rw [contains, normFunc_of_key hk, setBytes, Option.getD_some, toNat_intToIP b.family (mem_lt hn)]
  simpa using mem_iff.mp hn

theorem contains_iff_key (h : b.Known ip) : b.contains ip = true ↔ ∃ n ∈ b, ipString ip = b.key n := by
  constructor
  case mpr => rintro ⟨n, hn, hk⟩; exact contains_of_key hn hk
  case mp =>
    intro hc
    simp only [contains, Bool.and_eq_true, decide_eq_true_eq] at hc
    cases hx : normFunc b.mask.bits ip
    case some x =>
      rw [hx] at hc
      refine ⟨Octets.toNat x, hc, ?_⟩
      rw [key, intToIP_toNat (length_normFunc b.family hx), ipString_normFunc hx]
    case none =>
      rw [hx] at hc
      exact absurd (Nat.le_zero.mp hc.left) (h.resolve_left (· hx))

theorem allocate_nil_none (h : b.next = none) : b.allocate none = .ok (b, .error (str "no ip available")) := by
  simp only [allocate, moveToNextUnused_none h]
  rfl

theorem allocate_nil_some (hr : b.Regular) (hn : n ∈ b) (h : b.next = some n) :
    ∃ r, b.NextFree n r ∧ b.allocate none =
      .ok ({ b with next := r, allocated := insert (b.key n) b.allocated },
        .ok ⟨intToIP n b.mask.bits, b.mask⟩) := by
  obtain ⟨r, hm, hf⟩ := moveToNextUnused_some hr hn h
  refine ⟨r, hf, ?_⟩
  simp only [allocate, hm]
  rfl

theorem allocate_used (hn : n ∈ b) (hk : ipString ip = b.key n) (ha : b.key n ∈ b.allocated) :
    b.allocate (some ip) = .ok (b, .error (str "requested ip already used")) := by
  simp [allocate, contains_of_key hn hk, hk, ha]

theorem allocate_free (v : b.Valid) (hr : b.Regular) (hn : n ∈ b) (hk : ipString ip = b.key n)
    (ha : b.key n ∉ b.allocated) :
    ∃ r, { b with next := r, allocated := insert (b.key n) b.allocated }.Valid ∧
      b.allocate (some ip) =
        .ok ({ b with next := r, allocated := insert (b.key n) b.allocated }, .ok ⟨ip, b.mask⟩) := by
  have hc := contains_of_key hn hk
  cases h : b.next
  case none => exact absurd (v.below hn fun k hk => by simp [h] at hk) ha
  case some k =>
    by_cases he : k = n
    case pos =>
      subst he
      obtain ⟨r, hm, hf⟩ := moveToNextUnused_some hr hn h
      refine ⟨r, v.move h hf, ?_⟩
      simp only [allocate, hc, hk, ha, h, equal_iff.mpr hk, hm]
      rfl
    case neg =>
      have hne : equal ip (intToIP k b.mask.bits) = false := by
        rw [Bool.eq_false_iff, Ne, equal_iff, hk]
        exact fun hk' => he (key_injective (v.next h).left hn hk'.symm)
      refine ⟨b.next, v.insert hn (by simpa [h] using he), ?_⟩
      conv_lhs => simp only [allocate, hc, hk, ha, h, hne]
      rfl

theorem putBack_unused (h : ∀ n ∈ b, ipString ip = b.key n → b.key n ∉ b.allocated) :
    b.putBack ip = .ok (b, false) := by
  rw [putBack]
  split
  case isTrue => rfl
  case isFalse hc =>
    split
    case h_1 => rfl
    case h_2 x hx =>
      have hx' : normFunc b.mask.bits ip ≠ none := by simp [hx]
      obtain ⟨n, hn, hk⟩ := (contains_iff_key (.inl hx')).mp (by simpa using hc)
      rw [← ipString_normFunc hx, hk, if_neg (h n hn hk)]

theorem putBack_none (hn : n ∈ b) (hk : ipString ip = b.key n) (ha : b.key n ∈ b.allocated)
    (h : b.next = none) : b.putBack ip = .error .nilDereference := by
  simp only [putBack, contains_of_key hn hk, normFunc_of_key hk, ipString_intToIP, ha, h]
  rfl

theorem putBack_some (hn : n ∈ b) (hk : ipString ip = b.key n) (ha : b.key n ∈ b.allocated)
    (h : b.next = some m) :
    b.putBack ip = .ok (
      { b with next := if n < m then some n else b.next, allocated := b.allocated.erase (b.key n) },
      true) := by
  conv_lhs =>
    simp only [putBack, contains_of_key hn hk, normFunc_of_key hk, ipString_intToIP, ha, h,
      toNat_intToIP b.family (mem_lt hn)]
  by_cases hlt : n < m
  case pos => simp only [hlt]; rfl
  case neg => simp only [hlt, h]; rfl

end Block
end Aranya.IPAM
