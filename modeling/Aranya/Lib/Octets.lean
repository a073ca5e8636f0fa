import Mathlib.Tactic.Ring

namespace Aranya
namespace Octets

-- Numbers as lists of octets, beginning with the least significant one.
def ofLE : List UInt8 → Nat
  | [] => 0
  | b :: bs => b.toNat + 256 * ofLE bs

def toLE : Nat → Nat → List UInt8
  | 0, _ => []
  | size + 1, n => UInt8.ofNat n :: toLE size (n / 256)

def incLE : List UInt8 → List UInt8
  | [] => []
  | b :: bs => if 0 < b + 1 then (b + 1) :: bs else (b + 1) :: incLE bs

def decLE : List UInt8 → List UInt8
  | [] => []
  | b :: bs => if b - 1 < 255 then (b - 1) :: bs else (b - 1) :: decLE bs

def toNat (bs : List UInt8) : Nat :=
  ofLE bs.reverse

-- A number that is too large loses its most significant octets.
def ofNat (size n : Nat) : List UInt8 :=
  (toLE size n).reverse

def inc (bs : List UInt8) : List UInt8 :=
  (incLE bs.reverse).reverse

def dec (bs : List UInt8) : List UInt8 :=
  (decLE bs.reverse).reverse

variable {bs cs : List UInt8} {size n : Nat}

theorem length_toLE : (toLE size n).length = size := by
  induction size generalizing n
  case zero => rfl
  case succ size hi => simp [toLE, hi]

theorem length_incLE : (incLE bs).length = bs.length := by
  induction bs
  case nil => rfl
  case cons b bs hi => grind [incLE]

theorem length_decLE : (decLE bs).length = bs.length := by
  induction bs
  case nil => rfl
  case cons b bs hi => grind [decLE]

theorem ofLE_lt (bs : List UInt8) : ofLE bs < 256 ^ bs.length := by
  induction bs
  case nil => simp [ofLE]
  case cons b bs hi =>
    have := b.toNat_lt
    simp only [ofLE, List.length_cons, Nat.pow_succ]
    omega

theorem ofLE_toLE : ofLE (toLE size n) = n % 256 ^ size := by
  induction size generalizing n
  case zero => simp [toLE, ofLE, Nat.mod_one]
  case succ size hi =>
    rw [toLE, ofLE, hi, Nat.pow_succ', Nat.mod_mul]
    simp

theorem toLE_ofLE : toLE bs.length (ofLE bs) = bs := by
  induction bs
  case nil => rfl
  case cons b bs hi =>
    have := b.toNat_lt
    have hd : (b.toNat + 256 * ofLE bs) / 256 = ofLE bs := by omega
    have hm : UInt8.ofNat (b.toNat + 256 * ofLE bs) = b := by
      apply UInt8.toNat_inj.mp
      rw [UInt8.toNat_ofNat']
      omega
    rw [List.length_cons, ofLE, toLE, hd, hi, hm]

theorem toNat_add_one (b : UInt8) : (b + 1).toNat = (b.toNat + 1) % 256 := by
  simp

-- The carry out of the most significant octet is lost.
theorem ofLE_incLE : ofLE (incLE bs) = (ofLE bs + 1) % 256 ^ bs.length := by
  induction bs
  case nil => simp [incLE, ofLE]
  case cons b bs hi =>
    have hb := b.toNat_lt
    have hl := ofLE_lt bs
    rw [incLE, List.length_cons, Nat.pow_succ']
    simp only [UInt8.lt_iff_toNat_lt, UInt8.toNat_zero, toNat_add_one]
    split
    case isTrue h =>
      rw [ofLE, ofLE, toNat_add_one, Nat.mod_eq_of_lt (b := 256 * _) (by omega)]
      omega
    case isFalse h =>
      have hb' : b.toNat = 255 := by omega
      have hc : 255 + 256 * ofLE bs + 1 = 256 * (ofLE bs + 1) := by omega
      rw [ofLE, ofLE, toNat_add_one, hi, hb', hc, Nat.mul_mod_mul_left, Nat.mod_self, Nat.zero_add]

-- Nothing is borrowed from beyond the most significant octet.
theorem ofLE_decLE (h : 0 < ofLE bs) : ofLE (decLE bs) = ofLE bs - 1 := by
  induction bs
  case nil => cases h
  case cons b bs hi =>
    have hb := b.toNat_lt
    have hd : (b - 1).toNat = (b.toNat + 255) % 256 := by
      rw [UInt8.toNat_sub, UInt8.toNat_one]
      omega
    rw [decLE]
    simp only [UInt8.lt_iff_toNat_lt, hd]
    split
    case isTrue h' =>
      have hb' : b.toNat ≠ 0 := fun h => by simp [h] at h'
      rw [ofLE, ofLE, hd]
      omega
    case isFalse h' =>
      have hb' : b.toNat = 0 := by
        have : ¬(b.toNat + 255) % 256 < 255 := h'
        omega
      rw [ofLE, hb'] at h
      rw [ofLE, ofLE, hd, hi (by omega), hb']
      omega

@[simp]
theorem length_ofNat : (ofNat size n).length = size := by
  rw [ofNat, List.length_reverse, length_toLE]

@[simp]
theorem length_inc : (inc bs).length = bs.length := by
  rw [inc, List.length_reverse, length_incLE, List.length_reverse]

@[simp]
theorem length_dec : (dec bs).length = bs.length := by
  rw [dec, List.length_reverse, length_decLE, List.length_reverse]

theorem toNat_lt (bs : List UInt8) : toNat bs < 256 ^ bs.length := by
  rw [← List.length_reverse]
  exact ofLE_lt bs.reverse

theorem toNat_ofNat : toNat (ofNat size n) = n % 256 ^ size := by
  rw [toNat, ofNat, List.reverse_reverse, ofLE_toLE]

theorem ofNat_toNat (bs : List UInt8) : ofNat bs.length (toNat bs) = bs := by
  rw [ofNat, toNat, ← List.length_reverse, toLE_ofLE, List.reverse_reverse]

theorem toNat_inc : toNat (inc bs) = (toNat bs + 1) % 256 ^ bs.length := by
  rw [toNat, inc, List.reverse_reverse, ofLE_incLE, List.length_reverse, toNat]

theorem toNat_dec (h : 0 < toNat bs) : toNat (dec bs) = toNat bs - 1 := by
  rw [toNat, dec, List.reverse_reverse, ofLE_decLE h, toNat]

theorem toNat_injective (hl : bs.length = cs.length) (h : toNat bs = toNat cs) : bs = cs := by
  rw [← ofNat_toNat bs, h, hl, ofNat_toNat]

theorem ofLE_append : ofLE (bs ++ cs) = ofLE bs + 256 ^ bs.length * ofLE cs := by
  induction bs
  case nil => simp [ofLE]
  case cons b bs hi =>
    rw [List.cons_append, ofLE, ofLE, hi, List.length_cons, Nat.pow_succ']
    ring

theorem toNat_append : toNat (bs ++ cs) = 256 ^ cs.length * toNat bs + toNat cs := by
  rw [toNat, List.reverse_append, ofLE_append, List.length_reverse, Nat.add_comm]
  rfl

end Octets

-- The numbers that differ only in their last bits from one in which these are cleared.
theorem or_two_pow_sub_one {k m : Nat} : (2 ^ k - 1) ||| m = 2 ^ k * (m / 2 ^ k) + (2 ^ k - 1) := by
  have hk : 0 < 2 ^ k := Nat.two_pow_pos k
  have hr : (2 ^ k - 1) ||| (m % 2 ^ k) = 2 ^ k - 1 := by
    apply Nat.eq_of_testBit_eq
    intro i
    by_cases hi : i < k
    case pos => simp [hi]
    case neg =>
      have hm := (Nat.mod_lt m hk).trans_le (Nat.pow_le_pow_right (by omega) (not_lt.mp hi))
      simp [Nat.testBit_lt_two_pow hm]
  calc (2 ^ k - 1) ||| m
    _ = (2 ^ k - 1) ||| (2 ^ k * (m / 2 ^ k) + m % 2 ^ k) := by
      rw [Nat.div_add_mod]
    _ = 2 ^ k * (m / 2 ^ k) ||| ((2 ^ k - 1) ||| (m % 2 ^ k)) := by
      rw [Nat.two_pow_add_eq_or_of_lt (Nat.mod_lt m hk), ← Nat.or_assoc, ← Nat.or_assoc,
        Nat.or_comm (2 ^ k - 1)]
    _ = 2 ^ k * (m / 2 ^ k) + (2 ^ k - 1) := by
      rw [hr, Nat.two_pow_add_eq_or_of_lt (by omega)]

theorem div_two_pow_eq_iff {k x y : Nat} (h : x % 2 ^ k = 0) :
    x / 2 ^ k = y / 2 ^ k ↔ x ≤ y ∧ y ≤ x + (2 ^ k - 1) := by
  have hk : 0 < 2 ^ k := Nat.two_pow_pos k
  obtain ⟨q, rfl⟩ := Nat.dvd_of_mod_eq_zero h
  rw [Nat.mul_div_cancel_left q hk, eq_comm, Nat.div_eq_iff hk, Nat.mul_comm]
  omega

theorem add_lt_two_pow {k m x : Nat} (h : x % 2 ^ k = 0) (hk : k ≤ m) (hx : x < 2 ^ m) :
    x + (2 ^ k - 1) < 2 ^ m := by
  have hp : 2 ^ m = 2 ^ k * 2 ^ (m - k) := by
    rw [← Nat.pow_add, Nat.add_sub_cancel' hk]
  have hk : 0 < 2 ^ k := Nat.two_pow_pos k
  obtain ⟨q, rfl⟩ := Nat.dvd_of_mod_eq_zero h
  rw [hp] at hx
  have := Nat.mul_le_mul_left (2 ^ k) (Nat.lt_of_mul_lt_mul_left hx)
  rw [Nat.succ_eq_add_one, Nat.mul_add, Nat.mul_one, ← hp] at this
  omega

end Aranya
