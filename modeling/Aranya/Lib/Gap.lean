import Mathlib.Order.Interval.Finset.Nat

namespace Aranya

-- The numbers below it are the longest gap-free run from `0` that the set contains.
def gap (R : Finset ℕ) : ℕ :=
  Nat.find (Infinite.exists_notMem_finset R)

variable {R : Finset ℕ} {i k n : ℕ}

theorem gap_notMem (R : Finset ℕ) : gap R ∉ R :=
  Nat.find_spec (Infinite.exists_notMem_finset R)

theorem mem_of_lt_gap (h : k < gap R) : k ∈ R :=
  not_not.mp <| Nat.find_min (Infinite.exists_notMem_finset R) h

theorem gap_eq_iff : gap R = k ↔ (k ∉ R ∧ ∀ j < k, j ∈ R) := by
  simp [gap, Nat.find_eq_iff]

@[simp]
theorem gap_empty : gap ∅ = 0 := by
  simp [gap_eq_iff]

theorem gap_le_of_notMem (h : k ∉ R) : gap R ≤ k := by
  by_contra hc
  exact h <| mem_of_lt_gap (by omega)

theorem gap_le_of_forall_lt (h : ∀ j ∈ R, j < n) : gap R ≤ n :=
  gap_le_of_notMem fun hn => (h n hn).false

theorem gap_le_gap_insert : gap R ≤ gap (insert i R) := by
  by_contra hc
  exact gap_notMem (insert i R) <| Finset.mem_insert_of_mem <| mem_of_lt_gap (by omega)

theorem gap_insert_of_ne (h : i ≠ gap R) : gap (insert i R) = gap R := by
  rw [gap_eq_iff]
  refine ⟨?_, fun j hj => Finset.mem_insert_of_mem (mem_of_lt_gap hj)⟩
  simp [h.symm, gap_notMem]

theorem gap_insert_gap (hk : ∀ j, gap R < j → j < k → j ∈ R) (hg : gap R < k) (hn : k ∉ R) :
    gap (insert (gap R) R) = k := by
  rw [gap_eq_iff]
  refine ⟨by simp [hg.ne', hn], fun j hj => ?_⟩
  rcases Nat.lt_trichotomy j (gap R) with h | h | h
  case inl => exact Finset.mem_insert_of_mem (mem_of_lt_gap h)
  case inr.inl => exact h ▸ Finset.mem_insert_self ..
  case inr.inr => exact Finset.mem_insert_of_mem (hk j h hj)

theorem gap_eq_card_iff (h : ∀ j ∈ R, j < n) : gap R = n ↔ ∀ j < n, j ∈ R := by
  rw [gap_eq_iff]
  exact ⟨And.right, fun hj => ⟨fun hn => (h n hn).false, hj⟩⟩

end Aranya
