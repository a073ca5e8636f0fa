import Mathlib.Data.List.Basic

namespace Aranya

-- Binary search for the least number below `n` with the property `f`, if all numbers from there on have it.
def search (n : Nat) (f : Nat → Bool) : Nat :=
  loop n 0 n
where
  loop : Nat → Nat → Nat → Nat
    | 0, i, _ => i
    | fuel + 1, i, j =>
      if i < j then
        let h := (i + j) / 2
        if !f h then loop fuel (h + 1) j else loop fuel i h
      else
        i

namespace search

-- The numbers which a search below `n` looks at as long as none has the property.
def probes (n : Nat) : List Nat :=
  go n 0 n
where
  go : Nat → Nat → Nat → List Nat
    | 0, _, _ => []
    | fuel + 1, i, j => if i < j then (i + j) / 2 :: go fuel ((i + j) / 2 + 1) j else []

variable {n k fuel i j : Nat} {f : Nat → Bool}

theorem loop_of_false (hij : i < j) (hf : f ((i + j) / 2) = false) :
    loop f (fuel + 1) i j = loop f fuel ((i + j) / 2 + 1) j := by
  simp [loop, hij, hf]

theorem loop_of_true (hij : i < j) (hf : f ((i + j) / 2) = true) :
    loop f (fuel + 1) i j = loop f fuel i ((i + j) / 2) := by
  simp [loop, hij, hf]

theorem loop_of_none (hf : ∀ h, i ≤ h → h < j → f h = false) (hij : i ≤ j) (hl : j - i ≤ fuel) :
    loop f fuel i j = j := by
  induction fuel generalizing i
  case zero => rw [loop]; omega
  case succ fuel hi =>
    by_cases h : i < j
    case neg => rw [loop, if_neg h]; omega
    case pos =>
      rw [loop_of_false h (hf _ (by omega) (by omega))]
      exact hi (fun h hh => hf h (by omega)) (by omega) (by omega)

theorem mem_go (h : k ∈ probes.go fuel i j) : i ≤ k ∧ k < j := by
  induction fuel generalizing i
  case zero => simp [probes.go] at h
  case succ fuel hi =>
    rw [probes.go] at h
    split at h
    case isFalse => simp at h
    case isTrue hij =>
      cases List.mem_cons.mp h
      case inl hk => omega
      case inr hk => have := hi hk; omega

theorem loop_of_single (hk : f k = true) (hf : ∀ h < j, h ≠ k → f h = false) (hik : i ≤ k)
    (hkj : k < j) (hl : j - i ≤ fuel) : loop f fuel i j = if k ∈ probes.go fuel i j then k else j := by
  induction fuel generalizing i
  case zero => omega
  case succ fuel hi =>
    have hij : i < j := by omega
    rw [probes.go, if_pos hij]
    by_cases he : (i + j) / 2 = k
    case pos =>
      rw [loop_of_true hij (he ▸ hk), he, if_pos List.mem_cons_self]
      exact loop_of_none (fun h _ hh => hf h (by omega) (by omega)) hik (by omega)
    case neg =>
      rw [loop_of_false hij (hf _ (by omega) he)]
      simp only [List.mem_cons, Ne.symm he, false_or]
      by_cases hlt : (i + j) / 2 < k
      case pos => exact hi (by omega) (by omega)
      case neg =>
        -- The number is in the other half, which is not looked at any more.
        rw [if_neg fun h => by have := mem_go h; omega]
        exact loop_of_none (fun h _ hh => hf h hh (by omega)) (by omega) (by omega)

theorem of_none (hf : ∀ h < n, f h = false) : search n f = n :=
  loop_of_none (fun h _ hh => hf h hh) n.zero_le (Nat.le_refl _)

theorem of_single (hk : f k = true) (hf : ∀ h < n, h ≠ k → f h = false) (hn : k < n) :
    search n f = if k ∈ probes n then k else n :=
  loop_of_single hk hf k.zero_le hn (Nat.le_refl _)

end search
end Aranya
