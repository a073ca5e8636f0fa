import Mathlib.Data.List.Basic

namespace Aranya

variable {τ β : Type*}

def Since (h : List (τ × β)) (t : τ) (b : β) : Prop :=
  ∃ pre run, h = pre ++ (t, b) :: run ∧ (∀ x ∈ run, x.snd = b) ∧ ∀ x, pre.getLast? = some x → x.snd ≠ b

namespace Since

variable {h : List (τ × β)} {t u : τ} {b : β}

theorem mem (hs : Since h t b) : (t, b) ∈ h := by
  obtain ⟨pre, run, rfl, -⟩ := hs
  simp

theorem latest (hs : Since h t b) : ∃ u, h.getLast? = some (u, b) := by
  obtain ⟨pre, run, rfl, hr, -⟩ := hs
  cases hl : run.getLast?
  case none =>
    cases List.getLast?_eq_none_iff.mp hl
    exact ⟨t, by simp⟩
  case some x =>
    have hx := hr x (List.mem_of_getLast? hl)
    exact ⟨x.fst, by simp [List.getLast?_cons, hl, ← hx]⟩

theorem append (hs : Since h t b) : Since (h ++ [(u, b)]) t b := by
  obtain ⟨pre, run, rfl, hr, hp⟩ := hs
  refine ⟨pre, run ++ [(u, b)], by simp, ?_, hp⟩
  intro x hx
  cases List.mem_append.mp hx
  case inl hx => exact hr x hx
  case inr hx => rw [List.mem_singleton.mp hx]

theorem append_of_ne (hb : ∀ x, h.getLast? = some x → x.snd ≠ b) : Since (h ++ [(u, b)]) u b :=
  ⟨h, [], rfl, by simp, hb⟩

end Since
end Aranya
