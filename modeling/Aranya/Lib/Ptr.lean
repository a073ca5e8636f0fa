import Mathlib.Logic.Function.Basic

namespace Aranya

variable {α : Type*}

-- A pointer to an object at an address of a heap which others share, or to one that nobody else knows
-- about.
inductive Ptr (α : Type*)
  | held (addr : Nat)
  | own (obj : α)

namespace Ptr

def deref (heap : Nat → α) : Ptr α → α
  | .held addr => heap addr
  | .own obj => obj

def assign (heap : Nat → α) (p : Ptr α) (obj : α) : (Nat → α) × Ptr α :=
  match p with
  | .held addr => (Function.update heap addr obj, .held addr)
  | .own _ => (heap, .own obj)

variable {heap : Nat → α} {p : Ptr α} {obj : α} {addr : Nat}

@[simp]
theorem deref_own : (Ptr.own obj).deref heap = obj :=
  rfl

@[simp]
theorem assign_own {obj' : α} : (Ptr.own obj).assign heap obj' = (heap, .own obj') :=
  rfl

theorem assign_of_ne (h : p ≠ .held addr) : (p.assign heap obj).fst addr = heap addr := by
  cases p
  case own => rfl
  case held addr' =>
    have ha : addr ≠ addr' := fun ha => h (ha ▸ rfl)
    exact Function.update_of_ne ha ..

@[simp]
theorem deref_assign : (p.assign heap obj).snd.deref (p.assign heap obj).fst = obj := by
  cases p
  case own => rfl
  case held => exact Function.update_self ..

theorem assign_held : ((Ptr.held addr).assign heap obj).fst addr = obj :=
  Function.update_self ..

theorem exists_own (h : ∀ addr, p ≠ .held addr) : ∃ obj, p = .own obj := by
  cases p
  case own obj => exact ⟨obj, rfl⟩
  case held addr => exact absurd rfl (h addr)

theorem assign_eq_held : (p.assign heap obj).snd = .held addr ↔ p = .held addr := by
  cases p
  case own => exact ⟨nofun, nofun⟩
  case held => exact Iff.rfl

end Ptr
end Aranya
