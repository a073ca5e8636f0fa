import Mathlib.Data.Finset.Basic
import Mathlib.Data.List.Basic

namespace Aranya

-- The newest timers come first. Time itself is not part of the model: any timer can be the next one that
-- expires.
structure TimeoutQueue (κ δ : Type*) where
  data : List (κ × δ)

namespace TimeoutQueue

variable {κ δ : Type*} {q : TimeoutQueue κ δ} {key : κ} {val : δ}

def new : TimeoutQueue κ δ where
  data := []

def offerWithDelay (q : TimeoutQueue κ δ) (key : κ) (val : δ) : TimeoutQueue κ δ where
  data := (key, val) :: q.data

-- The index of the queue refers to the newest timer with the given key.
def remove [DecidableEq κ] (q : TimeoutQueue κ δ) (key : κ) : TimeoutQueue κ δ where
  data := q.data.eraseP (·.fst = key)

def expire (q : TimeoutQueue κ δ) (k : Nat) : Option (κ × δ × TimeoutQueue κ δ) :=
  q.data[k]?.map fun (key, val) => (key, val, { data := q.data.eraseIdx k })

theorem remove_of_notMem [DecidableEq κ] (h : ∀ d ∈ q.data, d.fst ≠ key) : q.remove key = q := by
  simp only [remove]
  rw [List.eraseP_of_forall_not (by simpa using h)]

theorem expire_eq_some {k q'} (h : q.expire k = some (key, val, q')) :
    q.data[k]? = some (key, val) ∧ q' = { data := q.data.eraseIdx k } := by
  simp only [expire, Option.map_eq_some_iff] at h
  have ⟨_, h₁, h₂⟩ := h
  cases h₂
  exact ⟨h₁, rfl⟩

end TimeoutQueue

structure GuardedQueue (κ δ : Type*) extends TimeoutQueue κ δ where
  blackList : Finset κ

namespace GuardedQueue

variable {κ δ : Type*} [DecidableEq κ]

def new : GuardedQueue κ δ where
  data := []
  blackList := ∅

def allow (q : GuardedQueue κ δ) (key : κ) : GuardedQueue κ δ :=
  { q with blackList := q.blackList.erase key }

def forbid (q : GuardedQueue κ δ) (key : κ) : GuardedQueue κ δ :=
  { q with blackList := insert key q.blackList }

def remove (q : GuardedQueue κ δ) (key : κ) : GuardedQueue κ δ :=
  { q with toTimeoutQueue := q.toTimeoutQueue.remove key }

def offerWithDelay (q : GuardedQueue κ δ) (key : κ) (val : δ) : Option (GuardedQueue κ δ) :=
  if key ∈ q.blackList then none
  else some { q with toTimeoutQueue := q.toTimeoutQueue.offerWithDelay key val }

end GuardedQueue
end Aranya
