import Mathlib.Tactic.Common

namespace Aranya

variable {ε σ α β : Type} {x : ExceptT ε (StateM σ) α} {f : α → ExceptT ε (StateM σ) β} {s s' : σ} {r : α}
    {t : β} {e : ε}

theorem run_bind_ok (h : x.run s = (.ok r, s')) : (x >>= f).run s = (f r).run s' := by
  rw [ExceptT.run_bind]
  show StateT.bind _ _ s = _
  simp only [StateT.bind]
  rw [h]
  rfl

theorem run_bind_error (h : x.run s = (.error e, s')) : (x >>= f).run s = (.error e, s') := by
  rw [ExceptT.run_bind]
  show StateT.bind _ _ s = _
  simp only [StateT.bind]
  rw [h]
  rfl

theorem run_bind_eq_ok (h : (x >>= f).run s = (.ok t, s')) :
    ∃ r s₁, x.run s = (.ok r, s₁) ∧ (f r).run s₁ = (.ok t, s') := by
  cases hx : x.run s
  case mk res s₁ =>
    cases res
    case ok r => exact ⟨r, s₁, rfl, run_bind_ok hx ▸ h⟩
    case error e => cases (run_bind_error hx).symm.trans h

theorem run_bind_eq_error (h : (x >>= f).run s = (.error e, s')) :
    x.run s = (.error e, s') ∨ ∃ r s₁, x.run s = (.ok r, s₁) ∧ (f r).run s₁ = (.error e, s') := by
  cases hx : x.run s
  case mk res s₁ =>
    cases res
    case ok r => exact .inr ⟨r, s₁, rfl, run_bind_ok hx ▸ h⟩
    case error e =>
      cases (run_bind_error hx).symm.trans h
      exact .inl rfl

-- However the program ends, its initial and its final state are related, and its errors have a property.
structure Frames (R : σ → σ → Prop) (E : ε → Prop) (x : ExceptT ε (StateM σ) α) : Prop where
  state : ∀ s, R s (x.run s).snd
  error : ∀ {s e s'}, x.run s = (.error e, s') → E e

namespace Frames

variable {R : σ → σ → Prop} {E : ε → Prop}

theorem of_run (h : Frames R E x) {res : Except ε α} (hr : x.run s = (res, s')) : R s s' := by
  have hs := h.state s
  rwa [hr] at hs

theorem pure (h : ∀ s, R s s) : Frames R E (pure r : ExceptT ε (StateM σ) α) where
  state := h
  error h := nomatch h

theorem throw (h : ∀ s, R s s) (he : E e) : Frames R E (throw e : ExceptT ε (StateM σ) α) where
  state := h
  error h := by cases h; exact he

theorem modifyGet {g : σ → α × σ} (h : ∀ s, R s (g s).snd) :
    Frames R E (modifyGet g : ExceptT ε (StateM σ) α) where
  state := h
  error h := nomatch h

theorem bind (ht : ∀ {s₁ s₂ s₃}, R s₁ s₂ → R s₂ s₃ → R s₁ s₃) (hx : Frames R E x)
    (hf : ∀ r, Frames R E (f r)) : Frames R E (x >>= f) where
  state s := by
    cases h : x.run s
    case mk res s₁ =>
      have hs := hx.of_run h
      cases res
      case ok r => exact run_bind_ok h ▸ ht hs ((hf r).state s₁)
      case error e => exact run_bind_error h ▸ hs
  error h := by
    cases run_bind_eq_error h
    case inl h => exact hx.error h
    case inr h =>
      obtain ⟨r, s₁, -, h⟩ := h
      exact (hf r).error h

end Frames

structure Maintains (I : σ → Prop) (Q : α → Prop) (E : ε → Prop) (x : ExceptT ε (StateM σ) α) : Prop where
  ok : ∀ {s r s'}, I s → x.run s = (.ok r, s') → I s' ∧ Q r
  error : ∀ {s e s'}, I s → x.run s = (.error e, s') → I s' ∧ E e

namespace Maintains

variable {I : σ → Prop} {Q : α → Prop} {Q' : β → Prop} {E : ε → Prop}

theorem pure (h : Q r) : Maintains I Q E (pure r : ExceptT ε (StateM σ) α) where
  ok hs h' := by cases h'; exact ⟨hs, h⟩
  error _ h' := nomatch h'

theorem throw (h : E e) : Maintains I Q E (throw e : ExceptT ε (StateM σ) α) where
  ok _ h' := nomatch h'
  error hs h' := by cases h'; exact ⟨hs, h⟩

theorem modifyGet {g : σ → α × σ} (h : ∀ s, I s → I (g s).snd ∧ Q (g s).fst) :
    Maintains I Q E (modifyGet g : ExceptT ε (StateM σ) α) where
  ok hs h' := by cases h'; exact h _ hs
  error _ h' := nomatch h'

theorem bind (hx : Maintains I Q E x) (hf : ∀ r, Q r → Maintains I Q' E (f r)) :
    Maintains I Q' E (x >>= f) where
  ok hs h := by
    obtain ⟨r, s₁, hr, h⟩ := run_bind_eq_ok h
    have hr := hx.ok hs hr
    exact (hf r hr.right).ok hr.left h
  error hs h := by
    cases run_bind_eq_error h
    case inl h => exact hx.error hs h
    case inr h =>
      obtain ⟨r, s₁, hr, h⟩ := h
      have hr := hx.ok hs hr
      exact (hf r hr.right).error hr.left h

theorem mono {Q'' : α → Prop} (h : Maintains I Q E x) (hq : ∀ r, Q r → Q'' r) : Maintains I Q'' E x where
  ok hs h' := (h.ok hs h').imp_right (hq _)
  error hs h' := h.error hs h'

end Maintains

end Aranya
