import Aranya.Lib.Frame

namespace Aranya

variable {ε σ α β γ δ : Type}

-- Two results are the same error, or their values are related.
inductive RelatedResults (Q : α → β → Prop) : Except ε α → Except ε β → Prop
  | ok {r : α} {t : β} (h : Q r t) : RelatedResults Q (.ok r) (.ok t)
  | error {e : ε} : RelatedResults Q (.error e) (.error e)

-- From the same state, two programs come to the same state and to related results.
structure Related (Q : α → β → Prop) (x : ExceptT ε (StateM σ) α) (y : ExceptT ε (StateM σ) β) : Prop where
  state : ∀ s, (x.run s).snd = (y.run s).snd
  result : ∀ s, RelatedResults Q (x.run s).fst (y.run s).fst

namespace Related

variable {Q : α → β → Prop} {Q' : γ → δ → Prop} {x : ExceptT ε (StateM σ) α} {y : ExceptT ε (StateM σ) β}
    {f : α → ExceptT ε (StateM σ) γ} {g : β → ExceptT ε (StateM σ) δ} {r : α} {t : β} {e : ε}

theorem refl {Q : α → α → Prop} (h : ∀ r, Q r r) : Related Q x x where
  state _ := rfl
  result s := by
    cases (x.run s).fst
    case ok r => exact .ok (h r)
    case error => exact .error

theorem pure (h : Q r t) : Related Q (pure r : ExceptT ε (StateM σ) α) (pure t) where
  state _ := rfl
  result _ := .ok h

theorem throw : Related Q (throw e : ExceptT ε (StateM σ) α) (throw e) where
  state _ := rfl
  result _ := .error

theorem modifyGet {f : σ → α × σ} {g : σ → β × σ} (hs : ∀ s, (f s).snd = (g s).snd)
    (hq : ∀ s, Q (f s).fst (g s).fst) : Related Q (modifyGet f : ExceptT ε (StateM σ) α) (modifyGet g) where
  state := hs
  result s := .ok (hq s)

theorem bind (hx : Related Q x y) (hf : ∀ r t, Q r t → Related Q' (f r) (g t)) :
    Related Q' (x >>= f) (y >>= g) := by
  have hb (s : σ) : ((x >>= f).run s).snd = ((y >>= g).run s).snd ∧
      RelatedResults Q' ((x >>= f).run s).fst ((y >>= g).run s).fst := by
    have hs := hx.state s
    have hr := hx.result s
    cases h₁ : x.run s
    case mk res₁ s₁ =>
      cases h₂ : y.run s
      case mk res₂ s₂ =>
        rw [h₁, h₂] at hs hr
        cases hs
        cases hr
        case ok h =>
          rw [run_bind_ok h₁, run_bind_ok h₂]
          exact ⟨(hf _ _ h).state s₁, (hf _ _ h).result s₁⟩
        case error =>
          rw [run_bind_error h₁, run_bind_error h₂]
          exact ⟨rfl, .error⟩
  exact ⟨fun s => (hb s).left, fun s => (hb s).right⟩

theorem get_bind {f : σ → ExceptT ε (StateM σ) α} (h : ∀ s, Related Q (f s) y) : Related Q (get >>= f) y where
  state s := (h s).state s
  result s := (h s).result s

theorem run_eq {x y : ExceptT ε (StateM σ) α} (h : Related (· = ·) x y) : x = y := by
  funext s
  have hr := h.result s
  refine Prod.ext ?_ (h.state s)
  change (x.run s).fst = (y.run s).fst
  revert hr
  cases (x.run s).fst <;> cases (y.run s).fst <;> intro hr
  all_goals cases hr
  case ok.ok.ok h => exact h ▸ rfl
  case error.error.error => rfl

end Related

end Aranya
