import Aranya.Lib.Except

namespace Aranya

universe u v

variable {ε : Type u} {σ α β γ : Type v} {I : σ → Prop}

def Agrees (I : σ → Prop) (x : StateT σ (Except ε) α) (y : Except ε α) : Prop :=
  ∀ s, I s → (∃ e, x s = .error e ∧ y = .error e) ∨ ∃ a s', x s = .ok (a, s') ∧ y = .ok a ∧ I s'

namespace Agrees

variable {x : StateT σ (Except ε) α} {y : Except ε α} {f : α → StateT σ (Except ε) β} {g : α → Except ε β}

theorem pure (a : α) : Agrees I (Pure.pure a : StateT σ (Except ε) α) (.ok a) :=
  fun s hs => .inr ⟨a, s, rfl, rfl, hs⟩

theorem throw (e : ε) : Agrees I (throw e : StateT σ (Except ε) α) (.error e) :=
  fun _ _ => .inl ⟨e, rfl, rfl⟩

theorem lift : Agrees I (liftM y : StateT σ (Except ε) α) y := by
  intro s hs
  cases y
  case error e => exact .inl ⟨e, rfl, rfl⟩
  case ok a => exact .inr ⟨a, s, rfl, rfl, hs⟩

theorem bind (hx : Agrees I x y) (hf : ∀ a, Agrees I (f a) (g a)) : Agrees I (x >>= f) (y >>= g) := by
  intro s hs
  have hb : (x >>= f) s = x s >>= fun p => f p.fst p.snd := rfl
  cases hx s hs
  case inl h =>
    obtain ⟨e, h, rfl⟩ := h
    exact .inl ⟨e, by rw [hb, h]; rfl, rfl⟩
  case inr h =>
    obtain ⟨a, s', h, rfl, hs'⟩ := h
    rw [hb, h]
    exact hf a s' hs'

theorem foldlM {f : β → γ → StateT σ (Except ε) β} {g : β → γ → Except ε β} {b : β} {cs : List γ}
    (h : ∀ b c, Agrees I (f b c) (g b c)) : Agrees I (cs.foldlM f b) (cs.foldlM g b) := by
  induction cs generalizing b
  case nil => exact pure b
  case cons c cs hi => exact bind (h b c) fun _ => hi

theorem run'_eq {s : σ} (h : Agrees I x y) (hs : I s) : x.run' s = y := by
  have hr : x.run' s = (x s).map Prod.fst := rfl
  cases h s hs
  case inl h' =>
    obtain ⟨e, hx, rfl⟩ := h'
    rw [hr, hx]
    rfl
  case inr h' =>
    obtain ⟨a, s', hx, rfl, _⟩ := h'
    rw [hr, hx]
    rfl

end Agrees
end Aranya
