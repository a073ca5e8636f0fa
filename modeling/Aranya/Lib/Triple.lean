import Mathlib

namespace Aranya

open Std.Do

variable {ε σ α : Type} {x : ExceptT ε (StateM σ) α} {P : σ → Prop} {s : σ}

theorem triple_iff_run {Q : α → σ → Prop} {R : ε → σ → Prop} :
    ⦃fun s => ⌜P s⌝⦄ x ⦃post⟨fun r s => ⌜Q r s⌝, fun e s => ⌜R e s⌝⟩⦄ ↔
    ∀ s, P s → match x.run s with
      | (.ok r, s') => Q r s'
      | (.error e, s') => R e s' := by
  refine forall₂_congr fun s _ => ?_
  simp only [wp, PredTrans.apply_pushExcept, PredTrans.apply_pushArg, PredTrans.apply_Pure_pure]
  have hr : x.run s = (StateT.run x.run s).run := rfl
  rw [hr]
  cases (StateT.run x.run s).run
  case mk r s' => cases r <;> exact Iff.rfl

theorem of_triple {Q : σ → Prop}
    (h : ⦃fun s => ⌜P s⌝⦄ x ⦃post⟨fun _ s => ⌜Q s⌝, fun _ s => ⌜Q s⌝⟩⦄) (hs : P s) : Q (x.run s).snd := by
  have h := triple_iff_run (Q := fun _ => Q) (R := fun _ => Q) |>.mp h s hs
  split at h
  case h_1 hr => exact hr ▸ h
  case h_2 hr => exact hr ▸ h

end Aranya
