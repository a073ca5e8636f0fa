import Aranya.Lib.Loop

namespace Aranya

variable {σ μ : Type*} {onMsg : σ → μ → σ × Bool} {s : σ} {msgs : List μ}

-- After the handler wants to exit, messages are only drained.
def handleMessages (onMsg : σ → μ → σ × Bool) (s : σ) (msgs : List μ) : σ :=
  msgs.foldl (fun (s, exit) msg => if exit then (s, true) else onMsg s msg) (s, false) |>.fst

theorem handleMessages_eq : handleMessages onMsg s msgs = (loop onMsg s msgs).fst := by
  have hd : ∀ {msgs : List μ} {s}, List.foldl (fun (s, exit) msg =>
      if exit then (s, true) else onMsg s msg) (s, true) msgs = (s, true) := by
    intro msgs s
    induction msgs
    case nil => rfl
    case cons msg msgs h => exact h
  suffices h : ∀ s, List.foldl (fun (s, exit) msg =>
      if exit then (s, true) else onMsg s msg) (s, false) msgs = loop onMsg s msgs by
    rw [handleMessages, h]
  induction msgs
  case nil => exact fun _ => rfl
  case cons msg msgs hi =>
    intro s
    cases hb : onMsg s msg
    case mk t exit =>
      simp only [List.foldl_cons, Bool.false_eq_true, if_false, hb]
      cases exit
      case true => rw [hd, loop_of_exit hb]
      case false => rw [hi, loop_of_continue hb]

end Aranya
