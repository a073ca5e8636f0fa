import Aranya.Connectivity.Theorems.Reassembly

namespace Aranya.SessionManager

open Std (ExtTreeMap)

variable {τ : Type*} {f : TimedSessionFuncs τ} {m m' m₀ m₁ m₂ : SessionManager τ} {s : Session}
    {arg sid realSid c i j : Nat} {msg : Msg}

def Untouched (m m' : SessionManager τ) (j : Nat) : Prop :=
  ∀ t, m.sessions[j]? = some t → m'.sessions[j]? = some t ∧ m.world.Spares m'.world t

theorem Untouched.refl : m.Untouched m j :=
  fun _ h => ⟨h, .refl⟩

theorem Untouched.trans (h₁ : m.Untouched m₁ j) (h₂ : m₁.Untouched m₂ j) : m.Untouched m₂ j := by
  intro t h
  have ⟨h₁, w₁⟩ := h₁ t h
  have ⟨h₂, w₂⟩ := h₂ t h₁
  exact ⟨h₂, w₁.trans w₂⟩

theorem delete_untouched (v : m.Valid) (hn : i ≠ j) : m.Untouched (m.delete f i) j := by
  simp only [delete]
  split
  case h_1 => exact .refl
  case h_2 s hs =>
    refine fun t ht => ⟨by simp [ExtTreeMap.getElem?_erase, hn, ht], ?_⟩
    exact Session.close_spares <| v.disjoint hs ht hn

theorem dispatch_untouched {b} (v : m.Valid) (h : m.dispatch f msg = .ok (m', b))
    (hn : msg.sid ≠ j) : m.Untouched m' j := by
  rcases dispatch_cases v h with ⟨_, rfl, _⟩ | ⟨s, s₁, w₁, hs, ha, hw, _, rfl, _⟩
  case inl => exact .refl
  case inr =>
    intro t ht
    have hd := v.disjoint hs ht hn
    simp only [settled]
    split
    case isTrue =>
      refine ⟨by simp [ExtTreeMap.getElem?_erase, hn, ht], (hw.spares hd).trans <| Session.close_spares ?_⟩
      exact hd.congr ha.msgCh ha.streamReady
    case isFalse => exact ⟨by simp [ExtTreeMap.getElem?_insert, hn, ht], hw.spares hd⟩

theorem handleTimeout_untouched (v : m.Valid) (h : m.handleTimeout f (.session i) = .ok m')
    (hn : i ≠ j) : m.Untouched m' j := by
  simp only [handleTimeout] at h
  split at h
  case h_1 => cases h
  case h_2 hd =>
    cases h
    exact (dispatch_untouched v hd hn).trans <| delete_untouched (v.dispatch hd) hn

structure TimesOut (m m' : SessionManager τ) (sid c : Nat) : Prop where
  sent : (m'.world.msgChs.chan c).sent = [timeoutMsg sid]
  closed : (m'.world.msgChs.chan c).closed = true
  removed : m'.sessions[sid]? = none
  others : ∀ j ≠ sid, m.Untouched m' j

theorem handleTimeout_timesOut (v : m.Valid) (hs : m.sessions[sid]? = some s)
    (hc : s.msgCh = some c) (hf : (m.world.msgChs.chan c).sent = []) :
    ∃ m', m.handleTimeout f (.session sid) = .ok m' ∧ m.TimesOut m' sid c := by
  have ⟨m', hd, h₁, h₂, h₃, _⟩ :=
    dispatch_single (f := f) (timeoutMsg sid) v hs hc hf rfl ⟨rfl, rfl⟩
  have ht : m.handleTimeout f (.session sid) = .ok m' := by
    have hn : m'.sessions[sid]? = none := h₁
    simp only [handleTimeout, hd, delete, hn]
  exact ⟨m', ht, h₂, h₃, h₁, fun j hj => handleTimeout_untouched v ht hj.symm⟩

-- When the timer of a new session expires, the session times out iff `Add` was called with the very id that
-- it would choose: the handler has captured the argument.
theorem timesOut_iff_firstFree {keepPacket} (hr : m₀.Reached f) (hn : m₀.sessions[arg]? = none)
    (ha : m₀.add f arg false keepPacket = .ok (m₁, realSid, some c)) (he : Reachable (step f) m₁ m₂)
    (hs : m₂.sessions[realSid]? = some s) (hc : s.msgCh = some c)
    (hf : (m₂.world.msgChs.chan c).sent = []) :
    m₁.timed = f.addTimedSession realSid (.session arg) m₀.timed ∧
    ((∃ m₃, m₂.handleTimeout f (.session arg) = .ok m₃ ∧ m₂.TimesOut m₃ realSid c) ↔
      m₀.FirstFree arg) := by
  rcases add_cases ha with ⟨_, h, _⟩ | ⟨_, hx, _, rfl⟩
  case inl => rw [hn] at h; cases h
  case inr =>
    have v := hr.valid.added.reachable he
    refine ⟨rfl, ?_⟩
    constructor
    case mpr =>
      intro h
      cases h.unique (nextSid_firstFree hx)
      exact handleTimeout_timesOut v hs hc hf
    case mp =>
      intro ⟨m₃, ht, h⟩
      by_cases hi : arg = realSid
      case pos => exact hi ▸ nextSid_firstFree hx
      case neg =>
        -- The session is still there, and the receiver waits forever.
        have ⟨h', _⟩ := handleTimeout_untouched v ht hi s hs
        cases h.removed.symm.trans h'

theorem timesOut_iff_firstFree_one :
    let m₁ := added .ignore (new 0 .empty ()) 1 1 false false
    m₁.timed = () ∧
    ((∃ m₃, m₁.handleTimeout .ignore (.session 1) = .ok m₃ ∧ m₁.TimesOut m₃ 1 0) ↔
      (new 0 .empty ()).FirstFree 1) :=
  timesOut_iff_firstFree ⟨0, .empty, (), .refl⟩ rfl rfl .refl rfl rfl rfl

-- The usual call of `Add` passes `0`. Here the session which it creates gets the id `1`.
theorem not_timesOut_zero :
    (new 0 .empty ()).add .ignore 0 false false = .ok (oneSession, 1, some 0) ∧
    oneSession.sessions[1]?.isSome ∧ (oneSession.world.msgChs.chan 0).sent = [] ∧
    ¬∃ m₃, oneSession.handleTimeout .ignore (.session 0) = .ok m₃ ∧ oneSession.TimesOut m₃ 1 0 := by
  refine ⟨rfl, rfl, rfl, fun ⟨m₃, h₁, h₂⟩ => ?_⟩
  cases h₁
  cases h₂.removed

end Aranya.SessionManager
