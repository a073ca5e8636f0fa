import Aranya.Connectivity.Manager

namespace Aranya.BaseManager

variable {τ ρ : Type*} {f : TimedSessionFuncs τ} {m : BaseManager τ} {id : Bytes} {r : ρ}
    {finalize : ρ → ρ × Bytes × Bool}

-- The current signals are different channels, none has been closed more than once, and `alreadyRejected` is
-- up to date.
structure Wired (m : BaseManager τ) : Prop where
  connected : m.connected < m.signals.next
  disconnected : m.disconnected < m.signals.next
  rejected : m.rejected < m.signals.next
  connected_ne : m.connected ≠ m.disconnected ∧ m.connected ≠ m.rejected
  disconnected_ne : m.disconnected ≠ m.rejected
  alreadyRejected : (m.signals.chan m.rejected).closed = m.alreadyRejected
  closedOnce : m.signals.ClosedOnce

structure Consistent (m : BaseManager τ) : Prop extends Wired m where
  connected_iff : (m.signals.chan m.connected).closed = true ↔ m.connectedDevices ≠ ∅
  disconnected_iff : (m.signals.chan m.disconnected).closed = false ↔ m.connectedDevices ≠ ∅

theorem new_eq_ok {config sessions} (h : new config sessions = .ok m) :
    ∃ size hs, m = initial sessions size hs := by
  simp only [new] at h
  split at h
  case h_1 => cases h
  case h_2 => split at h <;> cases h; exact ⟨_, _, rfl⟩

namespace Wired

theorem initial {sessions : SessionManager τ} {size h} : (initial sessions size h).Wired where
  connected := show 1 < 3 by decide
  disconnected := show 0 < 3 by decide
  rejected := show 2 < 3 by decide
  connected_ne := show 1 ≠ 0 ∧ 1 ≠ 2 by decide
  disconnected_ne := show 0 ≠ 2 by decide
  alreadyRejected := rfl
  closedOnce := by
    refine .make <| .make <| .close (.make fun c => ?_) rfl
    simp [Chans.empty]

theorem devices {d : Finset Bytes} (h : m.Wired) : ({ m with connectedDevices := d } : BaseManager τ).Wired :=
  { h with }

theorem onReject {reject : ρ → ρ} (h : m.Wired) : (m.onReject reject r).fst.Wired := by
  simp only [BaseManager.onReject]
  split
  case isTrue => exact h
  case isFalse hr =>
    have hr : (m.signals.chan m.rejected).closed = false := h.alreadyRejected.trans (by simpa using hr)
    exact { h with alreadyRejected := by simp, closedOnce := h.closedOnce.close hr }

theorem signalConnected (h : m.Wired) (hc : (m.signals.chan m.connected).closed = false) :
    m.signalConnected.Wired where
  connected := Nat.lt_add_right 2 h.connected
  disconnected := Nat.lt_add_of_pos_right Nat.two_pos
  rejected := Nat.lt_succ_self _
  connected_ne := ⟨h.connected.ne, (Nat.lt_succ_of_lt h.connected).ne⟩
  disconnected_ne := Nat.succ_ne_self _ |>.symm
  closedOnce := h.closedOnce.close hc |>.make.make
  alreadyRejected := by
    simp only [BaseManager.signalConnected]
    rw [← Chans.next_make, Chans.chan_make_next]
    rfl

theorem signalDisconnected {now} (h : m.Wired) : (m.signalDisconnected f now).Wired where
  connected := Nat.lt_succ_self _
  disconnected := Nat.lt_succ_of_lt <| Chans.next_closeOnce.symm ▸ h.disconnected
  rejected := Nat.lt_succ_of_lt <| Chans.next_closeOnce.symm ▸ h.rejected
  connected_ne := by
    simp only [BaseManager.signalDisconnected, Chans.next_closeOnce]
    exact ⟨h.disconnected.ne', h.rejected.ne'⟩
  disconnected_ne := h.disconnected_ne
  closedOnce := h.closedOnce.closeOnce.make
  alreadyRejected := by
    have hr : m.rejected < (m.signals.closeOnce m.disconnected).next := by simpa using h.rejected
    simp only [BaseManager.signalDisconnected]
    rw [Chans.chan_make_of_lt hr, Chans.chan_closeOnce_of_ne h.disconnected_ne.symm]
    exact h.alreadyRejected

end Wired

theorem onConnected_cases (m : BaseManager τ) (id : Bytes) :
    (m.onConnected id = m ∧ (id = [] ∨ m._stopped = true)) ∨
    (m.onConnected id = { m with connectedDevices := insert id m.connectedDevices } ∧
      id ≠ [] ∧ m._stopped = false ∧
      (m.connectedDevices ≠ ∅ ∨ m.ctxDone = true ∨ (m.signals.chan m.connected).closed = true)) ∨
    (m.onConnected id =
        ({ m with connectedDevices := insert id m.connectedDevices } : BaseManager τ).signalConnected ∧
      id ≠ [] ∧ m._stopped = false ∧
      m.connectedDevices = ∅ ∧ m.ctxDone = false ∧ (m.signals.chan m.connected).closed = false) := by
  simp only [onConnected]
  split
  case isTrue hi => exact .inl ⟨rfl, .inl hi⟩
  case isFalse hi =>
    split
    case isTrue hs => exact .inl ⟨rfl, .inr hs⟩
    case isFalse hs =>
      have hs : m._stopped = false := by simpa using hs
      split
      case isTrue h => exact .inr <| .inl ⟨rfl, hi, hs, h⟩
      case isFalse h =>
        have ⟨hd, hx, hc⟩ : m.connectedDevices = ∅ ∧ m.ctxDone = false ∧
            (m.signals.chan m.connected).closed = false := by simpa using h
        exact .inr <| .inr ⟨rfl, hi, hs, hd, hx, hc⟩

theorem onConnected_of_stopped (hs : m._stopped = true) : m.onConnected id = m := by
  simp [onConnected, hs]

theorem onConnected_devices (hi : id ≠ []) (hs : m._stopped = false) :
    (m.onConnected id).connectedDevices = insert id m.connectedDevices := by
  rcases onConnected_cases m id with ⟨_, hc⟩ | ⟨hc, _⟩ | ⟨hc, _⟩
  case inl => simp [hi, hs] at hc
  case inr.inl => rw [hc]
  case inr.inr => rw [hc]; rfl

theorem onDisconnected_cases (finalize : ρ → ρ × Bytes × Bool) (now : Nat) (m : BaseManager τ) (r : ρ) :
    let d := m.remaining (finalize r).snd.fst (finalize r).snd.snd
    (m.connectedDevices = ∅ ∧ m.onDisconnected f finalize now r = (m, r)) ∨
    (m.connectedDevices ≠ ∅ ∧ d ≠ ∅ ∧
      m.onDisconnected f finalize now r = ({ m with connectedDevices := d }, (finalize r).fst)) ∨
    (m.connectedDevices ≠ ∅ ∧ d = ∅ ∧
      m.onDisconnected f finalize now r =
        (({ m with connectedDevices := d } : BaseManager τ).signalDisconnected f now,
          (finalize r).fst)) := by
  intro d
  simp only [onDisconnected]
  split
  case isTrue h => exact .inl ⟨h, rfl⟩
  case isFalse h =>
    split
    case isTrue hd => exact .inr <| .inl ⟨h, hd, rfl⟩
    case isFalse hd => exact .inr <| .inr ⟨h, not_not.mp hd, rfl⟩

theorem onDisconnected_devices {now} :
    (m.onDisconnected f finalize now r).fst.connectedDevices =
    m.remaining (finalize r).snd.fst (finalize r).snd.snd := by
  rcases onDisconnected_cases (f := f) finalize now m r with ⟨he, hc⟩ | ⟨_, _, hc⟩ | ⟨_, _, hc⟩ <;>
    rw [hc]
  case inl => simp [remaining, he]
  case inr.inr => rfl

theorem onDisconnected_of_notMem {now}
    (ha : (finalize r).snd.snd = false) (hn : (finalize r).snd.fst ∉ m.connectedDevices) :
    (m.onDisconnected f finalize now r).fst = m := by
  have hd : m.remaining (finalize r).snd.fst (finalize r).snd.snd = m.connectedDevices := by
    simp [remaining, ha, hn]
  rcases onDisconnected_cases (f := f) finalize now m r with ⟨_, hc⟩ | ⟨_, _, hc⟩ | ⟨he, hd', hc⟩ <;>
    rw [hc]
  case inr.inl => simp [hd]
  case inr.inr => exact absurd (hd.symm.trans hd') he

theorem onDisconnected_last {now} (he : m.connectedDevices ≠ ∅)
    (hd : m.remaining (finalize r).snd.fst (finalize r).snd.snd = ∅) :
    (m.onDisconnected f finalize now r).fst.sessions = m.sessions.cleanup f now := by
  rcases onDisconnected_cases (f := f) finalize now m r with ⟨he', _⟩ | ⟨_, hd', _⟩ | ⟨_, _, hc⟩
  case inl => exact absurd he' he
  case inr.inl => exact absurd hd hd'
  case inr.inr => rw [hc]; rfl

namespace Wired

theorem onConnected (h : m.Wired) : (m.onConnected id).Wired := by
  rcases onConnected_cases m id with ⟨hc, _⟩ | ⟨hc, _⟩ | ⟨hc, _, _, _, _, ho⟩ <;> rw [hc]
  case inl => exact h
  case inr.inl => exact h.devices
  case inr.inr => exact h.devices.signalConnected ho

end Wired

namespace Consistent

theorem initial {sessions : SessionManager τ} {size h} : (initial sessions size h).Consistent where
  toWired := .initial
  connected_iff := iff_of_false (show false ≠ true by decide) (by simp [BaseManager.initial])
  disconnected_iff := iff_of_false (show true ≠ false by decide) (by simp [BaseManager.initial])

theorem onReject {reject : ρ → ρ} (h : m.Consistent) : (m.onReject reject r).fst.Consistent where
  toWired := h.toWired.onReject
  connected_iff := by
    simp only [BaseManager.onReject]
    split
    case isTrue => exact h.connected_iff
    case isFalse => simpa [Chans.chan_close_of_ne h.connected_ne.right] using h.connected_iff
  disconnected_iff := by
    simp only [BaseManager.onReject]
    split
    case isTrue => exact h.disconnected_iff
    case isFalse => simpa [Chans.chan_close_of_ne h.disconnected_ne] using h.disconnected_iff

theorem signalConnected (h : m.Wired) (hc : (m.signals.chan m.connected).closed = false)
    (hd : m.connectedDevices ≠ ∅) : m.signalConnected.Consistent where
  toWired := h.signalConnected hc
  connected_iff := by
    have hl : m.connected < (m.signals.close m.connected).next := h.connected
    simp only [BaseManager.signalConnected]
    rw [Chans.chan_make_of_lt (Nat.lt_succ_of_lt hl), Chans.chan_make_of_lt hl]
    simp [hd]
  disconnected_iff := by
    simp only [BaseManager.signalConnected]
    rw [Chans.chan_make_of_lt (by simp), Chans.chan_make_next]
    simp [hd]

theorem signalDisconnected {now} (h : m.Wired) (hd : m.connectedDevices = ∅) :
    (m.signalDisconnected f now).Consistent where
  toWired := h.signalDisconnected
  connected_iff := by
    simp only [BaseManager.signalDisconnected]
    rw [Chans.chan_make_next]
    simp [hd]
  disconnected_iff := by
    have hl : m.disconnected < (m.signals.closeOnce m.disconnected).next := by simpa using h.disconnected
    simp only [BaseManager.signalDisconnected]
    rw [Chans.chan_make_of_lt hl]
    simp [hd]

theorem onConnected (h : m.Consistent) (hx : m.ctxDone = false) : (m.onConnected id).Consistent := by
  rcases onConnected_cases m id with ⟨hc, _⟩ | ⟨hc, _, _, hd⟩ | ⟨hc, _, _, _, _, ho⟩ <;> rw [hc]
  case inl => exact h
  case inr.inl =>
    have hd : m.connectedDevices ≠ ∅ := by
      rcases hd with hd | hd | hd
      case inl => exact hd
      case inr.inl => simp [hx] at hd
      case inr.inr => exact h.connected_iff.mp hd
    exact {
      toWired := h.toWired.devices
      connected_iff := by simpa [hd] using h.connected_iff
      disconnected_iff := by simpa [hd] using h.disconnected_iff
    }
  case inr.inr => exact .signalConnected h.toWired.devices ho (Finset.insert_ne_empty _ _)

theorem onDisconnected {finalize : ρ → ρ × Bytes × Bool} {now} (h : m.Consistent) :
    (m.onDisconnected f finalize now r).fst.Consistent := by
  rcases onDisconnected_cases finalize now m r with ⟨_, hc⟩ | ⟨he, hd, hc⟩ | ⟨_, hd, hc⟩ <;> rw [hc]
  case inl => exact h
  case inr.inl =>
    exact {
      toWired := h.toWired.devices
      connected_iff := by simpa [he, hd] using h.connected_iff
      disconnected_iff := by simpa [he, hd] using h.disconnected_iff
    }
  case inr.inr => exact .signalDisconnected h.toWired.devices hd

end Consistent

inductive SignalCall
  | onConnected (id : Bytes)
  | onDisconnected (id : Bytes) (all : Bool) (now : Nat)
  | onReject

def SignalCall.now : SignalCall → Nat
  | onDisconnected _ _ now => now
  | _ => 0

-- The number counts the runs of the callback of `onReject`.
def signalStep (f : TimedSessionFuncs τ) (s : BaseManager τ × Nat) :
    SignalCall → Option (BaseManager τ × Nat)
  | .onConnected id => some (s.fst.onConnected id, s.snd)
  | .onDisconnected id all now => some (s.fst.onDisconnected f (fun k => (k, id, all)) now s.snd)
  | .onReject => some (s.fst.onReject (· + 1) s.snd)

def Appears (f : TimedSessionFuncs τ) (s : BaseManager τ × Nat) (c : SignalCall) : Prop :=
  s.fst.connectedDevices = ∅ ∧ ∃ s', signalStep f s c = some s' ∧ s'.fst.connectedDevices ≠ ∅

section signalStep

variable {s s' : BaseManager τ × Nat} {c : SignalCall}

theorem ctxDone_signalStep (h : signalStep f s c = some s') : s'.fst.ctxDone = s.fst.ctxDone := by
  cases c <;> cases h
  case onConnected.refl id =>
    rcases onConnected_cases s.fst id with ⟨hc, _⟩ | ⟨hc, _⟩ | ⟨hc, _⟩ <;> rw [hc]
    rfl
  case onDisconnected.refl id all now =>
    rcases onDisconnected_cases (f := f) (fun k => (k, id, all)) now s.fst s.snd with
      ⟨_, hc⟩ | ⟨_, _, hc⟩ | ⟨_, _, hc⟩ <;> rw [hc]
    rfl
  case onReject.refl =>
    simp only [onReject]
    split <;> rfl

theorem consistent_signalStep (hc : s.fst.Consistent) (hx : s.fst.ctxDone = false)
    (h : signalStep f s c = some s') : s'.fst.Consistent := by
  cases c <;> cases h
  case onConnected.refl => exact hc.onConnected hx
  case onDisconnected.refl => exact hc.onDisconnected
  case onReject.refl => exact hc.onReject

theorem sessions_signalStep (h : signalStep f s c = some s') :
    s'.fst.sessions =
    if s.fst.connectedDevices ≠ ∅ ∧ s'.fst.connectedDevices = ∅ then s.fst.sessions.cleanup f c.now
    else s.fst.sessions := by
  cases c <;> cases h
  case onConnected.refl id =>
    rcases onConnected_cases s.fst id with ⟨hc, _⟩ | ⟨hc, _⟩ | ⟨hc, _⟩ <;> rw [hc]
    case inl => simp
    case inr.inl => simp
    case inr.inr => simp [signalConnected]
  case onDisconnected.refl id all now =>
    rcases onDisconnected_cases (f := f) (fun k => (k, id, all)) now s.fst s.snd with
      ⟨he, hc⟩ | ⟨_, hd, hc⟩ | ⟨he, hd, hc⟩ <;> rw [hc]
    case inl => simp [he]
    case inr.inl => simp [hd]
    case inr.inr => exact (if_pos ⟨he, hd⟩).symm
  case onReject.refl =>
    simp only [onReject]
    split <;> simp

theorem rejects_signalStep (hn : ¬Appears f s c) (h : signalStep f s c = some s') :
    s'.snd + (!s'.fst.alreadyRejected).toNat = s.snd + (!s.fst.alreadyRejected).toNat := by
  cases c <;> cases h
  case onConnected.refl id =>
    rcases onConnected_cases s.fst id with ⟨hc, _⟩ | ⟨hc, _⟩ | ⟨hc, _, _, he, _⟩ <;> rw [hc]
    case inr.inr =>
      refine absurd ⟨he, _, rfl, ?_⟩ hn
      rw [hc]
      exact Finset.insert_ne_empty _ _
  case onDisconnected.refl id all now =>
    rcases onDisconnected_cases (f := f) (fun k => (k, id, all)) now s.fst s.snd with
      ⟨_, hc⟩ | ⟨_, _, hc⟩ | ⟨_, _, hc⟩ <;> rw [hc]
    rfl
  case onReject.refl =>
    simp only [onReject]
    split
    case isTrue => rfl
    case isFalse h => simp [h]

end signalStep

theorem rejects_le {s s' : BaseManager τ × Nat} {cs} (e : Execution (signalStep f) s cs s')
    (hn : Along (signalStep f) (fun s c => ¬Appears f s c) s cs) : s'.snd ≤ s.snd + 1 := by
  have h := e.preserves_along
    (I := fun t => t.snd + (!t.fst.alreadyRejected).toNat = s.snd + (!s.fst.alreadyRejected).toNat)
    (fun h hn hs => (rejects_signalStep hn hs).trans h) rfl hn
  have hl := Bool.toNat_le (!s.fst.alreadyRejected)
  omega

-- The next call cleans up the sessions iff it loses the last device, and then the callback of `onReject`
-- runs at most once until a device appears after there was none.
theorem signals_consistent {config sessions cs s} (hm : new config sessions = .ok m)
    (e : Execution (signalStep f) (m, 0) cs s) :
    s.fst.Consistent ∧
    (∀ c s', signalStep f s c = some s' →
      s'.fst.sessions =
      if s.fst.connectedDevices ≠ ∅ ∧ s'.fst.connectedDevices = ∅ then s.fst.sessions.cleanup f c.now
      else s.fst.sessions) ∧
    (∀ cs' s', Execution (signalStep f) s cs' s' →
      Along (signalStep f) (fun s c => ¬Appears f s c) s cs' → s'.snd ≤ s.snd + 1) := by
  have ⟨size, hs, hm⟩ := new_eq_ok hm
  subst hm
  have ⟨h, _⟩ := e.preserves (I := fun s => s.fst.Consistent ∧ s.fst.ctxDone = false)
    (fun h hs => ⟨consistent_signalStep h.left h.right hs, (ctxDone_signalStep hs).trans h.right⟩)
    ⟨.initial, rfl⟩
  exact ⟨h, fun _ _ => sessions_signalStep, fun _ _ => rejects_le⟩

def grpc : BaseManager Unit :=
  initial (.new 0 .empty ()) 65506 (by decide)

theorem signals_consistent_grpc :
    ∃ s, Execution (signalStep .ignore) (grpc, 0)
        [.onConnected [1], .onReject, .onReject, .onDisconnected [1] false 5] s ∧
      s.fst.Consistent ∧
      (∀ c s', signalStep .ignore s c = some s' →
        s'.fst.sessions =
        if s.fst.connectedDevices ≠ ∅ ∧ s'.fst.connectedDevices = ∅ then
          s.fst.sessions.cleanup .ignore c.now
        else s.fst.sessions) ∧
      (∀ cs' s', Execution (signalStep .ignore) s cs' s' →
        Along (signalStep .ignore) (fun s c => ¬Appears .ignore s c) s cs' → s'.snd ≤ s.snd + 1) := by
  have hm : new ⟨none, false, false, false, true⟩ (.new 0 .empty ()) = .ok grpc := rfl
  have ⟨s, e⟩ : ∃ s, Execution (signalStep .ignore) (grpc, 0)
      [.onConnected [1], .onReject, .onReject, .onDisconnected [1] false 5] s :=
    ⟨_, .of_foldlM rfl⟩
  exact ⟨s, e, signals_consistent hm e⟩

end Aranya.BaseManager
