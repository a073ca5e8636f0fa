import Aranya.Connectivity.Theorems.Signals
import Aranya.Connectivity.Theorems.SessionManager

namespace Aranya.BaseManager

variable {τ ρ : Type*} {f : TimedSessionFuncs τ} {m m' m'' : BaseManager τ} {r r' : ρ}
    {sendData : ρ → Bytes → Bool → ρ × Option Bytes} {id data : Bytes} {s s' : BaseManager τ × ρ}
    {reject : ρ → ρ}

structure Quiet (f : TimedSessionFuncs τ) (m m' : BaseManager τ) : Prop where
  signals : m' = { m with
    ctxDone := m'.ctxDone
    sessions := m'.sessions
    globalMsgChan := m'.globalMsgChan
    _stopped := m'._stopped }
  sessions : Reachable (SessionManager.step f) m.sessions m'.sessions

theorem Quiet.refl : m.Quiet f m :=
  ⟨rfl, .refl⟩

theorem Quiet.trans (h₁ : m.Quiet f m') (h₂ : m'.Quiet f m'') : m.Quiet f m'' where
  signals := by rw [h₂.signals, h₁.signals]
  sessions := h₁.sessions.trans h₂.sessions

theorem onClose_quiet {closeManager : ρ → ρ} : m.Quiet f (m.onClose closeManager r).fst := by
  simp only [onClose]
  split <;> exact ⟨rfl, .refl⟩

theorem postRecorded_quiet {sid kind seq completed payload p}
    (h : m.postRecorded f sendData r sid kind seq completed payload = .ok (m', r', p)) : m.Quiet f m' := by
  simp only [postRecorded] at h
  split at h <;> cases h
  case h_2.refl ha =>
    exact ⟨rfl, (SessionManager.reachable_add ha).trans SessionManager.reachable_ite_delete⟩

theorem postData_quiet {sid kind seq completed payload p}
    (h : m.postData f sendData r sid kind seq completed payload = .ok (m', r', p)) : m.Quiet f m' := by
  simp only [postData] at h
  split at h
  case isTrue => cases h; exact .refl
  case isFalse =>
    split at h
    case h_1 => cases h; exact ⟨rfl, SessionManager.reachable_delete⟩
    case h_9 => exact postRecorded_quiet h
    case h_7 | h_8 => split at h <;> cases h <;> exact .refl
    all_goals cases h; exact .refl

theorem postCmd_quiet {sid kind payload}
    (h : (m.postCmd f sendData r sid kind payload).map (fun (m, r, _) => (m, r)) = .ok (m', r')) :
    m.Quiet f m' := by
  rcases hp : m.postCmd f sendData r sid kind payload with e | ⟨m₁, r₁, p⟩ <;> rw [hp] at h <;> cases h
  exact postData_quiet hp

theorem postStreamCmd_quiet {kind payloadCmd dataOut errOut keepPacket canWrite p}
    (h : m.postStreamCmd f sendData r kind payloadCmd dataOut errOut keepPacket canWrite =
      .ok (m', r', p)) : m.Quiet f m' := by
  simp only [postStreamCmd] at h
  split at h
  case isTrue => cases h; exact .refl
  case isFalse =>
    split at h
    case h_1 => cases h; exact .refl
    case h_2 =>
      split at h
      case h_1 => cases h
      case h_2 sessions realSID _ ha =>
        have hs := SessionManager.reachable_add ha
        split at h <;> cases h
        case h_1.refl hm =>
          exact ⟨rfl, hs.trans (SessionManager.reachable_setStream hm) |>.trans
            SessionManager.reachable_delete⟩
        case h_2.refl hm =>
          exact ⟨rfl, hs.trans (SessionManager.reachable_setStream hm) |>.trans
            SessionManager.reachable_ite_delete⟩

theorem postStreamCmd_created {kind payloadCmd dataOut errOut keepPacket canWrite p}
    (h : m.postStreamCmd f sendData r kind payloadCmd dataOut errOut keepPacket canWrite =
      .ok (m', r', p)) (hz : m.sessions.sessions[0]? = none) (he : p.err = none) :
    m.sessions.nextSid = some p.realSID ∧ p.msgCh = some m.sessions.world.msgChs.next ∧
    p.streamReady = some m.sessions.world.signals.next ∧
    m'.sessions = ((m.sessions.added f 0 p.realSID true keepPacket).setStream f p.realSID dataOut errOut
      canWrite).fst := by
  simp only [postStreamCmd] at h
  split at h
  case isTrue => cases h; cases he
  case isFalse =>
    split at h
    case h_1 => cases h; cases he
    case h_2 =>
      split at h
      case h_1 => cases h
      case h_2 sessions realSID _ ha =>
        rcases SessionManager.add_cases ha with ⟨s, hs, _⟩ | ⟨_, hn, rfl, rfl⟩
        case inl => simp [hz] at hs
        case inr =>
          split at h
          case h_1 => cases h; cases he
          case h_2 sessions ready hs =>
            cases h
            dsimp only at he
            have hr : some m.sessions.world.signals.next = some ready :=
              SessionManager.setStream_added_snd.symm.trans (congrArg Prod.snd hs)
            exact ⟨hn, rfl, hr.symm, by simp [he, hs]⟩

theorem forwardGlobal_quiet {msg} (h : m.forwardGlobal msg = .ok m') : m.Quiet f m' := by
  simp only [forwardGlobal] at h
  split at h <;> cases h
  exact ⟨rfl, .refl⟩

theorem onRecvMsg_quiet (h : m.onRecvMsg f sendData r data = .ok (m', r')) : m.Quiet f m' := by
  simp only [onRecvMsg] at h
  split at h
  case h_1 => cases h; exact .refl
  case h_2 msg _ =>
    split at h
    case isTrue => cases h; exact .refl
    case isFalse =>
      split at h
      case h_1 => cases h
      case h_2 sessions dispatched hd =>
        have hs : m.Quiet f { m with sessions := sessions } :=
          ⟨rfl, SessionManager.reachable_dispatch hd⟩
        split at h
        case h_1 => cases h
        case h_2 m₁ hf =>
          have hq : m.Quiet f m₁ := by
            split at hf
            case isTrue => cases hf; exact hs
            case isFalse => exact hs.trans (forwardGlobal_quiet hf)
          split at h
          case isFalse => cases h; exact hq
          case isTrue => exact hq.trans (postCmd_quiet h)

theorem step_cases {c} (h : step f sendData s c = some s') :
    s.fst.Quiet f s'.fst ∨
    (∃ reject : ρ → ρ, s'.fst = (s.fst.onReject reject s.snd).fst) ∨
    (∃ id, s'.fst = s.fst.onConnected id) ∨
    (∃ (finalize : ρ → ρ × Bytes × Bool) (now : Nat),
      s'.fst = (s.fst.onDisconnected f finalize now s.snd).fst) := by
  cases c
  case onConnected => cases h; exact .inr <| .inr <| .inl ⟨_, rfl⟩
  case onDisconnected => exact .inr <| .inr <| .inr ⟨_, _, congrArg Prod.fst (Option.some.inj h).symm⟩
  case onReject => exact .inr <| .inl ⟨_, congrArg Prod.fst (Option.some.inj h).symm⟩
  case onRecvMsg => exact .inl <| onRecvMsg_quiet (Except.toOption_eq_some_iff.mp h)
  case cancel => cases h; exact .inl ⟨rfl, .refl⟩
  case close => cases h; exact .inl onClose_quiet
  case session =>
    have ⟨_, hs, h⟩ := Option.map_eq_some_iff.mp h
    exact h ▸ .inl ⟨rfl, (Execution.single hs).reachable⟩
  case postData =>
    have ⟨_, hp, h⟩ := Option.map_eq_some_iff.mp h
    exact h ▸ .inl (postData_quiet <| Except.toOption_eq_some_iff.mp hp)
  case postStreamCmd =>
    have ⟨_, hp, h⟩ := Option.map_eq_some_iff.mp h
    exact h ▸ .inl (postStreamCmd_quiet <| Except.toOption_eq_some_iff.mp hp)

theorem onReject_sessions : (m.onReject reject r).fst.sessions = m.sessions := by
  simp only [onReject]
  split <;> rfl

theorem onConnected_sessions : (m.onConnected id).sessions = m.sessions := by
  rcases onConnected_cases m id with ⟨hc, _⟩ | ⟨hc, _⟩ | ⟨hc, _⟩ <;> rw [hc]
  rfl

theorem onDisconnected_sessions {finalize : ρ → ρ × Bytes × Bool} {now} :
    Reachable (SessionManager.step f) m.sessions (m.onDisconnected f finalize now r).fst.sessions := by
  rcases onDisconnected_cases (f := f) finalize now m r with ⟨_, hc⟩ | ⟨_, _, hc⟩ | ⟨_, _, hc⟩ <;>
    rw [hc]
  case inl => exact .refl
  case inr.inl => exact .refl
  case inr.inr => exact SessionManager.reachable_cleanup

theorem reachable_sessions (h : Reachable (step f sendData) s s') :
    Reachable (SessionManager.step f) s.fst.sessions s'.fst.sessions := by
  refine h.preserves (I := fun t => Reachable _ s.fst.sessions t.fst.sessions) ?_ .refl
  intro s₁ c s₂ h hs
  refine h.trans ?_
  rcases step_cases hs with hq | ⟨_, hc⟩ | ⟨_, hc⟩ | ⟨_, _, hc⟩
  case inl => exact hq.sessions
  case inr.inl => rw [hc, onReject_sessions]; exact .refl
  case inr.inr.inl => rw [hc, onConnected_sessions]; exact .refl
  case inr.inr.inr => rw [hc]; exact onDisconnected_sessions

theorem reached_sessions {config epoch world timed}
    (hm : new config (.new epoch world timed) = .ok m)
    (h : Reachable (step f sendData) (m, r) (m', r')) : m'.sessions.Reached f := by
  have ⟨_, _, hm⟩ := new_eq_ok hm
  subst hm
  exact ⟨epoch, world, timed, reachable_sessions h⟩

-- No signal is reopened.
structure Keeps (m m' : BaseManager τ) : Prop where
  rejected : m'.rejected = m.rejected
  next : m.signals.next ≤ m'.signals.next
  closed : ∀ c < m.signals.next, (m.signals.chan c).closed = true → (m'.signals.chan c).closed = true

namespace Keeps

theorem refl : m.Keeps m where
  rejected := rfl
  next := le_rfl
  closed _ _ h := h

theorem trans (h₁ : m.Keeps m') (h₂ : m'.Keeps m'') : m.Keeps m'' where
  rejected := h₂.rejected.trans h₁.rejected
  next := h₁.next.trans h₂.next
  closed c hl h := h₂.closed c (hl.trans_le h₁.next) (h₁.closed c hl h)

theorem quiet (hq : m.Quiet f m') : m.Keeps m' := by
  rw [hq.signals]
  exact { refl with }

theorem onReject {reject : ρ → ρ} : m.Keeps (m.onReject reject r).fst := by
  simp only [BaseManager.onReject]
  split
  case isTrue => exact refl
  case isFalse => exact ⟨rfl, le_rfl, fun _ _ => Chans.closed_close_of_closed⟩

theorem onDisconnected {finalize : ρ → ρ × Bytes × Bool} {now} :
    m.Keeps (m.onDisconnected f finalize now r).fst := by
  rcases onDisconnected_cases (f := f) finalize now m r with ⟨_, hc⟩ | ⟨_, _, hc⟩ | ⟨_, _, hc⟩ <;>
    rw [hc]
  case inl => exact refl
  case inr.inl => exact { refl with }
  case inr.inr =>
    refine ⟨rfl, by simp [signalDisconnected], fun c hl hc => ?_⟩
    simp only [signalDisconnected]
    rw [Chans.chan_make_of_lt (by simpa using hl)]
    exact Chans.closed_closeOnce_of_closed hc

end Keeps

-- No device is known by the empty id.
structure Sound (m : BaseManager τ) : Prop extends Wired m where
  named : [] ∉ m.connectedDevices
  idle : m.connectedDevices = ∅ →
    (m.signals.chan m.connected).closed = false ∧ (m.signals.chan m.disconnected).closed = true

theorem Consistent.idle (h : m.Consistent) (hd : m.connectedDevices = ∅) :
    (m.signals.chan m.connected).closed = false ∧ (m.signals.chan m.disconnected).closed = true := by
  have hc := mt h.connected_iff.mp (not_not.mpr hd)
  have ho := mt h.disconnected_iff.mp (not_not.mpr hd)
  exact ⟨by simpa using hc, by simpa using ho⟩

namespace Sound

theorem initial {sessions : SessionManager τ} {size h} : (initial sessions size h).Sound where
  toWired := .initial
  named := Finset.notMem_empty _
  idle _ := ⟨rfl, rfl⟩

theorem quiet (h : m.Sound) (hq : m.Quiet f m') : m'.Sound := by
  rw [hq.signals]
  exact { h with }

theorem onConnected (h : m.Sound) : (m.onConnected id).Sound where
  toWired := h.toWired.onConnected
  named := by
    rcases onConnected_cases m id with ⟨hc, _⟩ | ⟨hc, hi, _⟩ | ⟨hc, hi, _⟩ <;> rw [hc]
    case inl => exact h.named
    all_goals simpa [signalConnected] using ⟨hi, h.named⟩
  idle hd := by
    rcases onConnected_cases m id with ⟨hc, _⟩ | ⟨hc, _⟩ | ⟨hc, _⟩ <;> rw [hc] at hd ⊢
    case inl => exact h.idle hd
    all_goals exact absurd hd (Finset.insert_ne_empty _ _)

theorem remaining {all} (h : m.Sound) : [] ∉ m.remaining id all := by
  simp only [BaseManager.remaining]
  split
  case isTrue => exact Finset.notMem_empty _
  case isFalse => exact fun hm => h.named (Finset.mem_of_mem_erase hm)

theorem onDisconnected {finalize : ρ → ρ × Bytes × Bool} {now} (h : m.Sound) :
    (m.onDisconnected f finalize now r).fst.Sound := by
  rcases onDisconnected_cases (f := f) finalize now m r with ⟨_, hc⟩ | ⟨_, hd, hc⟩ | ⟨_, hd, hc⟩ <;>
    rw [hc]
  case inl => exact h
  case inr.inl => exact ⟨h.toWired.devices, h.remaining, fun he => absurd he hd⟩
  case inr.inr =>
    have hs : (signalDisconnected f { m with connectedDevices := _ } now).Consistent :=
      .signalDisconnected h.toWired.devices hd
    exact ⟨hs.toWired, h.remaining, hs.idle⟩

theorem onReject {reject : ρ → ρ} (h : m.Sound) : (m.onReject reject r).fst.Sound where
  toWired := h.toWired.onReject
  named := by
    simp only [BaseManager.onReject]
    split <;> exact h.named
  idle := by
    simp only [BaseManager.onReject]
    split
    case isTrue => exact h.idle
    case isFalse =>
      simpa [Chans.chan_close_of_ne h.connected_ne.right, Chans.chan_close_of_ne h.disconnected_ne]
        using h.idle

theorem step {s s' : BaseManager τ × ρ} {c} (h : s.fst.Sound) (hs : step f sendData s c = some s') :
    s'.fst.Sound := by
  rcases step_cases hs with hq | ⟨_, hc⟩ | ⟨_, hc⟩ | ⟨_, _, hc⟩
  case inl => exact h.quiet hq
  case inr.inl => exact hc ▸ h.onReject
  case inr.inr.inl => exact hc ▸ h.onConnected
  case inr.inr.inr => exact hc ▸ h.onDisconnected

theorem reachable {config sessions} (hm : new config sessions = .ok m)
    (h : Reachable (BaseManager.step f sendData) (m, r) (m', r')) : m'.Sound := by
  have ⟨_, _, hm⟩ := new_eq_ok hm
  exact h.preserves (I := fun s => s.fst.Sound) Sound.step (hm ▸ .initial)

end Sound

structure Renews (m m' : BaseManager τ) : Prop where
  alreadyRejected : m'.alreadyRejected = false
  rejected : m.signals.next ≤ m'.rejected
  next : m.signals.next ≤ m'.signals.next
  chan : ∀ c < m.signals.next, m'.signals.chan c = (m.signals.close m.connected).chan c

theorem signalConnected_renews {d : Finset Bytes} :
    m.Renews ({ m with connectedDevices := d } : BaseManager τ).signalConnected where
  alreadyRejected := rfl
  rejected := Nat.le_succ _
  next := Nat.le_add_right _ 2
  chan c hl := by
    have hl : c < (m.signals.close m.connected).next := hl
    simp only [signalConnected]
    rw [Chans.chan_make_of_lt (Nat.lt_succ_of_lt hl), Chans.chan_make_of_lt hl]

theorem onConnected_keeps_or_renews (m : BaseManager τ) (id : Bytes) :
    m.Keeps (m.onConnected id) ∨
    m.Renews (m.onConnected id) ∧
      id ≠ [] ∧ m._stopped = false ∧ m.ctxDone = false ∧ m.connectedDevices = ∅ := by
  rcases onConnected_cases m id with ⟨hc, _⟩ | ⟨hc, _⟩ | ⟨hc, hi, hs, hd, hx, _⟩ <;> rw [hc]
  case inl => exact .inl .refl
  case inr.inl => exact .inl { Keeps.refl with }
  case inr.inr => exact .inr ⟨signalConnected_renews, hi, hs, hx, hd⟩

theorem onConnected_renews (h : m.Sound) (id : Bytes) (hi : id ≠ []) (hs : m._stopped = false)
    (hx : m.ctxDone = false) (hd : m.connectedDevices = ∅) : m.Renews (m.onConnected id) := by
  rcases onConnected_cases m id with ⟨_, hc⟩ | ⟨_, _, _, hc⟩ | ⟨hc, _⟩
  case inl => simp [hi, hs] at hc
  case inr.inl => simp [hd, hx, (h.idle hd).left] at hc
  case inr.inr => exact hc ▸ signalConnected_renews

theorem onReject_signals (hr : m.alreadyRejected = false) :
    (m.onReject reject r).fst.signals = m.signals.close m.rejected := by
  simp [onReject, hr]

end Aranya.BaseManager
