import Aranya.VirtualNode.RemoteActions
import Aranya.Connectivity.Theorems.Manager

namespace Aranya.VirtualNode

variable {τ ρ : Type*} {f : TimedSessionFuncs τ} {m m' : BaseManager τ} {r r' : ρ}
    {sendData : ρ → Bytes → Bool → ρ × Option Bytes} {now : Nat} {allow : Bool} {msg : Msg} {id : Bytes}

theorem initializedId_ne_nil : initializedId allow id ≠ [] ↔ allow = true := by
  cases allow
  case false => simp [initializedId]
  case true =>
    by_cases hi : id = []
    case pos => subst hi; decide
    case neg => simp [initializedId, hi]

theorem initializedId_of_ne_nil (hi : id ≠ []) : initializedId true id = id := by
  simp [initializedId, hi]

theorem handleGlobalMsg_cases
    (h : handleGlobalMsg f sendData now allow m r msg = .ok (m', r')) :
    m.Quiet f m' ∨
    (∃ d, m' = m.onConnected (initializedId allow d)) ∨
    (∃ d, m' = (m.onDisconnected f (fun r => (r, d, false)) now r).fst) := by
  simp only [handleGlobalMsg] at h
  split at h
  case h_1 =>
    split at h
    case h_1 => cases h; exact .inl .refl
    case h_2 s _ =>
      split at h
      case h_1 => cases h; exact .inr <| .inl ⟨_, rfl⟩
      case h_2 => exact .inr <| .inr ⟨_, congrArg Prod.fst (Except.ok.inj h).symm⟩
      case h_3 => cases h; exact .inl .refl
  case h_4 => cases h; exact .inl .refl
  all_goals
    split at h
    case isTrue => cases h; exact .inl .refl
    case isFalse => exact .inl <| BaseManager.postCmd_quiet h

theorem handleGlobalMsg_online {id} (h : msg.getState = some ⟨.online, id⟩) :
    handleGlobalMsg f sendData now allow m r msg = .ok (m.onConnected (initializedId allow id), r) := by
  simp [handleGlobalMsg, Msg.kind_of_getState h, h]

theorem handleGlobalMsg_offline {id} (h : msg.getState = some ⟨.offline, id⟩) :
    handleGlobalMsg f sendData now allow m r msg =
    .ok ((m.onDisconnected f (fun r => (r, id, false)) now r).fst, r) := by
  simp only [handleGlobalMsg, Msg.kind_of_getState h, h]
  rcases BaseManager.onDisconnected_cases (f := f) (fun r => (r, id, false)) now m r with
    ⟨_, hc⟩ | ⟨_, _, hc⟩ | ⟨_, _, hc⟩ <;> rw [hc]

structure Restored (m m' : BaseManager τ) : Prop where
  connectedDevices : m'.connectedDevices = m.connectedDevices
  disconnected : m.connectedDevices = ∅ → (m'.signals.chan m'.disconnected).closed = true
  sessions : m.connectedDevices = ∅ → ∀ (i : Nat) (s : Session),
    m.sessions.sessions[i]? = some s → s.isStream = false →
    m'.sessions.sessions[i]? = none ∧
    ∀ c, s.msgCh = some c → (m'.sessions.world.msgChs.chan c).closed = true

theorem restored_self_iff (h : m.Sound) :
    Restored m m ↔ (m.connectedDevices = ∅ → ∀ i, ¬m.sessions.Unary i) := by
  constructor
  case mp =>
    intro hr hd i ⟨s, hs, hn⟩
    cases (hr.sessions hd i s hs hn).left ▸ hs
  case mpr =>
    intro hn
    exact ⟨rfl, fun hd => (h.idle hd).right, fun hd i s hs hi => absurd ⟨s, hs, hi⟩ (hn hd i)⟩

theorem restored_of_ne_nil (h : m.Sound) (v : m.sessions.Valid) (hi : id ≠ [])
    (hs : m._stopped = false) (hn : id ∉ m.connectedDevices) :
    Restored m ((m.onConnected id).onDisconnected f (fun r => (r, id, false)) now r).fst := by
  have hc := BaseManager.onConnected_devices hi hs
  have hd : (m.onConnected id).remaining id false = m.connectedDevices := by
    simp [BaseManager.remaining, hc, hn]
  have hd' : ((m.onConnected id).onDisconnected f (fun r => (r, id, false)) now r).fst.connectedDevices =
      m.connectedDevices := BaseManager.onDisconnected_devices.trans hd
  constructor
  case connectedDevices => exact hd'
  case disconnected =>
    intro he
    exact (h.onConnected.onDisconnected.idle <| hd'.trans he).right
  case sessions =>
    intro he i s hs hn
    rw [BaseManager.onDisconnected_last (by simp [hc]) (hd.trans he), BaseManager.onConnected_sessions]
    exact ⟨SessionManager.cleanup_getElem?_eq_none hs hn, fun c => SessionManager.cleanup_closed v hs hn⟩

-- A device without id gets connected under another id than the one by which it is disconnected.
theorem not_restored_nil (h : m.Sound) (hs : m._stopped = false)
    (hn : initializedId true [] ∉ m.connectedDevices) :
    ¬Restored m ((m.onConnected (initializedId true [])).onDisconnected f (fun r => (r, [], false)) now
      r).fst := by
  intro hr
  have hd := hr.connectedDevices
  rw [BaseManager.onDisconnected_of_notMem rfl h.onConnected.named,
    BaseManager.onConnected_devices (initializedId_ne_nil.mpr rfl) hs] at hd
  exact hn <| hd ▸ Finset.mem_insert_self ..

def stateMsg (kind : StateMsg.Kind) (id : Bytes) : Msg :=
  ⟨.state, 0, 0, true, StateMsg.marshal ⟨kind, id⟩⟩

-- The manager is restored iff the device has an id, or the manager is stopped and has nothing to clean up.
theorem restored_iff {config epoch world timed m₀ r₀ id now now' allow on off}
    (hm : BaseManager.new config (.new epoch world timed) = .ok m₀)
    (h : Reachable (BaseManager.step f sendData) (m₀, r₀) (m, r))
    (hd : initializedId true id ∉ m.connectedDevices) (hon : on.getState = some ⟨.online, id⟩)
    (hoff : off.getState = some ⟨.offline, id⟩) :
    ∃ m₁ m₂,
      handleGlobalMsg f sendData now true m r on = .ok (m₁, r) ∧
      handleGlobalMsg f sendData now' allow m₁ r off = .ok (m₂, r) ∧
      (Restored m m₂ ↔
        (m._stopped = false → id ≠ []) ∧
        (m._stopped = true → m.connectedDevices = ∅ → ∀ i, ¬m.sessions.Unary i)) := by
  refine ⟨_, _, handleGlobalMsg_online hon, handleGlobalMsg_offline hoff, ?_⟩
  have hs := BaseManager.Sound.reachable hm h
  cases hp : m._stopped
  case true =>
    have hn : id ∉ m.connectedDevices := by
      by_cases hi : id = []
      case pos => exact hi ▸ hs.named
      case neg => rwa [initializedId_of_ne_nil hi] at hd
    rw [BaseManager.onConnected_of_stopped hp, BaseManager.onDisconnected_of_notMem rfl hn,
      restored_self_iff hs]
    simp
  case false =>
    by_cases hi : id = []
    case pos =>
      subst hi
      exact iff_of_false (not_restored_nil hs hp hd) (by simp)
    case neg =>
      rw [initializedId_of_ne_nil hi] at hd ⊢
      have v := (BaseManager.reached_sessions hm h).valid
      exact iff_of_true (restored_of_ne_nil hs v hi hp hd) (by simp [hi])

theorem restored_iff_grpc :
    ∃ m, Reachable (BaseManager.step .ignore fun r _ _ => (r, none)) (BaseManager.grpc, ()) (m, ()) ∧
      m.sessions.Unary 1 ∧
      ∃ m₁ m₂,
        handleGlobalMsg .ignore (fun r _ _ => (r, none)) 5 true m () (stateMsg .online [7]) =
          .ok (m₁, ()) ∧
        handleGlobalMsg .ignore (fun r _ _ => (r, none)) 6 false m₁ () (stateMsg .offline [7]) =
          .ok (m₂, ()) ∧
        (Restored m m₂ ↔
          (m._stopped = false → ([7] : Bytes) ≠ []) ∧
          (m._stopped = true → m.connectedDevices = ∅ → ∀ i, ¬m.sessions.Unary i)) := by
  have hm : BaseManager.new ⟨none, false, false, false, true⟩ (.new 0 .empty ()) = .ok .grpc := rfl
  have ⟨m, h, hd, hu⟩ : ∃ m,
      Reachable (BaseManager.step .ignore fun r _ _ => (r, none)) (BaseManager.grpc, ()) (m, ()) ∧
      m.connectedDevices = ∅ ∧ m.sessions.Unary 1 :=
    ⟨_, ⟨[.postData 0 .nodeInfoGet 0 true []], .single rfl⟩, rfl, _, rfl, rfl⟩
  exact ⟨m, h, hu, restored_iff hm h (by simp [hd]) rfl rfl⟩

-- A device without id stays connected after it has told that it is offline.
theorem not_restored_default :
    ∃ m₁ m₂ : BaseManager Unit,
      handleGlobalMsg .ignore (fun r _ _ => (r, none)) 5 true BaseManager.grpc () (stateMsg .online []) =
        .ok (m₁, ()) ∧
      handleGlobalMsg .ignore (fun r _ _ => (r, none)) 6 false m₁ () (stateMsg .offline []) =
        .ok (m₂, ()) ∧
      m₂.connectedDevices = {str "default"} ∧ ¬Restored BaseManager.grpc m₂ := by
  refine ⟨_, _, rfl, rfl, rfl, fun h => ?_⟩
  exact Finset.singleton_ne_empty (str "default") h.connectedDevices

end Aranya.VirtualNode
