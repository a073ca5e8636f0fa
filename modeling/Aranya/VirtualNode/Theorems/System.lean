import Aranya.VirtualNode.System
import Aranya.VirtualNode.Theorems.RemoteActions
import Aranya.Connectivity.Theorems.GRPC

namespace Aranya.System

open BaseManager (Keeps)

variable {τ : Type*} {f : TimedSessionFuncs τ} {net : Nat → Bytes → Option Bytes} {s s' : System τ} {a : Action}
    {base : BaseManager τ}

structure Rests (f : TimedSessionFuncs τ) (s s' : System τ) : Prop where
  streams : s'.mgr.streams = s.mgr.streams
  clientSessions : s'.mgr.clientSessions = s.mgr.clientSessions
  sound : s.mgr.base.Sound → s'.mgr.base.Sound
  keeps : s.mgr.base.Keeps s'.mgr.base
  sessions : Reachable (SessionManager.step f) s.mgr.base.sessions s'.mgr.base.sessions

inductive Moves (f : TimedSessionFuncs τ) (s : System τ) : Action → System τ → Prop
  | rest {a : Action} {s' : System τ} :
    (∀ i b, a ≠ .stream i b) → (∀ allow, a ≠ .initialized allow) → Rests f s s' → Moves f s a s'
  | accept {i} : (s.mgr.streams i = none) → Moves f s (.accept i) { s with mgr := s.mgr.accept i }
  | stream {i t b mgr} :
    (s.mgr.streams i = some t) → (s.mgr.Moves f i t b mgr) →
    Moves f s (.stream i b) { s with mgr := mgr }
  | initialized {allow d} :
    (s.handler = .initializing d) →
    Moves f s (.initialized allow) {
      mgr := { s.mgr with base := s.mgr.base.onConnected (VirtualNode.initializedId allow d) }
      handler := .idle }

theorem Rests.quiet {sent handler} (hq : s.mgr.base.Quiet f base) :
    Rests f s ⟨{ s.mgr with base := base, sent := sent }, handler⟩ where
  streams := rfl
  clientSessions := rfl
  sound hs := hs.quiet hq
  keeps := .quiet hq
  sessions := hq.sessions

theorem handle_rests {now} (h : s.handle f net now = some s') : Rests f s s' := by
  simp only [handle] at h
  split at h
  case h_2 => cases h
  case h_1 c msg _ _ _ =>
    split at h
    case h_1 => cases h; exact .quiet ⟨rfl, .refl⟩
    case h_2 =>
      split at h <;> cases h
      case h_2.refl base sent hh =>
        have hq : s.mgr.base.Quiet f { s.mgr.base with globalMsgChan := c } := ⟨rfl, .refl⟩
        rcases VirtualNode.handleGlobalMsg_cases hh with hq' | ⟨d, hd⟩ | ⟨d, hd⟩
        case inl => exact .quiet (hq.trans hq')
        case inr.inl => subst hd; exact .quiet hq
        case inr.inr =>
          subst hd
          exact {
            streams := rfl
            clientSessions := rfl
            sound hs := (hs.quiet hq).onDisconnected
            keeps := (Keeps.quiet hq).trans .onDisconnected
            sessions := hq.sessions.trans BaseManager.onDisconnected_sessions
          }

theorem step_moves (h : s.step f net a = some s') : Moves f s a s' := by
  cases a
  case accept i =>
    simp only [step] at h
    split at h <;> cases h
    case isFalse.refl hn => exact .accept (by simpa using hn)
  case stream i b =>
    simp only [step] at h
    split at h
    case h_1 => cases h
    case h_2 t ht =>
      have ⟨mgr, hs, h⟩ := Option.map_eq_some_iff.mp h
      exact h ▸ .stream ht (GRPCManager.streamStep_moves hs)
  case reject reason message =>
    cases h
    refine .rest nofun nofun ⟨rfl, rfl, ?_, ?_, ?_⟩ <;> rw [GRPCManager.reject_base]
    case refine_1 => exact .onReject
    case refine_2 => exact .onReject
    case refine_3 => rw [BaseManager.onReject_sessions]; exact .refl
  case handle => exact .rest nofun nofun (handle_rests h)
  case initialized allow =>
    simp only [step, System.initialized] at h
    split at h <;> cases h
    case h_2.refl d hd => exact .initialized hd
  case post =>
    simp only [step, System.post] at h
    split at h <;> cases h
    case h_2.refl hp => exact .rest nofun nofun (.quiet <| BaseManager.postData_quiet hp)
  case postStream =>
    simp only [step, System.postStream] at h
    split at h <;> cases h
    case h_2.refl hp => exact .rest nofun nofun (.quiet <| BaseManager.postStreamCmd_quiet hp)
  case session =>
    have ⟨sessions, hs, h⟩ := Option.map_eq_some_iff.mp h
    exact h ▸ .rest nofun nofun (.quiet ⟨rfl, (Execution.single hs).reachable⟩)
  case cancel => cases h; exact .rest nofun nofun (.quiet ⟨rfl, .refl⟩)
  case close => cases h; exact .rest nofun nofun (.quiet BaseManager.onClose_quiet)

structure Valid (s : System τ) : Prop where
  base : s.mgr.base.Sound
  mgr : s.mgr.Registered

theorem Valid.new {config sessions} (h : BaseManager.new config sessions = .ok base) : (new base).Valid where
  base := have ⟨_, _, h⟩ := BaseManager.new_eq_ok h; h ▸ .initial
  mgr := .new

theorem Valid.step (v : s.Valid) (h : s.step f net a = some s') : s'.Valid := by
  cases step_moves h
  case rest hr => exact ⟨hr.sound v.base, v.mgr.congr hr.streams hr.clientSessions⟩
  case accept hn => exact ⟨v.base, v.mgr.accept hn⟩
  case stream ht hm => exact ⟨hm.sound v.base, v.mgr.moves ht hm⟩
  case initialized => exact ⟨v.base.onConnected, v.mgr.congr rfl rfl⟩

def onlineMsg (id : Bytes) : Msg :=
  VirtualNode.stateMsg .online id

-- A device opens the `i`-th stream and is connected after its message has passed all parties.
def connects (i : Nat) (id : Bytes) : List Action :=
  [.accept i, .stream i (.recv (onlineMsg id)), .stream i .forward, .handle 0, .initialized true]

theorem reachable_sessions (h : Reachable (step f net) s s') :
    Reachable (SessionManager.step f) s.mgr.base.sessions s'.mgr.base.sessions := by
  refine h.preserves (I := fun t => Reachable _ s.mgr.base.sessions t.mgr.base.sessions) ?_ .refl
  intro s₁ a s₂ h hs
  refine h.trans ?_
  cases step_moves hs
  case rest hr => exact hr.sessions
  case accept => exact .refl
  case stream ht hm => exact hm.sessions
  case initialized => exact BaseManager.onConnected_sessions ▸ .refl

-- Whatever the order of the steps is, signals, clients and sessions are consistent.
theorem reachable_consistent {config epoch world timed}
    (hb : BaseManager.new config (.new epoch world timed) = .ok base) (h : Reachable (step f net) (new base) s) :
    s.mgr.base.Sound ∧ s.mgr.Registered ∧ s.mgr.base.sessions.Valid := by
  have hv : s.Valid := h.preserves Valid.step (.new hb)
  have hs := reachable_sessions h
  obtain ⟨_, _, rfl⟩ := BaseManager.new_eq_ok hb
  exact ⟨hv.base, hv.mgr, (SessionManager.Valid.new epoch).reachable hs⟩

theorem reachable_consistent_connected :
    ∃ s, Reachable (step .ignore fun _ _ => none) (new BaseManager.grpc) s ∧
      s.mgr.clientSessions[([1] : Bytes)]? = some 0 ∧ s.mgr.Registered := by
  obtain ⟨s, e, hc⟩ : ∃ s, Execution (step .ignore fun _ _ => none) (new BaseManager.grpc) (connects 0 [1]) s ∧
      s.mgr.clientSessions[([1] : Bytes)]? = some 0 :=
    ⟨_, .of_foldlM rfl, rfl⟩
  have hm : BaseManager.new ⟨none, false, false, false, true⟩ (.new 0 .empty ()) = .ok .grpc := rfl
  exact ⟨s, e.reachable, hc, (reachable_consistent hm e.reachable).right.left⟩

end Aranya.System
