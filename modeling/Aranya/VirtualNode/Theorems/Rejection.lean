import Aranya.VirtualNode.Theorems.System

namespace Aranya

open Sync (Stream)

namespace GRPCManager

variable {τ : Type*} {f : TimedSessionFuncs τ} {m m' : GRPCManager τ}
    {i : Nat} {t : Stream} {a : StreamAction}

def Captured (m : GRPCManager τ) : Prop :=
  ∀ i t, m.streams i = some t → t.Running → t.rejected < m.base.signals.next ∧
    ((m.base.signals.chan t.rejected).closed = true ∨ t.rejected = m.base.rejected)

theorem Moves.running (hm : m.Moves f i t a m') (ht : m.streams i = some t) {j u'}
    (hj : m'.streams j = some u') (hr : u'.Running) :
    ∃ u, m.streams j = some u ∧ u.Running ∧ u.rejected = u'.rejected := by
  have ⟨t', hs, hc, hi, _⟩ := hm.streams
  rcases update_eq_some (hs ▸ hj) with ⟨rfl, rfl⟩ | ⟨_, hj⟩
  case inl => exact ⟨t, ht, hi hr, hc.symm⟩
  case inr => exact ⟨u', hj, hr, rfl⟩

theorem Captured.keeps (h : m.Captured) (hk : m.base.Keeps m'.base)
    (hs : ∀ j u', m'.streams j = some u' → u'.Running →
      ∃ u, m.streams j = some u ∧ u.Running ∧ u.rejected = u'.rejected) : m'.Captured := by
  intro j u' hj hr
  have ⟨u, hu, hr, he⟩ := hs j u' hj hr
  have ⟨hl, hc⟩ := h j u hu hr
  rw [← he, hk.rejected]
  exact ⟨hl.trans_le hk.next, hc.imp_left (hk.closed _ hl)⟩

end GRPCManager

namespace System

variable {τ : Type*} {f : TimedSessionFuncs τ} {net : Nat → Bytes → Option Bytes} {s s' : System τ} {a : Action}

def RejectReaches (net : Nat → Bytes → Option Bytes) (s : System τ) : Prop :=
  s.mgr.base.alreadyRejected = false → ∀ reason message i t,
    s.mgr.streams i = some t → t.Running →
    ((s.mgr.reject net reason message).base.signals.chan t.rejected).closed = true

-- If the action makes the first device connected, no call of `Sync` waits for a rejection.
def Unawaited (s : System τ) (a : Action) : Prop :=
  a = .initialized true → s.mgr.base._stopped = false → s.mgr.base.ctxDone = false →
  s.mgr.base.connectedDevices = ∅ →
  ∀ i t, s.mgr.streams i = some t → t.Running → (s.mgr.base.signals.chan t.rejected).closed = true

theorem rejectReaches_of_captured (h : s.mgr.Captured) : s.RejectReaches net := by
  intro hr reason message i t ht hi
  rw [GRPCManager.reject_base, BaseManager.onReject_signals hr]
  rcases (h i t ht hi).right with hc | hc
  case inl => exact Chans.closed_close_of_closed hc
  case inr => simp [hc]

theorem captured_step (v : s.Valid) (h : s.mgr.Captured) (hu : s.Unawaited a)
    (hs : s.step f net a = some s') : s'.mgr.Captured := by
  cases step_moves hs
  case rest hr => exact h.keeps hr.keeps fun j u hj hi => ⟨u, hr.streams ▸ hj, hi, rfl⟩
  case stream ht hm => exact h.keeps hm.keeps fun j u hj hi => hm.running ht hj hi
  case accept i hn =>
    intro j u hj hi
    rcases GRPCManager.update_eq_some hj with ⟨rfl, rfl⟩ | ⟨_, hj⟩
    case inl => exact ⟨v.base.rejected, .inr rfl⟩
    case inr => exact h j u hj hi
  case initialized allow d hd =>
    rcases BaseManager.onConnected_keeps_or_renews s.mgr.base (VirtualNode.initializedId allow d) with
      hk | ⟨hr, ha, ho, hx, he⟩
    case inl => exact h.keeps hk fun j u hj hi => ⟨u, hj, hi, rfl⟩
    case inr =>
      -- nobody waits for the signal that is renewed
      intro i t ht hi
      have ha := VirtualNode.initializedId_ne_nil.mp ha
      have hl := (h i t ht hi).left
      refine ⟨hl.trans_le hr.next, .inl ?_⟩
      rw [hr.chan _ hl]
      exact Chans.closed_close_of_closed <| hu (ha ▸ rfl) ho hx he i t ht hi

theorem unawaited_of_rejectReaches (v : s.Valid) (h : s.mgr.Captured)
    (hs : s.step f net a = some s') (hr : s'.RejectReaches net) : s.Unawaited a := by
  rintro rfl ho hx he i t ht hi
  cases step_moves hs
  case rest hn _ => exact absurd rfl (hn _)
  case initialized d hd =>
    have ⟨hl, hw⟩ := h i t ht hi
    rcases hw with hw | hw
    case inl => exact hw
    case inr =>
      -- the current signal is renewed while it is open, so the next rejection closes another one
      have hn := BaseManager.onConnected_renews v.base (VirtualNode.initializedId true d)
        (VirtualNode.initializedId_ne_nil.mpr rfl) ho hx he
      have hr := hr hn.alreadyRejected .invalidProto [] i t ht hi
      rw [GRPCManager.reject_base, BaseManager.onReject_signals hn.alreadyRejected] at hr
      rw [Chans.chan_close_of_ne (hl.trans_le hn.rejected).ne, hn.chan _ hl,
        Chans.chan_close_of_ne (hw ▸ v.base.connected_ne.right.symm)] at hr
      exact hr

-- In a run every rejection reaches all calls of `Sync` iff no call waits for one whenever the first device
-- gets connected.
theorem rejectReaches_iff_unawaited {config sessions base as}
    (hm : BaseManager.new config sessions = .ok base) (e : Execution (step f net) (new base) as s) :
    (∀ pre s', pre <+: as → Execution (step f net) (new base) pre s' → s'.RejectReaches net) ↔
    Along (step f net) Unawaited (new base) as := by
  refine e.always_iff_along (J := fun s => s.Valid ∧ s.mgr.Captured) ?_ ?_ ?_ ⟨.new hm, ?_⟩
  case refine_1 => exact fun h => rejectReaches_of_captured h.right
  case refine_2 => exact fun ⟨v, h⟩ hu hs => ⟨v.step hs, captured_step v h hu hs⟩
  case refine_3 => exact fun ⟨v, h⟩ hs hr => unawaited_of_rejectReaches v h hs hr
  case refine_4 => exact fun _ _ h => nomatch h

theorem rejectReaches_iff_unawaited_early :
    let as : List Action := [.accept 0, .reject .internalServerError [], .stream 0 .rejected]
    (∀ pre s', pre <+: as → Execution (step .ignore fun _ _ => none) (new BaseManager.grpc) pre s' →
      s'.RejectReaches fun _ _ => none) ↔
    Along (step .ignore fun _ _ => none) Unawaited (new BaseManager.grpc) as :=
  have hm : BaseManager.new ⟨none, false, false, false, true⟩ (.new 0 .empty ()) = .ok .grpc := rfl
  rejectReaches_iff_unawaited hm (.of_foldlM rfl)

-- The stream of the first device waits for the signal that was replaced when the device got
-- connected.
theorem not_rejectReaches_connected :
    ∃ s, Execution (step .ignore fun _ _ => none) (new BaseManager.grpc) (connects 0 [1]) s ∧
      s.mgr.base.connectedDevices = {[1]} ∧ ¬s.RejectReaches fun _ _ => none := by
  refine ⟨_, .of_foldlM rfl, rfl, fun h => ?_⟩
  have hc := h rfl .internalServerError [] 0 _ rfl ⟨nofun, nofun⟩
  cases hc

end System
end Aranya
