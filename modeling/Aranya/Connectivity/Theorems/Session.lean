import Aranya.Connectivity.Session

namespace Aranya

structure Session.Affects (s : Session) (w w' : World) : Prop where
  canWrite : w'.canWrite = w.canWrite
  msgNext : w'.msgChs.next = w.msgChs.next
  sigNext : w'.signals.next = w.signals.next
  msgChs : ∀ c, s.msgCh ≠ some c → w'.msgChs.chan c = w.msgChs.chan c
  sends : ∀ c, ∃ l, w'.msgChs.chan c = { w.msgChs.chan c with sent := (w.msgChs.chan c).sent ++ l }
  signals : ∀ c, s.streamReady ≠ some c → w'.signals.chan c = w.signals.chan c

namespace Session

variable {s s' : Session} {w w' w'' : World} {msg : Msg} {kind : MsgType} {data : Bytes} {d : Data} {sid : Nat}

namespace Affects

theorem refl : s.Affects w w where
  canWrite := rfl
  msgNext := rfl
  sigNext := rfl
  msgChs _ _ := rfl
  sends c := ⟨[], by simp⟩
  signals _ _ := rfl

theorem trans (h₁ : s.Affects w w') (h₂ : s.Affects w' w'') : s.Affects w w'' where
  canWrite := h₂.canWrite.trans h₁.canWrite
  msgNext := h₂.msgNext.trans h₁.msgNext
  sigNext := h₂.sigNext.trans h₁.sigNext
  msgChs c h := (h₂.msgChs c h).trans (h₁.msgChs c h)
  signals c h := (h₂.signals c h).trans (h₁.signals c h)
  sends c := by
    have ⟨l₁, h₁⟩ := h₁.sends c
    have ⟨l₂, h₂⟩ := h₂.sends c
    exact ⟨l₁ ++ l₂, by simp [h₂, h₁]⟩

theorem congr (h : s.Affects w w') (hm : s'.msgCh = s.msgCh) (hr : s'.streamReady = s.streamReady) :
    s'.Affects w w' :=
  { h with msgChs := hm ▸ h.msgChs, signals := hr ▸ h.signals }

theorem closes_eq (h : s.Affects w w') (c : Nat) : (w'.msgChs.chan c).closes = (w.msgChs.chan c).closes := by
  have ⟨_, h⟩ := h.sends c
  rw [h]

theorem cap_eq (h : s.Affects w w') (c : Nat) : (w'.msgChs.chan c).cap = (w.msgChs.chan c).cap := by
  have ⟨_, h⟩ := h.sends c
  rw [h]

end Affects

theorem notifyReady_spec {b : Bool} (h : s.notifyReady w = .ok (s', w', b)) :
    s' = { s with _streamReady := true } ∧ s.Affects w w' := by
  simp only [notifyReady] at h
  split at h
  case isTrue hr => cases h; exact ⟨by simp [← hr], .refl⟩
  case isFalse =>
    split at h
    case h_1 => cases h
    case h_2 c hc =>
      split at h
      case isTrue => cases h; exact ⟨rfl, .refl⟩
      case isFalse =>
        cases h
        refine ⟨rfl, { Affects.refl with signals := fun c' hn => ?_ }⟩
        exact Chans.chan_close_of_ne fun h => hn (h ▸ hc)

theorem write_affects (r : WriterRef) (b : Bool) : s.Affects w (w.write r b data).fst := by
  cases r <;> exact { Affects.refl with }

theorem writeTarget_spec {e} (h : s.writeTarget w kind data = .ok (s', w', e)) : s' = s ∧ s.Affects w w' := by
  simp only [writeTarget] at h
  split at h
  case isTrue => cases h; exact ⟨rfl, .refl⟩
  case isFalse =>
    split at h
    case h_1 => cases h
    case h_2 r _ => cases h; exact ⟨rfl, write_affects r _⟩

theorem writeToStream_spec {e} (h : s.writeToStream w kind data = .ok (s', w', e)) :
    s' = { s with _streamReady := s'._streamReady } ∧ s.Affects w w' := by
  simp only [writeToStream] at h
  split at h
  case isTrue => cases h; exact ⟨rfl, .refl⟩
  case isFalse =>
    split at h
    case h_1 => cases h
    case h_2 hr =>
      have ⟨h₁, h₂⟩ := notifyReady_spec hr
      cases h
      exact ⟨by simp [h₁], h₂⟩
    case h_3 s₁ w₁ hr =>
      have ⟨h₁, h₂⟩ := notifyReady_spec hr
      subst h₁
      split at h
      case h_1 =>
        have ⟨h₃, h₄⟩ := writeTarget_spec h
        exact ⟨by simp [h₃], h₂.trans (h₄.congr rfl rfl)⟩
      case h_2 =>
        split at h
        case isTrue =>
          have ⟨h₃, h₄⟩ := writeTarget_spec h
          exact ⟨by simp [h₃], h₂.trans (h₄.congr rfl rfl)⟩
        case isFalse =>
          split at h
          case isTrue => cases h; exact ⟨rfl, h₂⟩
          case isFalse => cases h

theorem sendMsg_spec (h : s.sendMsg w msg = .ok w') : s.Affects w w' := by
  simp only [sendMsg] at h
  split at h
  case isTrue => cases h; exact .refl
  case isFalse =>
    split at h
    case h_1 => cases h
    case h_2 c hc =>
      split at h
      case h_1 => cases h
      case h_2 x hx =>
        have ⟨_, h'⟩ := Chans.send_eq_ok hx
        cases h
        subst h'
        refine { Affects.refl with msgChs := fun c' hn => ?_, sends := fun c' => ?_ }
        case refine_1 => exact Chans.chan_set_of_ne fun h => hn (h ▸ hc)
        case refine_2 =>
          by_cases hc' : c' = c
          case pos => subst hc'; exact ⟨[msg], by simp⟩
          case neg => exact ⟨[], by simp [Chans.chan_set_of_ne hc']⟩

theorem writeData_spec (h : s.writeData w sid d = .ok (s', w')) :
    s' = { s with _streamReady := s'._streamReady } ∧ s.Affects w w' := by
  simp only [writeData] at h
  split at h
  case h_1 => cases h
  case h_2 hw => cases h; exact writeToStream_spec hw
  case h_3 s₁ w₁ _ hw =>
    have ⟨h₁, h₂⟩ := writeToStream_spec hw
    split at h
    case h_1 => cases h
    case h_2 hs =>
      cases h
      exact ⟨h₁, h₂.trans <| (sendMsg_spec hs).congr (by rw [h₁]) (by rw [h₁])⟩

def Handles (s s' : Session) : Prop :=
  s' = { s with _streamReady := s'._streamReady, msgBuffer := s'.msgBuffer } ∧
  s'.msgBuffer.isSome = s.msgBuffer.isSome

theorem handleData_spec (h : handleData sid s w d = .ok (s', w')) : s.Handles s' ∧ s.Affects w w' := by
  simp only [handleData] at h
  split at h
  case isTrue =>
    obtain ⟨h₁, h₂⟩ := writeData_spec h
    refine ⟨⟨?_, ?_⟩, h₂⟩ <;> rw [h₁]
  case isFalse =>
    split at h
    case h_1 => cases h
    case h_2 hb => cases h; exact ⟨⟨rfl, by simp [hb]⟩, .refl⟩

theorem handleAll_spec {ds : List Data} (h : handleAll sid s w ds = .ok (s', w')) :
    s.Handles s' ∧ s.Affects w w' := by
  induction ds generalizing s w
  case nil => cases h; exact ⟨⟨rfl, rfl⟩, .refl⟩
  case cons d ds hi =>
    simp only [handleAll] at h
    split at h
    case h_1 => cases h
    case h_2 s₁ w₁ hd =>
      have ⟨⟨h₁, h₂⟩, h₃⟩ := handleData_spec hd
      have ⟨⟨h₄, h₅⟩, h₆⟩ := hi h
      refine ⟨⟨?_, h₅.trans h₂⟩, h₃.trans <| h₆.congr (by rw [h₁]) (by rw [h₁])⟩
      rw [h₄, h₁]

@[simp]
theorem close_msgNext : (s.close w).snd.msgChs.next = w.msgChs.next := by
  simp only [close, closeMsgCh, releaseReady]
  split <;> [rfl; (split <;> (repeat' split) <;> rfl)]

@[simp]
theorem close_sigNext : (s.close w).snd.signals.next = w.signals.next := by
  simp only [close, closeMsgCh, releaseReady]
  split <;> [rfl; (split <;> (repeat' split) <;> rfl)]

@[simp]
theorem close_writers : (s.close w).snd.writers = w.writers := by
  simp only [close, closeMsgCh, releaseReady]
  split <;> [rfl; (split <;> (repeat' split) <;> rfl)]

@[simp]
theorem releaseReady_msgChs : (s.releaseReady w).msgChs = w.msgChs := by
  simp only [releaseReady]
  repeat' split
  all_goals rfl

theorem close_msgChs {c} (ho : s._closed = false) (hc : s.msgCh = some c) :
    (s.close w).snd.msgChs = w.msgChs.close c := by
  simp [close, ho, closeMsgCh, hc]

theorem close_msgChs_of_ne {c} (h : s.msgCh ≠ some c) : (s.close w).snd.msgChs.chan c = w.msgChs.chan c := by
  simp only [close]
  split
  case isTrue => rfl
  case isFalse =>
    simp only [closeMsgCh]
    split
    case h_1 => simp
    case h_2 c' hc =>
      have hn : c ≠ c' := fun h' => h (h' ▸ hc)
      simpa using Chans.chan_close_of_ne hn

theorem close_signals_of_ne {c} (h : s.streamReady ≠ some c) :
    (s.close w).snd.signals.chan c = w.signals.chan c := by
  have hr : (s.releaseReady w).signals.chan c = w.signals.chan c := by
    simp only [releaseReady]
    split
    case isTrue => rfl
    case isFalse =>
      split
      case h_1 => rfl
      case h_2 c' hc =>
        split
        case isTrue => rfl
        case isFalse => exact Chans.chan_close_of_ne fun h' => h (h' ▸ hc)
  simp only [close, closeMsgCh]
  split
  case isTrue => rfl
  case isFalse => split <;> exact hr

theorem close_signals_of_ready (h : s._streamReady = true) : (s.close w).snd.signals = w.signals := by
  simp only [close, closeMsgCh, releaseReady, h, if_true]
  split <;> [rfl; (split <;> rfl)]

@[simp]
theorem close_of_closed (h : s._closed = true) : s.close w = (s, w) := by
  simp [close, h]

theorem closed_close : (s.close w).fst._closed = true := by
  simp only [close]
  split
  case isTrue h => exact h
  case isFalse => rfl

theorem flush_close (h : s._closed = false) :
    (s.close w).fst.flush (s.close w).snd msg = .ok (s.close w).snd := by
  simp [close, h, flush]

def completes (s : Session) (msg : Msg) : Bool :=
  s._closed || (msg.seq = 0 && msg.complete) || (s.enqueue msg).snd.snd

def Accepts (s s' : Session) : Prop :=
  s' = { s with
    _streamReady := s'._streamReady
    msgBuffer := s'.msgBuffer
    seqQ := s'.seqQ }

def settle (s : Session) (w : World) (complete : Bool) : Session × World × Bool × Bool :=
  if complete then ((s.close w).fst, (s.close w).snd, true, true) else (s, w, true, false)

theorem deliverWhole_spec {r} (h : s.deliverWhole w msg = .ok r) :
    ∃ s₁ w₁, s.Accepts s₁ ∧ s.Affects w w₁ ∧ r = s₁.settle w₁ true := by
  simp only [deliverWhole] at h
  split at h
  case isTrue =>
    split at h
    case h_1 => cases h
    case h_2 s₁ w₁ hd =>
      have ⟨h₁, h₂⟩ := writeData_spec hd
      cases h
      exact ⟨s₁, w₁, by rw [h₁]; rfl, h₂, rfl⟩
  case isFalse =>
    split at h
    case h_1 => cases h
    case h_2 w₁ hs => cases h; exact ⟨s, w₁, rfl, sendMsg_spec hs, rfl⟩

-- The session is closed before it is flushed.
theorem deliverChunk_of_handleAll {s₁ w₁} (ho : s._closed = false)
    (h : handleAll (s.enqueue msg).fst.handleData
      { s with msgBuffer := some (s.msgBuffer.getD []), seqQ := some (s.enqueue msg).fst } w
      (s.enqueue msg).snd.fst = .ok (s₁, w₁)) :
    s.deliverChunk w msg = .ok (s₁.settle w₁ (s.enqueue msg).snd.snd) := by
  have hc : s₁._closed = false := by
    have ⟨⟨h₁, _⟩, _⟩ := handleAll_spec h
    rw [h₁]
    exact ho
  simp only [deliverChunk, h, flush_close hc]
  cases (s.enqueue msg).snd.snd <;> rfl

theorem deliverChunk_spec {r} (ho : s._closed = false) (h : s.deliverChunk w msg = .ok r) :
    ∃ s₁ w₁, s.Accepts s₁ ∧ s.Affects w w₁ ∧ s₁.seqQ.isSome ∧
      r = s₁.settle w₁ (s.enqueue msg).snd.snd := by
  cases hd : handleAll (s.enqueue msg).fst.handleData
    { s with msgBuffer := some (s.msgBuffer.getD []), seqQ := some (s.enqueue msg).fst } w
    (s.enqueue msg).snd.fst
  case error => simp [deliverChunk, hd] at h
  case ok r' =>
    have ⟨s₁, w₁⟩ := r'
    have ⟨⟨h₁, _⟩, h₂⟩ := handleAll_spec hd
    rw [deliverChunk_of_handleAll ho hd] at h
    cases h
    exact ⟨s₁, w₁, by rw [h₁]; rfl, h₂.congr rfl rfl, by rw [h₁]; rfl, rfl⟩

theorem deliverMsg_spec {r} (ho : s._closed = false) (h : s.deliverMsg w msg = .ok r) :
    ∃ s₁ w₁, s.Accepts s₁ ∧ s.Affects w w₁ ∧ (s.completes msg = false → s₁.seqQ.isSome) ∧
      r = s₁.settle w₁ (s.completes msg) := by
  simp only [deliverMsg, ho, Bool.false_eq_true, if_false] at h
  split at h
  case isTrue hw =>
    have ⟨s₁, w₁, h₁, h₂, h₃⟩ := deliverWhole_spec h
    have hc : s.completes msg = true := by simp [completes, hw]
    exact ⟨s₁, w₁, h₁, h₂, by simp [hc], hc ▸ h₃⟩
  case isFalse hw =>
    have ⟨s₁, w₁, h₁, h₂, h₃, h₄⟩ := deliverChunk_spec ho h
    have hw : (decide (msg.seq = 0) && msg.complete) = false := by
      simpa [Bool.and_eq_true] using hw
    have hc : s.completes msg = (s.enqueue msg).snd.snd := by simp [completes, ho, hw]
    exact ⟨s₁, w₁, h₁, h₂, fun _ => h₃, hc ▸ h₄⟩

end Session
end Aranya
