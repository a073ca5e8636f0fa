import Aranya.Connectivity.Theorems.Cleanup
import Aranya.Connectivity.Theorems.Reassembly

namespace Aranya
namespace Session

variable {s s' : Session} {w w' : World} {msg : Msg} {kind : MsgType} {data : Bytes} {d : Data} {ds : List Data}
    {sid : Nat} {e : Fault}

-- A stream session between `Add` and `SetStream`.
def Unset (s : Session) : Prop :=
  s.isStream = true ∧ s.streamReady = none

structure Fit (s : Session) (w : World) : Prop where
  msgCh : ∀ {c}, s.msgCh = some c → (w.msgChs.chan c).closed = false
  outputs : ∀ {c}, s.streamReady = some c → s.dataOut.isSome ∧ s.errOut.isSome
  ready : s._streamReady = true → s.streamReady.isSome
  once : w.signals.ClosedOnce

theorem notifyReady_fit {b} (h : s.Fit w) (hr : s.notifyReady w = .ok (s', w', b)) :
    s'.Fit w' ∧ s'.streamReady.isSome := by
  simp only [notifyReady] at hr
  split at hr
  case isTrue hn => cases hr; exact ⟨h, h.ready hn⟩
  case isFalse =>
    split at hr
    case h_1 => cases hr
    case h_2 c hc =>
      split at hr <;> cases hr
      case isTrue.refl => exact ⟨{ h with ready := fun _ => by simp [hc] }, by simp [hc]⟩
      case isFalse.refl hn =>
        refine ⟨{ h with ready := fun _ => by simp [hc], once := ?_ }, by simp [hc]⟩
        exact h.once.close (by simpa using hn)

theorem notifyReady_error (he : s.notifyReady w = .error e) : s.streamReady = none := by
  simp only [notifyReady] at he
  split at he
  case isTrue => cases he
  case isFalse =>
    split at he
    case h_1 hc => exact hc
    case h_2 => split at he <;> cases he

theorem notifyReady_unset (h : s.Fit w) (hn : s.streamReady = none) :
    s.notifyReady w = .error .closeOfNilChannel := by
  have hr : s._streamReady = false := by
    by_contra hr
    simpa [hn] using h.ready (by simpa using hr)
  simp [notifyReady, hr, hn]

theorem write_fit {r b} (h : s.Fit w) : s.Fit (w.write r b data).fst := by
  cases r <;> exact { h with }

theorem writeTarget_fit {x} (h : s.Fit w) (hw : s.writeTarget w kind data = .ok (s', w', x)) : s'.Fit w' := by
  simp only [writeTarget] at hw
  split at hw
  case isTrue => cases hw; exact h
  case isFalse =>
    split at hw <;> cases hw
    case h_2.refl => exact write_fit h

theorem Fit.target (h : s.Fit w) (hr : s.streamReady.isSome) (kind : MsgType) : (s.target kind).isSome := by
  have ⟨c, hc⟩ := Option.isSome_iff_exists.mp hr
  have ⟨h₁, h₂⟩ := h.outputs hc
  simp only [Session.target]
  split
  case isTrue => exact h₂
  case isFalse => exact h₁

theorem writeTarget_error (h : s.Fit w) (hr : s.streamReady.isSome) :
    s.writeTarget w kind data ≠ .error e := by
  simp only [writeTarget]
  intro he
  split at he
  case isTrue => cases he
  case isFalse =>
    split at he
    case h_1 hn => simpa [hn] using h.target hr kind
    case h_2 => cases he

theorem writeToStream_fit {x} (h : s.Fit w) (hw : s.writeToStream w kind data = .ok (s', w', x)) :
    s'.Fit w' := by
  simp only [writeToStream] at hw
  split at hw
  case isTrue => cases hw; exact h
  case isFalse =>
    split at hw
    case h_1 => cases hw
    case h_2 hr => cases hw; exact (notifyReady_fit h hr).left
    case h_3 hr =>
      obtain ⟨h, _⟩ := notifyReady_fit h hr
      split at hw
      case h_1 => exact writeTarget_fit h hw
      case h_2 =>
        split at hw
        case isTrue => exact writeTarget_fit h hw
        case isFalse => split at hw <;> cases hw; exact h

theorem writeToStream_error (h : s.Fit w) (he : s.writeToStream w kind data = .error e) :
    e = .blocked ∨ s.Unset := by
  simp only [writeToStream] at he
  split at he
  case isTrue => cases he
  case isFalse hn =>
    split at he
    case h_1 hr => exact .inr ⟨by simpa using hn, notifyReady_error hr⟩
    case h_2 => cases he
    case h_3 hr =>
      obtain ⟨h, hr⟩ := notifyReady_fit h hr
      split at he
      case h_1 => exact absurd he (writeTarget_error h hr)
      case h_2 =>
        split at he
        case isTrue => exact absurd he (writeTarget_error h hr)
        case isFalse => split at he <;> cases he; exact .inl rfl

theorem writeToStream_unset (h : s.Fit w) (hu : s.Unset) :
    s.writeToStream w kind data = .error .closeOfNilChannel := by
  simp [writeToStream, hu.left, notifyReady_unset h hu.right]

theorem sendMsg_fit (h : s.Fit w) (hs : s.sendMsg w msg = .ok w') : s.Fit w' := by
  have ha := sendMsg_spec hs
  simp only [sendMsg] at hs
  refine { h with msgCh := fun {c} hc => ?_, once := ?_ }
  case refine_1 => rw [Chan.not_closed_iff, ha.closes_eq, ← Chan.not_closed_iff]; exact h.msgCh hc
  case refine_2 =>
    split at hs
    case isTrue => cases hs; exact h.once
    case isFalse =>
      split at hs
      case h_1 => cases hs
      case h_2 => split at hs <;> cases hs; exact h.once

theorem sendMsg_error (h : s.Fit w) (he : s.sendMsg w msg = .error e) : e = .blocked := by
  simp only [sendMsg] at he
  split at he
  case isTrue => cases he
  case isFalse =>
    split at he
    case h_1 => cases he; rfl
    case h_2 c hc =>
      split at he <;> cases he
      case h_1.refl hs =>
        simp only [Chans.send, Chan.send, h.msgCh hc, Bool.false_eq_true, if_false] at hs
        split at hs
        case h_1 => cases hs
        case h_2 hf => split at hf <;> cases hf; cases hs; rfl

theorem writeData_fit (h : s.Fit w) (hw : s.writeData w sid d = .ok (s', w')) : s'.Fit w' := by
  simp only [writeData] at hw
  split at hw
  case h_1 => cases hw
  case h_2 hr => cases hw; exact writeToStream_fit h hr
  case h_3 hr =>
    split at hw <;> cases hw
    case h_2.refl hs => exact sendMsg_fit (writeToStream_fit h hr) hs

theorem writeData_error (h : s.Fit w) (he : s.writeData w sid d = .error e) : e = .blocked ∨ s.Unset := by
  simp only [writeData] at he
  split at he
  case h_1 hr => cases he; exact writeToStream_error h hr
  case h_2 => cases he
  case h_3 hr =>
    split at he <;> cases he
    case h_1.refl hs => exact .inl <| sendMsg_error (writeToStream_fit h hr) hs

theorem writeData_unset (h : s.Fit w) (hu : s.Unset) : s.writeData w sid d = .error .closeOfNilChannel := by
  simp [writeData, writeToStream_unset h hu]

theorem handleData_fit (h : s.Fit w) (hd : handleData sid s w d = .ok (s', w')) : s'.Fit w' := by
  simp only [handleData] at hd
  split at hd
  case isTrue => exact writeData_fit h hd
  case isFalse =>
    split at hd <;> cases hd
    case h_2.refl => exact { h with }

theorem handleData_error (h : s.Fit w) (hb : s.msgBuffer.isSome)
    (he : handleData sid s w d = .error e) : e = .blocked ∨ s.Unset ∧ d.kind.isData = true := by
  simp only [handleData] at he
  split at he
  case isTrue hk => exact (writeData_error h he).imp_right (⟨·, hk⟩)
  case isFalse =>
    split at he
    case h_1 hn => simp [hn] at hb
    case h_2 => cases he

theorem Handles.unset (h : s.Handles s') : s'.Unset ↔ s.Unset := by
  rw [h.left]
  rfl

theorem handleAll_fit (h : s.Fit w) (hd : handleAll sid s w ds = .ok (s', w')) : s'.Fit w' := by
  induction ds generalizing s w
  case nil => cases hd; exact h
  case cons d ds hi =>
    simp only [handleAll] at hd
    split at hd
    case h_1 => cases hd
    case h_2 hr => exact hi (handleData_fit h hr) hd

theorem handleAll_error (h : s.Fit w) (hb : s.msgBuffer.isSome)
    (he : handleAll sid s w ds = .error e) : e = .blocked ∨ s.Unset ∧ ∃ d ∈ ds, d.kind.isData = true := by
  induction ds generalizing s w
  case nil => cases he
  case cons d ds hi =>
    simp only [handleAll] at he
    split at he
    case h_1 hr =>
      cases he
      refine (handleData_error h hb hr).imp_right fun hk => ?_
      exact ⟨hk.left, d, List.mem_cons_self, hk.right⟩
    case h_2 hr =>
      obtain ⟨hh, _⟩ := handleData_spec hr
      refine (hi (handleData_fit h hr) (hh.right ▸ hb) he).imp_right ?_
      rintro ⟨hu, d', hd, hk⟩
      exact ⟨hh.unset.mp hu, d', List.mem_cons_of_mem _ hd, hk⟩

theorem handleAll_unset (h : s.Fit w) (hb : s.msgBuffer.isSome) (hu : s.Unset)
    (hd : ∃ d ∈ ds, d.kind.isData = true) : handleAll sid s w ds = .error .closeOfNilChannel := by
  induction ds generalizing s w
  case nil => simp at hd
  case cons d ds hi =>
    obtain ⟨b, hb⟩ := Option.isSome_iff_exists.mp hb
    cases hk : d.kind.isData
    case true => simp [handleAll, handleData, hk, writeData_unset h hu]
    case false =>
      simp only [handleAll, handleData, hk, hb, Bool.false_eq_true, if_false]
      refine hi { h with } rfl hu ?_
      obtain ⟨d', hd, hk'⟩ := hd
      rcases List.mem_cons.mp hd with rfl | hd
      case inl => simp [hk] at hk'
      case inr => exact ⟨d', hd, hk'⟩

def handed (s : Session) (msg : Msg) : List Data :=
  if msg.seq = 0 ∧ msg.complete then [{ kind := msg.kind, payload := msg.payload }]
  else (s.enqueue msg).snd.fst

theorem deliverWhole_panics_iff (h : s.Fit w) :
    (∃ e, s.deliverWhole w msg = .error e ∧ e ≠ .blocked) ↔ s.Unset ∧ msg.kind.isData = true := by
  cases hk : msg.kind.isData
  case false =>
    refine iff_of_false ?_ (by simp)
    rintro ⟨e, he, hb⟩
    apply hb
    simp only [deliverWhole, hk, Bool.false_eq_true, if_false] at he
    split at he <;> cases he
    case h_1.refl hs => exact sendMsg_error h hs
  case true =>
    simp only [deliverWhole, hk, if_true, and_true]
    constructor
    case mp =>
      rintro ⟨e, he, hb⟩
      split at he <;> cases he
      case h_1.refl hs => exact (writeData_error h hs).resolve_left hb
    case mpr =>
      intro hu
      exact ⟨.closeOfNilChannel, by rw [writeData_unset h hu], by decide⟩

theorem Fit.buffering {b q} (h : s.Fit w) : ({ s with msgBuffer := b, seqQ := q } : Session).Fit w :=
  { h with }

theorem deliverChunk_panics_iff (h : s.Fit w) (ho : s._closed = false) :
    (∃ e, s.deliverChunk w msg = .error e ∧ e ≠ .blocked) ↔
    s.Unset ∧ ∃ d ∈ (s.enqueue msg).snd.fst, d.kind.isData = true := by
  cases hd : handleAll (s.enqueue msg).fst.handleData
    { s with msgBuffer := some (s.msgBuffer.getD []), seqQ := some (s.enqueue msg).fst } w
    (s.enqueue msg).snd.fst
  case error e =>
    simp only [deliverChunk, hd]
    constructor
    case mp =>
      rintro ⟨_, he, hb⟩
      cases he
      exact (handleAll_error h.buffering rfl hd).resolve_left hb
    case mpr =>
      rintro ⟨hu, hk⟩
      cases hd.symm.trans <| handleAll_unset h.buffering rfl hu hk
      exact ⟨_, rfl, by decide⟩
  case ok r =>
    apply iff_of_false
    case ha => simp [deliverChunk_of_handleAll ho hd]
    case hb =>
      rintro ⟨hu, hk⟩
      cases hd.symm.trans <| handleAll_unset h.buffering rfl hu hk

-- Delivering a message panics iff it makes a stream handle data before its outputs are set.
theorem deliverMsg_panics_iff (h : s.Fit w) (ho : s._closed = false) :
    (∃ e, s.deliverMsg w msg = .error e ∧ e ≠ .blocked) ↔
    s.Unset ∧ ∃ d ∈ s.handed msg, d.kind.isData = true := by
  simp only [deliverMsg, handed, ho, Bool.false_eq_true, if_false]
  split
  case isTrue => simpa using deliverWhole_panics_iff h
  case isFalse => exact deliverChunk_panics_iff h ho

theorem close_signals_once (h : w.signals.ClosedOnce) : (s.close w).snd.signals.ClosedOnce := by
  have hr : (s.releaseReady w).signals.ClosedOnce := by
    simp only [releaseReady]
    split
    case isTrue => exact h
    case isFalse =>
      split
      case h_1 => exact h
      case h_2 =>
        split
        case isTrue => exact h
        case isFalse hn => exact h.close (by simpa using hn)
  simp only [close, closeMsgCh]
  split
  case isTrue => exact h
  case isFalse => split <;> exact hr

theorem close_msgChs_once (h : w.msgChs.ClosedOnce)
    (hc : ∀ {c}, s.msgCh = some c → (w.msgChs.chan c).closed = false) : (s.close w).snd.msgChs.ClosedOnce := by
  simp only [close, closeMsgCh]
  split
  case isTrue => exact h
  case isFalse =>
    split
    case h_1 => simpa using h
    case h_2 hm => simpa using h.close (hc hm)

theorem settle_fit {s₁ : Session} {w₁ : World} {b c : Bool} (complete : Bool) (h : s₁.Fit w₁)
    (hd : s₁.settle w₁ complete = (s', w', b, c)) :
    w'.signals.ClosedOnce ∧ (c = false → s'.Fit w' ∧ s'.seqQ = s₁.seqQ) := by
  cases complete <;> cases hd
  case false.refl => exact ⟨h.once, fun _ => ⟨h, rfl⟩⟩
  case true.refl => exact ⟨close_signals_once h.once, nofun⟩

theorem deliverWhole_fit {b c} (h : s.Fit w) (hd : s.deliverWhole w msg = .ok (s', w', b, c)) :
    w'.signals.ClosedOnce ∧ c = true := by
  simp only [deliverWhole] at hd
  split at hd
  case isTrue =>
    split at hd <;> cases hd
    case h_2.refl hw => exact ⟨close_signals_once (writeData_fit h hw).once, rfl⟩
  case isFalse =>
    split at hd <;> cases hd
    case h_2.refl hs => exact ⟨close_signals_once (sendMsg_fit h hs).once, rfl⟩

theorem deliverChunk_fit {b c} (h : s.Fit w) (ho : s._closed = false)
    (hd : s.deliverChunk w msg = .ok (s', w', b, c)) :
    w'.signals.ClosedOnce ∧ (c = false → s'.Fit w' ∧ s'.seqQ = some (s.enqueue msg).fst) := by
  cases hh : handleAll (s.enqueue msg).fst.handleData
    { s with msgBuffer := some (s.msgBuffer.getD []), seqQ := some (s.enqueue msg).fst } w
    (s.enqueue msg).snd.fst
  case error => simp [deliverChunk, hh] at hd
  case ok r =>
    obtain ⟨s₁, w₁⟩ := r
    obtain ⟨⟨hq, _⟩, _⟩ := handleAll_spec hh
    rw [deliverChunk_of_handleAll ho hh] at hd
    obtain ⟨h₁, h₂⟩ := settle_fit _ (handleAll_fit h.buffering hh) (Except.ok.inj hd)
    exact ⟨h₁, fun hc => ⟨(h₂ hc).left, (h₂ hc).right.trans (by rw [hq])⟩⟩

theorem deliverMsg_fit {b c} (h : s.Fit w) (ho : s._closed = false)
    (hd : s.deliverMsg w msg = .ok (s', w', b, c)) :
    w'.signals.ClosedOnce ∧ (c = false → s'.Fit w' ∧ s'.seqQ = some (s.enqueue msg).fst) := by
  simp only [deliverMsg, ho, Bool.false_eq_true, if_false] at hd
  split at hd
  case isTrue =>
    obtain ⟨h₁, h₂⟩ := deliverWhole_fit h hd
    exact ⟨h₁, fun hc => by simp [h₂] at hc⟩
  case isFalse => exact deliverChunk_fit h ho hd

structure Tame (s : Session) : Prop where
  ready : s._streamReady = true → s.streamReady.isSome
  queue : s.Unset → s.Buffers

theorem Tame.handed (t : s.Tame) (hu : s.Unset) (hk : msg.kind.isData = false) :
    ∀ d ∈ s.handed msg, d.kind.isData = false := by
  simp only [Session.handed]
  split
  case isTrue => simpa using hk
  case isFalse => exact ((t.queue hu).enqueue hk).right

end Session

def World.Sound (w : World) : Prop :=
  w.msgChs.ClosedOnce ∧ w.signals.ClosedOnce

namespace SessionManager

open Std (ExtTreeMap)

variable {τ : Type*} {f : TimedSessionFuncs τ} {m m' : SessionManager τ} {s : Session} {w : World}
    {i sid now : Nat} {msg : Msg} {e : Fault} {a : Action} {t : SessionTimeoutHandle}

def perform (f : TimedSessionFuncs τ) (m : SessionManager τ) :
    Action → Except Fault (SessionManager τ)
  | .call c => m.call f c
  | .timeout h => m.handleTimeout f h

def Panics (f : TimedSessionFuncs τ) (m : SessionManager τ) (a : Action) : Prop :=
  match m.perform f a with
  | .error e => e ≠ .blocked
  | .ok m' => ¬m'.world.Sound

def Prepared (m : SessionManager τ) (a : Action) : Prop :=
  ∀ msg s, a = .call (.dispatch msg) → m.sessions[msg.sid]? = some s → s.Unset →
    msg.kind.isData = false

theorem Prepared.of_ne (h : ∀ msg, a ≠ .call (.dispatch msg)) : m.Prepared a :=
  fun msg _ he => absurd he (h msg)

structure Safe (m : SessionManager τ) : Prop where
  valid : m.Valid
  session : ∀ {i : Nat} {s : Session}, m.sessions[i]? = some s → s.Tame
  sound : m.world.Sound

theorem Safe.fit (h : m.Safe) (hs : m.sessions[i]? = some s) : s.Fit m.world where
  ready := (h.session hs).ready
  outputs := (h.valid.session hs).outputs
  once := h.sound.right
  msgCh := by
    intro c hc
    have ⟨c', hc', _, hz, _⟩ := (h.valid.session hs).msgCh
    cases hc ▸ hc'
    exact Chan.not_closed_iff.mpr hz

theorem Safe.new {x : τ} (h : w.Sound) : (SessionManager.new now w x).Safe where
  valid := .new now
  session h := by simp [SessionManager.new] at h
  sound := h

theorem close_sound (h : w.Sound) (hf : s.Fit w) : (s.close w).snd.Sound :=
  ⟨Session.close_msgChs_once h.left hf.msgCh, Session.close_signals_once h.right⟩

theorem Safe.added {realSid stream keepPacket} (h : m.Safe) :
    (m.added f sid realSid stream keepPacket).Safe where
  valid := h.valid.added
  sound := ⟨h.sound.left.make, h.sound.right⟩
  session hs := by
    simp only [SessionManager.added, ExtTreeMap.getElem?_insert, Nat.compare_eq_eq] at hs
    split at hs
    case isTrue => cases hs; exact ⟨by simp [Session.new], fun _ => by simp [Session.Buffers, Session.new]⟩
    case isFalse => exact h.session hs

theorem Safe.setStream {dataOut errOut canWrite} (h : m.Safe) :
    (m.setStream f sid dataOut errOut canWrite).fst.Safe where
  valid := h.valid.setStream
  sound := by
    rcases setStream_cases (f := f) (m := m) with he | he | ⟨s, _, _, he⟩ <;> rw [he]
    case inl => exact h.sound
    case inr.inl => exact ⟨h.sound.left, h.sound.right.make⟩
    case inr.inr => exact ⟨h.sound.left, h.sound.right.make⟩
  session hs := by
    rcases setStream_cases (f := f) (m := m) with he | he | ⟨s, _, _, he⟩ <;> rw [he] at hs
    case inl => exact h.session hs
    case inr.inl => exact h.session hs
    case inr.inr =>
      simp only [ExtTreeMap.getElem?_insert, Nat.compare_eq_eq] at hs
      split at hs
      case isTrue => cases hs; exact ⟨fun _ => rfl, fun hu => nomatch hu.right⟩
      case isFalse => exact h.session hs

theorem Safe.delete (h : m.Safe) : (m.delete f sid).Safe where
  valid := h.valid.delete
  sound := by
    simp only [SessionManager.delete]
    split
    case h_1 => exact h.sound
    case h_2 hs => exact close_sound h.sound (h.fit hs)
  session hs := by
    simp only [SessionManager.delete] at hs
    split at hs
    case h_1 => exact h.session hs
    case h_2 =>
      simp only [ExtTreeMap.getElem?_erase, Nat.compare_eq_eq] at hs
      split at hs
      case isTrue => cases hs
      case isFalse => exact h.session hs

theorem Safe.settled {s₁ w₁ complete} (h : m.Safe) (hs : m.sessions[i]? = some s)
    (ha : s.Accepts s₁) (hw : s.Affects m.world w₁) (hq : complete = false → s₁.seqQ.isSome)
    (ht : complete = false → s₁.Tame) (ho : (m.settled f i s₁ w₁ complete).world.Sound) :
    (m.settled f i s₁ w₁ complete).Safe where
  valid := h.valid.settled hs ha hw hq
  sound := ho
  session hj := by
    simp only [SessionManager.settled] at hj
    split at hj <;> simp only [ExtTreeMap.getElem?_erase, ExtTreeMap.getElem?_insert, Nat.compare_eq_eq] at hj <;>
      split at hj
    case isTrue.isTrue => cases hj
    case isFalse.isTrue n _ => cases hj; exact ht (by simpa using n)
    all_goals exact h.session hj

theorem Safe.dispatch {b} (h : m.Safe)
    (hp : ∀ s, m.sessions[msg.sid]? = some s → s.Unset → msg.kind.isData = false)
    (hd : m.dispatch f msg = .ok (m', b)) : m'.Safe := by
  rcases dispatch_cases h.valid hd with ⟨_, rfl, _⟩ | ⟨s, s₁, w₁, hs, ha, hw, hq, rfl, _, hm⟩
  case inl => exact h
  case inr =>
    have hc : w₁.msgChs.ClosedOnce := fun c => hw.closes_eq c ▸ h.sound.left c
    have ho : ∀ {c}, s₁.msgCh = some c → (w₁.msgChs.chan c).closed = false := by
      intro c hc
      rw [Chan.not_closed_iff, hw.closes_eq, ← Chan.not_closed_iff]
      exact (h.fit hs).msgCh (ha.msgCh ▸ hc)
    have hf := Session.deliverMsg_fit (h.fit hs) (h.valid.session hs).opened hm
    generalize s.completes msg = complete at hq hf
    refine h.settled hs ha hw hq ?_ ?_ <;> cases complete
    case refine_1.true => exact nofun
    case refine_1.false =>
      have ⟨h₁, h₂⟩ := hf.right rfl
      refine fun _ => ⟨h₁.ready, fun hu q hq => ?_⟩
      have hu : s.Unset := ⟨ha.isStream ▸ hu.left, ha.streamReady ▸ hu.right⟩
      cases h₂.symm.trans hq
      exact (((h.session hs).queue hu).enqueue (hp s hs hu)).left
    case refine_2.false => exact ⟨hc, hf.left⟩
    case refine_2.true => exact ⟨Session.close_msgChs_once hc ho, hf.left⟩

theorem Safe.dispatch_error (h : m.Safe)
    (hp : ∀ s, m.sessions[msg.sid]? = some s → s.Unset → msg.kind.isData = false)
    (he : m.dispatch f msg = .error e) : e = .blocked := by
  simp only [SessionManager.dispatch] at he
  split at he
  case h_1 => cases he
  case h_2 s hs =>
    simp only [if_neg (h.valid.current hs)] at he
    split at he <;> cases he
    case h_1.refl hd =>
      by_contra hb
      have ho := (h.valid.session hs).opened
      obtain ⟨hu, d, hm, hk⟩ := Session.deliverMsg_panics_iff (h.fit hs) ho |>.mp ⟨e, hd, hb⟩
      simp [(h.session hs).handed hu (hp s hs hu) d hm] at hk

theorem foldl_closeNonStream_sound {l : List (Nat × Session)} (h : m.world.Sound)
    (hf : ∀ e ∈ l, e.snd.Fit m.world) (hd : l.Pairwise fun e e' => e.snd.Disjoint e'.snd) :
    (l.foldl (closeNonStream f) m).world.Sound := by
  induction l generalizing m
  case nil => exact h
  case cons e l hi =>
    have ⟨hd, hd'⟩ := List.pairwise_cons.mp hd
    have ⟨hf, hf'⟩ := List.forall_mem_cons.mp hf
    simp only [List.foldl_cons, closeNonStream]
    split
    case isTrue => exact hi h hf' hd'
    case isFalse =>
      have hs := close_sound h hf
      refine hi hs (fun e' he => ?_) hd'
      refine { hf' e' he with once := hs.right, msgCh := fun hc => ?_ }
      rw [(Session.close_spares (hd e' he)).msgChs hc]
      exact (hf' e' he).msgCh hc

theorem Safe.cleanup (h : m.Safe) : (m.cleanup f now).Safe where
  valid := h.valid.cleanup
  session hs := h.session (cleanup_getElem? hs).left
  sound := by
    have hm {e} (he : e ∈ m.sessions.toList) := ExtTreeMap.mem_toList_iff_getElem?_eq_some.mp he
    refine foldl_closeNonStream_sound h.sound (fun e he => h.fit (hm he)) ?_
    have hk : m.sessions.toList.Pairwise fun e e' => ¬compare e.fst e'.fst = .eq :=
      ExtTreeMap.distinct_keys_toList
    refine hk.imp_of_mem fun he he' hn => ?_
    exact h.valid.disjoint (hm he) (hm he') (by simpa using hn)

theorem Safe.recv {ch} {c : Chan Msg} (h : m.Safe) (hr : (m.world.msgChs.chan ch).recv = some c) :
    ({ m with world := { m.world with msgChs := m.world.msgChs.set ch c } } :
      SessionManager τ).Safe where
  valid := h.valid.recv hr
  session := h.session
  sound := by
    refine ⟨fun i => ?_, h.sound.right⟩
    by_cases hi : i = ch
    case neg => simpa [Chans.chan_set_of_ne hi] using h.sound.left i
    case pos =>
      simp only [Chan.recv] at hr
      split at hr <;> cases hr
      case isTrue.refl => simpa [hi] using h.sound.left ch

theorem Safe.call {c} (h : m.Safe) (hp : m.Prepared (.call c)) (hc : m.call f c = .ok m') : m'.Safe := by
  cases call_moves hc
  case reuse => exact h
  case create => exact h.added
  case setStream => exact h.setStream
  case dispatch hd => exact h.dispatch (fun s => hp _ s rfl) hd
  case delete => exact h.delete
  case cleanup => exact h.cleanup
  case recv hr => exact h.recv hr
  case signal => exact { valid := h.valid.signal, session := h.session, sound := h.sound }

theorem Safe.call_error {c} (h : m.Safe) (hp : m.Prepared (.call c)) (he : m.call f c = .error e) :
    e = .blocked := by
  cases c <;> simp only [SessionManager.call] at he
  case add sid stream keepPacket =>
    simp only [add] at he
    split at he
    case h_1 => cases he
    case h_2 => split at he <;> cases he; rfl
  case dispatch msg =>
    cases hd : m.dispatch f msg <;> simp only [hd, Except.map] at he <;> cases he
    case error.refl => exact h.dispatch_error (fun s => hp _ s rfl) hd
  case recv => split at he <;> cases he; rfl
  all_goals cases he

theorem timeoutMsg_nonData {s : Session} :
    m.sessions[(timeoutMsg sid).sid]? = some s → s.Unset → (timeoutMsg sid).kind.isData = false :=
  fun _ _ => rfl

theorem Safe.handleTimeout (h : m.Safe) (ht : m.handleTimeout f t = .ok m') : m'.Safe := by
  have hv := h.valid.handleTimeout ht
  cases t <;> simp only [SessionManager.handleTimeout] at ht
  case session =>
    split at ht <;> cases ht
    case h_2.refl hd => exact (h.dispatch (fun _ => timeoutMsg_nonData) hd).delete
  case streamCreation =>
    split at ht <;> cases ht
    case isTrue.refl => exact h
    case isFalse.refl n =>
      exact {
        valid := hv
        session := h.session
        sound := ⟨h.sound.left, h.sound.right.close (by simpa using n)⟩
      }

theorem Safe.handleTimeout_error (h : m.Safe) (he : m.handleTimeout f t = .error e) : e = .blocked := by
  cases t <;> simp only [SessionManager.handleTimeout] at he
  case session => split at he <;> cases he; exact h.dispatch_error (fun _ => timeoutMsg_nonData) ‹_›
  case streamCreation => split at he <;> cases he

theorem Safe.step (h : m.Safe) (hp : m.Prepared a) (hs : m.step f a = some m') : m'.Safe := by
  cases a
  case call => exact h.call hp <| Except.toOption_eq_some_iff.mp hs
  case timeout => exact h.handleTimeout <| Except.toOption_eq_some_iff.mp hs

theorem Safe.not_panics (h : m.Safe) (hp : m.Prepared a) : ¬m.Panics f a := by
  simp only [Panics]
  split
  case h_1 e he =>
    rw [not_not]
    cases a
    case call => exact h.call_error hp he
    case timeout => exact h.handleTimeout_error he
  case h_2 m' hm =>
    rw [not_not]
    cases a
    case call => exact (h.call hp hm).sound
    case timeout => exact (h.handleTimeout hm).sound

-- No call of a session manager panics as long as no data arrives for a stream which is not set.
theorem not_panics_of_prepared {as : List Action} {x : τ} (hw : w.Sound)
    (e : Execution (step f) (new now w x) as m) (hp : Along (step f) Prepared (new now w x) as)
    (ha : m.Prepared a) : ¬m.Panics f a := by
  have h : m.Safe := e.preserves_along (fun h hp hs => h.step hp hs) (Safe.new hw) hp
  exact h.not_panics ha

def oneByte : Msg where
  kind := .data
  sid := 1
  seq := 0
  complete := false
  payload := [0]

theorem not_panics_of_prepared_set :
    let m := (new 0 .empty ()).added .ignore 0 1 true false
    ¬(m.setStream .ignore 1 (some (.out 0)) none none).fst.Panics .ignore
      (.call (.dispatch oneByte)) := by
  intro m
  have e : Execution (step .ignore) (new 0 .empty ())
      [.call (.add 0 true false), .call (.setStream 1 (some (.out 0)) none none)]
      (m.setStream .ignore 1 (some (.out 0)) none none).fst := .trans rfl <| .trans rfl .refl
  refine not_panics_of_prepared ⟨fun _ => Nat.zero_le 1, fun _ => Nat.zero_le 1⟩ e ?_ ?_
  case refine_1 => exact ⟨.of_ne nofun, fun _ _ => ⟨.of_ne nofun, fun _ _ => trivial⟩⟩
  case refine_2 =>
    intro msg s h hs hu
    cases h
    cases hs
    cases hu.right

-- The device guesses the id of a stream and sends data before the stream is set.
theorem panics_unset :
    let m := (new 0 .empty ()).added .ignore 0 1 true false
    m.Reached .ignore ∧ m.dispatch .ignore oneByte = .error .closeOfNilChannel ∧
    m.Panics .ignore (.call (.dispatch oneByte)) := by
  intro m
  have e : Execution (step .ignore) (new 0 .empty ()) [.call (.add 0 true false)] m :=
    .trans rfl .refl
  have hd : m.dispatch .ignore oneByte = .error .closeOfNilChannel := rfl
  refine ⟨⟨_, _, _, e.reachable⟩, hd, ?_⟩
  simp [Panics, perform, call, hd, Except.map]

end SessionManager
end Aranya
