import Aranya.Connectivity.Theorems.SessionManager

namespace Aranya

open Std (ExtTreeMap)

-- Only the last one is marked as completing.
def Msg.chunk (sid n : Nat) (d : Nat → Data) (i : Nat) : Msg where
  kind := (d i).kind
  sid := sid
  seq := i
  complete := i + 1 = n
  payload := (d i).payload

namespace Session

variable {s : Session} {w : World} {sid : Nat} {msg : Msg}

def Buffers (s : Session) : Prop :=
  ∀ q, s.seqQ = some q → q.Holds (·.kind.isData = false)

theorem handleAll_nonData {b} {ds : List Data} (hd : ∀ d ∈ ds, d.kind.isData = false)
    (hb : s.msgBuffer = some b) :
    handleAll sid s w ds = .ok ({ s with msgBuffer := some (b ++ ds.flatMap Data.payload) }, w) := by
  induction ds generalizing s b
  case nil => simp [handleAll, ← hb]
  case cons d ds hi =>
    obtain ⟨h₁, h₂⟩ := List.forall_mem_cons.mp hd
    simp only [handleAll, handleData, h₁, hb, Bool.false_eq_true, if_false]
    rw [hi h₂ rfl, List.flatMap_cons, List.append_assoc]

theorem Buffers.enqueue (hb : s.Buffers) (hk : msg.kind.isData = false) :
    (s.enqueue msg).fst.Holds (·.kind.isData = false) ∧
    ∀ d ∈ (s.enqueue msg).snd.fst, d.kind.isData = false := by
  have hq : (s.seqQ.getD (.new msg.sid)).Holds (·.kind.isData = false) := by
    cases hs : s.seqQ
    case none => exact .new
    case some q => exact hb q hs
  simp only [Session.enqueue]
  split
  case isTrue => exact hq.setMaxSeq.offer hk
  case isFalse => exact hq.offer hk

theorem deliverMsg_nonData (ho : s._closed = false) (hb : s.Buffers) (hk : msg.kind.isData = false)
    (hw : ¬(msg.seq = 0 ∧ msg.complete)) :
    ∃ s₁, s.Accepts s₁ ∧ s₁.Buffers ∧
      s.deliverMsg w msg = .ok (s₁.settle w (s.enqueue msg).snd.snd) := by
  have ⟨h₁, h₂⟩ := hb.enqueue hk
  have hd : s.deliverMsg w msg = s.deliverChunk w msg := by
    simp only [deliverMsg, ho, Bool.false_eq_true, if_false, if_neg hw]
  refine ⟨_, ?_, ?_, hd.trans <| deliverChunk_of_handleAll ho <| handleAll_nonData h₂ rfl⟩
  case refine_1 => rfl
  case refine_2 => intro q h; cases h; exact h₁

end Session

namespace SessionManager

variable {τ : Type*} {f : TimedSessionFuncs τ} {m m' : SessionManager τ} {s : Session} {sid c n : Nat}
    {msg : Msg} {d : Nat → Data}

theorem step_dispatch {b} (h : m.dispatch f msg = .ok (m', b)) :
    m.step f (.call (.dispatch msg)) = some m' := by
  simp [step, call, h, Except.map, Except.toOption]

theorem dispatch_of_none (h : m.sessions[msg.sid]? = none) : m.dispatch f msg = .ok (m, false) := by
  simp [dispatch, h]

structure Silent (m : SessionManager τ) (sid c : Nat) : Prop where
  valid : m.Valid
  sent : (m.world.msgChs.chan c).sent = []
  session : ∀ {s : Session}, m.sessions[sid]? = some s → s.msgCh = some c ∧ s.Buffers

theorem Silent.dispatch (msg : Msg) (h : m.Silent msg.sid c) (hk : msg.kind.isData = false)
    (hw : ¬(msg.seq = 0 ∧ msg.complete)) :
    ∃ m', m.step f (.call (.dispatch msg)) = some m' ∧ m'.Silent msg.sid c := by
  cases hs : m.sessions[msg.sid]?
  case none => exact ⟨m, step_dispatch <| dispatch_of_none hs, h⟩
  case some s =>
    have ⟨hc, hb⟩ := h.session hs
    have ho := (h.valid.session hs).opened
    have ⟨s₁, ha, hb₁, hd⟩ := Session.deliverMsg_nonData (w := m.world) ho hb hk hw
    have hd := dispatch_of_deliverMsg (f := f) h.valid hs hd
    refine ⟨_, step_dispatch hd, h.valid.dispatch hd, ?_, ?_⟩ <;>
      cases (s.enqueue msg).snd.snd <;> simp only [settled, Bool.false_eq_true, if_false, if_true]
    case refine_1.false => exact h.sent
    case refine_1.true =>
      rw [Session.close_msgChs (ha.opened.trans ho) (ha.msgCh.trans hc)]
      simpa using h.sent
    case refine_2.false =>
      intro t ht
      cases ExtTreeMap.getElem?_insert_self.symm.trans ht
      exact ⟨ha.msgCh.trans hc, hb₁⟩
    case refine_2.true =>
      intro t ht
      cases ExtTreeMap.getElem?_erase_self.symm.trans ht

theorem Silent.dispatch_all (arrivals : List Nat) (h : m.Silent sid c)
    (hk : ∀ i, (d i).kind.isData = false) (hn : n ≠ 1) :
    ∃ m', Execution (step f) m (arrivals.map fun i => .call (.dispatch (.chunk sid n d i))) m' ∧
      m'.Silent sid c := by
  induction arrivals generalizing m
  case nil => exact ⟨m, .refl, h⟩
  case cons i is hi =>
    have ⟨m₁, hs, h₁⟩ := h.dispatch (f := f) (.chunk sid n d i) (hk i) (by simp [Msg.chunk]; omega)
    have ⟨m₂, e, h₂⟩ := hi h₁
    exact ⟨m₂, .trans hs e, h₂⟩

theorem dispatch_single (msg : Msg) (v : m.Valid) (hs : m.sessions[msg.sid]? = some s)
    (hc : s.msgCh = some c) (hf : (m.world.msgChs.chan c).sent = []) (hk : msg.kind.isData = false)
    (hw : msg.seq = 0 ∧ msg.complete) :
    ∃ m', m.dispatch f msg = .ok (m', true) ∧ m'.sessions[msg.sid]? = none ∧
      (m'.world.msgChs.chan c).sent = [msg] ∧ (m'.world.msgChs.chan c).closed = true ∧
      m'.world.writers = m.world.writers := by
  have hv := v.session hs
  have ⟨c', hc', _, hz, hp, _⟩ := hv.msgCh
  cases hc.symm.trans hc'
  let w₁ : World :=
    { m.world with msgChs := m.world.msgChs.set c { m.world.msgChs.chan c with sent := [msg] } }
  have hd : s.deliverMsg m.world msg = .ok (s.settle w₁ true) := by
    simp only [Session.deliverMsg, hv.opened, Bool.false_eq_true, if_false, if_pos hw,
      Session.deliverWhole, hk, Session.sendMsg, hc, Chans.send_first hz (hp ▸ Nat.one_pos) hf]
    rfl
  refine ⟨_, dispatch_of_deliverMsg v hs hd, ?_⟩
  simp only [settled, if_true, ExtTreeMap.getElem?_erase, true_and, Session.close_msgChs hv.opened hc,
    Session.close_writers, Nat.compare_eq_eq]
  simp [w₁]

theorem dispatch_all_of_none {arrivals : List Nat} (h : m.sessions[sid]? = none) :
    Execution (step f) m (arrivals.map fun i => .call (.dispatch (.chunk sid n d i))) m := by
  induction arrivals
  case nil => exact .refl
  case cons hi => exact .trans (step_dispatch <| dispatch_of_none h) hi

end SessionManager

def World.Reassembled (w : World) (c sid : Nat) (payload : Bytes) : Prop :=
  ∃ msg, (w.msgChs.chan c).sent = [msg] ∧ msg.sid = sid ∧ msg.payload = payload ∧
    (w.msgChs.chan c).closed = true

namespace SessionManager

variable {τ : Type*} {f : TimedSessionFuncs τ} {m : SessionManager τ} {s : Session} {sid c n : Nat}

-- In whatever order the chunks arrive, the message is only received when it was not cut: otherwise the
-- session is closed before the buffer is sent.
theorem reassembled_iff_uncut {kind : MsgType} {payload : Nat → Bytes} {arrivals : List Nat}
    (hr : m.Reached f) (hs : m.sessions[sid]? = some s) (hq : s.seqQ = none) (hc : s.msgCh = some c)
    (hk : kind.isData = false) (hn : 1 ≤ n) (hi : ∀ i ∈ arrivals, i < n)
    (ha : ∀ i < n, i ∈ arrivals) :
    ∃ m', Execution (step f) m
        (arrivals.map fun i => .call (.dispatch (.chunk sid n (fun i => ⟨kind, payload i⟩) i))) m' ∧
      (m'.world.Reassembled c sid ((List.range n).flatMap payload) ↔ n = 1) := by
  have hv := hr.valid
  have ⟨c', hc', _, _, _, hf⟩ := (hv.session hs).msgCh
  cases hc.symm.trans hc'
  by_cases h₁ : n = 1
  case pos =>
    subst h₁
    cases arrivals
    case nil => cases ha 0 Nat.one_pos
    case cons i is =>
      cases Nat.lt_one_iff.mp <| hi i List.mem_cons_self
      have ⟨m', h₁, h₂, h₃, h₄, _⟩ := dispatch_single (f := f)
        (.chunk sid 1 (fun i => ⟨kind, payload i⟩) 0) hv hs hc (hf hq) hk ⟨rfl, rfl⟩
      refine ⟨m', .trans (step_dispatch h₁) <| dispatch_all_of_none h₂, ?_⟩
      refine iff_of_true ⟨_, h₃, rfl, ?_, h₄⟩ rfl
      simp [Msg.chunk]
  case neg =>
    have hb : m.Silent sid c := by
      refine ⟨hv, hf hq, fun ht => ?_⟩
      cases hs.symm.trans ht
      exact ⟨hc, by simp [Session.Buffers, hq]⟩
    have ⟨m', e, h⟩ := hb.dispatch_all (f := f) (d := (⟨kind, payload ·⟩)) arrivals (fun _ => hk) h₁
    exact ⟨m', e, iff_of_false (fun ⟨_, hm, _⟩ => by simp [h.sent] at hm) h₁⟩

def oneSession : SessionManager Unit :=
  added .ignore (new 0 .empty ()) 0 1 false false

theorem oneSession_reached : oneSession.Reached .ignore :=
  ⟨0, .empty, (), [.call (.add 0 false false)], .single rfl⟩

theorem reassembled_iff_uncut_reversed :
    ∃ m', Execution (step .ignore) oneSession
        ([1, 0, 1].map fun i => .call (.dispatch (.chunk 1 2 (⟨.runtime, [·.toUInt8]⟩) i))) m' ∧
      (m'.world.Reassembled 0 1 [0, 1] ↔ 2 = 1) :=
  reassembled_iff_uncut oneSession_reached rfl rfl rfl rfl (by decide) (by decide) (by decide)

-- Two chunks which arrive in order: the channel is closed without a message.
theorem not_reassembled_two_chunks :
    oneSession.Reached .ignore ∧
    ∃ m', Execution (step .ignore) oneSession
        ([0, 1].map fun i => .call (.dispatch (.chunk 1 2 (⟨.runtime, [·.toUInt8]⟩) i))) m' ∧
      m'.sessions[1]?.isNone ∧ (m'.world.msgChs.chan 0).sent = [] ∧
      (m'.world.msgChs.chan 0).closed ∧ ¬m'.world.Reassembled 0 1 [0, 1] := by
  refine ⟨oneSession_reached, _, .trans rfl <| .trans rfl .refl, rfl, rfl, rfl, ?_⟩
  rintro ⟨_, h, _⟩
  cases h

end SessionManager
end Aranya
