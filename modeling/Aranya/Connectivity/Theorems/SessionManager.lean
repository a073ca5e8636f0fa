import Aranya.Lib.Except
import Aranya.Connectivity.SessionManager
import Aranya.Connectivity.Theorems.Session

namespace Aranya

open Std (ExtTreeMap)

structure World.Spares (w w' : World) (s : Session) : Prop where
  msgNext : w.msgChs.next ≤ w'.msgChs.next
  sigNext : w.signals.next ≤ w'.signals.next
  msgChs : ∀ {c}, s.msgCh = some c → w'.msgChs.chan c = w.msgChs.chan c
  signals : ∀ {c}, s.streamReady = some c → w'.signals.chan c = w.signals.chan c

theorem World.Spares.refl {w : World} {s : Session} : w.Spares w s where
  msgNext := le_rfl
  sigNext := le_rfl
  msgChs := by simp
  signals := by simp

theorem World.Spares.trans {w₁ w₂ w₃ : World} {s : Session}
    (h₁ : w₁.Spares w₂ s) (h₂ : w₂.Spares w₃ s) : w₁.Spares w₃ s where
  msgNext := h₁.msgNext.trans h₂.msgNext
  sigNext := h₁.sigNext.trans h₂.sigNext
  msgChs h := (h₂.msgChs h).trans (h₁.msgChs h)
  signals h := (h₂.signals h).trans (h₁.signals h)

namespace Session

variable {s s' t : Session} {w w' : World} {epoch : Nat}

structure Disjoint (s t : Session) : Prop where
  msgCh : ∀ {c}, t.msgCh = some c → s.msgCh ≠ some c
  streamReady : ∀ {c}, t.streamReady = some c → s.streamReady ≠ some c

theorem Disjoint.symm (d : s.Disjoint t) : t.Disjoint s where
  msgCh h := fun h' => d.msgCh h' h
  streamReady h := fun h' => d.streamReady h' h

theorem Disjoint.congr (d : s.Disjoint t) (hm : s'.msgCh = s.msgCh)
    (hr : s'.streamReady = s.streamReady) : s'.Disjoint t where
  msgCh := hm ▸ d.msgCh
  streamReady := hr ▸ d.streamReady

theorem Affects.spares (a : s.Affects w w') (d : s.Disjoint t) : w.Spares w' t where
  msgNext := a.msgNext.ge
  sigNext := a.sigNext.ge
  msgChs h := a.msgChs _ (d.msgCh h)
  signals h := a.signals _ (d.streamReady h)

theorem close_spares (d : s.Disjoint t) : w.Spares (s.close w).snd t where
  msgNext := close_msgNext.ge
  sigNext := close_sigNext.ge
  msgChs h := close_msgChs_of_ne (d.msgCh h)
  signals h := close_signals_of_ne (d.streamReady h)

-- A registered session is open and of the current epoch, its channel is open and unused until the first
-- chunk arrives, and a stream that has been set has outputs.
structure Valid (s : Session) (epoch : Nat) (w : World) : Prop where
  opened : s._closed = false
  epoch : s.isStream = false → s.epoch = epoch
  msgCh : ∃ c, s.msgCh = some c ∧ c < w.msgChs.next ∧ (w.msgChs.chan c).closes = 0 ∧
    (w.msgChs.chan c).cap = 1 ∧ (s.seqQ = none → (w.msgChs.chan c).sent = [])
  ready : ∀ {c}, s.streamReady = some c → c < w.signals.next
  outputs : ∀ {c}, s.streamReady = some c → s.dataOut.isSome ∧ s.errOut.isSome
  idle : s.seqQ = none → s._streamReady = false

theorem Valid.spares (v : s.Valid epoch w) (h : w.Spares w' s) : s.Valid epoch w' where
  opened := v.opened
  epoch := v.epoch
  ready r := lt_of_lt_of_le (v.ready r) h.sigNext
  outputs := v.outputs
  idle := v.idle
  msgCh := by
    have ⟨c, hc, hl, hv⟩ := v.msgCh
    exact ⟨c, hc, lt_of_lt_of_le hl h.msgNext, h.msgChs hc ▸ hv⟩

theorem Accepts.msgCh (h : s.Accepts s') : s'.msgCh = s.msgCh := by
  rw [h]

theorem Accepts.streamReady (h : s.Accepts s') : s'.streamReady = s.streamReady := by
  rw [h]

theorem Accepts.isStream (h : s.Accepts s') : s'.isStream = s.isStream := by
  rw [h]

theorem Accepts.prependSize (h : s.Accepts s') : s'.prependSize = s.prependSize := by
  rw [h]

theorem Accepts.opened (h : s.Accepts s') : s'._closed = s._closed := by
  rw [h]

theorem Valid.accepts (v : s.Valid epoch w) (a : s.Accepts s') (f : s.Affects w w')
    (hq : s'.seqQ.isSome) : s'.Valid epoch w' where
  opened := by rw [a]; exact v.opened
  epoch := by rw [a]; exact v.epoch
  ready h := f.sigNext ▸ v.ready (a.streamReady ▸ h)
  outputs := by rw [a]; exact v.outputs
  idle h := by simp [h] at hq
  msgCh := by
    have ⟨c, hc, hl, hz, hp, _⟩ := v.msgCh
    refine ⟨c, a.msgCh ▸ hc, f.msgNext ▸ hl, f.closes_eq c ▸ hz, f.cap_eq c ▸ hp, fun hn => ?_⟩
    simp [hn] at hq

end Session

namespace SessionManager

variable {τ : Type*} {f : TimedSessionFuncs τ} {m m' : SessionManager τ} {s s' t : Session} {w : World} {x : τ}
    {sid i j : Nat} {msg : Msg}

structure Valid (m : SessionManager τ) : Prop where
  session : ∀ {i : Nat} {s : Session}, m.sessions[i]? = some s → s.Valid m.epoch m.world
  disjoint : ∀ {i j : Nat} {s t : Session},
    m.sessions[i]? = some s → m.sessions[j]? = some t → i ≠ j → s.Disjoint t

theorem mem_of_getElem? {m : ExtTreeMap Nat Session} (h : m[i]? = some s) : i ∈ m :=
  ExtTreeMap.mem_iff_isSome_getElem?.mpr (Option.isSome_of_eq_some h)

theorem notMem_of_getElem? {m : ExtTreeMap Nat Session} (h : m[i]? = none) : i ∉ m := by
  rw [ExtTreeMap.mem_iff_isSome_getElem?, h]
  exact nofun

theorem erase_insert (m : ExtTreeMap Nat Session) : (m.insert i s).erase i = m.erase i := by
  ext1 k
  simp only [ExtTreeMap.getElem?_erase, ExtTreeMap.getElem?_insert, Nat.compare_eq_eq]
  split <;> rfl

namespace Valid

theorem new (now : Nat) : (new now w x).Valid where
  session h := by simp [SessionManager.new] at h
  disjoint h := by simp [SessionManager.new] at h

theorem world (v : m.Valid)
    (h : ∀ {i : Nat} {t : Session}, m.sessions[i]? = some t → m.world.Spares w t) :
    ({ m with world := w, timed := x } : SessionManager τ).Valid where
  session ht := (v.session ht).spares (h ht)
  disjoint := v.disjoint

theorem insert (v : m.Valid) (hs : s'.Valid m.epoch w)
    (hd : ∀ {j : Nat} {t : Session}, m.sessions[j]? = some t → i ≠ j → s'.Disjoint t)
    (h : ∀ {j : Nat} {t : Session}, m.sessions[j]? = some t → i ≠ j → m.world.Spares w t) :
    ({ m with sessions := m.sessions.insert i s', sid := sid, world := w, timed := x } :
      SessionManager τ).Valid where
  session ht := by
    simp only [ExtTreeMap.getElem?_insert, Nat.compare_eq_eq] at ht
    split at ht
    case isTrue => cases ht; exact hs
    case isFalse n => exact (v.session ht).spares (h ht n)
  disjoint h₁ h₂ n := by
    simp only [ExtTreeMap.getElem?_insert, Nat.compare_eq_eq] at h₁ h₂
    split at h₁ <;> split at h₂
    case isTrue.isTrue e₁ e₂ => exact absurd (e₁.symm.trans e₂) n
    case isTrue.isFalse e₁ e₂ => cases h₁; exact hd h₂ e₂
    case isFalse.isTrue e₁ e₂ => cases h₂; exact (hd h₁ e₁).symm
    case isFalse.isFalse e₁ e₂ => exact v.disjoint h₁ h₂ n

theorem erase (v : m.Valid)
    (h : ∀ {j : Nat} {t : Session}, m.sessions[j]? = some t → i ≠ j → m.world.Spares w t) :
    ({ m with sessions := m.sessions.erase i, world := w, timed := x } : SessionManager τ).Valid := by
  have hm {j : Nat} {t : Session} (ht : (m.sessions.erase i)[j]? = some t) : m.sessions[j]? = some t ∧ i ≠ j := by
    simpa [ExtTreeMap.getElem?_erase, and_comm] using ht
  constructor
  case session => exact fun ht => (v.session (hm ht).left).spares (h (hm ht).left (hm ht).right)
  case disjoint => exact fun h₁ h₂ => v.disjoint (hm h₁).left (hm h₂).left

end Valid

-- Ids are 64 bit numbers which wrap around.
def FirstFree (m : SessionManager τ) (i : Nat) : Prop :=
  i ∉ m.sessions ∧
  ∃ j, i = (m.sid + j + 1) % 2 ^ 64 ∧ ∀ k < j, (m.sid + k + 1) % 2 ^ 64 ∈ m.sessions

theorem FirstFree.unique (h₁ : m.FirstFree i) (h₂ : m.FirstFree j) : i = j := by
  have ⟨n₁, k₁, e₁, u₁⟩ := h₁
  have ⟨n₂, k₂, e₂, u₂⟩ := h₂
  rcases Nat.lt_trichotomy k₁ k₂ with h | h | h
  case inl => exact absurd (e₁ ▸ u₂ k₁ h) n₁
  case inr.inl => rw [e₁, e₂, h]
  case inr.inr => exact absurd (e₂ ▸ u₁ k₂ h) n₂

theorem nextSid_go_firstFree {n k} (hu : ∀ l < k, (m.sid + l + 1) % 2 ^ 64 ∈ m.sessions)
    (h : nextSid.go m n ((m.sid + k + 1) % 2 ^ 64) = some i) : m.FirstFree i := by
  induction n generalizing k
  case zero =>
    simp only [nextSid.go] at h
    split at h
    case isTrue => cases h
    case isFalse n => cases h; exact ⟨n, k, rfl, hu⟩
  case succ hi =>
    simp only [nextSid.go] at h
    split at h
    case isFalse n => cases h; exact ⟨n, k, rfl, hu⟩
    case isTrue hm =>
      have hw : ((m.sid + k + 1) % 2 ^ 64 + 1) % 2 ^ 64 = (m.sid + (k + 1) + 1) % 2 ^ 64 := by omega
      refine hi (fun l hl => ?_) (hw ▸ h)
      rcases Nat.lt_succ_iff_lt_or_eq.mp hl with hl | hl
      case inl => exact hu l hl
      case inr => exact hl ▸ hm

theorem nextSid_firstFree (h : m.nextSid = some i) : m.FirstFree i :=
  nextSid_go_firstFree (k := 0) (by simp) h

theorem nextSid_getElem? (h : m.nextSid = some i) : m.sessions[i]? = none :=
  ExtTreeMap.getElem?_eq_none (nextSid_firstFree h).left

def added (f : TimedSessionFuncs τ) (m : SessionManager τ) (sid realSid : Nat)
    (stream keepPacket : Bool) : SessionManager τ :=
  { m with
    sessions := m.sessions.insert realSid (.new m.epoch m.world.msgChs.next stream keepPacket)
    sid := realSid
    world := { m.world with msgChs := m.world.msgChs.make 1 }
    timed := if stream then m.timed else f.addTimedSession realSid (.session sid) m.timed }

theorem add_cases {stream keepPacket realSid ch}
    (h : m.add f sid stream keepPacket = .ok (m', realSid, ch)) :
    (∃ s, m.sessions[sid]? = some s ∧ m' = m ∧ realSid = sid ∧ ch = s.msgCh) ∨
    (m.sessions[sid]? = none ∧ m.nextSid = some realSid ∧ ch = some m.world.msgChs.next ∧
      m' = m.added f sid realSid stream keepPacket) := by
  simp only [add] at h
  split at h
  case h_1 s hs => cases h; exact .inl ⟨s, hs, rfl, rfl, rfl⟩
  case h_2 hn =>
    split at h
    case h_1 => cases h
    case h_2 hr => cases h; exact .inr ⟨hn, hr, rfl, rfl⟩

theorem Valid.spares_msgCh {t : Session} (v : m.Valid) (ht : m.sessions[j]? = some t) :
    m.world.Spares { m.world with msgChs := m.world.msgChs.make 1 } t := by
  obtain ⟨c, hc, hl, _⟩ := (v.session ht).msgCh
  refine { World.Spares.refl with msgNext := by simp, msgChs := fun {c'} h => ?_ }
  cases hc ▸ h
  exact Chans.chan_make_of_lt hl

theorem Valid.added {realSid stream keepPacket} (v : m.Valid) :
    (m.added f sid realSid stream keepPacket).Valid := by
  refine v.insert ?_ ?_ fun ht _ => v.spares_msgCh ht
  case refine_1 =>
    exact {
      opened := rfl
      epoch := fun _ => rfl
      msgCh := ⟨_, rfl, by simp [Chan.new]⟩
      ready := by simp [Session.new]
      outputs := by simp [Session.new]
      idle := fun _ => rfl
    }
  case refine_2 =>
    intro j t ht _
    have ⟨c, hc, hl, _⟩ := (v.session ht).msgCh
    refine ⟨fun {c'} h h' => ?_, fun _ h' => by simp [Session.new] at h'⟩
    cases hc ▸ h
    cases h'
    exact hl.false

theorem setStream_cases {dataOut errOut canWrite} :
    ((m.setStream f sid dataOut errOut canWrite).fst = m) ∨
    ((m.setStream f sid dataOut errOut canWrite).fst =
      { m with world := { m.world with signals := m.world.signals.make 0 } }) ∨
    (∃ s, m.sessions[sid]? = some s ∧ s.streamReady = none ∧
      (m.setStream f sid dataOut errOut canWrite).fst =
      { m with
        sessions := m.sessions.insert sid { s with
          dataOut := dataOut.getD .discard
          errOut := errOut.getD (dataOut.getD .discard)
          streamReady := m.world.signals.next
          _streamReady := false
          canWrite := canWrite }
        world := { m.world with signals := m.world.signals.make 0 }
        timed := f.addTimedStreamCreation sid (.streamCreation m.world.signals.next) m.timed }) := by
  simp only [setStream]
  split
  case h_1 => exact .inl rfl
  case h_2 s hs =>
    simp only [Session.setStream]
    cases hr : s.streamReady
    case some => exact .inr <| .inl rfl
    case none => exact .inr <| .inr ⟨s, hs, hr, rfl⟩

section

variable {realSid : Nat} {keepPacket : Bool} {dataOut errOut : Option WriterRef} {canWrite : Option Nat}

theorem setStream_added_snd :
    ((m.added f sid realSid true keepPacket).setStream f realSid dataOut errOut canWrite).snd =
    some m.world.signals.next := by
  simp [setStream, added, Session.setStream, Session.new]

theorem setStream_added_world :
    ((m.added f sid realSid true keepPacket).setStream f realSid dataOut errOut canWrite).fst.world =
    { m.world with msgChs := m.world.msgChs.make 1, signals := m.world.signals.make 0 } := by
  simp [setStream, added, Session.setStream, Session.new]

theorem setStream_added_getElem? :
    ((m.added f sid realSid true keepPacket).setStream f realSid dataOut errOut canWrite).fst.sessions[realSid]? =
    some { Session.new m.epoch m.world.msgChs.next true keepPacket with
      dataOut := dataOut.getD .discard
      errOut := errOut.getD (dataOut.getD .discard)
      streamReady := m.world.signals.next
      canWrite := canWrite } := by
  simp [setStream, added, Session.setStream, Session.new]

end

theorem Valid.spares_signal {t : Session} (v : m.Valid) (ht : m.sessions[j]? = some t) :
    m.world.Spares { m.world with signals := m.world.signals.make 0 } t := by
  refine { World.Spares.refl with sigNext := by simp, signals := fun h => ?_ }
  exact Chans.chan_make_of_lt <| (v.session ht).ready h

theorem Valid.setStream {dataOut errOut canWrite} (v : m.Valid) :
    (m.setStream f sid dataOut errOut canWrite).fst.Valid := by
  rcases setStream_cases (f := f) (m := m) with h | h | ⟨s, hs, hr, h⟩ <;> rw [h]
  case inl => exact v
  case inr.inl => exact v.world v.spares_signal
  case inr.inr =>
    refine v.insert ?_ ?_ fun ht _ => v.spares_signal ht
    case refine_1 =>
      have hv := (v.session hs).spares (v.spares_signal hs)
      exact {
        opened := hv.opened
        epoch := hv.epoch
        msgCh := hv.msgCh
        ready := fun h => by cases h; simp
        outputs := by simp
        idle := fun _ => rfl
      }
    case refine_2 =>
      intro j t ht hn
      refine ⟨(v.disjoint hs ht hn).msgCh, fun hc h => ?_⟩
      have := (v.session ht).ready hc
      cases h
      omega

theorem Valid.delete (v : m.Valid) : (m.delete f sid).Valid := by
  simp only [SessionManager.delete]
  split
  case h_1 => exact v
  case h_2 s hs => exact v.erase fun ht hn => Session.close_spares <| v.disjoint hs ht hn

def settled (f : TimedSessionFuncs τ) (m : SessionManager τ) (sid : Nat) (s : Session) (w : World)
    (complete : Bool) : SessionManager τ :=
  if complete then
    { m with
      sessions := m.sessions.erase sid
      world := (s.close w).snd
      timed := f.delTimedSession sid m.timed }
  else
    { m with sessions := m.sessions.insert sid s, world := w }

-- The epoch of a registered session is never outdated, so that branch of the source is not taken.
theorem Valid.current (v : m.Valid) (hs : m.sessions[i]? = some s) :
    ¬(s.epoch ≠ m.epoch ∧ (!s.isStream) = true) :=
  fun ⟨h₁, h₂⟩ => h₁ <| (v.session hs).epoch (by simpa using h₂)

theorem dispatch_of_deliverMsg {s₁ w₁ complete} (v : m.Valid) (hs : m.sessions[msg.sid]? = some s)
    (h : s.deliverMsg m.world msg = .ok (s₁.settle w₁ complete)) :
    m.dispatch f msg = .ok (m.settled f msg.sid s₁ w₁ complete, true) := by
  simp only [dispatch, hs, if_neg (v.current hs), h]
  cases complete
  case false => rfl
  case true =>
    simp only [Session.settle, settled, delete, ExtTreeMap.getElem?_insert, if_true,
      Session.close_of_closed Session.closed_close, erase_insert, Nat.compare_eq_eq]

theorem dispatch_cases {b} (v : m.Valid) (h : m.dispatch f msg = .ok (m', b)) :
    (m.sessions[msg.sid]? = none ∧ m' = m ∧ b = false) ∨
    (∃ s s₁ w₁, m.sessions[msg.sid]? = some s ∧ s.Accepts s₁ ∧ s.Affects m.world w₁ ∧
      (s.completes msg = false → s₁.seqQ.isSome) ∧
      m' = m.settled f msg.sid s₁ w₁ (s.completes msg) ∧ b = true ∧
      s.deliverMsg m.world msg = .ok (s₁.settle w₁ (s.completes msg))) := by
  cases hs : m.sessions[msg.sid]?
  case none => simp only [dispatch, hs] at h; cases h; exact .inl ⟨rfl, rfl, rfl⟩
  case some s =>
    cases hd : s.deliverMsg m.world msg
    case error =>
      simp only [dispatch, hs, if_neg (v.current hs), hd] at h
      cases h
    case ok r =>
      have ⟨s₁, w₁, h₁, h₂, h₃, h₄⟩ := Session.deliverMsg_spec (v.session hs).opened hd
      rw [dispatch_of_deliverMsg v hs (h₄ ▸ hd)] at h
      cases h
      exact .inr ⟨s, s₁, w₁, rfl, h₁, h₂, h₃, rfl, rfl, h₄ ▸ hd⟩

theorem Valid.settled {s₁ w₁ complete} (v : m.Valid) (hs : m.sessions[i]? = some s)
    (ha : s.Accepts s₁) (hw : s.Affects m.world w₁) (hq : complete = false → s₁.seqQ.isSome) :
    (m.settled f i s₁ w₁ complete).Valid := by
  cases complete
  case false =>
    refine v.insert ((v.session hs).accepts ha hw (hq rfl)) ?_ ?_
    case refine_1 => exact fun ht hn => (v.disjoint hs ht hn).congr ha.msgCh ha.streamReady
    case refine_2 => exact fun ht hn => hw.spares <| v.disjoint hs ht hn
  case true =>
    refine v.erase fun ht hn => ?_
    have hd := v.disjoint hs ht hn
    exact (hw.spares hd).trans <| Session.close_spares (hd.congr ha.msgCh ha.streamReady)

theorem Valid.dispatch {b} (v : m.Valid) (h : m.dispatch f msg = .ok (m', b)) : m'.Valid := by
  rcases dispatch_cases v h with ⟨_, rfl, _⟩ | ⟨s, s₁, w₁, hs, ha, hw, hq, rfl, _⟩
  case inl => exact v
  case inr => exact v.settled hs ha hw hq

theorem getElem?_foldl_erase {l : List Nat} {n : ExtTreeMap Nat Session} :
    (l.foldl (·.erase ·) n)[i]? = if i ∈ l then none else n[i]? := by
  induction l generalizing n
  case nil => simp
  case cons k l hi =>
    simp only [List.foldl_cons, hi, ExtTreeMap.getElem?_erase, List.mem_cons, Nat.compare_eq_eq]
    by_cases hk : k = i
    case pos => simp [hk]
    case neg => simp [hk, Ne.symm hk]

def Unary (m : SessionManager τ) (i : Nat) : Prop :=
  ∃ s, m.sessions[i]? = some s ∧ s.isStream = false

-- Unused elements of the slice are `0`.
theorem mem_allSid_iff :
    i ∈ m.allSid ↔
    m.Unary i ∨ i = 0 ∧ ∃ (j : Nat) (s : Session), m.sessions[j]? = some s ∧ s.isStream = true := by
  have hl : m.sessions.toList.length = m.sessions.size := ExtTreeMap.length_toList
  simp only [allSid, List.mem_append, List.mem_replicate, List.length_map]
  refine or_congr ?_ ?_
  case refine_1 =>
    simp only [List.mem_map, List.mem_filter, Unary]
    constructor
    case mp =>
      rintro ⟨⟨j, s⟩, ⟨hs, hn⟩, hj⟩
      cases hj
      exact ⟨s, ExtTreeMap.mem_toList_iff_getElem?_eq_some.mp hs, by simpa using hn⟩
    case mpr =>
      rintro ⟨s, hs, hn⟩
      exact ⟨(i, s), ⟨ExtTreeMap.mem_toList_iff_getElem?_eq_some.mpr hs, by simp [hn]⟩, rfl⟩
  case refine_2 =>
    rw [and_comm]
    refine and_congr_right fun _ => ?_
    rw [← hl, Nat.sub_ne_zero_iff_lt, List.length_filter_lt_length_iff_exists]
    constructor
    case mp =>
      rintro ⟨⟨j, s⟩, hs, hn⟩
      exact ⟨j, s, ExtTreeMap.mem_toList_iff_getElem?_eq_some.mp hs, by simpa using hn⟩
    case mpr =>
      rintro ⟨j, s, hs, hn⟩
      exact ⟨(j, s), ExtTreeMap.mem_toList_iff_getElem?_eq_some.mpr hs, by simp [hn]⟩

theorem cleanup_getElem? {now} (h : (m.cleanup f now).sessions[i]? = some s) :
    m.sessions[i]? = some s ∧ s.isStream = true := by
  simp only [cleanup, getElem?_foldl_erase] at h
  split at h
  case isTrue => cases h
  case isFalse n =>
    refine ⟨h, ?_⟩
    by_contra hc
    exact n <| mem_allSid_iff.mpr <| .inl ⟨s, h, by simpa using hc⟩

section foldl

variable {l : List (Nat × Session)}

theorem foldl_closeNonStream_spares (h : ∀ e ∈ l, e.snd.isStream = false → e.snd.Disjoint t) :
    m.world.Spares (l.foldl (closeNonStream f) m).world t := by
  induction l generalizing m
  case nil => exact .refl
  case cons e l hi =>
    refine .trans ?_ <| hi fun e' he => h e' (List.mem_cons_of_mem _ he)
    simp only [closeNonStream]
    split
    case isTrue => exact .refl
    case isFalse n => exact Session.close_spares <| h e List.mem_cons_self (by simpa using n)

theorem closeNonStream_closed_iff {e : Nat × Session} {c} (ho : e.snd._closed = false) :
    ((m.closeNonStream f e).world.msgChs.chan c).closed = true ↔
    (m.world.msgChs.chan c).closed = true ∨ e.snd.isStream = false ∧ e.snd.msgCh = some c := by
  simp only [closeNonStream]
  split
  case isTrue hn => simp [hn]
  case isFalse hn =>
    by_cases hc : e.snd.msgCh = some c
    case pos => simp [Session.close_msgChs ho hc, hc, hn]
    case neg => simp [Session.close_msgChs_of_ne hc, hc]

theorem foldl_closeNonStream_closed_iff {c} (ho : ∀ e ∈ l, e.snd._closed = false) :
    ((l.foldl (closeNonStream f) m).world.msgChs.chan c).closed = true ↔
    (m.world.msgChs.chan c).closed = true ∨ ∃ e ∈ l, e.snd.isStream = false ∧ e.snd.msgCh = some c := by
  induction l generalizing m
  case nil => simp
  case cons e l hi =>
    rw [List.foldl_cons, hi fun e he => ho e (List.mem_cons_of_mem _ he),
      closeNonStream_closed_iff (ho e List.mem_cons_self), or_assoc, List.exists_mem_cons_iff]

end foldl

theorem cleanup_spares {now} (v : m.Valid) (hs : m.sessions[i]? = some s) (hn : s.isStream = true) :
    m.world.Spares (m.cleanup f now).world s := by
  refine foldl_closeNonStream_spares fun e he hn' => ?_
  refine v.disjoint (ExtTreeMap.mem_toList_iff_getElem?_eq_some.mp he) hs fun h => ?_
  have he := ExtTreeMap.mem_toList_iff_getElem?_eq_some.mp he
  cases (h ▸ he).symm.trans hs
  simp [hn] at hn'

theorem unary_cleanup {now} : ¬(m.cleanup f now).Unary i := by
  intro ⟨s, hs, hn⟩
  have ⟨_, hs⟩ := cleanup_getElem? hs
  simp [hn] at hs

theorem cleanup_getElem?_eq_none {now} (hs : m.sessions[i]? = some s) (hn : s.isStream = false) :
    (m.cleanup f now).sessions[i]? = none := by
  rcases hc : (m.cleanup f now).sessions[i]? with _ | s'
  case none => rfl
  case some =>
    have ⟨hs', hn'⟩ := cleanup_getElem? hc
    cases hs ▸ hs'
    simp [hn] at hn'

theorem cleanup_closed_iff {now c} (v : m.Valid) :
    ((m.cleanup f now).world.msgChs.chan c).closed = true ↔
    (m.world.msgChs.chan c).closed = true ∨
    ∃ (i : Nat) (s : Session), m.sessions[i]? = some s ∧ s.isStream = false ∧ s.msgCh = some c := by
  have h := foldl_closeNonStream_closed_iff (f := f) (m := m) (c := c) (l := m.sessions.toList)
    fun e he => (v.session (ExtTreeMap.mem_toList_iff_getElem?_eq_some.mp he)).opened
  refine h.trans <| or_congr_right ?_
  constructor
  case mp => exact fun ⟨⟨i, s⟩, hs, hn⟩ => ⟨i, s, ExtTreeMap.mem_toList_iff_getElem?_eq_some.mp hs, hn⟩
  case mpr => exact fun ⟨i, s, hs, hn⟩ => ⟨(i, s), ExtTreeMap.mem_toList_iff_getElem?_eq_some.mpr hs, hn⟩

theorem cleanup_closed {now c} (v : m.Valid) (hs : m.sessions[i]? = some s)
    (hn : s.isStream = false) (hc : s.msgCh = some c) :
    ((m.cleanup f now).world.msgChs.chan c).closed = true :=
  (cleanup_closed_iff v).mpr <| .inr ⟨i, s, hs, hn, hc⟩

theorem Valid.cleanup {now} (v : m.Valid) : (m.cleanup f now).Valid where
  session {_ s} h := by
    have ⟨hs, hn⟩ := cleanup_getElem? h
    have hv : s.Valid m.epoch (m.cleanup f now).world :=
      (v.session hs).spares <| cleanup_spares v hs hn
    exact { hv with epoch := by simp [hn] }
  disjoint h₁ h₂ := v.disjoint (cleanup_getElem? h₁).left (cleanup_getElem? h₂).left

theorem Valid.recv {ch} {c : Chan Msg} (v : m.Valid) (h : (m.world.msgChs.chan ch).recv = some c) :
    ({ m with world := { m.world with msgChs := m.world.msgChs.set ch c } } :
      SessionManager τ).Valid where
  disjoint := v.disjoint
  session ht := by
    have hv := v.session ht
    have ⟨c', hc, hl, h₁⟩ := hv.msgCh
    refine { hv with msgCh := ⟨c', hc, hl, ?_⟩ }
    by_cases hn : c' = ch
    case neg => simpa [Chans.chan_set_of_ne hn] using h₁
    case pos =>
      subst hn
      simp only [Chan.recv] at h
      split at h
      case isTrue => cases h; simpa using h₁
      case isFalse => cases h

theorem Valid.signal {g : Nat → Bool} (v : m.Valid) :
    ({ m with world := { m.world with canWrite := g } } : SessionManager τ).Valid :=
  v.world fun _ => { World.Spares.refl with }

inductive Moves (f : TimedSessionFuncs τ) (m : SessionManager τ) : Call → SessionManager τ → Prop
  | reuse {sid : Nat} {stream keepPacket s} :
    (m.sessions[sid]? = some s) → Moves f m (.add sid stream keepPacket) m
  | create {sid : Nat} {stream keepPacket realSid} :
    (m.sessions[sid]? = none) → (m.nextSid = some realSid) →
    Moves f m (.add sid stream keepPacket) (m.added f sid realSid stream keepPacket)
  | setStream {sid : Nat} {dataOut errOut canWrite} :
    Moves f m (.setStream sid dataOut errOut canWrite)
      (m.setStream f sid dataOut errOut canWrite).fst
  | dispatch {msg : Msg} {m' b} : (m.dispatch f msg = .ok (m', b)) → Moves f m (.dispatch msg) m'
  | delete {sid : Nat} : Moves f m (.delete sid) (m.delete f sid)
  | cleanup {now : Nat} : Moves f m (.cleanup now) (m.cleanup f now)
  | recv {ch} {c : Chan Msg} :
    ((m.world.msgChs.chan ch).recv = some c) →
    Moves f m (.recv ch) { m with world := { m.world with msgChs := m.world.msgChs.set ch c } }
  | signal {g : Nat} :
    Moves f m (.signal g)
      { m with world := { m.world with canWrite := Function.update m.world.canWrite g true } }

theorem call_moves {c} (h : m.call f c = .ok m') : m.Moves f c m' := by
  cases c <;> simp only [SessionManager.call] at h
  case add sid stream keepPacket =>
    cases ha : m.add f sid stream keepPacket <;> simp only [ha, Except.map] at h <;> cases h
    case ok.refl r =>
      have ⟨_, _, _⟩ := r
      rcases add_cases ha with ⟨_, hs, h, _⟩ | ⟨hn, hr, _, h⟩ <;> rw [h]
      case inl => exact .reuse hs
      case inr => exact .create hn hr
  case dispatch msg =>
    cases hd : m.dispatch f msg <;> simp only [hd, Except.map] at h <;> cases h
    case ok.refl => exact .dispatch hd
  case recv =>
    split at h <;> cases h
    case h_2.refl hr => exact .recv hr
  case setStream => cases h; exact .setStream
  case delete => cases h; exact .delete
  case cleanup => cases h; exact .cleanup
  case signal => cases h; exact .signal

theorem Valid.call {c} (v : m.Valid) (h : m.call f c = .ok m') : m'.Valid := by
  cases call_moves h
  case reuse => exact v
  case create => exact v.added
  case setStream => exact v.setStream
  case dispatch hd => exact v.dispatch hd
  case delete => exact v.delete
  case cleanup => exact v.cleanup
  case recv hr => exact v.recv hr
  case signal => exact v.signal

theorem Valid.handleTimeout {h : SessionTimeoutHandle} (v : m.Valid)
    (ht : m.handleTimeout f h = .ok m') : m'.Valid := by
  cases h <;> simp only [SessionManager.handleTimeout] at ht
  case session =>
    split at ht <;> cases ht
    case h_2.refl hd => exact (v.dispatch hd).delete
  case streamCreation =>
    split at ht <;> cases ht
    case isTrue.refl => exact v
    case isFalse.refl =>
      exact {
        disjoint := v.disjoint
        session h := by
          have hv := v.session h
          exact { hv with }
      }

theorem Valid.step {a} (v : m.Valid) (h : m.step f a = some m') : m'.Valid := by
  cases a
  case call => exact v.call <| Except.toOption_eq_some_iff.mp h
  case timeout => exact v.handleTimeout <| Except.toOption_eq_some_iff.mp h

theorem Valid.reachable (v : m.Valid) (h : Reachable (SessionManager.step f) m m') : m'.Valid :=
  h.preserves (fun v h => v.step h) v

theorem reachable_call {c} (h : m.call f c = .ok m') : Reachable (SessionManager.step f) m m' :=
  (Execution.single (a := .call c) (by simp [SessionManager.step, h, Except.toOption])).reachable

theorem reachable_add {stream keepPacket x} (h : m.add f sid stream keepPacket = .ok (m', x)) :
    Reachable (SessionManager.step f) m m' :=
  reachable_call (c := .add sid stream keepPacket) (by simp [SessionManager.call, h, Except.map])

theorem reachable_setStream {dataOut errOut canWrite x}
    (h : m.setStream f sid dataOut errOut canWrite = (m', x)) : Reachable (SessionManager.step f) m m' :=
  reachable_call (c := .setStream sid dataOut errOut canWrite) (by simp [SessionManager.call, h])

theorem reachable_dispatch {b} (h : m.dispatch f msg = .ok (m', b)) : Reachable (SessionManager.step f) m m' :=
  reachable_call (c := .dispatch msg) (by simp [SessionManager.call, h, Except.map])

theorem reachable_delete : Reachable (SessionManager.step f) m (m.delete f sid) :=
  reachable_call (c := .delete sid) rfl

theorem reachable_ite_delete {p : Prop} [Decidable p] :
    Reachable (SessionManager.step f) m (if p then m.delete f sid else m) := by
  split
  case isTrue => exact reachable_delete
  case isFalse => exact .refl

theorem reachable_cleanup {now} : Reachable (SessionManager.step f) m (m.cleanup f now) :=
  reachable_call (c := .cleanup now) rfl

theorem Reached.valid (h : m.Reached f) : m.Valid :=
  have ⟨now, _, _, h⟩ := h
  (Valid.new now).reachable h

end SessionManager
end Aranya
