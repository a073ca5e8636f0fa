import Aranya.Controller.EdgeDevice
import Aranya.Connectivity.Theorems.Timeout

namespace Aranya

open Std (ExtTreeMap)

namespace SessionManager

variable {τ : Type*} {f : TimedSessionFuncs τ} {m m' : SessionManager τ} {s s₁ : Session} {w : World}
    {sid realSid i : Nat} {msg : Msg}

def Ends (m : SessionManager τ) (i : Nat) : Call → Prop
  | .dispatch msg => i = msg.sid ∧ ∃ s, m.sessions[i]? = some s ∧ s.completes msg = true
  | .delete sid => i = sid
  | .cleanup _ => True
  | _ => False

theorem unary_added {stream keepPacket} (hn : m.sessions[realSid]? = none) :
    (m.added f sid realSid stream keepPacket).Unary i ↔ m.Unary i ∨ (stream = false ∧ i = realSid) := by
  by_cases h : realSid = i
  case pos => subst h; simp [Unary, added, hn, Session.new]
  case neg => simp [Unary, added, ExtTreeMap.getElem?_insert, h, Ne.symm h]

theorem unary_setStream {dataOut errOut canWrite} :
    (m.setStream f sid dataOut errOut canWrite).fst.Unary i ↔ m.Unary i := by
  rcases setStream_cases (f := f) (m := m) with h | h | ⟨s, hs, hr, h⟩ <;> rw [h]
  case inr.inl => rfl
  case inr.inr =>
    by_cases hi : sid = i
    case pos => subst hi; simp [Unary, hs]
    case neg => simp [Unary, ExtTreeMap.getElem?_insert, hi]

theorem unary_settled {complete} (hs : m.sessions[sid]? = some s) (ha : s.Accepts s₁) :
    (m.settled f sid s₁ w complete).Unary i ↔ m.Unary i ∧ ¬(i = sid ∧ complete = true) := by
  by_cases h : sid = i
  case pos => subst h; cases complete <;> simp [Unary, settled, hs, ha.isStream]
  case neg =>
    cases complete <;> simp [Unary, settled, ExtTreeMap.getElem?_insert, ExtTreeMap.getElem?_erase, h, Ne.symm h]

theorem unary_delete : (m.delete f sid).Unary i ↔ m.Unary i ∧ i ≠ sid := by
  by_cases h : sid = i
  case pos =>
    subst h
    simp only [delete]
    split <;> simp [Unary, *]
  case neg =>
    simp only [delete]
    split <;> simp [Unary, ExtTreeMap.getElem?_erase, h, Ne.symm h]

theorem unary_dispatch {b} (v : m.Valid) (h : m.dispatch f msg = .ok (m', b)) :
    m'.Unary i ↔ m.Unary i ∧ ¬m.Ends i (.dispatch msg) := by
  rcases dispatch_cases v h with ⟨hn, rfl, _⟩ | ⟨s, s₁, w₁, hs, ha, _, _, rfl, _⟩
  case inl =>
    simp only [Ends, not_and, iff_self_and]
    rintro - rfl ⟨s, hs, _⟩
    simp [hn] at hs
  case inr =>
    rw [unary_settled hs ha]
    refine and_congr_right fun _ => not_congr <| and_congr_right fun hi => ?_
    subst hi
    simp [hs]

theorem unary_call {op : Call} (v : m.Valid) (h : m.call f op = .ok m')
    (ha : ∀ sid stream keepPacket, op ≠ .add sid stream keepPacket) :
    m'.Unary i ↔ m.Unary i ∧ ¬m.Ends i op := by
  cases op <;> simp only [call] at h
  case add => exact absurd rfl (ha _ _ _)
  case setStream => cases h; simp [unary_setStream, Ends]
  case dispatch =>
    cases hd : m.dispatch f _ <;> rw [hd] at h <;> cases h
    exact unary_dispatch v hd
  case delete => cases h; exact unary_delete
  case cleanup => cases h; simp [unary_cleanup, Ends]
  case recv => split at h <;> cases h; simp [Unary, Ends]
  case signal => cases h; simp [Unary, Ends]

theorem timed_setStream {dataOut errOut canWrite} :
    (m.setStream f sid dataOut errOut canWrite).fst.timed = m.timed ∨
    ∃ ret, (m.setStream f sid dataOut errOut canWrite).fst.timed =
      f.addTimedStreamCreation sid (.streamCreation ret) m.timed := by
  rcases setStream_cases (f := f) (m := m) with h | h | ⟨s, hs, hr, h⟩ <;> rw [h]
  case inl => exact .inl rfl
  case inr.inl => exact .inl rfl
  case inr.inr => exact .inr ⟨_, rfl⟩

theorem unary_handleTimeout (v : m.Valid) (h : m.handleTimeout f (.session sid) = .ok m') :
    m'.Unary i ↔ m.Unary i ∧ i ≠ sid := by
  simp only [handleTimeout] at h
  split at h <;> cases h
  case h_2.refl hd =>
    rw [unary_delete, unary_dispatch v hd, and_assoc]
    refine and_congr_right fun _ => ?_
    simp only [Ends, ne_eq, not_and, and_iff_right_iff_imp]
    exact fun hi h => absurd h hi

theorem unary_handleTimeout_streamCreation {ret}
    (h : m.handleTimeout f (.streamCreation ret) = .ok m') : m'.Unary i ↔ m.Unary i := by
  simp only [handleTimeout] at h
  split at h <;> cases h <;> rfl

theorem Valid.timed {τ' : Type*} {x : τ'} (v : m.Valid) :
    ({ m with timed := x } : SessionManager τ').Valid where
  session := v.session
  disjoint := v.disjoint

section timed

variable {P : τ → Prop} (hp : ∀ i x, P x → P (f.delTimedSession i x))

include hp

theorem timed_delete (hm : P m.timed) : P (m.delete f sid).timed := by
  simp only [delete]
  split
  case h_1 => exact hm
  case h_2 => exact hp _ _ hm

theorem timed_dispatch {b} (v : m.Valid) (h : m.dispatch f msg = .ok (m', b)) (hm : P m.timed) :
    P m'.timed := by
  rcases dispatch_cases v h with ⟨_, rfl, _⟩ | ⟨_, _, _, _, _, _, _, rfl, _⟩
  case inl => exact hm
  case inr =>
    simp only [settled]
    split
    case isTrue => exact hp _ _ hm
    case isFalse => exact hm

theorem timed_cleanup {now} (hm : P m.timed) : P (m.cleanup f now).timed := by
  show P (m.sessions.toList.foldl (closeNonStream f) m).timed
  generalize m.sessions.toList = l
  induction l generalizing m
  case nil => exact hm
  case cons e l hi =>
    refine hi ?_
    simp only [closeNonStream]
    split
    case isTrue => exact hm
    case isFalse => exact hp _ _ hm

theorem timed_handleTimeout {h : SessionTimeoutHandle} (v : m.Valid)
    (ht : m.handleTimeout f h = .ok m') (hm : P m.timed) : P m'.timed := by
  cases h <;> simp only [handleTimeout] at ht
  case session =>
    split at ht <;> cases ht
    case h_2.refl hd => exact timed_delete hp <| timed_dispatch hp v hd hm
  case streamCreation => split at ht <;> cases ht <;> exact hm

theorem timed_call {op : Call} (v : m.Valid) (h : m.call f op = .ok m')
    (ha : ∀ sid stream keepPacket, op ≠ .add sid stream keepPacket)
    (hs : ∀ sid dataOut errOut canWrite, op ≠ .setStream sid dataOut errOut canWrite)
    (hm : P m.timed) : P m'.timed := by
  cases op <;> simp only [call] at h
  case add => exact absurd rfl (ha _ _ _)
  case setStream => exact absurd rfl (hs _ _ _ _)
  case dispatch =>
    cases hd : m.dispatch f _ <;> rw [hd] at h <;> cases h
    exact timed_dispatch hp v hd hm
  case delete => cases h; exact timed_delete hp hm
  case cleanup => cases h; exact timed_cleanup hp hm
  case recv => split at h <;> cases h; exact hm
  case signal => cases h; exact hm

end timed

end SessionManager

namespace EdgeDeviceController

variable {c : EdgeDeviceController} {name : Bytes} {sid : Nat} {h : SessionTimeoutHandle}

def unaryKey : TimeoutKey × SessionTimeoutValue → Option SessionTimeoutKey
  | (.session key, ⟨_, .session _⟩) => some key
  | _ => none

def armed (c : EdgeDeviceController) : List SessionTimeoutKey :=
  c.timedSessionsTQ.data.filterMap unaryKey

def Keyed (c : EdgeDeviceController) : Prop :=
  ∀ d ∈ c.timedSessionsTQ.data, ∃ sid, d.fst = .session ⟨d.snd.name, sid⟩

theorem Keyed.offer (hk : c.Keyed) :
    ∀ d ∈ (c.timedSessionsTQ.offerWithDelay (.session ⟨name, sid⟩) ⟨name, h⟩).data,
      ∃ sid, d.fst = .session ⟨d.snd.name, sid⟩ :=
  List.forall_mem_cons.mpr ⟨⟨sid, rfl⟩, hk⟩

theorem Keyed.delTimedSession (hk : c.Keyed) :
    ((prepareConnectivityOptions name).delTimedSession sid c).timedSessionsTQ = c.timedSessionsTQ := by
  refine TimeoutQueue.remove_of_notMem fun d hd hc => ?_
  have ⟨_, h⟩ := hk d hd
  simp [h] at hc

theorem armed_addTimedStreamCreation {ret} :
    ((prepareConnectivityOptions name).addTimedStreamCreation sid (.streamCreation ret) c).armed = c.armed :=
  rfl

theorem armed_perm_expire {k key val q} (h : c.timedSessionsTQ.expire k = some (key, val, q)) :
    c.armed.Perm ((unaryKey (key, val)).toList ++
      ({ c with timedSessionsTQ := q } : EdgeDeviceController).armed) := by
  have ⟨hk, hq⟩ := TimeoutQueue.expire_eq_some h
  subst hq
  have ⟨hl, hk⟩ := List.getElem?_eq_some_iff.mp hk
  have hp := (List.getElem_cons_eraseIdx_perm hl).filterMap unaryKey
  rw [hk, List.filterMap_cons] at hp
  cases hu : unaryKey (key, val) <;> simp only [hu] at hp <;> exact hp.symm

end EdgeDeviceController

namespace Controller

open EdgeDeviceController (prepareConnectivityOptions unaryKey)

variable {c c' : Controller} {name : Bytes} {m : SessionManager EdgeDeviceController} {i : Nat}

structure Valid (c : Controller) : Prop where
  managers : ∀ name, (c.managers name).Valid
  keyed : c.edgeDevice.Keyed

structure Exact (c : Controller) : Prop where
  nodup : c.edgeDevice.armed.Nodup
  armed : ∀ name sid, ⟨name, sid⟩ ∈ c.edgeDevice.armed ↔ (c.managers name).Unary sid

@[simp]
theorem unary_load : (c.load name).Unary i ↔ (c.managers name).Unary i :=
  Iff.rfl

theorem Valid.load (v : c.Valid) : (c.load name).Valid :=
  (v.managers name).timed

theorem Valid.store (v : c.Valid) (hm : m.Valid) (hk : m.timed.Keyed) : (c.store name m).Valid where
  keyed := hk
  managers n := by
    by_cases h : n = name
    case pos => simpa [Controller.store, h] using hm.timed
    case neg => simpa [Controller.store, h] using v.managers n

theorem Exact.store_iff (h : c.Exact) (hn : m.timed.armed.Nodup)
    (ho : ∀ key, key.name ≠ name → (key ∈ m.timed.armed ↔ key ∈ c.edgeDevice.armed)) :
    (c.store name m).Exact ↔ ∀ i, ⟨name, i⟩ ∈ m.timed.armed ↔ m.Unary i := by
  have hu : ((c.store name m).managers name).Unary = m.Unary := by
    simp only [Controller.store, Function.update_self]
    rfl
  constructor
  case mp => exact fun h i => hu ▸ h.armed name i
  case mpr =>
    refine fun h' => ⟨hn, fun n i => ?_⟩
    by_cases hn : n = name
    case pos => rw [hn, hu]; exact h' i
    case neg =>
      simp only [Controller.store, Function.update_of_ne hn]
      rw [ho _ hn]
      exact h.armed n i

-- A step that does not end a unary session, except by a timer whose handler knows the id of its session.
def Harmless (c : Controller) : Action → Prop
  | .call name op => ∀ i, (c.managers name).Unary i → ¬(c.managers name).Ends i op
  | .expire k => ∀ key name arg,
    c.edgeDevice.timedSessionsTQ.data[k]? = some (.session key, ⟨name, .session arg⟩) → arg = key.sid

theorem Valid.queue_eq (v : c.Valid) (i : Nat) (x : EdgeDeviceController)
    (hx : x.timedSessionsTQ = c.edgeDevice.timedSessionsTQ) :
    ((prepareConnectivityOptions name).delTimedSession i x).timedSessionsTQ =
      c.edgeDevice.timedSessionsTQ := by
  have hk : x.Keyed := by
    rw [EdgeDeviceController.Keyed, hx]
    exact v.keyed
  exact hk.delTimedSession.trans hx

structure Calls (c : Controller) (name : Bytes) (op : SessionManager.Call)
    (m : SessionManager EdgeDeviceController) : Prop where
  valid : m.Valid
  keyed : m.timed.Keyed
  cases :
    (m.timed.armed = c.edgeDevice.armed ∧
      ∀ i, m.Unary i ↔ (c.managers name).Unary i ∧ ¬(c.managers name).Ends i op) ∨
    (∃ sid, m.timed.armed = ⟨name, sid⟩ :: c.edgeDevice.armed ∧ ¬(c.managers name).Unary sid ∧
      ∀ i, ¬(c.managers name).Ends i op ∧ (m.Unary i ↔ (c.managers name).Unary i ∨ i = sid))

theorem calls_add {sid stream keepPacket realSid ch} (v : c.Valid)
    (h : (c.load name).add (prepareConnectivityOptions name) sid stream keepPacket =
      .ok (m, realSid, ch)) :
    c.Calls name (.add sid stream keepPacket) m := by
  rcases SessionManager.add_cases h with ⟨_, _, rfl, _⟩ | ⟨_, hn, _, rfl⟩
  case inl => exact ⟨v.load, v.keyed, .inl ⟨rfl, fun i => ⟨fun h => ⟨h, nofun⟩, And.left⟩⟩⟩
  case inr =>
    have hn := SessionManager.nextSid_getElem? hn
    cases stream
    case true =>
      refine ⟨v.load.added, v.keyed, .inl ⟨rfl, fun i => ?_⟩⟩
      simp [SessionManager.unary_added hn, SessionManager.Ends]
    case false =>
      refine ⟨v.load.added, .offer v.keyed, .inr ⟨realSid, rfl, fun ⟨s, hs, _⟩ => ?_, fun i => ?_⟩⟩
      case refine_1 => cases hn.symm.trans hs
      case refine_2 => simp [SessionManager.unary_added hn, SessionManager.Ends]

theorem calls_setStream {sid dataOut errOut canWrite} (v : c.Valid) :
    c.Calls name (.setStream sid dataOut errOut canWrite)
      ((c.load name).setStream (prepareConnectivityOptions name) sid dataOut errOut canWrite).fst := by
  refine ⟨v.load.setStream, ?_, .inl ⟨?_, ?_⟩⟩
  case refine_3 => intro i; simp [SessionManager.unary_setStream, SessionManager.Ends]
  all_goals
    rcases SessionManager.timed_setStream (f := prepareConnectivityOptions name) (m := c.load name)
      with h | ⟨ret, h⟩ <;> rw [h]
  case refine_1.inl => exact v.keyed
  case refine_1.inr => exact .offer v.keyed
  case refine_2.inl => rfl
  case refine_2.inr => exact EdgeDeviceController.armed_addTimedStreamCreation

theorem calls_of_call {op} (v : c.Valid)
    (h : (c.load name).call (prepareConnectivityOptions name) op = .ok m) : c.Calls name op m := by
  by_cases ha : ∃ sid stream keepPacket, op = .add sid stream keepPacket
  case pos =>
    obtain ⟨sid, stream, keepPacket, rfl⟩ := ha
    simp only [SessionManager.call] at h
    cases hr : (c.load name).add (prepareConnectivityOptions name) sid stream keepPacket <;>
      rw [hr] at h <;> cases h
    exact calls_add v hr
  case neg =>
    by_cases hs : ∃ sid dataOut errOut canWrite, op = .setStream sid dataOut errOut canWrite
    case pos =>
      obtain ⟨_, _, _, _, rfl⟩ := hs
      cases h
      exact calls_setStream v
    case neg =>
      have hq :=
        SessionManager.timed_call v.queue_eq v.load h (by simpa using ha) (by simpa using hs) rfl
      refine ⟨v.load.call h, ?_, .inl ⟨?_, fun i => ?_⟩⟩
      case refine_1 => rw [EdgeDeviceController.Keyed, hq]; exact v.keyed
      case refine_2 => rw [EdgeDeviceController.armed, hq]; rfl
      case refine_3 => exact SessionManager.unary_call v.load h (by simpa using ha)

theorem Exact.call_iff {op} (h : c.Exact) (hc : c.Calls name op m) :
    (c.store name m).Exact ↔ c.Harmless (.call name op) := by
  rcases hc.cases with ⟨ha, hu⟩ | ⟨sid, ha, hn, hu⟩
  case inl =>
    rw [h.store_iff (ha ▸ h.nodup) (by simp [ha])]
    refine forall_congr' fun i => ?_
    rw [ha, h.armed, hu, iff_self_and]
  case inr =>
    have hm : ⟨name, sid⟩ ∉ c.edgeDevice.armed := (h.armed name sid).not.mpr hn
    refine iff_of_true (h.store_iff ?_ ?_ |>.mpr fun i => ?_) fun i _ => (hu i).left
    case refine_1 => rw [ha]; exact List.nodup_cons.mpr ⟨hm, h.nodup⟩
    case refine_2 => intro key hk; simp [ha, show key ≠ ⟨name, sid⟩ from fun h => hk (h ▸ rfl)]
    case refine_3 => simp [ha, (hu i).right, h.armed, or_comm]

structure Expires (c : Controller) (k : Nat) (name : Bytes) (sid : Nat) (h : SessionTimeoutHandle)
    (m : SessionManager EdgeDeviceController) : Prop where
  item : c.edgeDevice.timedSessionsTQ.data[k]? = some (.session ⟨name, sid⟩, ⟨name, h⟩)
  valid : m.Valid
  keyed : m.timed.Keyed
  armed : c.edgeDevice.armed.Perm ((unaryKey (.session ⟨name, sid⟩, ⟨name, h⟩)).toList ++ m.timed.armed)
  unary : ∀ i, m.Unary i ↔ (c.managers name).Unary i ∧ ∀ arg, h = .session arg → i ≠ arg

theorem expires_of_step {k} (v : c.Valid) (hs : c.step (.expire k) = some c') :
    ∃ name sid h m l, c.Expires k name sid h m ∧
      c' = { c.store name m with edgeDevice := { m.timed with timedSessions := l } } := by
  simp only [step] at hs
  split at hs
  case h_1 => cases hs
  case h_2 key val q hq =>
    have ⟨hi, hq'⟩ := TimeoutQueue.expire_eq_some hq
    have ⟨sid, hk⟩ := v.keyed _ (List.mem_of_getElem? hi)
    simp only at hk
    subst hk
    have ⟨name, h⟩ := val
    let c₁ : Controller := { c with edgeDevice := { c.edgeDevice with timedSessionsTQ := q } }
    have v₁ : c₁.Valid := ⟨v.managers, fun d hd => v.keyed d <| by
      simp only [c₁, hq'] at hd
      exact List.mem_of_mem_eraseIdx hd⟩
    replace hs := Except.toOption_eq_some_iff.mp hs
    simp only [handleTimeout] at hs
    split at hs
    case h_1 => cases hs
    case h_2 m hm =>
      cases hs
      have hq₁ : m.timed.timedSessionsTQ = q :=
        SessionManager.timed_handleTimeout v₁.queue_eq v₁.load hm rfl
      refine ⟨name, sid, h, m, _, ⟨hi, v₁.load.handleTimeout hm, ?_, ?_, ?_⟩, rfl⟩
      case refine_1 => rw [EdgeDeviceController.Keyed, hq₁]; exact v₁.keyed
      case refine_2 =>
        have ha : m.timed.armed = c₁.edgeDevice.armed := by
          simp only [EdgeDeviceController.armed, hq₁, c₁]
        rw [ha]
        exact EdgeDeviceController.armed_perm_expire hq
      case refine_3 =>
        intro i
        cases h
        case session arg => simpa using SessionManager.unary_handleTimeout v₁.load hm
        case streamCreation => simpa using SessionManager.unary_handleTimeout_streamCreation hm

theorem Exact.expire_iff {k name sid h} (he : c.Exact) (hx : c.Expires k name sid h m) :
    (c.store name m).Exact ↔ c.Harmless (.expire k) := by
  cases h
  case streamCreation =>
    have hp : c.edgeDevice.armed.Perm m.timed.armed := hx.armed
    refine iff_of_true ?_ fun key name' arg h => by cases hx.item.symm.trans h
    refine he.store_iff (hp.nodup_iff.mp he.nodup) (fun _ _ => hp.mem_iff.symm) |>.mpr fun i => ?_
    simp [← hp.mem_iff, he.armed, hx.unary]
  case session arg =>
    have hp : c.edgeDevice.armed.Perm (⟨name, sid⟩ :: m.timed.armed) := hx.armed
    have ⟨hn, hd⟩ := List.nodup_cons.mp <| hp.nodup_iff.mp he.nodup
    have hm : ∀ {key}, key ∈ m.timed.armed ↔ key ∈ c.edgeDevice.armed ∧ key ≠ ⟨name, sid⟩ := by
      intro key
      rw [hp.mem_iff, List.mem_cons]
      by_cases hk : key = ⟨name, sid⟩ <;> simp [hk, hn]
    have hu : (c.managers name).Unary sid := (he.armed name sid).mp <| hp.mem_iff.mpr List.mem_cons_self
    rw [he.store_iff hd fun key hk => hm.trans <| and_iff_left fun h => hk (by rw [h])]
    constructor
    case mp =>
      intro h key name' arg' hi
      cases hx.item.symm.trans hi
      have := h sid
      simp only [hn, hx.unary, hu] at this
      simpa [eq_comm] using this
    case mpr =>
      intro h i
      have := h _ _ _ hx.item
      simp [hm, he.armed, hx.unary, this]

theorem Valid.step {a} (v : c.Valid) (hs : c.step a = some c') : c'.Valid := by
  cases a
  case call name op =>
    have ⟨m, hm, hc⟩ := Option.map_eq_some_iff.mp hs
    have h := calls_of_call v <| Except.toOption_eq_some_iff.mp hm
    exact hc ▸ v.store h.valid h.keyed
  case expire k =>
    have ⟨name, sid, h, m, l, hx, hc⟩ := expires_of_step v hs
    have hv : (c.store name m).Valid := v.store hx.valid hx.keyed
    exact hc ▸ ⟨hv.managers, hv.keyed⟩

theorem Exact.step_iff {a} (v : c.Valid) (h : c.Exact) (hs : c.step a = some c') :
    c'.Exact ↔ c.Harmless a := by
  cases a
  case call name op =>
    have ⟨m, hm, hc⟩ := Option.map_eq_some_iff.mp hs
    exact hc ▸ h.call_iff (calls_of_call v <| Except.toOption_eq_some_iff.mp hm)
  case expire k =>
    have ⟨name, sid, h', m, l, hx, hc⟩ := expires_of_step v hs
    rw [← h.expire_iff hx, hc]
    exact ⟨fun h => ⟨h.nodup, h.armed⟩, fun h => ⟨h.nodup, h.armed⟩⟩

variable {now : Bytes → Nat} {world : Bytes → World}

theorem Valid.new : (new now world).Valid where
  managers name := .new (now name)
  keyed := by
    simp [EdgeDeviceController.Keyed, Controller.new, EdgeDeviceController.new, TimeoutQueue.new]

theorem Exact.new : (new now world).Exact where
  nodup := List.nodup_nil
  armed name sid := by
    simp [Controller.new, EdgeDeviceController.new, EdgeDeviceController.armed, TimeoutQueue.new,
      SessionManager.Unary, SessionManager.new]

-- The timers are exact iff no unary session ends in any other way than by its timeout, and all handlers
-- know the id of their session.
theorem exact_iff_harmless {as} (e : Execution step (new now world) as c) :
    (∀ pre c', pre <+: as → Execution step (new now world) pre c' → c'.Exact) ↔
    Along step Harmless (new now world) as := by
  refine e.always_iff_along (J := fun c => c.Valid ∧ c.Exact) (·.right) ?_ ?_ ⟨.new, .new⟩
  case refine_1 => exact fun ⟨v, h⟩ hp hs => ⟨v.step hs, (h.step_iff v hs).mpr hp⟩
  case refine_2 => exact fun ⟨v, h⟩ hs => (h.step_iff v hs).mp

theorem exact_iff_harmless_timeout :
    let as : List Action := [.call [] (.add 1 false false), .expire 0]
    (∀ pre c', pre <+: as → Execution step (new (fun _ => 0) fun _ => .empty) pre c' → c'.Exact) ↔
    Along step Harmless (new (fun _ => 0) fun _ => .empty) as :=
  exact_iff_harmless (.trans rfl <| .trans rfl .refl)

-- A session which is deleted leaves its timer behind.
theorem not_exact_delete :
    ∃ c, Execution step (new (fun _ => 0) fun _ => .empty)
        [.call [] (.add 0 false false), .call [] (.delete 1)] c ∧
      c.edgeDevice.armed = [⟨[], 1⟩] ∧ (c.managers []).sessions[1]?.isNone ∧ ¬c.Exact := by
  refine ⟨_, .trans rfl <| .trans rfl .refl, rfl, rfl, fun h => ?_⟩
  have ⟨s, hs, _⟩ := (h.armed [] 1).mp List.mem_cons_self
  cases hs

end Controller
end Aranya
