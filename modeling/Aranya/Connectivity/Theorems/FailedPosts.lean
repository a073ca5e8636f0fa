import Aranya.Connectivity.Theorems.Manager
import Aranya.Connectivity.Theorems.Timeout

namespace Aranya

namespace SessionManager

open Std (ExtTreeMap)

variable {τ : Type*} {f : TimedSessionFuncs τ} {m m' : SessionManager τ} {sid realSid : Nat}
    {stream keepPacket : Bool} {dataOut errOut : Option WriterRef} {canWrite : Option Nat}

structure Same (m m' : SessionManager τ) : Prop where
  sessions : m'.sessions = m.sessions
  untouched : ∀ j, m.Untouched m' j

theorem Same.refl : m.Same m :=
  ⟨rfl, fun _ => .refl⟩

theorem delete_getElem? {j : Nat} :
    (m.delete f sid).sessions[j]? = if sid = j then none else m.sessions[j]? := by
  simp only [delete]
  split
  case h_2 => simp only [ExtTreeMap.getElem?_erase, Nat.compare_eq_eq]
  case h_1 hs =>
    split
    case isTrue h => exact h ▸ hs
    case isFalse h => rfl

theorem not_same_delete {s : Session} (hs : m.sessions[sid]? = some s) (hd : m'.sessions[sid]? = none) :
    ¬m.Same m' := by
  intro h
  rw [h.sessions, hs] at hd
  cases hd

theorem added_untouched (v : m.Valid) (hn : m.sessions[realSid]? = none) (j : Nat) :
    m.Untouched (m.added f sid realSid stream keepPacket) j := by
  intro t ht
  have hj : realSid ≠ j := by
    rintro rfl
    simp [hn] at ht
  refine ⟨?_, v.spares_msgCh ht⟩
  simpa [added, ExtTreeMap.getElem?_insert, hj] using ht

theorem setStream_untouched (v : m.Valid) {j : Nat} (hn : realSid ≠ j) :
    m.Untouched (m.setStream f realSid dataOut errOut canWrite).fst j := by
  intro t ht
  rcases setStream_cases (f := f) (m := m) with h | h | ⟨s, _, _, h⟩ <;> rw [h]
  case inl => exact ⟨ht, .refl⟩
  case inr.inl => exact ⟨ht, v.spares_signal ht⟩
  case inr.inr =>
    refine ⟨?_, v.spares_signal ht⟩
    simpa [ExtTreeMap.getElem?_insert, hn] using ht

theorem same_of_deleted (hn : m.sessions[realSid]? = none) (v' : m'.Valid)
    (hs : ∀ j ≠ realSid, m'.sessions[j]? = m.sessions[j]?) (hu : ∀ j, realSid ≠ j → m.Untouched m' j) :
    m.Same (m'.delete f realSid) where
  sessions := by
    refine ExtTreeMap.ext_getElem? fun j => ?_
    rw [delete_getElem?]
    split
    case isTrue h => rw [← h, hn]
    case isFalse h => exact hs j (Ne.symm h)
  untouched j := by
    intro t ht
    have hj : realSid ≠ j := by
      rintro rfl
      simp [hn] at ht
    exact (hu j hj).trans (delete_untouched v' hj) t ht

theorem same_added_delete (v : m.Valid) (hr : m.nextSid = some realSid) :
    m.Same ((m.added f sid realSid stream keepPacket).delete f realSid) := by
  have hn := nextSid_getElem? hr
  refine same_of_deleted hn v.added (fun j hj => ?_) (fun j _ => added_untouched v hn j)
  simp [added, ExtTreeMap.getElem?_insert, hj.symm]

theorem same_setStream_delete (v : m.Valid) (hr : m.nextSid = some realSid) :
    m.Same (((m.added f sid realSid stream keepPacket).setStream f realSid dataOut errOut canWrite).fst.delete f
      realSid) := by
  have hn := nextSid_getElem? hr
  refine same_of_deleted hn v.added.setStream (fun j hj => ?_) (fun j hj => ?_)
  case refine_1 =>
    rcases setStream_cases (f := f) (m := m.added f sid realSid stream keepPacket) with h | h | ⟨s, _, _, h⟩ <;>
      rw [h] <;> simp [added, ExtTreeMap.getElem?_insert, hj.symm]
  case refine_2 => exact (added_untouched v hn j).trans (setStream_untouched v.added hj)

end SessionManager

def CmdType.recordsSession : CmdType → Bool
  | sessionClose | exec | attach | logs | portForward | metricsCollect | ttyResize | dataUpstream => false
  | _ => true

namespace BaseManager

open SessionManager (Same)

variable {τ ρ : Type*} {f : TimedSessionFuncs τ} {m m' : BaseManager τ} {r r' : ρ}
    {sendData : ρ → Bytes → Bool → ρ × Option Bytes} {sid seq : Nat} {kind : CmdType} {completed : Bool}
    {payload : Bytes} {payloadCmd : Option Bytes} {dataOut errOut : Option WriterRef} {keepPacket : Bool}
    {canWrite : Option Nat}

theorem postRecorded_same_iff {p} (v : m.sessions.Valid)
    (h : m.postRecorded f sendData r sid kind seq completed payload = .ok (m', r', p)) (he : p.err.isSome) :
    m.sessions.Same m'.sessions ↔ m.sessions.sessions[sid]? = none := by
  simp only [postRecorded] at h
  split at h
  case h_1 => cases h
  case h_2 sessions realSid msgCh ha =>
    cases h
    dsimp only at he
    simp only [he, if_true]
    rcases SessionManager.add_cases ha with ⟨s, hs, rfl, rfl, -⟩ | ⟨hs, hr, -, rfl⟩
    case inl =>
      refine iff_of_false (SessionManager.not_same_delete hs ?_) (by simp [hs])
      simp [SessionManager.delete_getElem?]
    case inr => exact iff_of_true (SessionManager.same_added_delete v hr) hs

theorem postData_of_records (hs : m._stopped = false) (hk : kind.recordsSession = true) :
    m.postData f sendData r sid kind seq completed payload =
    m.postRecorded f sendData r sid kind seq completed payload := by
  cases kind <;> simp [CmdType.recordsSession] at hk <;> simp [postData, hs]

theorem postData_of_not_records {p} (hk : kind.recordsSession = false) (hc : kind ≠ .sessionClose)
    (h : m.postData f sendData r sid kind seq completed payload = .ok (m', r', p)) : m' = m := by
  simp only [postData] at h
  split at h
  case isTrue => cases h; rfl
  case isFalse =>
    cases kind <;> simp [CmdType.recordsSession] at hk hc <;> dsimp only at h
    case ttyResize | dataUpstream => split at h <;> cases h <;> rfl
    all_goals cases h; rfl

theorem postData_same_iff {p} (v : m.sessions.Valid) (hc : kind ≠ .sessionClose)
    (h : m.postData f sendData r sid kind seq completed payload = .ok (m', r', p)) (he : p.err.isSome) :
    m.sessions.Same m'.sessions ↔
    m._stopped = true ∨ kind.recordsSession = false ∨ m.sessions.sessions[sid]? = none := by
  cases hs : m._stopped
  case true =>
    simp only [postData, hs, if_true] at h
    cases h
    exact iff_of_true .refl (.inl rfl)
  case false =>
    cases hk : kind.recordsSession
    case false =>
      cases postData_of_not_records hk hc h
      exact iff_of_true .refl (.inr <| .inl rfl)
    case true =>
      rw [postData_of_records hs hk] at h
      simpa using postRecorded_same_iff v h he

theorem postStreamCmd_same_iff {p} (v : m.sessions.Valid)
    (h : m.postStreamCmd f sendData r kind payloadCmd dataOut errOut keepPacket canWrite = .ok (m', r', p))
    (he : p.err.isSome) :
    m.sessions.Same m'.sessions ↔
    m._stopped = true ∨ (∃ err, streamPayload kind payloadCmd = .error err) ∨
    m.sessions.sessions[0]? = none := by
  simp only [postStreamCmd] at h
  split at h
  case isTrue hs =>
    cases h
    exact iff_of_true .refl (.inl hs)
  case isFalse hs =>
    split at h
    case h_1 err hp =>
      cases h
      exact iff_of_true .refl (.inr <| .inl ⟨err, hp⟩)
    case h_2 hp =>
      split at h
      case h_1 => cases h
      case h_2 sessions realSID msgCh ha =>
        -- Whatever fails after the session has been added, the session is deleted.
        have hd : m'.sessions = (sessions.setStream f realSID dataOut errOut canWrite).fst.delete f realSID := by
          split at h <;> cases h
          case h_1.refl hm => rw [hm]
          case h_2.refl hm =>
            dsimp only at he
            rw [hm, if_pos he]
        simp only [hs, hp, reduceCtorEq, exists_false, false_or, hd]
        rcases SessionManager.add_cases ha with ⟨s, hs, rfl, rfl, -⟩ | ⟨hs, hr, -, rfl⟩
        case inl =>
          refine iff_of_false (SessionManager.not_same_delete hs ?_) (by simp [hs])
          simp [SessionManager.delete_getElem?]
        case inr => exact iff_of_true (SessionManager.same_setStream_delete v hr) hs

-- A post that fails leaves the sessions alone iff it has failed before it uses a session, or there was none
-- under the id that is passed to it.
theorem failed_post_same_iff (hr : m.sessions.Reached f) :
    (∀ {r r' : ρ} {m' p sid kind seq completed payload}, kind ≠ .sessionClose →
      m.postData f sendData r sid kind seq completed payload = .ok (m', r', p) → p.err.isSome →
      (m.sessions.Same m'.sessions ↔
        m._stopped = true ∨ kind.recordsSession = false ∨ m.sessions.sessions[sid]? = none)) ∧
    (∀ {r r' : ρ} {m' p kind payloadCmd dataOut errOut keepPacket canWrite},
      m.postStreamCmd f sendData r kind payloadCmd dataOut errOut keepPacket canWrite = .ok (m', r', p) →
      p.err.isSome →
      (m.sessions.Same m'.sessions ↔
        m._stopped = true ∨ (∃ err, streamPayload kind payloadCmd = .error err) ∨
        m.sessions.sessions[0]? = none)) :=
  ⟨postData_same_iff hr.valid, postStreamCmd_same_iff hr.valid⟩

def oneSession : BaseManager Unit :=
  initial (.added .ignore (.new 0 .empty ()) 0 1 false false) 100 (Nat.succ_pos 99)

def sendFails (_ : Unit) (_ : Bytes) (_ : Bool) : Unit × Option Bytes :=
  ((), some [])

theorem failed_post_same_iff_unregistered :
    ∃ m' p, oneSession.postData .ignore sendFails () 7 .runtime 0 true [] = .ok (m', (), p) ∧ p.err.isSome ∧
      oneSession.sessions.Same m'.sessions := by
  have hr : oneSession.sessions.Reached .ignore := ⟨0, .empty, (), [.call (.add 0 false false)], .single rfl⟩
  obtain ⟨m', p, h, he⟩ : ∃ m' p,
      oneSession.postData .ignore sendFails () 7 .runtime 0 true [] = .ok (m', (), p) ∧ p.err.isSome :=
    ⟨_, _, rfl, rfl⟩
  exact ⟨m', p, h, he, (failed_post_same_iff hr).left (by decide) h he |>.mpr <| .inr <| .inr rfl⟩

-- The session that is passed to the failed post is gone.
theorem not_same_registered :
    ∃ m' p, oneSession.postData .ignore sendFails () 1 .runtime 0 true [] = .ok (m', (), p) ∧ p.err.isSome ∧
      oneSession.sessions.sessions[1]?.isSome ∧ m'.sessions.sessions[1]?.isNone ∧
      ¬oneSession.sessions.Same m'.sessions := by
  have hs : oneSession.sessions.sessions[1]? = some (.new 0 0 false false) := rfl
  exact ⟨_, _, rfl, rfl, rfl, rfl, SessionManager.not_same_delete hs rfl⟩

end BaseManager
end Aranya
