import Aranya.Pod.Terminal
import Aranya.Pod.Theorems.Upload
import Aranya.Connectivity.Theorems.FailedPosts

namespace Aranya

namespace SessionManager

variable {τ : Type*} {f : TimedSessionFuncs τ} {m m' : SessionManager τ} {sid realSid : Nat}

structure RegistersNothing (m m' : SessionManager τ) : Prop where
  channels : m'.world.msgChs.next = m.world.msgChs.next
  sessions : ∀ j, j ∈ m'.sessions → j ∈ m.sessions

theorem RegistersNothing.refl : m.RegistersNothing m where
  channels := rfl
  sessions _ := id

theorem delete_msgNext : (m.delete f sid).world.msgChs.next = m.world.msgChs.next := by
  simp only [delete]
  split
  case h_1 => rfl
  case h_2 => exact Session.close_msgNext

end SessionManager

namespace BaseManager

variable {τ ρ : Type*} {f : TimedSessionFuncs τ} {m m' : BaseManager τ} {r r' : ρ}
    {sendData : ρ → Bytes → Bool → ρ × Option Bytes} {sid seq : Nat} {kind : CmdType} {completed : Bool}
    {payload : Bytes}

theorem postRecorded_registers {p} (hs : m.sessions.sessions[sid]? = none)
    (h : m.postRecorded f sendData r sid kind seq completed payload = .ok (m', r', p)) :
    ¬m.sessions.RegistersNothing m'.sessions := by
  simp only [postRecorded] at h
  split at h
  case h_1 => cases h
  case h_2 sessions realSid msgCh ha =>
    rcases SessionManager.add_cases ha with ⟨s, hs', -⟩ | ⟨-, -, -, rfl⟩
    case inl => simp [hs] at hs'
    case inr =>
      have hn : m'.sessions.world.msgChs.next = m.sessions.world.msgChs.next + 1 := by
        cases h
        dsimp only
        split
        case isTrue => exact SessionManager.delete_msgNext
        case isFalse => rfl
      intro hc
      have := hc.channels
      omega

theorem postData_registers_iff {p} (hc : kind ≠ .sessionClose) (hs : sid ∉ m.sessions.sessions)
    (h : m.postData f sendData r sid kind seq completed payload = .ok (m', r', p)) :
    m.sessions.RegistersNothing m'.sessions ↔ m._stopped = true ∨ kind.recordsSession = false := by
  cases hk : kind.recordsSession
  case false =>
    cases postData_of_not_records hk hc h
    exact iff_of_true .refl (.inr rfl)
  case true =>
    cases hm : m._stopped
    case true =>
      simp only [postData, hm, if_true] at h
      cases h
      exact iff_of_true .refl (.inl rfl)
    case false =>
      rw [postData_of_records hm hk] at h
      have hs' : m.sessions.sessions[sid]? = none := by simpa using hs
      exact iff_of_false (postRecorded_registers hs' h) (by simp)

end BaseManager

namespace Pod

variable {τ ρ : Type*} {f : TimedSessionFuncs τ} {sendData : ρ → Bytes → Bool → ρ × Option Bytes}

namespace Uploading

variable {s s' : Uploading τ ρ}

theorem post_mgr {complete data err} (h : s.post f sendData complete data = .ok (s', err)) :
    s'.mgr = s.mgr := by
  obtain ⟨x, hx⟩ : ∃ x, s.mgr.postData f (record sendData) (s.net, s.sent) s.upload.sid .dataUpstream
      (nextSeq s.upload.seq).snd complete data = .ok (s.mgr, x) :=
    BaseManager.postData_dataUpstream
  simp only [post, hx] at h
  cases h
  rfl

theorem step_posts_mgr {a : Action τ ρ} (ha : a = .post ∨ a = .close) (h : s.step f sendData a = some s') :
    s'.mgr = s.mgr := by
  rcases ha with rfl | rfl
  all_goals
    simp only [step] at h
    split at h <;> try cases h
    split at h <;> cases h
    case _ hp => exact (post_mgr hp :)

end Uploading

namespace Terminal

variable {s s' : Terminal τ ρ} {a : Action} {as : List Action}

def Action.posts : Action → Bool
  | .resize _ | .post | .close => true
  | _ => false

def RegistersNothing (s : Terminal τ ρ) (a : Action) (s' : Terminal τ ρ) : Prop :=
  a.posts → s.sid ∉ s.mgr.sessions.sessions → s.mgr.sessions.RegistersNothing s'.mgr.sessions

-- The sizes of a terminal are posted as long as its session exists, or not at all.
def ResizesInSession (s : Terminal τ ρ) : Action → Prop
  | .resize _ => s.sid ∈ s.mgr.sessions.sessions ∨ s.mgr._stopped = true
  | _ => True

theorem stepInput_kind {a : Uploading.Action τ ρ} (h : s.stepInput f sendData a = some s') :
    s'.kind = s.kind := by
  simp only [stepInput, Option.map_eq_some_iff] at h
  obtain ⟨input, -, rfl⟩ := h
  rfl

theorem postResize_eq_some {size} (h : s.postResize f sendData size = some s') :
    ∃ mgr net p, s.mgr.postCmd f sendData s.input.net s.sid s.resizeCmdKind (s.resizeCmd size) =
      .ok (mgr, net, p) ∧ s' = s.withManager mgr net := by
  simp only [postResize] at h
  split at h
  case h_1 => cases h
  case h_2 mgr net p hp =>
    cases h
    exact ⟨mgr, net, p, hp, rfl⟩

theorem step_kind (h : s.step f sendData a = some s') : s'.kind = s.kind := by
  cases a <;> simp only [step, Option.ite_none_right_eq_some, Option.ite_none_left_eq_some] at h
  case inputReady | inputCanceled | read | readTty => exact stepInput_kind h.right
  case post | close => exact stepInput_kind h
  case resize =>
    obtain ⟨mgr, net, p, -, rfl⟩ := postResize_eq_some h.right
    rfl
  case finish =>
    obtain ⟨-, h⟩ := h
    split at h <;> cases h
    rfl
  case other =>
    obtain ⟨x, -, rfl⟩ := Option.map_eq_some_iff.mp h
    rfl
  case canceled => cases h; rfl
  all_goals
    cases h.right
    rfl

theorem postResize_registersNothing_iff {size} (h : s.postResize f sendData size = some s')
    (hs : s.sid ∉ s.mgr.sessions.sessions) :
    s.mgr.sessions.RegistersNothing s'.mgr.sessions ↔ s.kind ≠ .runtime ∨ s.mgr._stopped = true := by
  obtain ⟨mgr, net, p, hp, rfl⟩ := postResize_eq_some h
  have hc : s.resizeCmdKind ≠ .sessionClose := by
    simp only [resizeCmdKind]
    split
    case isTrue => decide
    case isFalse => simp_all
  have hk : s.resizeCmdKind.recordsSession = false ↔ s.kind ≠ .runtime := by
    simp only [resizeCmdKind]
    split
    case isTrue hk => exact iff_of_true rfl hk
    case isFalse hk => simp_all [CmdType.recordsSession]
  rw [← hk, or_comm]
  exact BaseManager.postData_registers_iff hc hs hp

theorem step_registersNothing_iff (h : s.step f sendData a = some s') :
    s.RegistersNothing a s' ↔ s.kind ≠ .runtime ∨ s.ResizesInSession a := by
  cases a
  case resize size =>
    simp only [step, Option.ite_none_right_eq_some] at h
    by_cases hs : s.sid ∈ s.mgr.sessions.sessions
    case pos => exact iff_of_true (fun _ hn => absurd hs hn) (.inr <| .inl hs)
    case neg =>
      have := postResize_registersNothing_iff h.right hs
      simpa [RegistersNothing, Action.posts, hs, ResizesInSession] using this
  case post | close =>
    refine iff_of_true (fun _ _ => ?_) (.inr trivial)
    obtain ⟨input, hi, rfl⟩ := Option.map_eq_some_iff.mp h
    have hm : input.mgr = s.mgr := Uploading.step_posts_mgr (by simp) hi
    exact hm ▸ .refl
  all_goals exact iff_of_true (by simp [RegistersNothing, Action.posts]) (.inr trivial)

theorem doServeTerminalStream_kind {m : BaseManager τ} {r : ρ} {kind initialCmd stdin stdout stderr tty}
    (h : doServeTerminalStream f sendData m r kind initialCmd stdin stdout stderr tty = .ok (.inr s)) :
    s.kind = kind := by
  simp only [doServeTerminalStream] at h
  split at h
  case h_1 => cases h
  case h_2 =>
    split at h
    case h_1 => cases h
    case h_2 =>
      split at h <;> cases h
      rfl

-- Whatever else happens, this is so iff the terminal is not one of the runtime, or its sizes are posted as
-- long as its session exists (or after the manager was closed).
theorem registersNothing_iff {m : BaseManager τ} {r : ρ} {kind initialCmd stdin stdout stderr tty}
    (hs : doServeTerminalStream f sendData m r kind initialCmd stdin stdout stderr tty = .ok (.inr s))
    (e : Execution (step f sendData) s as s') :
    (∀ pre a t t', pre ++ [a] <+: as → Execution (step f sendData) s pre t → t.step f sendData a = some t' →
      t.RegistersNothing a t') ↔
    kind ≠ .runtime ∨ Along (step f sendData) ResizesInSession s as := by
  have hk : s.kind = kind := doServeTerminalStream_kind hs
  have hi := e.steps_iff_along (J := fun t => t.kind = kind)
    (P := fun t a => kind ≠ .runtime ∨ t.ResizesInSession a)
    (fun hk _ h => (step_kind h).trans hk) (fun hk h => hk ▸ step_registersNothing_iff h) hk
  rw [hi]
  by_cases hr : kind = .runtime
  case pos => simp [hr]
  case neg => exact iff_of_true (.of_forall fun _ _ => .inl hr) (.inl hr)

def idle : BaseManager Unit :=
  .initial (.new 0 .empty ()) 128 (Nat.succ_pos 127)

def sendNothing (_ : Unit) (_ : Bytes) (_ : Bool) : Unit × Option Bytes :=
  ((), none)

def resizedLate : List Action :=
  [.other (.session (.call (.dispatch ⟨.data, 1, 0, false, [36]⟩))), .resizeReady, .inputReady,
   .readTty [13] none, .other (.session (.call (.dispatch ⟨.data, 1, 1, true, []⟩))), .post,
   .resize ⟨80, 24⟩]

theorem registersNothing_iff_attached :
    ∃ s s', doServeTerminalStream .ignore sendNothing idle () .attach (some []) true (some (.out 0)) none true =
        .ok (.inr s) ∧
      Execution (step .ignore sendNothing) s resizedLate s' ∧
      ∀ pre a t t', pre ++ [a] <+: resizedLate → Execution (step .ignore sendNothing) s pre t →
        t.step .ignore sendNothing a = some t' → t.RegistersNothing a t' := by
  obtain ⟨s, hs, s', e⟩ : ∃ s, doServeTerminalStream .ignore sendNothing idle () .attach (some []) true
      (some (.out 0)) none true = .ok (.inr s) ∧ ∃ s', Execution (step .ignore sendNothing) s resizedLate s' :=
    ⟨_, rfl, _, .of_foldlM rfl⟩
  exact ⟨s, s', hs, e, (registersNothing_iff hs e).mpr (.inl (by decide))⟩

-- The new size of a terminal of the runtime gets a session, which is none of the terminal.
theorem not_registersNothing_runtime :
    ∃ s t t', doServeTerminalStream .ignore sendNothing idle () .runtime (some []) true (some (.out 0)) none true =
        .ok (.inr s) ∧
      Execution (step .ignore sendNothing) s resizedLate.dropLast t ∧
      t.step .ignore sendNothing (.resize ⟨80, 24⟩) = some t' ∧
      t.sid ∉ t.mgr.sessions.sessions ∧ 2 ∉ t.mgr.sessions.sessions ∧ 2 ∈ t'.mgr.sessions.sessions ∧
      ¬t.RegistersNothing (.resize ⟨80, 24⟩) t' := by
  refine ⟨_, _, _, rfl, .of_foldlM rfl,
    rfl, by decide, by decide, by decide, ?_⟩
  intro h
  have hn := (h rfl (by decide)).sessions 2 (by decide)
  exact absurd hn (by decide)

end Terminal
end Pod
end Aranya
