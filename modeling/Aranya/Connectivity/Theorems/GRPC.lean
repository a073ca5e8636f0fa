import Aranya.Connectivity.GRPC
import Aranya.Connectivity.Theorems.Manager

namespace Aranya

open Sync (Stream)
open Std (ExtTreeMap)

namespace Sync.Stream

variable {t t' : Stream} {i : Nat} {clients clients' : ExtTreeMap Bytes Nat} {msg : Msg}

def Running (t : Stream) : Prop :=
  t.phase ≠ .exit ∧ t.phase ≠ .returned

structure Received (i : Nat) (clients : ExtTreeMap Bytes Nat) (t t' : Stream)
    (clients' : ExtTreeMap Bytes Nat) : Prop where
  rejected : t'.rejected = t.rejected
  phase : t'.phase ≠ .returned
  forward : ∀ msg, t'.phase = .forward msg → t'.alreadyOnline = true
  clients :
    (t'.alreadyOnline = t.alreadyOnline ∧ (t.alreadyOnline = true → t'.onlineID = t.onlineID) ∧
      clients' = clients) ∨
    (t.alreadyOnline = false ∧ t'.alreadyOnline = true ∧ clients[t'.onlineID]? = none ∧
      clients' = clients.insert t'.onlineID i)

theorem forward_received (hp : t.phase = .select) : Received i clients t (t.forward msg) clients := by
  simp only [Stream.forward]
  split
  case isTrue ho => exact ⟨rfl, nofun, fun _ _ => ho, .inl ⟨rfl, fun _ => rfl, rfl⟩⟩
  case isFalse => exact ⟨rfl, by simp [hp], by simp [hp], .inl ⟨rfl, fun _ => rfl, rfl⟩⟩

theorem online_received {id} :
    Received i clients t (t.online i clients msg id).fst (t.online i clients msg id).snd := by
  simp only [online]
  split
  case isTrue => exact ⟨rfl, nofun, nofun, .inl ⟨rfl, fun _ => rfl, rfl⟩⟩
  case isFalse ho =>
    split
    case h_1 => exact ⟨rfl, nofun, nofun, .inl ⟨rfl, fun h => absurd h ho, rfl⟩⟩
    case h_2 hn => exact ⟨rfl, nofun, fun _ _ => rfl, .inr ⟨by simpa using ho, rfl, hn, rfl⟩⟩

theorem recv_received (hp : t.phase = .select) (i : Nat) (clients : ExtTreeMap Bytes Nat) (msg : Msg) :
    Received i clients t (t.recv i clients msg).fst (t.recv i clients msg).snd := by
  simp only [recv]
  split
  case isTrue =>
    split
    case h_1 => exact ⟨rfl, nofun, nofun, .inl ⟨rfl, fun _ => rfl, rfl⟩⟩
    case h_2 =>
      split
      case h_1 => exact online_received
      case h_2 => exact ⟨rfl, nofun, nofun, .inl ⟨rfl, fun _ => rfl, rfl⟩⟩
      case h_3 => exact forward_received hp
  case isFalse => exact forward_received hp

theorem insert_ne_self {id : Bytes} (hn : clients[id]? = none) : clients.insert id i ≠ clients := by
  intro h
  have h := congrArg (·[id]?) h
  simp [hn] at h

theorem Received.unregistered (h : Received i clients t t' clients) (ho : t.alreadyOnline = false) :
    t'.alreadyOnline = false := by
  rcases h.clients with ⟨h, _⟩ | ⟨_, _, hn, hc⟩
  case inl => exact h.trans ho
  case inr => exact absurd hc.symm (insert_ne_self hn)

theorem online_clients_iff {id} (ho : t.alreadyOnline = false) :
    (t.online i clients msg id).snd = clients ↔ id ∈ clients := by
  simp only [online, ho]
  rcases hc : clients[id]? with _ | j
  case none => exact iff_of_false (insert_ne_self hc) (by grind)
  case some => exact iff_of_true rfl (by grind)

theorem recv_clients_iff (ho : t.alreadyOnline = false) :
    (t.recv i clients msg).snd = clients ↔ ∀ id, msg.getState = some ⟨.online, id⟩ → id ∈ clients := by
  rcases hs : msg.getState with _ | ⟨k, id⟩
  case none =>
    refine iff_of_true ?_ nofun
    simp only [recv, hs]
    split <;> rfl
  case some =>
    cases k <;> simp only [recv, Msg.kind_of_getState hs, hs, if_true]
    case online => simpa using online_clients_iff ho
    all_goals exact iff_of_true trivial nofun

end Sync.Stream

namespace GRPCManager

variable {τ : Type*} {f : TimedSessionFuncs τ} {net : Nat → Bytes → Option Bytes} {m m' : GRPCManager τ}
    {i : Nat} {t : Stream} {a : StreamAction}

theorem update_eq_some {streams : Nat → Option Stream} {t' u : Stream} {j}
    (h : Function.update streams i (some t') j = some u) : j = i ∧ t' = u ∨ j ≠ i ∧ streams j = some u := by
  by_cases hj : j = i
  case pos => subst hj; exact .inl ⟨rfl, by simpa using h⟩
  case neg => exact .inr ⟨hj, by simpa [hj] using h⟩

theorem update_self_eq_some {streams : Nat → Option Stream} {t' u : Stream}
    (h : Function.update streams i (some t') i = some u) : t' = u := by
  simpa using h

inductive Moves (f : TimedSessionFuncs τ) (m : GRPCManager τ) (i : Nat) (t : Stream) :
    StreamAction → GRPCManager τ → Prop
  | recv {msg} : (t.phase = .select) → Moves f m i t (.recv msg) (m.recv i t msg)
  | phase {a p sent} {base : BaseManager τ} :
    t.Running → (p = .select ∨ p = .exit) → (∀ msg, a ≠ .recv msg) → (∀ now, a ≠ .finish now) →
    (base = m.base ∨ base = (m.base.onReject id ()).fst ∨
      (∃ msg, t.phase = .forward msg) ∧ m.base.Quiet f base) →
    Moves f m i t a (({ m with base := base, sent := sent } : GRPCManager τ).setPhase i t p)
  | finish {now} :
    (t.phase = .exit) → Moves f m i t (.finish now) ((m.finish f t now).setPhase i t .returned)

theorem reject_base {reason message} : (m.reject net reason message).base = (m.base.onReject id ()).fst := by
  simp only [reject, BaseManager.onReject]
  split <;> rfl

theorem onRecvMsg_eq_ok {data} (h : m.onRecvMsg f net data = .ok m') :
    m.base.Quiet f m'.base ∧ m' = { m with base := m'.base, sent := m'.sent } := by
  simp only [onRecvMsg] at h
  split at h
  case h_1 => cases h
  case h_2 hr => cases h; exact ⟨BaseManager.onRecvMsg_quiet hr, rfl⟩

theorem streamStep_moves (h : m.streamStep f net i t a = some m') : Moves f m i t a m' := by
  cases a <;> simp only [streamStep] at h
  case recv =>
    split at h <;> cases h
    case isTrue.refl hp => exact .recv hp
  case lost =>
    split at h <;> cases h
    case isTrue.refl hp => exact .phase (by simp [Stream.Running, hp]) (.inr rfl) nofun nofun (.inl rfl)
  case rejected =>
    split at h <;> cases h
    case isTrue.refl hp => exact .phase (by simp [Stream.Running, hp]) (.inr rfl) nofun nofun (.inl rfl)
  case reject =>
    split at h <;> cases h
    case h_1.refl reason message exit hp =>
      refine .phase (by simp [Stream.Running, hp]) ?_ nofun nofun (.inr <| .inl reject_base)
      split
      case isTrue => exact .inr rfl
      case isFalse => exact .inl rfl
  case forward =>
    split at h
    case h_1 msg hp =>
      have ⟨m₁, hr, hm⟩ := Option.map_eq_some_iff.mp h
      have ⟨hq, he⟩ := onRecvMsg_eq_ok (Except.toOption_eq_some_iff.mp hr)
      rw [← hm, he]
      exact .phase (by simp [Stream.Running, hp]) (.inl rfl) nofun nofun (.inr <| .inr ⟨⟨msg, hp⟩, hq⟩)
    case h_2 => cases h
  case finish =>
    split at h <;> cases h
    case isTrue.refl hp => exact .finish hp

theorem setPhase_base {p} : (m.setPhase i t p).base = m.base :=
  rfl

theorem setPhase_clientSessions {p} : (m.setPhase i t p).clientSessions = m.clientSessions :=
  rfl

theorem finish_base {now} :
    (m.finish f t now).base = (m.base.onDisconnected f
      (fun clients => (if t.alreadyOnline then clients.erase t.onlineID else clients, t.onlineID, false))
      now m.clientSessions).fst :=
  rfl

theorem recv_streams {msg} :
    (m.recv i t msg).streams = Function.update m.streams i (some (t.recv i m.clientSessions msg).fst) :=
  rfl

theorem recv_clientSessions {msg} : (m.recv i t msg).clientSessions = (t.recv i m.clientSessions msg).snd :=
  rfl

namespace Moves

theorem sound (hm : m.Moves f i t a m') (h : m.base.Sound) : m'.base.Sound := by
  cases hm
  case recv => exact h
  case finish => rw [setPhase_base, finish_base]; exact h.onDisconnected
  case phase hb _ _ =>
    rcases hb with rfl | rfl | ⟨_, hq⟩
    case inl => exact h
    case inr.inl => exact h.onReject
    case inr.inr => exact h.quiet hq

theorem keeps (hm : m.Moves f i t a m') : m.base.Keeps m'.base := by
  cases hm
  case recv => exact .refl
  case finish => rw [setPhase_base, finish_base]; exact .onDisconnected
  case phase hb _ _ =>
    rcases hb with rfl | rfl | ⟨_, hq⟩
    case inl => exact .refl
    case inr.inl => exact .onReject
    case inr.inr => exact .quiet hq

theorem sessions (hm : m.Moves f i t a m') :
    Reachable (SessionManager.step f) m.base.sessions m'.base.sessions := by
  cases hm
  case recv => exact .refl
  case finish => rw [setPhase_base, finish_base]; exact BaseManager.onDisconnected_sessions
  case phase hb _ _ =>
    rcases hb with rfl | rfl | ⟨_, hq⟩
    case inl => exact .refl
    case inr.inl => rw [setPhase_base, BaseManager.onReject_sessions]; exact .refl
    case inr.inr => exact hq.sessions

theorem streams (hm : m.Moves f i t a m') :
    ∃ t', m'.streams = Function.update m.streams i (some t') ∧ t'.rejected = t.rejected ∧
      (t'.Running → t.Running) ∧ (t'.phase = .returned → ∃ now, a = .finish now) := by
  cases hm
  case recv msg hp =>
    have hr := Stream.recv_received hp i m.clientSessions msg
    exact ⟨_, recv_streams, hr.rejected, by simp [Stream.Running, hp], fun h => absurd h hr.phase⟩
  case phase hr hp _ _ _ => exact ⟨_, rfl, rfl, fun _ => hr, by rintro rfl; simp at hp⟩
  case finish => exact ⟨_, rfl, rfl, fun h => absurd rfl h.right, fun _ => ⟨_, rfl⟩⟩

end Moves

theorem finish_clientSessions {now} :
    (m.finish f t now).clientSessions =
    if m.base.connectedDevices ≠ ∅ ∧ t.alreadyOnline = true then m.clientSessions.erase t.onlineID
    else m.clientSessions := by
  simp only [finish]
  rcases BaseManager.onDisconnected_cases (f := f)
    (fun clients => (if t.alreadyOnline then clients.erase t.onlineID else clients, t.onlineID, false))
    now m.base m.clientSessions with ⟨he, hc⟩ | ⟨he, _, hc⟩ | ⟨he, _, hc⟩ <;> rw [hc] <;> simp [he]

-- The clients are the streams which have been online, at least until their calls of `Sync` return.
structure Registered (m : GRPCManager τ) : Prop where
  online : ∀ i t, m.streams i = some t → t.alreadyOnline = true → t.phase ≠ .returned →
    m.clientSessions[t.onlineID]? = some i
  client : ∀ id i, m.clientSessions[id]? = some i →
    ∃ t, m.streams i = some t ∧ t.alreadyOnline = true ∧ t.onlineID = id
  forward : ∀ i t msg, m.streams i = some t → t.phase = .forward msg → t.alreadyOnline = true

namespace Registered

theorem new {base : BaseManager τ} : (new base).Registered where
  online _ _ h := nomatch h
  client := by simp [GRPCManager.new]
  forward _ _ _ h := nomatch h

theorem congr (h : m.Registered) (hs : m'.streams = m.streams)
    (hc : m'.clientSessions = m.clientSessions) : m'.Registered where
  online := hs ▸ hc ▸ h.online
  client := hs ▸ hc ▸ h.client
  forward := hs ▸ h.forward

theorem update {t' : Stream} (h : m.Registered)
    (hs : m'.streams = Function.update m.streams i (some t'))
    (hc : ∀ (id : Bytes) (j : Nat), j ≠ i →
      (m'.clientSessions[id]? = some j ↔ m.clientSessions[id]? = some j))
    (online : t'.alreadyOnline = true → t'.phase ≠ .returned →
      m'.clientSessions[t'.onlineID]? = some i)
    (client : ∀ id : Bytes, m'.clientSessions[id]? = some i → t'.alreadyOnline = true ∧ t'.onlineID = id)
    (forward : ∀ msg, t'.phase = .forward msg → t'.alreadyOnline = true) : m'.Registered := by
  constructor
  case online =>
    intro j u hu
    rcases update_eq_some (hs ▸ hu) with ⟨rfl, rfl⟩ | ⟨hj, hu⟩
    case inl => exact online
    case inr => exact fun ho hr => (hc _ _ hj).mpr (h.online j u hu ho hr)
  case client =>
    intro id j hm
    by_cases hj : j = i
    case pos => subst hj; exact ⟨t', by simp [hs], client id hm⟩
    case neg => simpa [hs, hj] using h.client id j ((hc _ _ hj).mp hm)
  case forward =>
    intro j u msg hu
    rcases update_eq_some (hs ▸ hu) with ⟨rfl, rfl⟩ | ⟨_, hu⟩
    case inl => exact forward msg
    case inr => exact h.forward j u msg hu

theorem accept (h : m.Registered) (hn : m.streams i = none) : (m.accept i).Registered := by
  refine h.update rfl (fun _ _ _ => .rfl) nofun (fun id hc => ?_) nofun
  have ⟨_, hi, _⟩ := h.client id i hc
  cases hn ▸ hi

theorem client_self (h : m.Registered) (ht : m.streams i = some t) (id : Bytes)
    (hc : m.clientSessions[id]? = some i) : t.alreadyOnline = true ∧ t.onlineID = id := by
  have ⟨_, hi, hc⟩ := h.client id i hc
  cases ht ▸ hi
  exact hc

theorem others (h : m.Registered) (ht : m.streams i = some t) (hm : m.Moves f i t a m') (id : Bytes)
    (j : Nat) (hj : j ≠ i) : m'.clientSessions[id]? = some j ↔ m.clientSessions[id]? = some j := by
  cases hm
  case phase => exact .rfl
  case recv msg hp =>
    rw [recv_clientSessions]
    rcases (Stream.recv_received hp i m.clientSessions msg).clients with ⟨_, _, hc⟩ | ⟨_, _, hn, hc⟩ <;>
      rw [hc]
    grind
  case finish now hp =>
    have ho := h.online i t ht
    rw [setPhase_clientSessions, finish_clientSessions]
    grind

theorem moves (h : m.Registered) (ht : m.streams i = some t) (hm : m.Moves f i t a m') : m'.Registered := by
  have hc := h.others ht hm
  have hi := h.client_self ht
  cases hm
  case recv msg hp =>
    have hr := Stream.recv_received hp i m.clientSessions msg
    refine h.update recv_streams hc ?_ ?_ hr.forward <;> rw [recv_clientSessions] <;>
      rcases hr.clients with ⟨ho, hid, hc⟩ | ⟨ho, ho', hn, hc⟩ <;> rw [hc]
    case refine_1.inl =>
      intro ho' _
      have ho := ho.symm.trans ho'
      exact hid ho ▸ h.online i t ht ho (by simp [hp])
    case refine_1.inr => simp
    case refine_2.inl =>
      intro id hm
      have ⟨ho', hid'⟩ := hi id hm
      exact ⟨ho.trans ho', (hid ho').trans hid'⟩
    case refine_2.inr =>
      intro id hm
      have := hi id
      grind
  case phase p _ _ hr hp _ _ _ =>
    refine h.update rfl hc ?_ hi ?_
    case refine_1 => exact fun ho _ => h.online i t ht ho hr.right
    case refine_2 => rintro _ rfl; simp at hp
  case finish now hp =>
    refine h.update rfl hc nofun (fun id hm => hi id ?_) nofun
    rw [setPhase_clientSessions, finish_clientSessions] at hm
    grind

end Registered
end GRPCManager
end Aranya
