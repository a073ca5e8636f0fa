import Aranya.VirtualNode.Theorems.System

namespace Aranya

open Std (ExtTreeMap)

namespace Sync.Stream

variable {t : Stream} {i : Nat} {clients : ExtTreeMap Bytes Nat} {msg : Msg}

theorem recv_forward {msg'} (hp : t.phase = .select)
    (h : (t.recv i clients msg).fst.phase = .forward msg') : msg' = msg := by
  simp only [recv, online, Stream.forward] at h
  split at h
  case isTrue =>
    split at h
    case h_1 => cases h
    case h_2 =>
      split at h
      case h_2 => cases h
      case h_1 =>
        split at h
        case isTrue => cases h
        case isFalse => split at h <;> cases h; rfl
      case h_3 =>
        split at h
        case isTrue => cases h; rfl
        case isFalse => simp [hp] at h
  case isFalse =>
    split at h
    case isTrue => cases h; rfl
    case isFalse => simp [hp] at h

def registeredID (t : Stream) : Option Bytes :=
  if t.alreadyOnline then some t.onlineID else none

theorem registeredID_eq_none_iff : t.registeredID = none ↔ t.alreadyOnline = false := by
  simp [registeredID]

theorem registeredID_online (hn : t.registeredID = none) (id : Bytes) :
    (t.online i clients msg id).fst.registeredID = none ∨
    clients[id]? = none ∧ (t.online i clients msg id).fst.registeredID = some id ∧
      (t.online i clients msg id).snd = clients.insert id i := by
  have ho := registeredID_eq_none_iff.mp hn
  simp only [online, ho, Bool.false_eq_true, if_false]
  split
  case h_1 => exact .inl rfl
  case h_2 hc => exact .inr ⟨hc, rfl, rfl⟩

theorem registeredID_forward : (t.forward msg).registeredID = t.registeredID := by
  simp only [Stream.forward]
  split <;> rfl

theorem registeredID_recv :
    (t.recv i clients msg).fst.registeredID = t.registeredID ∨
    t.registeredID = none ∧ ∃ id, msg.getState = some ⟨.online, id⟩ ∧ clients[id]? = none ∧
      (t.recv i clients msg).fst.registeredID = some id ∧
      (t.recv i clients msg).snd = clients.insert id i := by
  rcases hs : msg.getState with _ | ⟨k, id⟩
  case none =>
    simp only [recv, hs]
    split
    case isTrue => exact .inl rfl
    case isFalse => exact .inl registeredID_forward
  case some =>
    cases k <;> simp only [recv, Msg.kind_of_getState hs, hs, if_true]
    case offline => exact .inl rfl
    case other => exact .inl registeredID_forward
    case online =>
      cases hr : t.registeredID
      case none =>
        refine (registeredID_online hr id).imp_right fun h => ?_
        exact ⟨rfl, id, rfl, h⟩
      case some =>
        have ho : t.alreadyOnline = true := by
          by_contra hn
          simp [registeredID, hn] at hr
        left
        rw [← hr]
        simp [online, registeredID, ho]

end Sync.Stream

namespace System

variable {τ : Type*} {f : TimedSessionFuncs τ} {net : Nat → Bytes → Option Bytes} {s₀ s s' : System τ}
    {a : Action} {as : List Action} {i : Nat} {id : Bytes} {msg : Msg} {t : Sync.Stream}

def received (i : Nat) (as : List Action) : List Msg :=
  as.filterMap fun
    | .stream j (.recv msg) => if j = i then some msg else none
    | _ => none

-- By then the call of `Sync` had not handed over a single message.
def Stores (f : TimedSessionFuncs τ) (net : Nat → Bytes → Option Bytes) (s₀ s : System τ) (i : Nat)
    (id : Bytes) (pre : List Action) (first : Msg) (post : List Action) : Prop :=
  ∃ s₁ s₂, Execution (step f net) s₀ pre s₁ ∧
    s₁.step f net (.stream i (.recv first)) = some s₂ ∧ Execution (step f net) s₂ post s ∧
    first.getState = some ⟨.online, id⟩ ∧ s₁.mgr.clientSessions[id]? = none ∧
    s₂.mgr.clientSessions[id]? = some i ∧ .stream i .forward ∉ pre

theorem Stores.concat {pre first post} (h : Stores f net s₀ s i id pre first post)
    (hs : s.step f net a = some s') : Stores f net s₀ s' i id pre first (post ++ [a]) :=
  have ⟨s₁, s₂, h₁, h₂, h₃, h₄⟩ := h
  ⟨s₁, s₂, h₁, h₂, h₃.append (.single hs), h₄⟩

structure Recalls (f : TimedSessionFuncs τ) (net : Nat → Bytes → Option Bytes) (s₀ : System τ)
    (as : List Action) (s : System τ) (i : Nat) (t : Option Sync.Stream) : Prop where
  online : ∀ id, t.bind Sync.Stream.registeredID = some id → ∃ pre first post,
    as = pre ++ .stream i (.recv first) :: post ∧ Stores f net s₀ s i id pre first post
  offline : t.bind Sync.Stream.registeredID = none → .stream i .forward ∉ as
  last : ∀ u msg, t = some u → u.phase = .forward msg → (received i as).getLast? = some msg

theorem received_concat_of_ne (ha : ∀ msg, a ≠ .stream i (.recv msg)) :
    received i (as ++ [a]) = received i as := by
  simp only [received, List.filterMap_append, List.filterMap_cons, List.filterMap_nil]
  split
  case h_1 => simp
  case h_2 hm =>
    split at hm
    case h_2 => cases hm
    case h_1 =>
      split at hm
      case isTrue hj => subst hj; exact absurd rfl (ha _)
      case isFalse => cases hm

theorem received_concat : received i (as ++ [.stream i (.recv msg)]) = received i as ++ [msg] := by
  simp [received]

namespace Recalls

variable {t t' : Option Sync.Stream}

theorem update (h : Recalls f net s₀ as s i t) (hs : s.step f net a = some s')
    (hr : t'.bind Sync.Stream.registeredID = t.bind Sync.Stream.registeredID)
    (hf : a = .stream i .forward → t.bind Sync.Stream.registeredID ≠ none)
    (hl : ∀ u msg, t' = some u → u.phase = .forward msg →
      (received i (as ++ [a])).getLast? = some msg) :
    Recalls f net s₀ (as ++ [a]) s' i t' where
  last := hl
  online id ho := by
    have ⟨pre, first, post, he, hp⟩ := h.online id (hr ▸ ho)
    exact ⟨pre, first, post ++ [a], by simp [he], hp.concat hs⟩
  offline ho := by
    have hn := h.offline (hr ▸ ho)
    simp only [List.mem_append, List.mem_singleton, not_or]
    exact ⟨hn, fun ha => hf ha.symm (hr ▸ ho)⟩

theorem other (h : Recalls f net s₀ as s i t) (hs : s.step f net a = some s')
    (ha : ∀ b, a ≠ .stream i b) : Recalls f net s₀ (as ++ [a]) s' i t := by
  refine h.update hs rfl (fun hf => absurd hf (ha _)) fun u msg hu hp => ?_
  rw [received_concat_of_ne fun _ => ha _]
  exact h.last u msg hu hp

end Recalls

theorem Recalls.none : Recalls f net s₀ [] s i none where
  online _ h := nomatch h
  offline _ := List.not_mem_nil
  last _ _ h := nomatch h

structure Remembers (f : TimedSessionFuncs τ) (net : Nat → Bytes → Option Bytes) (s₀ : System τ)
    (as : List Action) (s : System τ) : Prop where
  valid : s.Valid
  exec : Execution (step f net) s₀ as s
  stream : ∀ i, Recalls f net s₀ as s i (s.mgr.streams i)

theorem forward_phase (h : s.step f net (.stream i .forward) = some s') :
    ∃ t msg, s.mgr.streams i = some t ∧ t.phase = .forward msg := by
  simp only [step] at h
  split at h
  case h_1 => cases h
  case h_2 t ht =>
    simp only [GRPCManager.streamStep] at h
    split at h
    case h_1 msg hp => exact ⟨t, msg, ht, hp⟩
    case h_2 => cases h

namespace Remembers

theorem forward (h : Remembers f net s₀ as s) (ha : s.step f net (.stream i .forward) = some s') :
    (s.mgr.streams i).bind Sync.Stream.registeredID ≠ none := by
  have ⟨t, msg, ht, hp⟩ := forward_phase ha
  simp [ht, Sync.Stream.registeredID_eq_none_iff, h.valid.mgr.forward i t msg ht hp]

theorem recv (h : Remembers f net s₀ as s) (ht : s.mgr.streams i = some t) (hp : t.phase = .select)
    (hs : s.step f net (.stream i (.recv msg)) = some s')
    (hm : s'.mgr = s.mgr.recv i t msg) :
    Recalls f net s₀ (as ++ [.stream i (.recv msg)]) s' i
      (some (t.recv i s.mgr.clientSessions msg).fst) := by
  have hi := h.stream i
  rw [ht] at hi
  have hl : ∀ u msg', some (t.recv i s.mgr.clientSessions msg).fst = some u →
      u.phase = .forward msg' →
      (received i (as ++ [.stream i (.recv msg)])).getLast? = some msg' := by
    intro u msg' hu hf
    cases hu
    rw [received_concat, List.getLast?_concat, Sync.Stream.recv_forward hp hf]
  rcases Sync.Stream.registeredID_recv with hr | ⟨hn, id, hg, hc, hr, hc'⟩
  case inl => exact hi.update hs hr nofun hl
  case inr =>
    refine { online := fun id' ho => ?_, offline := fun ho => ?_, last := hl }
    case refine_1 =>
      cases hr.symm.trans ho
      refine ⟨as, msg, [], rfl, s, s', h.exec, hs, .refl, hg, hc, ?_, hi.offline hn⟩
      rw [hm, GRPCManager.recv_clientSessions, hc']
      simp
    case refine_2 => cases hr.symm.trans ho

theorem stream_moves {b mgr} (h : Remembers f net s₀ as s) (ht : s.mgr.streams i = some t)
    (hm : s.mgr.Moves f i t b mgr)
    (hs : s.step f net (.stream i b) = some { s with mgr := mgr }) :
    Recalls f net s₀ (as ++ [.stream i b]) { s with mgr := mgr } i (mgr.streams i) := by
  have hi := h.stream i
  rw [ht] at hi
  cases hm
  case recv msg hp =>
    rw [GRPCManager.recv_streams, Function.update_self]
    exact h.recv ht hp hs rfl
  case phase p _ _ hr hp hb _ _ =>
    simp only [GRPCManager.setPhase, Function.update_self]
    refine hi.update hs rfl (fun hf => ?_) ?_
    case refine_1 => cases hf; exact ht ▸ h.forward hs
    case refine_2 =>
      intro u msg hu hf
      cases hu
      rcases hp with rfl | rfl <;> cases hf
  case finish =>
    simp only [GRPCManager.setPhase, Function.update_self]
    exact hi.update hs rfl nofun fun _ _ hu hf => by cases hu; cases hf

theorem step (h : Remembers f net s₀ as s) (hs : s.step f net a = some s') :
    Remembers f net s₀ (as ++ [a]) s' := by
  refine ⟨h.valid.step hs, h.exec.append (.single hs), fun j => ?_⟩
  have hj := h.stream j
  cases step_moves hs
  case rest ha _ hr => exact hr.streams ▸ hj.other hs (ha j)
  case initialized => exact hj.other hs nofun
  case accept i hn =>
    by_cases hi : j = i
    case neg => simpa [GRPCManager.accept, hi] using hj.other hs nofun
    case pos =>
      subst hi
      simp only [GRPCManager.accept, Function.update_self]
      refine hj.update hs ?_ nofun ?_
      case refine_1 => rw [hn]; rfl
      case refine_2 => intro u msg hu hf; cases hu; cases hf
  case stream i t b mgr ht hm =>
    by_cases hi : j = i
    case pos => subst hi; exact h.stream_moves ht hm hs
    case neg =>
      have ⟨t', ht', _⟩ := hm.streams
      simp only [ht', Function.update_of_ne hi]
      exact hj.other hs fun _ ha => hi (Action.stream.inj ha).left.symm

end Remembers

-- A call of `Sync` only hands over the last message which it has received, and none before it has stored
-- its stream under the id of an online message. No two calls are online with the same id.
theorem online_gate {base : BaseManager τ} {config sessions}
    (hb : BaseManager.new config sessions = .ok base)
    (e : Execution (step f net) (new base) as s) :
    (∀ i t msg, s.mgr.streams i = some t → t.phase = .forward msg → ∃ pre first post,
      as = pre ++ .stream i (.recv first) :: post ∧
      Stores f net (new base) s i t.onlineID pre first post ∧
      (received i (.stream i (.recv first) :: post)).getLast? = some msg) ∧
    (∀ i t, s.mgr.streams i = some t → t.alreadyOnline = false → .stream i .forward ∉ as) ∧
    (∀ i j t u, s.mgr.streams i = some t → s.mgr.streams j = some u →
      t.alreadyOnline = true → u.alreadyOnline = true → t.phase ≠ .returned → u.phase ≠ .returned →
      t.onlineID = u.onlineID → i = j) := by
  have h : Remembers f net (new base) as s := by
    refine e.preserves_history (P := fun _ _ => True) (fun h _ hs => h.step hs) ?_ ?_
    case refine_1 => exact ⟨.new hb, .refl, fun _ => .none⟩
    case refine_2 => exact .of_forall fun _ _ => trivial
  refine ⟨fun i t msg ht hp => ?_, fun i t ht ho => ?_, fun i j t u ht hu ho ho' hr hr' hid => ?_⟩
  case refine_1 =>
    have ho := h.valid.mgr.forward i t msg ht hp
    have ⟨pre, first, post, he, hs⟩ :=
      (h.stream i).online t.onlineID (by simp [ht, Sync.Stream.registeredID, ho])
    refine ⟨pre, first, post, he, hs, ?_⟩
    have hl := (h.stream i).last t msg ht hp
    rw [he] at hl
    simpa [received] using hl
  case refine_2 =>
    exact (h.stream i).offline (by simp [ht, Sync.Stream.registeredID, ho])
  case refine_3 =>
    have hi := h.valid.mgr.online i t ht ho hr
    have hj := h.valid.mgr.online j u hu ho' hr'
    rw [hid] at hi
    exact Option.some.inj (hi.symm.trans hj)

-- The online message is the first one to be handed over.
theorem online_gate_first :
    let as : List Action := [.accept 0, .stream 0 (.recv (VirtualNode.stateMsg (.other 7) [])),
      .stream 0 (.recv (onlineMsg [1]))]
    ∃ s t, Execution (step .ignore fun _ _ => none) (new BaseManager.grpc) as s ∧
      s.mgr.streams 0 = some t ∧ ∃ pre first post,
      as = pre ++ .stream 0 (.recv first) :: post ∧
      Stores .ignore (fun _ _ => none) (new .grpc) s 0 t.onlineID pre first post ∧
      (received 0 (.stream 0 (.recv first) :: post)).getLast? = some (onlineMsg [1]) := by
  intro as
  have hm : BaseManager.new ⟨none, false, false, false, true⟩ (.new 0 .empty ()) = .ok .grpc := rfl
  have ⟨s, t, e, ht, hp⟩ : ∃ s t,
      Execution (step .ignore fun _ _ => none) (new BaseManager.grpc) as s ∧
      s.mgr.streams 0 = some t ∧ t.phase = .forward (onlineMsg [1]) :=
    ⟨_, _, .of_foldlM rfl, rfl, rfl⟩
  exact ⟨s, t, e, ht, (online_gate hm e).left 0 t _ ht hp⟩

end System
end Aranya
