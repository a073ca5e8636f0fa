import Aranya.VirtualNode.Theorems.System

namespace Aranya

open Std (ExtTreeMap)
open Sync (Stream)

namespace GRPCManager

variable {τ : Type*} {f : TimedSessionFuncs τ} {m m' : GRPCManager τ} {i : Nat} {t : Stream} {a : StreamAction}
    {t' : Stream}

def NoStale (m : GRPCManager τ) : Prop :=
  ∀ i t, m.streams i = some t → t.phase = .returned → ∀ id : Bytes, m.clientSessions[id]? ≠ some i

theorem finish_removes_iff {now} (h : m.Registered) (ht : m.streams i = some t) (hp : t.phase = .exit) :
    (∀ id : Bytes, (m.finish f t now).clientSessions[id]? ≠ some i) ↔
    (t.alreadyOnline = true → m.base.connectedDevices ≠ ∅) := by
  have ho := h.online i t ht
  have hc := h.client_self ht
  rw [finish_clientSessions]
  constructor
  case mp =>
    intro hn ha he
    refine hn t.onlineID ?_
    simpa [he] using ho ha (by simp [hp])
  case mpr => grind

theorem NoStale.update_iff (hn : m.NoStale)
    (hs : m'.streams = Function.update m.streams i (some t'))
    (hc : ∀ (id : Bytes) (j : Nat), j ≠ i →
      (m'.clientSessions[id]? = some j ↔ m.clientSessions[id]? = some j)) :
    m'.NoStale ↔ (t'.phase = .returned → ∀ id : Bytes, m'.clientSessions[id]? ≠ some i) := by
  constructor
  case mp => exact fun h => h i t' (by simp [hs])
  case mpr =>
    intro h j u hj hr id
    rcases update_eq_some (hs ▸ hj) with ⟨rfl, rfl⟩ | ⟨hj, hu⟩
    case inl => exact h hr id
    case inr => exact mt (hc id j hj).mp (hn j u hu hr id)

theorem NoStale.moves_iff (hn : m.NoStale) (h : m.Registered) (ht : m.streams i = some t)
    (hm : m.Moves f i t a m') :
    m'.NoStale ↔ ∀ now, a = .finish now → t.alreadyOnline = true → m.base.connectedDevices ≠ ∅ := by
  have ho := h.others ht hm
  cases hm
  case recv msg hp =>
    have hr := Stream.recv_received hp i m.clientSessions msg
    rw [hn.update_iff recv_streams ho]
    exact iff_of_true (fun h => absurd h hr.phase) nofun
  case phase p _ _ hr hp _ _ hf =>
    rw [hn.update_iff rfl ho]
    refine iff_of_true ?_ fun now h => absurd h (hf now)
    rintro rfl
    simp at hp
  case finish now hp =>
    rw [hn.update_iff rfl ho, setPhase_clientSessions]
    simpa using finish_removes_iff h ht hp

structure Undisturbed (m m' : GRPCManager τ) : Prop where
  connectedDevices : m'.base.connectedDevices = m.base.connectedDevices
  clientSessions : m'.clientSessions = m.clientSessions
  connected : m'.base.connected = m.base.connected ∧
    m'.base.signals.chan m.base.connected = m.base.signals.chan m.base.connected
  disconnected : m'.base.disconnected = m.base.disconnected ∧
    m'.base.signals.chan m.base.disconnected = m.base.signals.chan m.base.disconnected
  sessions : m'.base.sessions = m.base.sessions

theorem Undisturbed.of_eq (hb : m'.base = m.base) (hc : m'.clientSessions = m.clientSessions) :
    m.Undisturbed m' := by
  constructor <;> simp [hb, hc]

theorem Undisturbed.onReject (h : m.base.Wired) (hb : m'.base = (m.base.onReject id ()).fst)
    (hc : m'.clientSessions = m.clientSessions) : m.Undisturbed m' := by
  simp only [BaseManager.onReject] at hb
  split at hb
  case isTrue => exact .of_eq hb hc
  case isFalse =>
    constructor <;> simp [hb, hc, Chans.chan_close_of_ne, h.connected_ne.right, h.disconnected_ne]

-- The device with the last id that was received is disconnected, whoever that is.
theorem finish_undisturbed_iff (ho : t.alreadyOnline = false) (m : GRPCManager τ) (now : Nat) :
    m.Undisturbed (m.finish f t now) ↔ t.onlineID ∉ m.base.connectedDevices := by
  constructor
  case mp =>
    intro h
    have hd := h.connectedDevices
    rw [finish_base, BaseManager.onDisconnected_devices] at hd
    exact Finset.erase_eq_self.mp hd
  case mpr =>
    intro hn
    refine .of_eq ?_ (by simp [finish_clientSessions, ho])
    rw [finish_base]
    exact BaseManager.onDisconnected_of_notMem rfl hn

theorem recv_undisturbed_iff {msg} (ho : t.alreadyOnline = false) :
    m.Undisturbed (m.recv i t msg) ↔ ∀ id, msg.getState = some ⟨.online, id⟩ → id ∈ m.clientSessions := by
  rw [← Stream.recv_clients_iff (i := i) ho, ← recv_clientSessions]
  exact ⟨(·.clientSessions), .of_eq rfl⟩

theorem Moves.undisturbed_iff (hm : m.Moves f i t a m') (hw : m.base.Wired) (h : m.Registered)
    (ht : m.streams i = some t) (ho : t.alreadyOnline = false) :
    m.Undisturbed m' ↔
    (∀ msg, a = .recv msg → ∀ id, msg.getState = some ⟨.online, id⟩ → id ∈ m.clientSessions) ∧
    (∀ now, a = .finish now → t.onlineID ∉ m.base.connectedDevices) := by
  cases hm
  case recv msg hp => simpa using recv_undisturbed_iff ho
  case finish now hp =>
    have hf := finish_undisturbed_iff (f := f) ho m now
    simpa using ⟨fun h => hf.mp { h with }, fun hn => { hf.mpr hn with }⟩
  case phase hr hp hb hn hf =>
    refine iff_of_true ?_ ⟨fun msg h => absurd h (hn msg), fun now h => absurd h (hf now)⟩
    rcases hb with hb | hb | ⟨⟨msg, hp⟩, _⟩
    case inl => exact .of_eq hb rfl
    case inr.inl => exact .onReject hw hb rfl
    case inr.inr => simp [h.forward i t msg ht hp] at ho

theorem Moves.unregistered (hm : m.Moves f i t a m') (hu : m.Undisturbed m')
    (ho : t.alreadyOnline = false) (ht' : m'.streams i = some t') : t'.alreadyOnline = false := by
  cases hm
  case recv msg hp =>
    have hr := Stream.recv_received hp i m.clientSessions msg
    have hc := recv_clientSessions.symm.trans hu.clientSessions
    cases update_self_eq_some (recv_streams ▸ ht')
    exact Stream.Received.unregistered (hc ▸ hr) ho
  all_goals
    cases update_self_eq_some ht'
    exact ho

end GRPCManager

namespace System

variable {τ : Type*} {f : TimedSessionFuncs τ} {net : Nat → Bytes → Option Bytes} {s s' : System τ} {a : Action}

def Removes (s : System τ) (a : Action) : Prop :=
  ∀ i now t, a = .stream i (.finish now) → s.mgr.streams i = some t → t.alreadyOnline = true →
    s.mgr.base.connectedDevices ≠ ∅

theorem noStale_step_iff (v : s.Valid) (hn : s.mgr.NoStale) (hs : s.step f net a = some s') :
    s'.mgr.NoStale ↔ s.Removes a := by
  cases step_moves hs
  case rest ha _ hr =>
    have hn : s'.mgr.NoStale := by
      rw [GRPCManager.NoStale, hr.streams, hr.clientSessions]
      exact hn
    exact iff_of_true hn fun i now _ h => absurd h (ha i _)
  case initialized => exact iff_of_true hn nofun
  case accept i hi =>
    have hs : (s.mgr.accept i).streams = Function.update s.mgr.streams i (some _) := rfl
    exact iff_of_true (hn.update_iff hs (fun _ _ _ => .rfl) |>.mpr nofun) nofun
  case stream i t b mgr ht hm =>
    refine (hn.moves_iff v.mgr ht hm).trans ?_
    constructor
    case mp =>
      rintro h _ now u ⟨⟩ hu
      cases ht ▸ hu
      exact h now rfl
    case mpr =>
      rintro h now rfl
      exact h i now t rfl ht

-- In a run no call of `Sync` leaves its stream among the clients iff those with registered streams return
-- while there are connected devices.
theorem noStale_iff_removes {config sessions base as}
    (hm : BaseManager.new config sessions = .ok base) (e : Execution (step f net) (new base) as s) :
    (∀ pre s', pre <+: as → Execution (step f net) (new base) pre s' → s'.mgr.NoStale) ↔
    Along (step f net) Removes (new base) as := by
  refine e.always_iff_along (J := fun s => s.Valid ∧ s.mgr.NoStale) (·.right) ?_ ?_ ⟨.new hm, ?_⟩
  case refine_1 => exact fun ⟨v, h⟩ hr hs => ⟨v.step hs, (noStale_step_iff v h hs).mpr hr⟩
  case refine_2 => exact fun ⟨v, h⟩ hs => (noStale_step_iff v h hs).mp
  case refine_3 => exact fun _ _ h => nomatch h

theorem noStale_iff_removes_offline :
    let as := connects 0 [1] ++ [.stream 0 .lost, .stream 0 (.finish 0)]
    (∀ pre s', pre <+: as → Execution (step .ignore fun _ _ => none) (new BaseManager.grpc) pre s' →
      s'.mgr.NoStale) ↔
    Along (step .ignore fun _ _ => none) Removes (new BaseManager.grpc) as :=
  have hm : BaseManager.new ⟨none, false, false, false, true⟩ (.new 0 .empty ()) = .ok .grpc := rfl
  noStale_iff_removes hm <|
    .of_foldlM rfl

-- A device which is lost before it gets connected is refused when it tries to connect again.
theorem not_noStale_lost :
    ∃ s, Execution (step .ignore fun _ _ => none) (new BaseManager.grpc)
        [.accept 0, .stream 0 (.recv (onlineMsg [1])), .stream 0 .forward, .stream 0 .lost,
         .stream 0 (.finish 0), .accept 1, .stream 1 (.recv (onlineMsg [1]))] s ∧
      s.mgr.clientSessions[([1] : Bytes)]? = some 0 ∧
      (s.mgr.streams 1).map Stream.alreadyOnline = some false ∧ ¬s.mgr.NoStale := by
  refine ⟨_, .of_foldlM rfl, rfl, rfl, fun h => ?_⟩
  exact h 0 _ rfl rfl [1] rfl

def Inert (i : Nat) (s : System τ) (a : Action) : Prop :=
  (∀ msg, a = .stream i (.recv msg) → ∀ id, msg.getState = some ⟨.online, id⟩ →
    id ∈ s.mgr.clientSessions) ∧
  (∀ now t, a = .stream i (.finish now) → s.mgr.streams i = some t →
    t.onlineID ∉ s.mgr.base.connectedDevices)

theorem undisturbed_iff_inert {i t} (v : s.Valid) (ht : s.mgr.streams i = some t)
    (ho : t.alreadyOnline = false) (hs : s.step f net a = some s') :
    (∀ b, a = .stream i b → s.mgr.Undisturbed s'.mgr) ↔ s.Inert i a := by
  by_cases ha : ∃ b, a = .stream i b
  case neg =>
    exact iff_of_true (fun b h => absurd ⟨b, h⟩ ha)
      ⟨fun _ h => absurd ⟨_, h⟩ ha, fun _ _ h => absurd ⟨_, h⟩ ha⟩
  case pos =>
    obtain ⟨b, rfl⟩ := ha
    cases step_moves hs
    case rest ha _ _ => exact absurd rfl (ha i b)
    case stream u mgr hu hm =>
      cases ht ▸ hu
      simpa [Inert, ht] using hm.undisturbed_iff v.base.toWired v.mgr ht ho

theorem unregistered_step {i t} (ht : s.mgr.streams i = some t) (ho : t.alreadyOnline = false)
    (hu : ∀ b, a = .stream i b → s.mgr.Undisturbed s'.mgr) (hs : s.step f net a = some s') :
    ∃ t', s'.mgr.streams i = some t' ∧ t'.alreadyOnline = false := by
  cases step_moves hs
  case rest hr => exact ⟨t, hr.streams ▸ ht, ho⟩
  case initialized => exact ⟨t, ht, ho⟩
  case accept j hn =>
    have hi : i ≠ j := by rintro rfl; cases ht ▸ hn
    exact ⟨t, by simpa [GRPCManager.accept, hi] using ht, ho⟩
  case stream j u b mgr hj hm =>
    have ⟨t', hs, _⟩ := hm.streams
    by_cases hi : i = j
    case neg => exact ⟨t, by simpa [hs, hi] using ht, ho⟩
    case pos =>
      subst hi
      cases ht ▸ hj
      have ht' : mgr.streams i = some t' := by simp [hs]
      exact ⟨t', ht', hm.unregistered (hu b rfl) ho ht'⟩

-- A refused stream disturbs nothing. Afterwards it disturbs nothing iff it announces no free id, and does
-- not end while the device with the last id that it has announced is connected.
theorem refused_undisturbed_iff {config sessions base as₀ as s₀ s₁ i t msg id}
    (hm : BaseManager.new config sessions = .ok base)
    (e₀ : Execution (step f net) (new base) as₀ s₀) (ht : s₀.mgr.streams i = some t)
    (ho : t.alreadyOnline = false) (hs : msg.getState = some ⟨.online, id⟩)
    (hc : id ∈ s₀.mgr.clientSessions) (h₁ : s₀.step f net (.stream i (.recv msg)) = some s₁)
    (e : Execution (step f net) s₁ as s) :
    s₀.mgr.Undisturbed s₁.mgr ∧
    ((∀ pre b s₂ s₃, pre ++ [.stream i b] <+: as → Execution (step f net) s₁ pre s₂ →
        s₂.step f net (.stream i b) = some s₃ → s₂.mgr.Undisturbed s₃.mgr) ↔
      Along (step f net) (Inert i) s₁ as) := by
  have v₀ : s₀.Valid := e₀.preserves (fun v hs => v.step hs) (.new hm)
  have hu : s₀.mgr.Undisturbed s₁.mgr := by
    refine undisturbed_iff_inert v₀ ht ho h₁ |>.mpr ⟨?_, nofun⟩ _ rfl
    rintro _ ⟨⟩ _ hs'
    cases hs ▸ hs'
    exact hc
  refine ⟨hu, ?_⟩
  have h := e.steps_iff_along (R := fun s a s' => ∀ b, a = .stream i b → s.mgr.Undisturbed s'.mgr)
    (J := fun s => s.Valid ∧ ∃ t, s.mgr.streams i = some t ∧ t.alreadyOnline = false)
    (P := Inert i) ?_ ?_ ⟨v₀.step h₁, unregistered_step ht ho (fun _ _ => hu) h₁⟩
  case refine_1 =>
    intro s a s' ⟨v, t, ht, ho⟩ hi hs
    exact ⟨v.step hs, unregistered_step ht ho (undisturbed_iff_inert v ht ho hs |>.mpr hi) hs⟩
  case refine_2 => exact fun ⟨v, t, ht, ho⟩ hs => undisturbed_iff_inert v ht ho hs
  rw [← h]
  constructor
  case mp => rintro h pre _ s₂ s₃ hp e' hs b rfl; exact h pre b s₂ s₃ hp e' hs
  case mpr => exact fun h pre b s₂ s₃ hp e' hs => h pre _ s₂ s₃ hp e' hs b rfl

-- A second stream with the id of a connected device is refused and gets lost.
theorem refused_undisturbed_iff_lost :
    ∃ s₀ s₁,
      Execution (step .ignore fun _ _ => none) (new BaseManager.grpc)
        (connects 0 [1] ++ [.accept 1]) s₀ ∧
      s₀.step .ignore (fun _ _ => none) (.stream 1 (.recv (onlineMsg [1]))) = some s₁ ∧
      s₀.mgr.Undisturbed s₁.mgr ∧
      ((∀ pre b s₂ s₃, pre ++ [.stream 1 b] <+: [.stream 1 .reject, .stream 1 .lost] →
          Execution (step .ignore fun _ _ => none) s₁ pre s₂ →
          s₂.step .ignore (fun _ _ => none) (.stream 1 b) = some s₃ → s₂.mgr.Undisturbed s₃.mgr) ↔
        Along (step .ignore fun _ _ => none) (Inert 1) s₁ [.stream 1 .reject, .stream 1 .lost]) := by
  have hm : BaseManager.new ⟨none, false, false, false, true⟩ (.new 0 .empty ()) = .ok .grpc := rfl
  have ⟨s₀, e₀, t, ht, ho, hc, s₁, h₁, s, e⟩ : ∃ s₀,
      Execution (step .ignore fun _ _ => none) (new BaseManager.grpc)
        (connects 0 [1] ++ [.accept 1]) s₀ ∧
      ∃ t, s₀.mgr.streams 1 = some t ∧ t.alreadyOnline = false ∧ [1] ∈ s₀.mgr.clientSessions ∧
      ∃ s₁, s₀.step .ignore (fun _ _ => none) (.stream 1 (.recv (onlineMsg [1]))) = some s₁ ∧
      ∃ s, Execution (step .ignore fun _ _ => none) s₁ [.stream 1 .reject, .stream 1 .lost] s :=
    ⟨_, .of_foldlM rfl,
     _, rfl, rfl, rfl, _, rfl, _, .trans rfl <| .trans rfl .refl⟩
  exact ⟨s₀, s₁, e₀, h₁, refused_undisturbed_iff hm e₀ ht ho rfl hc h₁ e⟩

-- When the refused stream ends, it disconnects the device.
theorem not_undisturbed_finish :
    ∃ s s', Execution (step .ignore fun _ _ => none) (new BaseManager.grpc)
        (connects 0 [1] ++ [.accept 1, .stream 1 (.recv (onlineMsg [1])), .stream 1 .reject,
          .stream 1 .lost]) s ∧
      s.step .ignore (fun _ _ => none) (.stream 1 (.finish 0)) = some s' ∧
      s.mgr.base.connectedDevices = {[1]} ∧ s'.mgr.base.connectedDevices = ∅ ∧
      (s'.mgr.base.signals.chan s'.mgr.base.disconnected).closed = true ∧
      s'.mgr.clientSessions[([1] : Bytes)]? = some 0 ∧ ¬s.mgr.Undisturbed s'.mgr := by
  refine ⟨_, _, .of_foldlM rfl, rfl, rfl, rfl, rfl, rfl, fun h => ?_⟩
  cases h.connected.left

end System
end Aranya
