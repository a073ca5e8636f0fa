import Aranya.Connectivity.Theorems.Manager
import Aranya.Connectivity.Theorems.StreamDelivery
import Aranya.Metrics.Manager

namespace Aranya.Metrics


variable {φ τ ρ : Type*} {f : TimedSessionFuncs τ} {sendData : ρ → Bytes → Bool → ρ × Option Bytes}
    {parse : Bytes → Except Bytes (List φ)} {m : Manager φ} {bm bm' : BaseManager τ} {r r' : ρ}
    {p : BaseManager.StreamPosted} {forRuntime : Bool} {buf n : Nat} {data : Bytes} {d : Nat → Bytes}
    {es : List StreamEvent}

def passed (data : Bytes) : List Bytes :=
  if data = [] then [] else [data]

theorem passed_injective : Function.Injective passed := by
  intro a b h
  simp only [passed] at h
  split at h <;> split at h <;> simp_all

namespace Manager

theorem updates_updateMetrics : ((m.updateMetrics parse forRuntime data).fst.cache forRuntime).updates =
    (m.cache forRuntime).updates ++ passed data := by
  have hu : ∀ c : MetricsCache φ, (c.update parse data).fst.updates = c.updates ++ [data] := by
    intro c
    simp only [MetricsCache.update]
    split <;> rfl
  simp only [updateMetrics, List.length_eq_zero_iff, passed]
  split
  case isTrue => simp
  case isFalse => cases forRuntime <;> simp [cache, hu]

theorem cache_onCollectMsg {msg} : ((m.onCollectMsg forRuntime msg).fst).cache = m.cache := by
  simp only [onCollectMsg]
  split
  case h_1 =>
    split
    case isTrue => cases forRuntime <;> rfl
    case isFalse => rfl
  case h_2 => rfl

theorem updates_retrieveDeviceMetrics {msgs} :
    ((m.retrieveDeviceMetrics parse forRuntime none msgs data).cache forRuntime).updates =
    (m.cache forRuntime).updates ++ passed data := by
  have hc : (handleMessages (onCollectMsg forRuntime) m msgs).cache = m.cache := by
    rw [handleMessages_eq]
    exact loop_preserves (I := fun t : Manager φ => t.cache = m.cache) rfl fun ht => cache_onCollectMsg.trans ht
  simp only [retrieveDeviceMetrics, Option.isSome_none, Bool.false_eq_true, if_false]
  rw [updates_updateMetrics, hc]

theorem postCollectCmd_opened (hv : bm.sessions.Valid) (hz : bm.sessions.sessions[0]? = none)
    (hb : bm.sessions.world.writers buf = .buffer)
    (hp : postCollectCmd f sendData bm r forRuntime buf = .ok (bm', r', p)) (he : p.err = none) :
    ∃ c ret s, p.msgCh = some c ∧ p.streamReady = some ret ∧ bm'.sessions.Valid ∧
      bm'.sessions.sessions[p.realSID]? = some s ∧ s.msgCh = some c ∧ s.seqQ = none ∧
      s.prependSize = true ∧ s.Sending bm'.sessions.world (.out buf) (.out buf) ret ∧
      bm'.sessions.world.writers buf = .buffer := by
  obtain ⟨hr, hc, hs, hm⟩ : bm.sessions.nextSid = some p.realSID ∧
      p.msgCh = some bm.sessions.world.msgChs.next ∧ p.streamReady = some bm.sessions.world.signals.next ∧
      bm'.sessions = ((bm.sessions.added f 0 p.realSID true true).setStream f p.realSID (some (.out buf)) none
        none).fst := by
    simp only [postCollectCmd] at hp
    split at hp
    case isTrue => exact BaseManager.postStreamCmd_created hp hz he
    case isFalse => exact BaseManager.postStreamCmd_created hp hz he
  have hw : bm'.sessions.world = { bm.sessions.world with
      msgChs := bm.sessions.world.msgChs.make 1
      signals := bm.sessions.world.signals.make 0 } := by
    rw [hm, SessionManager.setStream_added_world]
  have hb' : bm'.sessions.world.writers buf = .buffer := by rw [hw, hb]
  have hf : ∀ i, .out buf = WriterRef.out i ∨ .out buf = WriterRef.out i →
      (bm'.sessions.world.writers i).Whole := by
    intro i hi
    cases (or_self_iff.mp hi)
    exact hb' ▸ fun _ _ => rfl
  refine ⟨_, _, _, hc, hs, hm ▸ hv.added.setStream, hm ▸ SessionManager.setStream_added_getElem?, rfl, rfl, rfl,
    ?_, hb'⟩
  exact {
    isStream := rfl
    dataOut := rfl
    errOut := rfl
    streamReady := rfl
    canWrite := by simp
    reliable i hi := (hf i hi).reliable
    whole i hi _ := hf i hi
    ready := by simp [hw, Session.new]
  }

def replies (sid ret n : Nat) (d : Nat → Bytes) (es : List StreamEvent) : List SessionManager.Action :=
  es.map (StreamEvent.action sid ret n fun i => ⟨.data, d i⟩) ++
  if n = 0 then [.call <| .dispatch ⟨.done, sid, 0, true, []⟩] else []

def packets (n : Nat) (d : Nat → Bytes) : Bytes :=
  (List.range n).flatMap fun i => framed true (d i)

theorem length_lt_packets (hn : 0 < n) : ((List.range n).flatMap d).length < (packets n d).length := by
  suffices h : ∀ l : List Nat, (l.flatMap d).length + l.length ≤ (l.flatMap fun i => framed true (d i)).length by
    have := h (List.range n)
    rw [List.length_range] at this
    exact Nat.lt_of_lt_of_le (Nat.lt_add_of_pos_right hn) this
  intro l
  induction l
  case nil => simp
  case cons i l hl =>
    have := length_lt_framed (d i)
    simp only [List.flatMap_cons, List.length_append, List.length_cons]
    omega

theorem replies_run {s : Session} {sid ret c : Nat} {sm : SessionManager τ} (hv : sm.Valid)
    (hs : sm.sessions[sid]? = some s) (hc : s.msgCh = some c) (hf : s.seqQ = none) (hp : s.prependSize = true)
    (hw : s.Sending sm.world (.out buf) (.out buf) ret) (hb : sm.world.writers buf = .buffer)
    (hn : n ≤ maxUint64) (hi : ∀ i, .chunk i ∈ es → i < n) (ha : ∀ i < n, .chunk i ∈ es)
    (hx : ∀ pre, pre ++ [.expire] <+: es → .chunk 0 ∈ pre) :
    ∃ sm', Execution (SessionManager.step f) sm (replies sid ret n d es) sm' ∧
      (sm'.world.msgChs.chan c).closed = true ∧ (sm'.world.writers buf).written = packets n d := by
  by_cases h₀ : n = 0
  case pos =>
    subst h₀
    have he : es = [] := by
      cases es
      case nil => rfl
      case cons e es =>
        cases e
        case chunk i => exact absurd (hi i <| by simp) (Nat.not_lt_zero i)
        case expire => exact absurd (hx [] <| by simp) (by simp)
    obtain ⟨c', hc', _, _, _, hq⟩ := (hv.session hs).msgCh
    cases hc.symm.trans hc'
    obtain ⟨sm', h₁, _, _, h₂, h₃⟩ := SessionManager.dispatch_single (f := f) ⟨.done, sid, 0, true, []⟩ hv hs hc
      (hq hf) rfl ⟨rfl, rfl⟩
    refine ⟨sm', he ▸ .single (SessionManager.step_dispatch h₁), h₂, ?_⟩
    rw [h₃, hb]
    rfl
  case neg =>
    have ht := SessionManager.Transfers.start (n := n) (d := fun i => ⟨.data, d i⟩) hv hs hf hc hw
      (Nat.pos_of_ne_zero h₀)
    obtain ⟨sm', ex, ht⟩ := ht.run (f := f) hn (fun _ _ => rfl) hi hx
    have hg : gap (StreamEvent.received es) = n :=
      gap_eq_card_iff ht.bound |>.mpr fun i hi => StreamEvent.mem_received.mpr (ha i hi)
    refine ⟨sm', ?_, (ht.finished hg).right, ?_⟩
    case refine_1 =>
      rw [replies, if_neg h₀, List.append_nil]
      exact ex.map
    case refine_2 =>
      rw [(ht.writes buf).written, hb, hg, hp]
      simp [Writer.buffer, output, packets, Data.framed, List.flatMap_map]

theorem update_exact_iff (hr : bm.sessions.Reached f) (hz : bm.sessions.sessions[0]? = none)
    (hb : bm.sessions.world.writers buf = .buffer)
    (hp : postCollectCmd f sendData bm r forRuntime buf = .ok (bm', r', p)) (he : p.err = none)
    (hn : n ≤ maxUint64) (hi : ∀ i, .chunk i ∈ es → i < n) (ha : ∀ i < n, .chunk i ∈ es)
    (hx : ∀ pre, pre ++ [.expire] <+: es → .chunk 0 ∈ pre) :
    ∃ c ret sm', p.msgCh = some c ∧ p.streamReady = some ret ∧
      Execution (SessionManager.step f) bm'.sessions (replies p.realSID ret n d es) sm' ∧
      (sm'.world.msgChs.chan c).closed = true ∧
      (((m.retrieveDeviceMetrics parse forRuntime p.err (sm'.world.msgChs.chan c).sent
          (sm'.world.writers buf).written).cache forRuntime).updates =
        (m.cache forRuntime).updates ++ passed ((List.range n).flatMap d) ↔ n = 0) := by
  obtain ⟨c, ret, s, hc, hs, hv, h₁, h₂, h₃, h₄, h₅, h₆⟩ := postCollectCmd_opened hr.valid hz hb hp he
  obtain ⟨sm', ex, hd, hw⟩ := replies_run (f := f) (d := d) hv h₁ h₂ h₃ h₄ h₅ h₆ hn hi ha hx
  refine ⟨c, ret, sm', hc, hs, ex, hd, ?_⟩
  rw [he, updates_retrieveDeviceMetrics, hw, List.append_cancel_left_eq, passed_injective.eq_iff]
  constructor
  case mp =>
    intro h
    by_contra h₀
    exact absurd (congrArg List.length h) (length_lt_packets (by omega)).ne'
  case mpr =>
    rintro rfl
    rfl

def idle : BaseManager Unit :=
  .initial (.new 0 .empty ()) 100 (by decide)

def empty : Manager Unit where
  nodeMetricsCache := ⟨[], []⟩
  runtimeMetricsCache := ⟨[], []⟩
  supportNodeMetrics := true
  supportRuntimeMetrics := true

def sendNothing (_ : Unit) (_ : Bytes) (_ : Bool) : Unit × Option Bytes :=
  ((), none)

theorem update_exact_iff_reversed :
    let d (i : Nat) : Bytes := if i = 0 then [40, 181] else [47]
    let es : List StreamEvent := [.chunk 1, .chunk 0, .expire, .chunk 1]
    ∃ bm' p, postCollectCmd .ignore sendNothing idle () true 0 = .ok (bm', (), p) ∧
      ∃ c ret sm', p.msgCh = some c ∧ p.streamReady = some ret ∧
      Execution (SessionManager.step .ignore) bm'.sessions (replies p.realSID ret 2 d es) sm' ∧
      (sm'.world.msgChs.chan c).closed = true ∧
      (((empty.retrieveDeviceMetrics (fun _ => .ok []) true p.err (sm'.world.msgChs.chan c).sent
          (sm'.world.writers 0).written).cache true).updates =
        (empty.cache true).updates ++ passed ((List.range 2).flatMap d) ↔ 2 = 0) := by
  intro d es
  have hr : idle.sessions.Reached .ignore := ⟨0, .empty, (), [], .refl⟩
  obtain ⟨bm', p, hp, he⟩ : ∃ bm' p, postCollectCmd .ignore sendNothing idle () true 0 = .ok (bm', (), p) ∧
      p.err = none := ⟨_, _, rfl, rfl⟩
  exact ⟨bm', p, hp, update_exact_iff hr rfl rfl hp he (by decide) (by simp [es]) (by decide)
    (StreamEvent.expire_after_first (by decide))⟩

-- The cache is updated with the size of the chunk, followed by the chunk.
theorem not_update_exact_single :
    ∃ bm' p sm', postCollectCmd .ignore sendNothing idle () true 0 = .ok (bm', (), p) ∧
      p.msgCh = some 0 ∧ p.streamReady = some 0 ∧ p.err = none ∧
      Execution (SessionManager.step .ignore) bm'.sessions (replies p.realSID 0 1 (fun _ => [40]) [.chunk 0]) sm' ∧
      (sm'.world.msgChs.chan 0).closed = true ∧
      ((empty.retrieveDeviceMetrics (fun _ => .ok []) true p.err (sm'.world.msgChs.chan 0).sent
        (sm'.world.writers 0).written).cache true).updates = [[1, 40]] ∧
      passed ((List.range 1).flatMap fun _ => [40]) = [[40]] :=
  ⟨_, _, _, rfl, rfl, rfl, rfl, .trans rfl .refl, rfl, rfl, rfl⟩

end Manager
end Aranya.Metrics
