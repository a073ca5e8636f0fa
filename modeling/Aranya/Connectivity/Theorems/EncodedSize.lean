import Aranya.Connectivity.Manager
import Aranya.Proto.Theorems.Wire

namespace Aranya.BaseManager

variable {τ ρ : Type*} {m : BaseManager τ} {sendData : ρ → Bytes → Bool → ρ × Option Bytes} {r : ρ}
    {kind : CmdType} {sid seq n : Nat} {complete : Bool} {payload : Bytes} {l : List Bytes}

def recorded (sendData : ρ → Bytes → Bool → ρ × Option Bytes) (r : ρ × List Bytes) (data : Bytes)
    (ensure : Bool) : (ρ × List Bytes) × Option Bytes :=
  let (net, err) := sendData r.fst data ensure
  ((net, r.snd ++ [data]), err)

def marshalled (sendData : ρ → Bytes → Bool → ρ × Option Bytes) (m : BaseManager τ) (r : ρ) (kind : CmdType)
    (realSid lastSeq : Nat) (complete : Bool) (payload : Bytes) : List Bytes :=
  (doPostData (recorded sendData) m (r, []) kind realSid lastSeq complete payload).fst.snd

structure Numbered (m : BaseManager τ) (kind : CmdType) (sid seq : Nat) (cmds : List Cmd) : Prop where
  header : ∀ j cmd, cmds[j]? = some cmd → cmd.kind = kind ∧ cmd.sid = sid ∧ cmd.seq = (seq + j) % 2 ^ 64
  bounded : ∀ cmd ∈ cmds, cmd.payload.length ≤ m.maxDataSize

theorem Numbered.single (hs : seq < 2 ^ 64) (hp : payload.length ≤ m.maxDataSize) :
    m.Numbered kind sid seq [⟨kind, sid, seq, complete, payload⟩] where
  bounded := by simpa using hp
  header j _ := by
    intro h
    cases j
    case zero => cases h; exact ⟨rfl, rfl, (Nat.mod_eq_of_lt hs).symm⟩
    case succ => simp at h

theorem Numbered.cons {cmds} (hs : seq < 2 ^ 64) (hp : payload.length ≤ m.maxDataSize)
    (h : m.Numbered kind sid ((seq + 1) % 2 ^ 64) cmds) :
    m.Numbered kind sid seq (⟨kind, sid, seq, complete, payload⟩ :: cmds) where
  bounded := List.forall_mem_cons.mpr ⟨hp, h.bounded⟩
  header j cmd := by
    intro hj
    cases j
    case zero => cases hj; exact ⟨rfl, rfl, (Nat.mod_eq_of_lt hs).symm⟩
    case succ j =>
      obtain ⟨hk, hi, hn⟩ := h.header j cmd (by simpa using hj)
      exact ⟨hk, hi, by omega⟩

theorem recorded_post {r' : ρ × List Bytes} {err}
    (h : doPostData.post (recorded sendData) kind sid (r, l) seq complete payload = (r', err)) :
    r'.snd = l ++ [Cmd.marshal ⟨kind, sid, seq, complete, payload⟩] := by
  simp only [doPostData.post, recorded] at h
  split at h
  all_goals
    rename_i hd
    cases h
    rw [← (Prod.mk.inj hd).left]

theorem recorded_last :
    (doPostData.last (recorded sendData) kind sid complete (r, l) seq payload).fst.snd =
    l ++ [Cmd.marshal ⟨kind, sid, seq, complete, payload⟩] := by
  rcases hd : sendData r (Cmd.marshal ⟨kind, sid, seq, complete, payload⟩) true with ⟨r', _ | err⟩ <;>
    simp [doPostData.last, doPostData.post, recorded, hd]

theorem recorded_go (hs : seq < 2 ^ 64) (hn : payload.length ≤ n) :
    ∃ cmds, m.Numbered kind sid seq cmds ∧
      (doPostData.go (recorded sendData) m kind sid complete n (r, l) seq payload).fst.snd =
      l ++ cmds.map Cmd.marshal := by
  have hd := m.maxDataSize_pos
  induction n generalizing r l seq payload
  case zero =>
    simp only [doPostData.go]
    exact ⟨_, .single hs (by omega), recorded_last⟩
  case succ n hi =>
    simp only [doPostData.go]
    split
    case isFalse hp => exact ⟨_, .single hs (by omega), recorded_last⟩
    case isTrue hp =>
      let cmd : Cmd := ⟨kind, sid, seq, false, payload.take m.maxDataSize⟩
      have ht : cmd.payload.length ≤ m.maxDataSize := by simp [cmd]
      split
      case h_1 r' err hf => exact ⟨[cmd], .single hs ht, recorded_post hf⟩
      case h_2 r' hf =>
        have hn' : (payload.drop m.maxDataSize).length ≤ n := by
          rw [List.length_drop]
          omega
        obtain ⟨cmds, hc, hg⟩ := hi (r := r'.fst) (l := r'.snd) (Nat.mod_lt (seq + 1) (by decide)) hn'
        refine ⟨cmd :: cmds, .cons hs ht hc, ?_⟩
        rw [hg, recorded_post hf]
        simp [cmd]

theorem marshalled_eq (hs : seq < 2 ^ 64) :
    ∃ cmds, m.Numbered kind sid seq cmds ∧
      marshalled sendData m r kind sid seq complete payload = cmds.map Cmd.marshal := by
  simpa [marshalled, doPostData] using recorded_go (l := []) hs (Nat.le_refl payload.length)

theorem new_maxDataSize {config sessions} {size : Int} (hm : new config sessions = .ok m)
    (hz : config.maxDataSize = some size) : (m.maxDataSize + emptyCmdSize : Int) = size := by
  simp only [new, hz] at hm
  split at hm
  case isTrue => cases hm
  case isFalse h =>
    cases hm
    simp only [initial]
    omega

theorem marshalled_length_le {config sessions} {size : Int} (hm : new config sessions = .ok m)
    (hz : config.maxDataSize = some size) (hl : size < 2 ^ 35) (hi : sid < 2 ^ 63) (hs : seq < 2 ^ 63) :
    ∀ j data, (marshalled sendData m r kind sid seq complete payload)[j]? = some data →
      ∃ cmd : Cmd, data = cmd.marshal ∧ cmd.kind = kind ∧ cmd.sid = sid ∧ cmd.seq = (seq + j) % 2 ^ 64 ∧
        (cmd.seq < 2 ^ 63 → (data.length : Int) ≤ size) := by
  intro j data hd
  have hs' : seq < 2 ^ 64 := by omega
  obtain ⟨cmds, hc, hq⟩ : ∃ cmds, m.Numbered kind sid seq cmds ∧
      marshalled sendData m r kind sid seq complete payload = cmds.map Cmd.marshal := marshalled_eq hs'
  rw [hq, List.getElem?_map, Option.map_eq_some_iff] at hd
  obtain ⟨cmd, hj, rfl⟩ := hd
  obtain ⟨h₁, h₂, h₃⟩ := hc.header j cmd hj
  refine ⟨cmd, rfl, h₁, h₂, h₃, fun h₄ => ?_⟩
  have h₅ := hc.bounded cmd (List.mem_of_getElem? hj)
  have h₆ := new_maxDataSize hm hz
  have h₇ : cmd.marshal.length ≤ cmd.payload.length + emptyCmdSize :=
    Cmd.marshal_length_le (h₂ ▸ hi) h₄ (by omega)
  omega

def mqtt (maxPayloadSize : Int) : Options where
  mqttOpts := some maxPayloadSize
  amqpOpts := false
  azureIoTHubOpts := false
  gcpIoTCoreOpts := false
  grpcOpts := false

def sendNothing (_ : Unit) (_ : Bytes) (_ : Bool) : Unit × Option Bytes :=
  ((), none)

theorem marshalled_length_le_small :
    ∃ m : BaseManager Unit, new (mqtt 32) (.new 0 .empty ()) = .ok m ∧
      ∀ j data, (marshalled sendNothing m () .runtime (2 ^ 62) 7 true [1, 2, 3, 4, 5])[j]? = some data →
        ∃ cmd : Cmd, data = cmd.marshal ∧ cmd.kind = .runtime ∧ cmd.sid = 2 ^ 62 ∧
          cmd.seq = (7 + j) % 2 ^ 64 ∧ (cmd.seq < 2 ^ 63 → (data.length : Int) ≤ 32) := by
  obtain ⟨m, hm⟩ : ∃ m : BaseManager Unit, new (mqtt 32) (.new 0 .empty ()) = .ok m := ⟨_, rfl⟩
  exact ⟨m, hm, marshalled_length_le hm rfl (by decide) (by decide) (by decide)⟩

theorem marshalled_two (hl : m.maxDataSize < payload.length) (hp : payload.length ≤ 2 * m.maxDataSize) :
    marshalled sendNothing m () kind sid seq complete payload =
    [Cmd.marshal ⟨kind, sid, seq, false, payload.take m.maxDataSize⟩,
     Cmd.marshal ⟨kind, sid, (seq + 1) % 2 ^ 64, complete, payload.drop m.maxDataSize⟩] := by
  have hd := m.maxDataSize_pos
  obtain ⟨n, hn⟩ : ∃ n, payload.length = n + 2 := ⟨payload.length - 2, by omega⟩
  have hr : ¬m.maxDataSize < (payload.drop m.maxDataSize).length := by
    rw [List.length_drop]
    omega
  rw [hn] at hl
  simp only [marshalled, doPostData, hn, doPostData.go, if_pos hl, if_neg hr, doPostData.post,
    doPostData.last, recorded, sendNothing, List.nil_append, List.cons_append]

theorem marshal_length_late {p : Bytes} (hp : p.length = 2 ^ 28) :
    (Cmd.marshal ⟨.runtime, 2 ^ 62, 2 ^ 63, true, p⟩).length = 2 ^ 28 + 31 := by
  have hn : p ≠ [] := by
    rintro rfl
    simp at hp
  have h₁ : (Wire.encodeUint 0x08 CmdType.runtime.toNat).length = 2 := by decide
  have h₂ : (Wire.encodeUint 0x10 (2 ^ 62)).length = 10 := by decide
  have h₃ : (Wire.encodeUint 0x18 (2 ^ 63)).length = 11 := by decide
  have h₄ : (Wire.encodeBool 0x20 true).length = 2 := by decide
  have h₅ : (Wire.encodeVarint (2 ^ 28)).length = 5 := by decide
  simp only [Cmd.marshal, Wire.encodeBytes, if_neg hn, List.length_append, List.length_cons, h₁, h₂, h₃, h₄, hp,
    h₅]
  rfl

-- A number that is below `2 ^ 63` when the payload is posted may not be so for the last command.
theorem not_marshalled_length_le :
    ∃ (m : BaseManager Unit) (payload data : Bytes),
      new (mqtt (2 ^ 28 + 30)) (.new 0 .empty ()) = .ok m ∧
      (mqtt (2 ^ 28 + 30)).maxDataSize = some (2 ^ 28 + 30) ∧
      data ∈ marshalled sendNothing m () .runtime (2 ^ 62) (2 ^ 63 - 1) true payload ∧
      (2 ^ 28 + 30 : Int) < data.length := by
  obtain ⟨m, hm, hz⟩ : ∃ m : BaseManager Unit, new (mqtt (2 ^ 28 + 30)) (.new 0 .empty ()) = .ok m ∧
      m.maxDataSize = 2 ^ 28 := ⟨_, rfl, rfl⟩
  obtain ⟨payload, hp⟩ : ∃ payload : Bytes, payload.length = 2 ^ 29 :=
    ⟨.replicate (2 ^ 29) 0, List.length_replicate⟩
  have ht : marshalled sendNothing m () .runtime (2 ^ 62) (2 ^ 63 - 1) true payload = _ :=
    marshalled_two (by omega) (by omega)
  refine ⟨m, payload, _, hm, rfl, by rw [ht]; exact List.mem_cons_of_mem _ (List.mem_singleton.mpr rfl), ?_⟩
  have hl := marshal_length_late (p := payload.drop m.maxDataSize) (by rw [List.length_drop]; omega)
  have hq : (2 ^ 63 - 1 + 1) % 2 ^ 64 = 2 ^ 63 := by decide
  rw [hq, hl]
  decide

end Aranya.BaseManager
