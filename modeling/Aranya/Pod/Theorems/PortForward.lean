import Aranya.Pod.PortForward
import Aranya.Connectivity.Manager
import Aranya.Connectivity.Theorems.StreamDelivery
import Aranya.Proto.Theorems.Wire

namespace Aranya

namespace Writer

variable {w : Writer} {data : Bytes} {ps : List Bytes}

-- All other data may be accepted in parts.
def AcceptsSizes : Writer → List Bytes → Prop
  | _, [] => True
  | w, data :: ps =>
    w.accept w.calls (Wire.encodeVarint data.length) = ((Wire.encodeVarint data.length).length, none) ∧
    AcceptsSizes (w.writePacket true data).fst ps

theorem writePacket_of_acceptsSizes (hr : w.Reliable) (h : w.AcceptsSizes (data :: ps)) :
    ∃ w', w.writePacket true data = (w', none) ∧ w.Appends w' (framed true data) ∧ w'.AcceptsSizes ps := by
  obtain ⟨hs, hp⟩ := h
  let w₁ : Writer := { w with written := w.written ++ Wire.encodeVarint data.length, calls := w.calls + 1 }
  have ha : w.Appends w₁ (Wire.encodeVarint data.length) := ⟨rfl, rfl⟩
  have hw : w.write (Wire.encodeVarint data.length) = (w₁, (Wire.encodeVarint data.length).length, none) := by
    simp [write, hs, w₁]
  obtain ⟨w₂, h₁, h₂⟩ := writeAll_go (ha.reliable hr) (Nat.le_refl data.length)
  have hq : w.writePacket true data = (w₂, none) := by
    simp only [writePacket, if_true, hw]
    exact h₁
  refine ⟨w₂, hq, ha.trans h₂, ?_⟩
  rwa [hq] at hp

end Writer

namespace Session

variable {s s' : Session} {w w' : World} {kind : MsgType} {i ret : Nat} {data : Bytes} {ps : List Bytes}

structure Framing (s : Session) (w : World) (kind : MsgType) (i ret : Nat) : Prop where
  isStream : s.isStream = true
  prependSize : s.prependSize = true
  target : s.target kind = some (.out i)
  streamReady : s.streamReady = some ret
  canWrite : ∀ g, s.canWrite = some g → w.canWrite g = true
  reliable : (w.writers i).Reliable
  ready : (w.signals.chan ret).closed = s._streamReady

def writePackets (kind : MsgType) : Session → World → List Bytes → Except Fault (Session × World × Option Bytes)
  | s, w, [] => .ok (s, w, none)
  | s, w, data :: ps =>
    match s.writeToStream w kind data with
    | .ok (s, w, none) => writePackets kind s w ps
    | r => r

theorem Framing.writeToStream (h : s.Framing w kind i ret) (ha : (w.writers i).AcceptsSizes (data :: ps)) :
    ∃ s' w', s.writeToStream w kind data = .ok (s', w', none) ∧ s'.Framing w' kind i ret ∧
      (w.writers i).Appends (w'.writers i) (framed true data) ∧ (w'.writers i).AcceptsSizes ps := by
  obtain ⟨w₁, h₁, h₂, h₃, -, h₄⟩ := notifyReady_of_ready h.streamReady h.ready
  obtain ⟨x, h₅, h₆, h₇⟩ := Writer.writePacket_of_acceptsSizes h.reliable ha
  let t : Session := { s with _streamReady := true }
  let w₂ : World := { w₁ with writers := Function.update w₁.writers i x }
  have ht : t.writeTarget w₁ kind data = .ok (t, w₂, none) := by
    have hk : t.target kind = some (.out i) := h.target
    have hp : t.prependSize = true := h.prependSize
    simp [Session.writeTarget, hk, hp, World.write, h₃, h₅, w₂]
  refine ⟨t, w₂, ?_, ?_, ?_, ?_⟩
  case refine_1 =>
    rw [Session.writeToStream, if_neg (by simp [h.isStream]), h₁]
    dsimp only
    split
    case h_1 => exact ht
    case h_2 g hg => rw [if_pos (h₄ ▸ h.canWrite g hg)]; exact ht
  case refine_2 =>
    exact { h with
      canWrite := fun g hg => h₄ ▸ h.canWrite g hg
      reliable := by simpa [w₂] using h₆.reliable h.reliable
      ready := h₂ }
  case refine_3 => simpa [w₂] using h₆
  case refine_4 => simpa [w₂] using h₇

theorem Framing.writePackets (h : s.Framing w kind i ret) (ha : (w.writers i).AcceptsSizes ps) :
    ∃ s' w', s.writePackets kind w ps = .ok (s', w', none) ∧
      (w.writers i).Appends (w'.writers i) (ps.flatMap (framed true)) := by
  induction ps generalizing s w
  case nil => exact ⟨s, w, rfl, .refl⟩
  case cons data ps hi =>
    obtain ⟨s₁, w₁, h₁, h₂, h₃, h₄⟩ := h.writeToStream ha
    obtain ⟨s₂, w₂, h₅, h₆⟩ := hi h₂ h₄
    refine ⟨s₂, w₂, ?_, h₃.trans h₆⟩
    simp only [Session.writePackets, h₁]
    exact h₅

end Session

namespace Pod

variable {ρ : Type*} {sendData : ρ → Bytes → Bool → ρ × Option Bytes} {r : ρ} {maxSize n v s x : Nat}
    {ensureSend : Bool} {l data : Bytes} {ps packets : List Bytes}

theorem readUvarint_encodeVarint (h : v < 2 ^ 64) : readUvarint (Wire.encodeVarint v ++ l) = some (v, l) := by
  have := Wire.read_encodeVarint (f := readUvarint.go) (n := 9) (s := 0) (u := 0) (l := l) ?last ?next h
    (by simpa using h)
  case last =>
    intro n v s u hv hn _
    have hb : v.toUInt8.toNat = v := by simp; omega
    have hl : v.toUInt8 < 0x80 := by simpa [UInt8.lt_iff_toNat_lt, hb] using hv
    have hm : ¬(n = 0 ∧ 1 < v.toUInt8) := by
      rintro ⟨rfl, h₁⟩
      rw [UInt8.lt_iff_toNat_lt, hb] at h₁
      simp at h₁
      omega
    rw [readUvarint.go, if_pos hl, if_neg hm, hb]
  case next =>
    intro n v s u l hv _
    obtain ⟨hb, hl⟩ := Wire.toNat_continued hv
    rw [readUvarint.go, if_neg hl, hb, Nat.add_mod_right, Nat.mod_eq_of_lt hv]
  simpa [readUvarint, Wire.encodeVarint] using this

theorem length_flatMap_framed : ps.length ≤ (ps.flatMap (framed true)).length := by
  induction ps
  case nil => simp
  case cons data ps hi =>
    have := length_lt_framed data
    simp only [List.flatMap_cons, List.length_append, List.length_cons]
    omega

theorem forwardPackets_go_framed (hs : data.length ≤ maxSize) (hm : maxSize < 2 ^ 64) :
    forwardPackets.go sendData maxSize ensureSend (n + 1) r packets (framed true data ++ l) =
    if (sendData r data ensureSend).snd.isSome ∧ ensureSend then
      ⟨(sendData r data ensureSend).fst, packets ++ [data], l, .post⟩
    else
      forwardPackets.go sendData maxSize ensureSend n (sendData r data ensureSend).fst (packets ++ [data]) l := by
  have hr : readUvarint (framed true data ++ l) = some (data.length, data ++ l) := by
    simp only [framed, if_true, List.append_assoc]
    exact readUvarint_encodeVarint (by omega)
  simp [forwardPackets.go, hr, Nat.not_lt.mpr hs]

def Takes (sendData : ρ → Bytes → Bool → ρ × Option Bytes) (ensureSend : Bool) (packets ps : List Bytes)
    (x : Forwarded ρ) : Prop :=
  ∃ k, x.packets = packets ++ ps.take k ∧ x.rest = (ps.drop k).flatMap (framed true) ∧
    (k < ps.length → ensureSend = true ∧ ∃ r data, (sendData r data true).snd.isSome)

theorem Takes.cons {x : Forwarded ρ} (h : Takes sendData ensureSend (packets ++ [data]) ps x) :
    Takes sendData ensureSend packets (data :: ps) x := by
  obtain ⟨k, h₁, h₂, h₃⟩ := h
  exact ⟨k + 1, by simp [h₁], by simp [h₂], fun hk => h₃ (by simpa using hk)⟩

theorem forwardPackets_go_takes (hs : ∀ data ∈ ps, data.length ≤ maxSize) (hm : maxSize < 2 ^ 64)
    (hn : ps.length ≤ n) :
    Takes sendData ensureSend packets ps
      (forwardPackets.go sendData maxSize ensureSend n r packets (ps.flatMap (framed true))) := by
  induction ps generalizing r packets n
  case nil =>
    refine ⟨0, ?_⟩
    cases n <;> simp [forwardPackets.go, readUvarint, readUvarint.go]
  case cons data ps hi =>
    obtain ⟨hd, hs⟩ := List.forall_mem_cons.mp hs
    cases n
    case zero => simp at hn
    case succ n =>
      rw [List.flatMap_cons, forwardPackets_go_framed hd hm]
      split
      case isTrue he => exact ⟨1, rfl, rfl, fun _ => ⟨he.right, r, data, he.right ▸ he.left⟩⟩
      case isFalse => exact .cons <| hi hs (by simpa using hn)

-- The loop takes the packets as they have been written, as long as it is able to send them where it has to.
theorem forwardPackets_writePackets {τ : Type*} {m : BaseManager τ} {t : Session} {w : World} {kind : MsgType}
    {i ret : Nat} (hf : t.Framing w kind i ret) (ha : (w.writers i).AcceptsSizes ps)
    (hp : ∀ data ∈ ps, data.length ≤ m.maxDataSize) (hm : m.maxDataSize < 2 ^ 63) :
    ∃ t' w' conn, t.writePackets kind w ps = .ok (t', w', none) ∧
      (w'.writers i).written = (w.writers i).written ++ conn ∧
      (forwardPackets sendData m.maxDataSize ensureSend r conn).packets <+: ps ∧
      ((ensureSend = true → ∀ r data, (sendData r data true).snd = none) →
        (forwardPackets sendData m.maxDataSize ensureSend r conn).packets = ps ∧
        (forwardPackets sendData m.maxDataSize ensureSend r conn).rest = []) := by
  obtain ⟨t', w', h₁, h₂⟩ := hf.writePackets ha
  refine ⟨t', w', _, h₁, h₂.written, ?_⟩
  obtain ⟨k, h₃, h₄, h₅⟩ : Takes sendData ensureSend [] ps
      (forwardPackets sendData m.maxDataSize ensureSend r (ps.flatMap (framed true))) :=
    forwardPackets_go_takes hp (by omega) length_flatMap_framed
  rw [List.nil_append] at h₃
  refine ⟨h₃ ▸ List.take_prefix k ps, fun hs => ?_⟩
  have hk : ps.length ≤ k := by
    refine Nat.not_lt.mp fun hk => ?_
    obtain ⟨he, r, data, hd⟩ := h₅ hk
    simp [hs he r data] at hd
  exact ⟨h₃.trans <| List.take_of_length_le hk, by simp [h₄, List.drop_of_length_le hk]⟩

def bytewise : Writer where
  written := []
  calls := 0
  accept _ p := (min 1 p.length, none)
  bounded _ p := Nat.min_le_right 1 p.length
  progress _ _ h := fun _ => Nat.lt_min.mpr ⟨Nat.one_pos, List.length_pos_of_ne_nil h⟩

def packetSession : Session :=
  { Session.new 0 0 true true with dataOut := some (.out 0), errOut := some (.out 0), streamReady := some 0 }

theorem forwardPackets_writePackets_bytewise :
    let m : BaseManager Unit := .initial (.new 0 .empty ()) 2 (by decide)
    let w : World := { World.empty with writers := fun _ => bytewise }
    let ps : List Bytes := [[10], [], [11, 12]]
    let sendData (r : Unit) (_ : Bytes) (_ : Bool) : Unit × Option Bytes := (r, none)
    ∃ t' w' conn, packetSession.writePackets .data w ps = .ok (t', w', none) ∧
      (w'.writers 0).written = (w.writers 0).written ++ conn ∧
      (forwardPackets sendData m.maxDataSize true () conn).packets = ps ∧
      (forwardPackets sendData m.maxDataSize true () conn).rest = [] := by
  intro m w ps sendData
  have hf : packetSession.Framing w .data 0 0 :=
    ⟨rfl, rfl, rfl, rfl, by simp [packetSession, Session.new], fun _ _ => rfl, rfl⟩
  have ha : (w.writers 0).AcceptsSizes ps := ⟨rfl, rfl, rfl, trivial⟩
  obtain ⟨t', w', conn, h₁, h₂, -, h₃⟩ :=
    forwardPackets_writePackets (m := m) (r := ()) hf ha (by decide) (by decide)
  exact ⟨t', w', conn, h₁, h₂, h₃ fun _ _ _ => rfl⟩

end Pod
end Aranya
