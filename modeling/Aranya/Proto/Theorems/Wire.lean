import Aranya.Proto.Message

namespace Aranya

namespace Wire

variable {v n k : Nat} {tag : UInt8} {b : Bytes}

theorem encodeVarint_go_length_le (h : v < 2 ^ (7 * (k + 1))) : (encodeVarint.go n v).length ≤ k + 1 := by
  induction n generalizing v k
  case zero => simp [encodeVarint.go]
  case succ n hi =>
    simp only [encodeVarint.go]
    split
    case isTrue => simp
    case isFalse hv =>
      -- a value that needs another byte is too large for `k = 0`
      cases k
      case zero => omega
      case succ k =>
        have hd : v / 128 < 2 ^ (7 * (k + 1)) := by
          refine Nat.div_lt_of_lt_mul ?_
          rwa [show 7 * (k + 1 + 1) = 7 + 7 * (k + 1) by omega, Nat.pow_add] at h
        simpa using hi hd

theorem encodeVarint_length_le (k : Nat) (h : v < 2 ^ (7 * (k + 1))) : (encodeVarint v).length ≤ k + 1 :=
  encodeVarint_go_length_le h

theorem encodeUint_length_le (k : Nat) (h : v < 2 ^ (7 * (k + 1))) : (encodeUint tag v).length ≤ k + 2 := by
  simp only [encodeUint]
  split
  case isTrue => simp
  case isFalse => simpa using encodeVarint_length_le k h

theorem encodeBool_length_le {c : Bool} : (encodeBool tag c).length ≤ 2 := by
  cases c <;> simp [encodeBool]

theorem encodeBytes_length_le (k : Nat) (h : b.length < 2 ^ (7 * (k + 1))) :
    (encodeBytes tag b).length ≤ k + 2 + b.length := by
  simp only [encodeBytes]
  split
  case isTrue => simp
  case isFalse =>
    have := encodeVarint_length_le k h
    simp only [List.cons_append, List.length_cons, List.length_append]
    omega

end Wire

open Wire

theorem CmdType.toNat_lt {kind : CmdType} : kind.toNat < 2 ^ 7 := by
  cases kind <;> decide

theorem emptyCmdSize_eq : emptyCmdSize = 30 := by
  decide

-- The other fields leave enough room for the tag and the size of the payload.
theorem Cmd.marshal_length_le {cmd : Cmd} (hs : cmd.sid < 2 ^ 63) (hq : cmd.seq < 2 ^ 63)
    (hp : cmd.payload.length < 2 ^ 35) : cmd.marshal.length ≤ cmd.payload.length + emptyCmdSize := by
  have h₁ : (encodeUint 0x08 cmd.kind.toNat).length ≤ 2 := encodeUint_length_le 0 CmdType.toNat_lt
  have h₂ : (encodeUint 0x10 cmd.sid).length ≤ 10 := encodeUint_length_le 8 hs
  have h₃ : (encodeUint 0x18 cmd.seq).length ≤ 10 := encodeUint_length_le 8 hq
  have h₄ : (encodeBool 0x20 cmd.complete).length ≤ 2 := encodeBool_length_le
  have h₅ : (encodeBytes 0x5a cmd.payload).length ≤ 6 + cmd.payload.length := encodeBytes_length_le 4 hp
  rw [emptyCmdSize_eq]
  simp only [marshal, List.length_append]
  omega

namespace Wire

variable {v n s u num : Nat} {tag : UInt8} {b l : Bytes} {schema : Nat → Option Kind}
    {kind : Kind}

theorem decodeVarint_go_toUInt8 (h : v < 128) (hu : u + v * 2 ^ s < 2 ^ 64) :
    decodeVarint.go (n + 1) s u (v.toUInt8 :: l) = some (u + v * 2 ^ s, l) := by
  have hb : v.toUInt8.toNat = v := by simp; omega
  have hl : v.toUInt8 < 128 := by simpa [UInt8.lt_iff_toNat_lt, hb] using h
  rw [decodeVarint.go, if_pos hl, hb, Nat.mod_eq_of_lt h, Nat.mod_eq_of_lt hu]

-- The last `n + 1` bytes of a number below `2 ^ 64` have `7 * n + 1` bits.
theorem read_encodeVarint {f : Nat → Nat → Nat → Bytes → Option (Nat × Bytes)}
    (hl : ∀ {n v s u}, v < 128 → v < 2 ^ (7 * n + 1) → u + v * 2 ^ s < 2 ^ 64 →
      f (n + 1) s u (v.toUInt8 :: l) = some (u + v * 2 ^ s, l))
    (hc : ∀ {n v s u l}, v < 128 → u + v * 2 ^ s < 2 ^ 64 →
      f (n + 1) s u ((v + 128).toUInt8 :: l) = f n (s + 7) (u + v * 2 ^ s) l)
    (h : v < 2 ^ (7 * n + 1)) (hu : u + v * 2 ^ s < 2 ^ 64) :
    f (n + 1) s u (encodeVarint.go n v ++ l) = some (u + v * 2 ^ s, l) := by
  induction n generalizing v s u
  case zero => exact hl (by omega) h hu
  case succ n hi =>
    simp only [encodeVarint.go]
    split
    case isTrue hv => exact hl hv h hu
    case isFalse hv =>
      have hd : v / 128 < 2 ^ (7 * n + 1) := by
        refine Nat.div_lt_of_lt_mul ?_
        rwa [show 7 * (n + 1) + 1 = 7 + (7 * n + 1) by omega, Nat.pow_add] at h
      have he : v % 128 * 2 ^ s + v / 128 * 2 ^ (s + 7) = v * 2 ^ s := by
        rw [Nat.pow_add, Nat.mul_comm (2 ^ s), ← Nat.mul_assoc, ← Nat.add_mul, Nat.mod_add_div']
      rw [← he, ← Nat.add_assoc] at hu ⊢
      rw [List.cons_append, hc (Nat.mod_lt v (by decide)) (Nat.lt_of_le_of_lt (Nat.le_add_right ..) hu)]
      exact hi hd hu

theorem toNat_continued (h : v < 128) : (v + 128).toUInt8.toNat = v + 128 ∧ ¬(v + 128).toUInt8 < 128 := by
  have hb : (v + 128).toUInt8.toNat = v + 128 := by simp; omega
  exact ⟨hb, by rw [UInt8.lt_iff_toNat_lt, hb]; simp⟩

theorem decodeVarint_go_continued (h : v < 128) (hu : u + v * 2 ^ s < 2 ^ 64) :
    decodeVarint.go (n + 1) s u ((v + 128).toUInt8 :: l) = decodeVarint.go n (s + 7) (u + v * 2 ^ s) l := by
  obtain ⟨hb, hl⟩ := toNat_continued h
  rw [decodeVarint.go, if_neg hl, hb, Nat.add_mod_right, Nat.mod_eq_of_lt h, Nat.mod_eq_of_lt hu]

theorem decodeVarint_encodeVarint (h : v < 2 ^ 64) : decodeVarint (encodeVarint v ++ l) = some (v, l) := by
  have := read_encodeVarint (n := 9) (s := 0) (u := 0) (l := l) (fun h _ => decodeVarint_go_toUInt8 h)
    decodeVarint_go_continued h (by simpa using h)
  simpa [decodeVarint, encodeVarint] using this

namespace Kind

def wire : Kind → Nat
  | uint => 0
  | bytes => 2

def decode (kind : Kind) (l : Bytes) : Option (Value × Bytes) :=
  match kind with
  | uint => (decodeVarint l).map fun (v, l) => (.uint v, l)
  | bytes => (decodeBytes l).map fun (b, l) => (.bytes b, l)

end Kind

-- The tag of a known field is a single byte.
abbrev Field (schema : Nat → Option Kind) (tag : UInt8) (num : Nat) (kind : Kind) : Prop :=
  tag.toNat = 8 * num + kind.wire ∧ 0 < num ∧ num < 16 ∧ schema num = some kind

theorem decode_go_field (h : Field schema tag num kind) :
    decode.go schema (n + 1) (tag :: l) =
    (kind.decode l).bind fun (v, l) => (decode.go schema n l).map ((num, v) :: ·) := by
  obtain ⟨ht, hn, hu, hs⟩ := h
  have hw : kind.wire = 0 ∨ kind.wire = 2 := by cases kind <;> simp [Kind.wire]
  have hv : decodeVarint (tag :: l) = some (tag.toNat, l) := by
    have := decodeVarint_go_toUInt8 (n := 9) (s := 0) (u := 0) (v := tag.toNat) (l := l) (by omega) (by simp; omega)
    simpa [decodeVarint] using this
  have hd : tag.toNat / 8 % 2 ^ 32 = num := by omega
  have hm : tag.toNat % 8 = kind.wire := by omega
  have hg : ¬(kind.wire = 4 ∨ num = 0 ∨ 2 ^ 31 ≤ num) := by omega
  simp only [decode.go, hv, Option.bind_eq_bind, Option.bind_some, hd, hm, if_neg hg, hs]
  cases kind <;> simp only [Kind.wire, Kind.decode, Option.map_eq_bind, Option.bind_assoc] <;> rfl

theorem encodeBool_eq {c : Bool} : encodeBool tag c = encodeUint tag c.toNat := by
  cases c <;> rfl

variable {α : Type} {set : α → Nat × Value → α} {m m' : α}

-- What is decoded from the data is stored in `m`.
def Decodes (schema : Nat → Option Kind) (set : α → Nat × Value → α) (m : α) (dAtA : Bytes) (m' : α) : Prop :=
  ∀ n, dAtA.length < n → (decode.go schema n dAtA).map (List.foldl set m) = some m'

namespace Decodes

theorem nil (h : m = m') : Decodes schema set m [] m' := by
  intro n hl
  cases n <;> simp [decode.go, h] at hl ⊢

theorem field {val : Value} (ht : Field schema tag num kind) (hk : kind.decode b = some (val, l))
    (hl : l.length ≤ b.length) (h : Decodes schema set (set m (num, val)) l m') :
    Decodes schema set m (tag :: b) m' := by
  intro n hn
  cases n
  case zero => cases hn
  case succ n =>
    have hd := h n (by simp at hn; omega)
    rw [decode_go_field ht, hk, Option.bind_some, Option.map_map]
    exact hd

theorem encodeUint (num : Nat) (ht : Field schema tag num .uint) (hv : v < 2 ^ 64)
    (hz : v = 0 → set m (num, .uint v) = m) (h : Decodes schema set (set m (num, .uint v)) l m') :
    Decodes schema set m (encodeUint tag v ++ l) m' := by
  rw [Wire.encodeUint]
  split
  case isTrue hv => rwa [hz hv] at h
  case isFalse => exact field ht (by simp [Kind.decode, decodeVarint_encodeVarint hv]) (by simp) h

theorem encodeBytes (num : Nat) (ht : Field schema tag num .bytes) (hb : b.length < 2 ^ 64)
    (hz : b = [] → set m (num, .bytes b) = m) (h : Decodes schema set (set m (num, .bytes b)) l m') :
    Decodes schema set m (encodeBytes tag b ++ l) m' := by
  rw [Wire.encodeBytes]
  split
  case isTrue hb => rwa [hz hb] at h
  case isFalse =>
    exact field ht (by simp [Kind.decode, decodeBytes, decodeVarint_encodeVarint hb]) (by simp; omega) h

theorem decode (h : Decodes schema set m l m') : (decode schema l).map (List.foldl set m) = some m' :=
  h _ (Nat.lt_succ_self _)

end Decodes

end Wire

-- Numbers have at most 64 bits, and those of the kinds 32.
theorem mod_enum {n : Nat} (h : n < 2 ^ 31) : n % 2 ^ 32 = n := by
  omega

structure Msg.Valid (m : Msg) : Prop where
  kind : MsgType.ofNat m.kind.toNat = m.kind ∧ m.kind.toNat < 2 ^ 31
  sid : m.sid < 2 ^ 64
  seq : m.seq < 2 ^ 64
  payload : m.payload.length < 2 ^ 64

theorem Msg.Valid.decodes {m : Msg} (h : m.Valid) :
    Decodes schema unmarshal.set ⟨.data, 0, 0, false, []⟩ m.marshal m := by
  rw [marshal, encodeBool_eq, ← List.append_nil (encodeBytes ..)]
  simp only [List.append_assoc]
  refine .encodeUint 1 (by decide) (Nat.lt_trans h.kind.right (by decide)) (fun h => by rw [h]; rfl) ?_
  refine .encodeUint 2 (by decide) h.sid (fun h => by rw [h]; rfl) ?_
  refine .encodeUint 3 (by decide) h.seq (fun h => by rw [h]; rfl) ?_
  refine .encodeUint 4 (by decide) (Nat.lt_of_le_of_lt (Bool.toNat_le _) (by decide)) (fun h => by rw [h]; rfl) ?_
  refine .encodeBytes 11 (by decide) h.payload (fun h => by rw [h]; rfl) (.nil ?_)
  have hk : MsgType.ofNat (m.kind.toNat % 2 ^ 32) = m.kind := by rw [mod_enum h.kind.right, h.kind.left]
  cases hc : m.complete <;> exact Msg.ext hk rfl rfl hc.symm rfl

structure StateMsg.Valid (s : StateMsg) : Prop where
  kind : Kind.ofNat s.kind.toNat = s.kind ∧ s.kind.toNat < 2 ^ 31
  deviceId : s.deviceId.length < 2 ^ 64

theorem StateMsg.Valid.decodes {s : StateMsg} (h : s.Valid) :
    Decodes schema unmarshal.set ⟨.other 0, []⟩ s.marshal s := by
  rw [marshal, ← List.append_nil (encodeBytes ..)]
  refine .encodeUint 1 (by decide) (Nat.lt_trans h.kind.right (by decide)) (fun h => by rw [h]; rfl) ?_
  refine .encodeBytes 2 (by decide) h.deviceId (fun h => by rw [h]; rfl) (.nil ?_)
  rw [unmarshal.set, unmarshal.set, mod_enum h.kind.right, h.kind.left]

structure ErrorMsg.Valid (e : ErrorMsg) : Prop where
  kind : Kind.ofNat e.kind.toNat = e.kind ∧ e.kind.toNat < 2 ^ 31
  description : e.description.length < 2 ^ 64
  code : e.code < 2 ^ 64

theorem ErrorMsg.Valid.decodes {e : ErrorMsg} (h : e.Valid) :
    Decodes schema unmarshal.set ⟨.common, [], 0⟩ e.marshal e := by
  rw [marshal, ← List.append_nil (encodeUint 0x18 _)]
  simp only [List.append_assoc]
  refine .encodeUint 1 (by decide) (Nat.lt_trans h.kind.right (by decide)) (fun h => by rw [h]; rfl) ?_
  refine .encodeBytes 2 (by decide) h.description (fun h => by rw [h]; rfl) ?_
  refine .encodeUint 3 (by decide) h.code (fun h => by rw [h]; rfl) (.nil ?_)
  rw [unmarshal.set, unmarshal.set, unmarshal.set, mod_enum h.kind.right, h.kind.left]

-- A message is decoded from its encoding, so `Sync` can hand over what it has received in encoded form.
theorem messages_round_trip :
    (∀ m : Msg, m.Valid → Msg.unmarshal m.marshal = some m) ∧
    (∀ s : StateMsg, s.Valid → StateMsg.unmarshal s.marshal = some s) ∧
    ∀ e : ErrorMsg, e.Valid → ErrorMsg.unmarshal e.marshal = some e :=
  ⟨fun _ h => h.decodes.decode, fun _ h => h.decodes.decode, fun _ h => h.decodes.decode⟩

theorem messages_round_trip_online :
    StateMsg.unmarshal (StateMsg.marshal ⟨.online, [1]⟩) = some ⟨.online, [1]⟩ :=
  messages_round_trip.right.left _ ⟨by decide, by decide⟩

end Aranya
