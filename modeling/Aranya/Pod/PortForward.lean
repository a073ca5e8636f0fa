import Aranya.Proto.Wire

namespace Aranya.Pod

-- `binary.ReadUvarint`: a number has at most ten bytes, the last of which has room for one bit only. The
-- bits are disjoint, so they can be added.
def readUvarint (conn : Bytes) : Option (Nat × Bytes) :=
  go 10 0 0 conn
where
  go : Nat → Nat → Nat → Bytes → Option (Nat × Bytes)
    | 0, _, _, _ => none
    | _ + 1, _, _, [] => none
    | n + 1, s, x, b :: conn =>
      if b < 0x80 then
        if n = 0 ∧ 1 < b then none else some (x + b.toNat * 2 ^ s, conn)
      else
        go n (s + 7) (x + b.toNat % 128 * 2 ^ s) conn

inductive ReadEnd
  | size
  | tooLarge
  | data
  | post
  deriving DecidableEq, Repr

structure Forwarded (ρ : Type*) where
  net : ρ
  packets : List Bytes
  rest : Bytes
  ended : ReadEnd

variable {ρ : Type*} (sendData : ρ → (data : Bytes) → (ensure : Bool) → ρ × Option Bytes)

-- Here `conn` is everything that can be read. Every round takes something from it, so its length bounds the
-- number of rounds.
def forwardPackets (maxSize : Nat) (ensureSend : Bool) (r : ρ) (conn : Bytes) : Forwarded ρ :=
  go conn.length r [] conn
where
  go : Nat → ρ → List Bytes → Bytes → Forwarded ρ
    | 0, r, packets, conn => ⟨r, packets, conn, .size⟩
    | n + 1, r, packets, conn =>
      match readUvarint conn with
      | none => ⟨r, packets, conn, .size⟩
      | some (size, l) =>
        if maxSize < size then
          ⟨r, packets, conn, .tooLarge⟩
        else if l.length < size then
          ⟨r, packets, conn, .data⟩
        else
          let data := l.take size
          match sendData r data ensureSend with
          | (r, err) =>
            if err.isSome ∧ ensureSend then
              ⟨r, packets ++ [data], l.drop size, .post⟩
            else
              go n r (packets ++ [data]) (l.drop size)

end Aranya.Pod
