import Aranya.Net.IP
import Mathlib.Data.Finset.Basic

namespace Aranya.IPAM

open Net

inductive Fault
  | indexOutOfRange
  | nilDereference
  | endlessLoop
  deriving DecidableEq, Repr

def normFunc (bits : Nat) (ip : Bytes) : Option Bytes :=
  if bits = ipv6Bits then to16 ip else to4 ip

def setBytes (ip : Option Bytes) : Nat :=
  Octets.toNat (ip.getD [])

def intToIP (ipInt bits : Nat) : Bytes :=
  Octets.ofNat (bits / 8) ipInt

def lastIP (ip : Bytes) (bits ones : Nat) : Bytes :=
  intToIP ((2 ^ (bits - ones) - 1) ||| Octets.toNat ip) bits

-- The key set of the map `allocated`.
structure Block where
  startInt : Nat
  endInt : Nat
  mask : IPMask
  next : Option Nat
  allocated : Finset Bytes
  family : mask.bits = ipv4Bits ∨ mask.bits = ipv6Bits
  le : startInt ≤ endInt
  lt : endInt < 2 ^ mask.bits

theorem length_normFunc {bits : Nat} {ip x : Bytes} (hf : bits = ipv4Bits ∨ bits = ipv6Bits)
    (h : normFunc bits ip = some x) : x.length = bits / 8 := by
  cases hf
  case inl hf => subst hf; exact length_to4 h
  case inr hf => subst hf; exact length_to16 h

theorem setBytes_lt {bits : Nat} (hf : bits = ipv4Bits ∨ bits = ipv6Bits) (ip : Bytes) :
    setBytes (normFunc bits ip) < 2 ^ bits := by
  cases h : normFunc bits ip
  case none => simp [setBytes, Octets.toNat, Octets.ofLE]
  case some x =>
    have hl := Octets.toNat_lt x
    rw [length_normFunc hf h] at hl
    cases hf
    case inl hf => subst hf; exact hl
    case inr hf => subst hf; exact hl

section NewBlock

variable (net : Texts) (ipNet : CIDR)

def boundIP (what text : Bytes) (default : Bytes) : Except Bytes Bytes :=
  if text = [] then
    .ok default
  else
    match net.parseIP text with
    | none => .error (str "invalid " ++ what ++ str " ip " ++ net.quote text)
    | some ip =>
      if ipNet.contains ip then .ok ip
      else .error (str "invalid " ++ what ++ str " ip: out of cidr range")

-- The address of the network and the last one are not in the block, unless there are no others.
def startIntOf (startIP : Bytes) : Nat :=
  if ipNet.ones ≠ ipNet.bits ∧ equal startIP ipNet.ip then
    setBytes (normFunc ipNet.bits (inc startIP))
  else
    setBytes (normFunc ipNet.bits startIP)

def endIntOf (endIP : Bytes) : Nat :=
  if ipNet.ones ≠ ipNet.bits ∧ equal endIP (lastIP ipNet.ip ipNet.bits ipNet.ones) then
    setBytes (normFunc ipNet.bits (dec endIP))
  else
    setBytes (normFunc ipNet.bits endIP)

theorem endIntOf_lt (endIP : Bytes) : endIntOf ipNet endIP < 2 ^ ipNet.bits := by
  rw [endIntOf]
  split
  case isTrue => exact setBytes_lt ipNet.family _
  case isFalse => exact setBytes_lt ipNet.family _

def newBlock (ipCIDR start stop : Bytes) : Except Bytes Block :=
  match net.parseCIDR ipCIDR with
  | .error e => .error (str "invalid cidr: " ++ e)
  | .ok (_, ipNet) =>
    if ipNet.ones + 1 = ipNet.bits then
      .error <| str "invalid prefix length " ++ str (toString ipNet.ones) ++
        str ": no address available in this range"
    else do
      let startIP ← boundIP net ipNet (str "start") start ipNet.ip
      let endIP ← boundIP net ipNet (str "end") stop (lastIP startIP ipNet.bits ipNet.ones)
      if h : startIntOf ipNet startIP ≤ endIntOf ipNet endIP then
        return {
          startInt := startIntOf ipNet startIP
          endInt := endIntOf ipNet endIP
          mask := ⟨ipNet.ones, ipNet.bits⟩
          next := some (startIntOf ipNet startIP)
          allocated := ∅
          family := ipNet.family
          le := h
          lt := endIntOf_lt ipNet endIP }
      else
        throw (str "invalid start end pair")

end NewBlock

namespace Block

def overlapped (b another : Block) : Bool :=
  !(b.endInt < another.startInt || another.endInt < b.startInt)

def contains (b : Block) (ip : Bytes) : Bool :=
  let ipInt := setBytes (normFunc b.mask.bits ip)
  b.startInt ≤ ipInt && ipInt ≤ b.endInt

-- Looks for an address which is not allocated after the given one. There is none if the loop leaves the
-- block, and it goes on forever if it has gone through all addresses.
def findUnused (b : Block) : Nat → Bytes → Except Fault (Option Nat)
  | 0, _ => .error .endlessLoop
  | fuel + 1, nextIP =>
    let nextIP := (normFunc b.mask.bits (inc nextIP)).getD []
    if b.endInt < Octets.toNat nextIP then .ok none
    else if ipString nextIP ∈ b.allocated then b.findUnused fuel nextIP
    else .ok (some (Octets.toNat nextIP))

def moveToNextUnused (b : Block) : Except Fault (Block × Option Bytes) :=
  match b.next with
  | none => .ok (b, none)
  | some n => do
    let ret := intToIP n b.mask.bits
    let next ← b.findUnused (2 ^ b.mask.bits) ret
    return ({ b with next := next }, some ret)

def allocate (b : Block) : Option Bytes → Except Fault (Block × Except Bytes IPNet)
  | some ipReq =>
    if !b.contains ipReq then
      .ok (b, .error (str "ip request not in this block"))
    else if ipString ipReq ∈ b.allocated then
      .ok (b, .error (str "requested ip already used"))
    else
      match b.next with
      | none => .error .nilDereference
      | some n => do
        let (b, _) ← (if equal ipReq (intToIP n b.mask.bits) then b.moveToNextUnused else .ok (b, none))
        return ({ b with allocated := insert (ipString ipReq) b.allocated }, .ok ⟨ipReq, b.mask⟩)
  | none => do
    match ← b.moveToNextUnused with
    | (b, none) => return (b, .error (str "no ip available"))
    | (b, some ret) =>
      return ({ b with allocated := insert (ipString ret) b.allocated }, .ok ⟨ret, b.mask⟩)

def putBack (b : Block) (ip : Bytes) : Except Fault (Block × Bool) :=
  if !b.contains ip then
    .ok (b, false)
  else
    match normFunc b.mask.bits ip with
    | none => .ok (b, false)
    | some ip =>
      if ipString ip ∈ b.allocated then
        let b := { b with allocated := b.allocated.erase (ipString ip) }
        match b.next with
        | none => .error .nilDereference
        | some n =>
          let ipInt := Octets.toNat ip
          .ok (if ipInt < n then { b with next := some ipInt } else b, true)
      else
        .ok (b, false)

end Block
end Aranya.IPAM
