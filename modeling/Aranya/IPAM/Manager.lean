import Aranya.IPAM.Block
import Aranya.Lib.Search
import Mathlib.Data.List.Sort

namespace Aranya.IPAM

open Net

structure IPAddressManager where
  blocks : List Block
  blockIndex : Nat

namespace IPAddressManager

def new : IPAddressManager where
  blocks := []
  blockIndex := 0

-- The blocks start at different addresses, so the order is the same with every sorting algorithm.
def addAddressBlock (net : Texts) (m : IPAddressManager) (cidr start stop : Bytes) :
    IPAddressManager × Option Bytes :=
  match newBlock net cidr start stop with
  | .error e => (m, some (str "invalid address block: " ++ e))
  | .ok b =>
    if m.blocks.any (·.overlapped b) then
      (m, some (str "block overlapped with existing blocks"))
    else
      ({ m with blocks := (m.blocks ++ [b]).insertionSort fun b₁ b₂ => b₁.startInt ≤ b₂.startInt }, none)

def allocateAt (m : IPAddressManager) (i : Nat) (ipReq : Option Bytes) :
    Except Fault (IPAddressManager × Except Bytes IPNet) :=
  match m.blocks[i]? with
  | none => .error .indexOutOfRange
  | some b => do
    let (b, ret) ← b.allocate ipReq
    return ({ m with blocks := m.blocks.set i b }, ret)

def allocateNext : Nat → IPAddressManager → Except Fault (IPAddressManager × Except Bytes IPNet)
  | 0, m => .ok (m, .error (str "no ip address available"))
  | k + 1, m => do
    let m := { m with blockIndex := m.blockIndex + 1 }
    match ← m.allocateAt m.blockIndex none with
    | (m, .ok ret) => return (m, .ok ret)
    | (m, .error _) => allocateNext k m

def allocate (m : IPAddressManager) : Option Bytes → Except Fault (IPAddressManager × Except Bytes IPNet)
  | none => do
    match ← m.allocateAt m.blockIndex none with
    | (m, .ok ret) => return (m, .ok ret)
    | (m, .error _) => allocateNext (m.blocks.length - (m.blockIndex + 1)) m
  | some ipReq => do
    let idx := search m.blocks.length fun i => m.blocks[i]?.any (·.contains ipReq)
    match ← m.allocateAt idx (some ipReq) with
    | (m, .ok ret) => return (m, .ok ret)
    | (m, .error _) => return (m, .error (str "failed to allocate specific ip"))

def putBackFrom (m : IPAddressManager) (ip : Bytes) : Nat → List Block → Except Fault IPAddressManager
  | _, [] => .ok m
  | i, b :: bs => do
    let (b, ok) ← b.putBack ip
    let m := { m with blocks := m.blocks.set i b }
    if !ok then
      m.putBackFrom ip (i + 1) bs
    else
      return if i < m.blockIndex then { m with blockIndex := i } else m

def putBack (m : IPAddressManager) (ip : Bytes) : Except Fault IPAddressManager :=
  m.putBackFrom ip 0 m.blocks

inductive Action
  | addAddressBlock (cidr start stop : Bytes)
  | allocate (ipReq : Option Bytes)
  | putBack (ip : Bytes)

-- A call that does not return has no next state.
def step (net : Texts) (m : IPAddressManager) : Action → Option IPAddressManager
  | .addAddressBlock cidr start stop => some (m.addAddressBlock net cidr start stop).fst
  | .allocate ipReq => (m.allocate ipReq).toOption.map Prod.fst
  | .putBack ip => (m.putBack ip).toOption

end IPAddressManager
end Aranya.IPAM
