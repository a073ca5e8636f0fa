import Mathlib.Algebra.Group.Nat.Defs
import Mathlib.Data.List.Basic

namespace Aranya

abbrev Bytes := List UInt8

instance : LawfulBEq Bytes :=
  inferInstance

-- Strings are byte sequences in the source language, and those from a device need not be valid UTF-8.
def str (s : String) : Bytes :=
  s.toList.flatMap String.utf8EncodeChar

def maxUint64 : Nat :=
  2 ^ 64 - 1

namespace Wire

-- A value below `2 ^ 64` needs at most 9 bytes with continuation bit.
def encodeVarint (v : Nat) : Bytes :=
  go 9 v
where
  go : Nat → Nat → Bytes
    | 0, v => [v.toUInt8]
    | n + 1, v => if v < 128 then [v.toUInt8] else (v % 128 + 128).toUInt8 :: go n (v / 128)

-- Fields with default value are not put on the wire.
def encodeUint (tag : UInt8) (v : Nat) : Bytes :=
  if v = 0 then [] else tag :: encodeVarint v

def encodeBool (tag : UInt8) (b : Bool) : Bytes :=
  if b then [tag, 1] else []

def encodeBytes (tag : UInt8) (b : Bytes) : Bytes :=
  if b = [] then [] else tag :: encodeVarint b.length ++ b

-- The loop over `shift` gives up after 10 bytes, and bits beyond the 64th are dropped.
def decodeVarint (dAtA : Bytes) : Option (Nat × Bytes) :=
  go 10 0 0 dAtA
where
  go : Nat → Nat → Nat → Bytes → Option (Nat × Bytes)
    | 0, _, _, _ => none
    | _ + 1, _, _, [] => none
    | n + 1, shift, v, b :: l =>
      let v := (v + b.toNat % 128 * 2 ^ shift) % 2 ^ 64
      if b < 128 then some (v, l) else go n (shift + 7) v l

def decodeBytes (dAtA : Bytes) : Option (Bytes × Bytes) :=
  match decodeVarint dAtA with
  | none => none
  | some (len, l) => if l.length < len then none else some (l.take len, l.drop len)

-- Skips one field, where a group extends to its matching end tag.
def skip (dAtA : Bytes) : Option Bytes :=
  go (dAtA.length + 1) 0 dAtA
where
  go : Nat → Nat → Bytes → Option Bytes
    | 0, _, _ => none
    | n + 1, depth, dAtA =>
      match decodeVarint dAtA with
      | none => none
      | some (wire, l) =>
        match wire % 8 with
        | 0 => next n depth <| (decodeVarint l).map Prod.snd
        | 1 => next n depth <| if l.length < 8 then none else some (l.drop 8)
        | 2 => next n depth <| (decodeBytes l).map Prod.snd
        | 3 => go n (depth + 1) l
        | 4 => if depth = 0 then none else next n (depth - 1) (some l)
        | 5 => next n depth <| if l.length < 4 then none else some (l.drop 4)
        | _ => none
  next (n depth : Nat) : Option Bytes → Option Bytes
    | none => none
    | some l => if depth = 0 then some l else go n depth l

inductive Value
  | uint (v : Nat)
  | bytes (b : Bytes)
  deriving DecidableEq, Repr

inductive Kind
  | uint
  | bytes
  deriving DecidableEq, Repr

-- The decoding loop that all generated `Unmarshal` functions share. Fields which are not in `schema` are
-- skipped, and a known field with an unexpected wire type is an error.
def decode (schema : Nat → Option Kind) (dAtA : Bytes) : Option (List (Nat × Value)) :=
  go (dAtA.length + 1) dAtA
where
  go : Nat → Bytes → Option (List (Nat × Value))
    | 0, _ => none
    | _, [] => some []
    | n + 1, dAtA => do
      let (wire, l) ← decodeVarint dAtA
      let num := wire / 8 % 2 ^ 32
      if wire % 8 = 4 ∨ num = 0 ∨ 2 ^ 31 ≤ num then
        none
      else
        match schema num, wire % 8 with
        | none, _ => go n (← skip dAtA)
        | some .uint, 0 => do
          let (v, l) ← decodeVarint l
          return (num, .uint v) :: (← go n l)
        | some .bytes, 2 => do
          let (b, l) ← decodeBytes l
          return (num, .bytes b) :: (← go n l)
        | some _, _ => none

end Wire
end Aranya
