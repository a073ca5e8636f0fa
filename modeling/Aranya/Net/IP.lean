import Aranya.Lib.Octets
import Aranya.Proto.Wire

namespace Aranya.Net

abbrev ipv4Bits : Nat :=
  32

abbrev ipv6Bits : Nat :=
  128

def v4InV6Prefix : Bytes :=
  [0, 0, 0, 0, 0, 0, 0, 0, 0, 0, 0xff, 0xff]

-- An IPv4 address can have 4 or 16 bytes, and slices of other lengths are not addresses at all.
def to4 (ip : Bytes) : Option Bytes :=
  if ip.length = 4 then some ip
  else if ip.length = 16 ∧ ip.take 12 = v4InV6Prefix then some (ip.drop 12)
  else none

def to16 (ip : Bytes) : Option Bytes :=
  if ip.length = 4 then some (v4InV6Prefix ++ ip)
  else if ip.length = 16 then some ip
  else none

theorem length_to4 {ip x : Bytes} (h : to4 ip = some x) : x.length = 4 := by
  simp only [to4] at h
  split at h
  case isTrue hl => cases h; exact hl
  case isFalse =>
    split at h
    case isTrue hl => cases h; simp [hl.left]
    case isFalse => cases h

theorem length_to16 {ip x : Bytes} (h : to16 ip = some x) : x.length = 16 := by
  simp only [to16] at h
  split at h
  case isTrue hl => cases h; simp [hl, v4InV6Prefix]
  case isFalse =>
    split at h
    case isTrue hl => cases h; exact hl
    case isFalse => cases h

def equal (ip x : Bytes) : Bool :=
  if ip.length = x.length then ip = x
  else if ip.length = 4 ∧ x.length = 16 then x.take 12 = v4InV6Prefix ∧ ip = x.drop 12
  else if ip.length = 16 ∧ x.length = 4 then ip.take 12 = v4InV6Prefix ∧ ip.drop 12 = x
  else false

-- Both forms of an IPv4 address have the same text, and a slice which is not an address is printed byte by
-- byte.
def ipString (ip : Bytes) : Bytes :=
  (to16 ip).getD ip

-- The functions of `go-cidr`, which turn every IPv4 address into its short form.
def checkIPv4 (ip : Bytes) : Bytes :=
  (to4 ip).getD ip

def inc (ip : Bytes) : Bytes :=
  Octets.inc (checkIPv4 ip)

def dec (ip : Bytes) : Bytes :=
  Octets.dec (checkIPv4 ip)

-- The networks that `ParseCIDR` returns. The mask is given by its number of leading ones.
structure CIDR where
  ip : Bytes
  ones : Nat
  bits : Nat
  family : bits = ipv4Bits ∨ bits = ipv6Bits
  length : ip.length = bits / 8
  le : ones ≤ bits
  masked : Octets.toNat ip % 2 ^ (bits - ones) = 0

-- For an IPv4 network in its long form the mask selects bits of the last four bytes.
def CIDR.contains (n : CIDR) (ip : Bytes) : Bool :=
  let nn := checkIPv4 n.ip
  let ip := checkIPv4 ip
  ip.length = nn.length &&
    Octets.toNat nn / 2 ^ (n.bits - n.ones) = Octets.toNat ip / 2 ^ (n.bits - n.ones)

structure IPMask where
  ones : Nat
  bits : Nat
  deriving DecidableEq, Repr

structure IPNet where
  ip : Bytes
  mask : IPMask
  deriving DecidableEq, Repr

-- The functions of the standard library which parse and print texts. `quote` is the verb `%q`.
structure Texts where
  parseCIDR : Bytes → Except Bytes (Bytes × CIDR)
  parseIP : Bytes → Option Bytes
  quote : Bytes → Bytes
  length_parseIP : ∀ {text ip}, parseIP text = some ip → ip.length = 16

end Aranya.Net
