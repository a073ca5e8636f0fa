import Aranya.Net.IP

namespace Aranya

-- The last range of a family counts, and texts that are not ranges are ignored.
def getPodCIDRWithIPVersion (net : Net.Texts) (podCIDR : Bytes) (podCIDRs : List Bytes) : Bytes × Bytes :=
  (podCIDR :: podCIDRs).foldl (fun (ipv4, ipv6) cidr =>
    match net.parseCIDR cidr with
    | .error _ => (ipv4, ipv6)
    | .ok (ip, _) => if Net.to4 ip = none then (cidr, ipv6) else (ipv4, cidr)) ([], [])

namespace Network

structure Manager where
  podIPv4CIDRStore : Bytes
  podIPv6CIDRStore : Bytes
  deriving DecidableEq, Repr

namespace Manager

def new : Manager where
  podIPv4CIDRStore := []
  podIPv6CIDRStore := []

def getPodCIDR (m : Manager) (ipv6 : Bool) : Bytes :=
  if ipv6 then m.podIPv6CIDRStore else m.podIPv4CIDRStore

def setPodCIDRs (m : Manager) (ipv4 ipv6 : Bytes) : Manager :=
  let m := if ipv4 ≠ [] ∧ ipv4 ≠ m.getPodCIDR false then { m with podIPv4CIDRStore := ipv4 } else m
  if ipv6 ≠ [] ∧ ipv6 ≠ m.getPodCIDR true then { m with podIPv6CIDRStore := ipv6 } else m

end Manager
end Network
end Aranya
