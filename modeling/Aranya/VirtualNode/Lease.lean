import Aranya.Kube.Objects
import Aranya.Lib.Loop
import Aranya.Lib.Ptr

namespace Aranya.VirtualNode

-- The cache of the informer hands out the address of a lease that others hold as well.
structure LeaseOutcomes where
  getLeaseFromCache : Nat → Option Nat
  get : Nat → Except Kube.RequestError Kube.Lease
  update : Nat → Option Kube.RequestError
  now : Nat → Int

-- Whether an attempt has asked the API server for the lease, and the lease that it has sent.
structure LeaseAttempt where
  fetched : Bool
  sent : Option Kube.Lease

structure Renewal where
  leases : Nat → Kube.Lease
  err : Option Kube.RequestError
  requireLatestLease : Bool
  attempts : List LeaseAttempt

namespace Renewal

variable (o : LeaseOutcomes) (s : Renewal) (i : Nat)

def renew (fetched : Bool) (lease : Ptr Kube.Lease) : Renewal :=
  -- the copy by `DeepCopy` is known to nobody else
  let copy := Ptr.own (lease.deref s.leases)
  let obj := copy.deref s.leases
  let (leases, copy) :=
    copy.assign s.leases { obj with spec := { obj.spec with renewTime := some (o.now i) } }
  { leases
    err := o.update i
    requireLatestLease := (o.update i).elim s.requireLatestLease fun err => err = .conflict
    attempts := s.attempts ++ [⟨fetched, some (copy.deref leases)⟩] }

def attempt : Renewal :=
  match o.getLeaseFromCache i, s.requireLatestLease with
  | some addr, false => s.renew o i false (.held addr)
  | _, _ =>
    match o.get i with
    | .error err => { s with err := some err, attempts := s.attempts ++ [⟨true, none⟩] }
    | .ok lease => s.renew o i true (.own lease)

end Renewal

def updateLeaseWithRetry (o : LeaseOutcomes) (leases : Nat → Kube.Lease) : Renewal :=
  (loop (fun s i => (s.attempt o i, (s.attempt o i).err.isNone)) ⟨leases, none, false, []⟩ (.range 5)).fst

end Aranya.VirtualNode
