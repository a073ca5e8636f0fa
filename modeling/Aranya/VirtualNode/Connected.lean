import Aranya.Pod.Manager
import Aranya.VirtualNode.NodeStatus
import Aranya.VirtualNode.PeriodicSync

namespace Aranya.VirtualNode

variable {Q F : Type}

structure Connected (Q : Type) where
  cache : NodeCache Q
  queues : SyncQueue → GuardedQueue Bytes Int
  rejected : Option (RejectionReason × Bytes)

def offerAll (name : Bytes) (queues : SyncQueue → GuardedQueue Bytes Int) :
    List Offer → (SyncQueue → GuardedQueue Bytes Int) × Option Bytes
  | [] => (queues, none)
  | o :: os =>
    let queues := o.disabled.elim queues fun q =>
      Function.update queues q (((queues q).forbid name).remove name)
    match (queues o.queue).offerWithDelay name o.interval with
    | none => (queues, some o.failure)
    | some x => offerAll name (Function.update queues o.queue x) os

-- Whether the device supports pods, unless they could not be synchronized.
def supportPod : Option Pod.Failure → Option Bool
  | none => some true
  | some (.device e) => if e.kind = .notSupported then some false else none
  | some _ => none

section OnVirtualNodeConnected

variable (q : Kube.Quantities Q) (b : BigFloats F) (maxPods : Int) (c : SyncConfig)

-- The result for the pods of the device is given, and nothing is returned if the sync of its node halts.
def onVirtualNodeConnected (name : Bytes) (queues : SyncQueue → GuardedQueue Bytes Int) (n : NodeCache Q)
    (posted : Except Bytes (List (Kube.Instant × Node.Reply))) (podErr : Option Pod.Failure) :
    Option (Connected Q) :=
  let queues := fun i => (queues i).allow name
  let disabled queues (i : SyncQueue) := ((queues i).forbid name).remove name
  let s := syncDeviceNodeStatus q b maxPods n .all posted
  match s.err with
  | some (.halt _) => none
  | some _ =>
    some ⟨s.cache, disabled queues, some (.initialCheckFailure, str "failed to pass initial node sync")⟩
  | none =>
    match supportPod podErr with
    | none =>
      some ⟨s.cache, disabled queues, some (.initialCheckFailure, str "failed to pass initial pod sync")⟩
    | some p =>
      match offerAll name queues (PeriodicSync.offers c name p) with
      | (queues, some failure) => some ⟨s.cache, disabled queues, some (.internalServerError, failure)⟩
      | (queues, none) => some ⟨s.cache, queues, none⟩

end OnVirtualNodeConnected
end Aranya.VirtualNode
