import Aranya.Connectivity.GRPC
import Aranya.VirtualNode.Manager
import Aranya.VirtualNode.RemoteActions

namespace Aranya.VirtualNode

-- The intervals are those of the manager and of each virtual node.
structure SyncConfig where
  leaseEnabled : Bool
  nodeUpdateInterval : Int
  leaseUpdateInterval : Int
  nodeForceSyncInterval : Bytes → Int
  podForceSyncInterval : Bytes → Int

structure Offer where
  queue : SyncQueue
  interval : Int
  disabled : Option SyncQueue
  failure : Bytes
  deriving DecidableEq, Repr

inductive OnlineCheck
  | idle
  | node (deviceId : Bytes)
  | pods (deviceId : Bytes)
  | offering (deviceId : Bytes) (offers : List Offer)
  | failed
  deriving DecidableEq, Repr

inductive Server
  | waiting
  | scheduling
  | serving (disconnected : Nat)
  | returned
  deriving DecidableEq, Repr

-- The devices of the connectivity manager change `net`. The flag `settled` is not part of the program: the
-- node has been added or disconnected, and no device has come online since.
structure SyncNode (τ ρ : Type*) where
  base : BaseManager τ
  net : ρ
  check : OnlineCheck
  server : Server
  settled : Bool

-- Updates which have expired are handed over to a consumer, which starts to synchronize the node.
structure PeriodicSync (τ ρ : Type*) where
  queues : SyncQueue → GuardedQueue Bytes Int
  expired : SyncQueue → List (Bytes × Int)
  syncing : SyncQueue → List (Bytes × Int)
  nodes : Bytes → Option (SyncNode τ ρ)

namespace PeriodicSync

variable {τ ρ : Type*} (c : SyncConfig)

def new : PeriodicSync τ ρ where
  queues _ := .new
  expired _ := []
  syncing _ := []
  nodes _ := none

def setNode (s : PeriodicSync τ ρ) (name : Bytes) (n : SyncNode τ ρ) : PeriodicSync τ ρ :=
  { s with nodes := Function.update s.nodes name (some n) }

def setQueue (s : PeriodicSync τ ρ) (q : SyncQueue) (x : GuardedQueue Bytes Int) : PeriodicSync τ ρ :=
  { s with queues := Function.update s.queues q x }

def disable (s : PeriodicSync τ ρ) (name : Bytes) (q : SyncQueue) : PeriodicSync τ ρ :=
  s.setQueue q (((s.queues q).forbid name).remove name)

def doPerQueue (s : PeriodicSync τ ρ) (act : GuardedQueue Bytes Int → GuardedQueue Bytes Int) :
    PeriodicSync τ ρ :=
  { s with queues := fun q => act (s.queues q) }

def disableAll (s : PeriodicSync τ ρ) (name : Bytes) : PeriodicSync τ ρ :=
  s.doPerQueue fun q => (q.forbid name).remove name

def onVirtualNodeDisconnected (s : PeriodicSync τ ρ) (name : Bytes) (n : SyncNode τ ρ) : PeriodicSync τ ρ :=
  (s.disableAll name).setNode name { n with settled := true }

-- Those of the pods are only needed if the device supports them.
def offers (name : Bytes) (supportPod : Bool) : List Offer :=
  (if 0 < c.nodeForceSyncInterval name then
    [⟨.nodeForceSync, c.nodeForceSyncInterval name, none, str "force pod sync schedule failure"⟩]
  else
    []) ++
  (if 0 < c.podForceSyncInterval name ∧ supportPod then
    [⟨.podForceSync, c.podForceSyncInterval name, none, str "force pod sync schedule failure"⟩]
  else
    []) ++
  [if c.leaseEnabled then
    ⟨.leaseUpdate, c.leaseUpdateInterval, some .mirrorUpdate, str "lease update failure"⟩
  else
    ⟨.mirrorUpdate, c.nodeUpdateInterval, some .leaseUpdate, str "mirror node sync failure"⟩]

def nextInterval (q : SyncQueue) (interval : Int) : Int :=
  match q with
  | .nodeForceSync | .podForceSync => interval
  | .mirrorUpdate => c.nodeUpdateInterval
  | .leaseUpdate => c.leaseUpdateInterval

def consumed : SyncQueue → Bool
  | .nodeForceSync | .podForceSync => true
  | .mirrorUpdate => !c.leaseEnabled
  | .leaseUpdate => c.leaseEnabled

-- Why a failed update leads to the rejection of the device.
def syncFailure (q : SyncQueue) (err : Bytes) : Bytes :=
  match q with
  | .leaseUpdate => str "lease update failure"
  | _ => err

end PeriodicSync

namespace SyncNode

variable {τ ρ : Type*} (reject : RejectionReason → (message : Bytes) → ρ → ρ)

def rejected (n : SyncNode τ ρ) (reason : RejectionReason) (message : Bytes) : SyncNode τ ρ :=
  let (base, net) := n.base.onReject (reject reason message) n.net
  { n with base := base, net := net }

def fail (n : SyncNode τ ρ) (reason : RejectionReason) (message : Bytes) : SyncNode τ ρ :=
  { n.rejected reject reason message with check := .failed }

def connected (n : SyncNode τ ρ) : Bool :=
  (n.base.signals.chan n.base.connected).closed

end SyncNode

namespace PeriodicSync

variable {τ ρ : Type*} (f : TimedSessionFuncs τ)
    (sendData : ρ → (data : Bytes) → (ensure : Bool) → ρ × Option Bytes)
    (reject : RejectionReason → (message : Bytes) → ρ → ρ) (c : SyncConfig)

-- One of the updates is scheduled, unless the node is not allowed (any more).
def offer (s : PeriodicSync τ ρ) (name : Bytes) (n : SyncNode τ ρ) (deviceId : Bytes) (o : Offer)
    (os : List Offer) : PeriodicSync τ ρ :=
  let s := o.disabled.elim s (s.disable name)
  match (s.queues o.queue).offerWithDelay name o.interval with
  | none => s.setNode name (n.fail reject .internalServerError o.failure)
  | some x => (s.setQueue o.queue x).setNode name { n with check := .offering deviceId os }

def take (s : PeriodicSync τ ρ) (q : SyncQueue) (x : Bytes × Int) (xs : List (Bytes × Int)) :
    PeriodicSync τ ρ :=
  let s := { s with expired := Function.update s.expired q xs }
  match s.nodes x.fst with
  | none => s
  | some n =>
    if n.connected then { s with syncing := Function.update s.syncing q (x :: s.syncing q) } else s

def synced (s : PeriodicSync τ ρ) (q : SyncQueue) (x : Bytes × Int) (xs : List (Bytes × Int))
    (err : Option Bytes) : PeriodicSync τ ρ :=
  let s := { s with syncing := Function.update s.syncing q xs }
  match err with
  | some err =>
    match s.nodes x.fst with
    | none => s
    | some n => s.setNode x.fst (n.rejected reject .internalServerError (syncFailure q err))
  | none =>
    match (s.queues q).offerWithDelay x.fst (nextInterval c q x.snd) with
    | none => s
    | some y => s.setQueue q y

inductive NodeAction
  | online (deviceId : Bytes)
  | nodeSynced (ok : Bool)
  | podsSynced (supportPod : Option Bool)
  | offer
  | initialized
  | abort
  | offline (deviceId : Bytes) (now : Nat)
  | connected
  | scheduled (ok : Bool)
  | disconnected
  | quit
  | other (call : BaseManager.Call)

def nodeStep (s : PeriodicSync τ ρ) (name : Bytes) (n : SyncNode τ ρ) :
    NodeAction → Option (PeriodicSync τ ρ)
  | .online deviceId =>
    if n.check = .idle then
      some <| (s.doPerQueue (·.allow name)).setNode name
        { n with check := .node deviceId, settled := false }
    else
      none
  | .nodeSynced ok =>
    match n.check with
    | .node deviceId =>
      some <| s.setNode name <|
        if ok then { n with check := .pods deviceId }
        else n.fail reject .initialCheckFailure (str "failed to pass initial node sync")
    | _ => none
  | .podsSynced supportPod =>
    match n.check with
    | .pods deviceId =>
      some <| s.setNode name <|
        match supportPod with
        | some b => { n with check := .offering deviceId (offers c name b) }
        | none => n.fail reject .initialCheckFailure (str "failed to pass initial pod sync")
    | _ => none
  | .offer =>
    match n.check with
    | .offering deviceId (o :: os) => some (s.offer reject name n deviceId o os)
    | _ => none
  | .initialized =>
    match n.check with
    | .offering deviceId [] =>
      some <| s.setNode name
        { n with base := n.base.onConnected (initializedId true deviceId), check := .idle }
    | _ => none
  | .abort =>
    if n.check = .failed then some (s.onVirtualNodeDisconnected name { n with check := .idle })
    else none
  | .offline deviceId now =>
    if n.check = .idle then
      let (base, net) := n.base.onDisconnected f (fun r => (r, deviceId, false)) now n.net
      some <| s.setNode name { n with base := base, net := net }
    else
      none
  | .connected =>
    if n.server = .waiting ∧ n.connected then some (s.setNode name { n with server := .scheduling })
    else none
  | .scheduled ok =>
    if n.server = .scheduling then
      let n := if ok then n
        else n.rejected reject .internalServerError (str "mirror node sync failure")
      some <| s.setNode name { n with server := .serving n.base.disconnected }
    else
      none
  | .disconnected =>
    match n.server with
    | .serving ch =>
      if (n.base.signals.chan ch).closed then
        some (s.onVirtualNodeDisconnected name { n with server := .waiting })
      else
        none
    | _ => none
  | .quit =>
    match n.server with
    | .waiting => some (s.setNode name { n with server := .returned })
    | .serving _ => some (s.onVirtualNodeDisconnected name { n with server := .returned })
    | _ => none
  | .other call =>
    (BaseManager.step f sendData (n.base, n.net) call).map fun (base, net) =>
      s.setNode name { n with base := base, net := net }

inductive Action (τ ρ : Type*)
  | add (name : Bytes) (base : BaseManager τ) (net : ρ)
  | node (name : Bytes) (a : NodeAction)
  | expire (q : SyncQueue) (k : Nat)
  | take (q : SyncQueue)
  | synced (q : SyncQueue) (k : Nat) (err : Option Bytes)

def step (s : PeriodicSync τ ρ) : Action τ ρ → Option (PeriodicSync τ ρ)
  | .add name base net =>
    if (s.nodes name).isSome then
      none
    else
      some <| (s.disableAll name).setNode name
        { base := base, net := net, check := .idle, server := .waiting, settled := true }
  | .node name a =>
    match s.nodes name with
    | none => none
    | some n => s.nodeStep f sendData reject c name n a
  | .expire q k =>
    (s.queues q).expire k |>.map fun (key, val, x) =>
      { s with
        queues := Function.update s.queues q { s.queues q with toTimeoutQueue := x }
        expired := Function.update s.expired q (s.expired q ++ [(key, val)]) }
  | .take q =>
    match s.expired q with
    | [] => none
    | x :: xs => if consumed c q then some (s.take q x xs) else none
  | .synced q k err =>
    (s.syncing q)[k]?.map fun x => s.synced reject c q x ((s.syncing q).eraseIdx k) err

end PeriodicSync
end Aranya.VirtualNode
