import Aranya.Lib.Execution
import Aranya.Proto.Wire
import Aranya.Queue.TimeoutQueue

namespace Aranya

open Std (ExtTreeMap)

-- Each of them deletes the virtual node when it ends.
inductive VirtualNode.Routine
  | kubelet
  | connectivity
  | storage
  | network
  | pod
  | metrics
  | peripheral
  | globalMessages
  | deviceConnect
  deriving DecidableEq, Repr

-- The storage manager is only there if it is enabled.
structure VirtualNode where
  name : Bytes
  storageManager : Bool
  once : Bool
  running : List VirtualNode.Routine
  closed : Bool
  deriving DecidableEq, Repr

namespace VirtualNode

def new (name : Bytes) (storageManager : Bool) : VirtualNode where
  name := name
  storageManager := storageManager
  once := false
  running := []
  closed := false

def start (vn : VirtualNode) : VirtualNode :=
  if vn.once then
    vn
  else
    let storage := if vn.storageManager then [.storage] else []
    { vn with
      once := true
      running := [.kubelet, .connectivity] ++ storage ++
        [.network, .pod, .metrics, .peripheral, .globalMessages, .deviceConnect] }

-- This stops the managers of the virtual node, whose goroutines will end sooner or later.
def forceClose (vn : VirtualNode) : VirtualNode :=
  { vn with closed := true }

inductive SyncQueue
  | nodeForceSync
  | podForceSync
  | mirrorUpdate
  | leaseUpdate
  deriving DecidableEq, Repr

-- Virtual nodes are referred to by number.
structure Manager where
  nodes : ExtTreeMap Bytes Nat
  vns : Nat → Option VirtualNode
  queues : SyncQueue → GuardedQueue Bytes Int

namespace Manager

def new : Manager where
  nodes := ∅
  vns _ := none
  queues _ := .new

def set (m : Manager) (i : Nat) (vn : VirtualNode) : Manager :=
  { m with vns := Function.update m.vns i (some vn) }

def add (m : Manager) (i : Nat) (vn : VirtualNode) : Except Bytes Manager :=
  match m.nodes[vn.name]? with
  | some _ => .error (str "node with same name already exists")
  | none =>
    .ok { m with
      nodes := m.nodes.insert vn.name i
      queues := fun q => ((m.queues q).forbid vn.name).remove vn.name }

def delete (m : Manager) (name : Bytes) : Manager :=
  match m.nodes[name]? with
  | none => m
  | some i =>
    { m with
      nodes := m.nodes.erase name
      vns := Function.update m.vns i ((m.vns i).map forceClose) }

def exit (m : Manager) (i : Nat) (vn : VirtualNode) (r : Routine) : Manager :=
  (m.set i { vn with running := vn.running.erase r }).delete vn.name

inductive Action
  | create (i : Nat) (name : Bytes) (storageManager : Bool)
  | add (i : Nat)
  | start (i : Nat)
  | delete (name : Bytes)
  | forceClose (i : Nat)
  | exit (i : Nat) (r : Routine)
  deriving DecidableEq, Repr

def step (m : Manager) : Action → Option Manager
  | .create i name storageManager =>
    if (m.vns i).isSome then none else some (m.set i (.new name storageManager))
  | .add i => (m.vns i).map fun vn => (m.add i vn).toOption.getD m
  | .start i => (m.vns i).map fun vn => m.set i vn.start
  | .delete name => some (m.delete name)
  | .forceClose i => (m.vns i).map fun vn => m.set i vn.forceClose
  | .exit i r =>
    match m.vns i with
    | none => none
    | some vn => if r ∈ vn.running then some (m.exit i vn r) else none

end Manager
end VirtualNode
end Aranya
