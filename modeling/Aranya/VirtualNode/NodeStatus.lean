import Aranya.Connectivity.Handler
import Aranya.VirtualNode.NodeCache

namespace Aranya.VirtualNode

open Std (ExtTreeMap)

variable {Q F : Type}

def translateNodeResourcesCapacity (q : Kube.Quantities Q) (res : Node.Resources) (maxPods : Int) :
    Kube.ResourceList Q :=
  (∅ : Kube.ResourceList Q)
    |>.insert Kube.resourceCPU (q.newQuantity (Kube.int64 res.cpuCount))
    |>.insert Kube.resourceMemory (q.newQuantity (Kube.int64 res.memoryBytes))
    |>.insert Kube.resourcePods (q.newQuantity maxPods)
    |>.insert Kube.resourceEphemeralStorage (q.newQuantity (Kube.int64 res.storageBytes))

def translateReady : Node.Condition → Kube.ConditionStatus
  | .healthy => .true
  | .unhealthy => .false
  | .other _ => .unknown

def translate : Node.Condition → Kube.ConditionStatus
  | .healthy => .false
  | .unhealthy => .true
  | .other _ => .unknown

def reported (cond : Node.Conditions) : List (Kube.NodeConditionType × Kube.ConditionStatus) :=
  [(.ready, translateReady cond.ready), (.memoryPressure, translate cond.memory),
   (.diskPressure, translate cond.disk), (.pidPressure, translate cond.pid),
   (.networkUnavailable, translate cond.network)]

def visitLast (now : Kube.Time) (kind : Kube.NodeConditionType) (status : Kube.ConditionStatus) (t : Kube.Time)
    (last : Kube.NodeCondition) : Kube.Time :=
  if last.kind ≠ kind then t
  else if last.status = status ∧ last.lastTransitionTime ≠ 0 then last.lastTransitionTime
  else now

def transitionTime (prev : List Kube.NodeCondition) (now : Kube.Time) (kind : Kube.NodeConditionType)
    (status : Kube.ConditionStatus) : Kube.Time :=
  prev.foldl (visitLast now kind status) 0

def translateNodeConditions (now : Kube.Time) (prev : List Kube.NodeCondition) (cond : Node.Conditions) :
    List Kube.NodeCondition :=
  (reported cond).map fun (kind, status) =>
    let t := transitionTime prev now kind status
    { kind := kind
      status := status
      lastTransitionTime := if t = 0 then now else t
      lastHeartbeatTime := now }

def systemInfo (info : Node.SystemInfo) : Kube.NodeSystemInfo where
  operatingSystem := info.os
  architecture := info.arch
  osImage := info.osImage
  kernelVersion := info.kernelVersion
  machineID := info.machineId
  systemUUID := info.systemUuid
  bootID := info.bootId

section UpdateNodeCache

variable (q : Kube.Quantities Q) (b : BigFloats F) (maxPods : Int)

def updateNodeCache (now : Kube.Instant) (msg : Node.StatusMsg) (action : Node.InfoKind) : CacheM Q Unit := do
  msg.systemInfo.forM fun info => NodeCache.updateSystemInfo (systemInfo info)
  msg.conditions.forM fun conditions => do
    let prev ← NodeCache.retrieveStatus {}
    NodeCache.updateConditions (translateNodeConditions now.time prev.conditions conditions)
  msg.capacity.forM fun capacity =>
    NodeCache.updateCapacity (translateNodeResourcesCapacity q capacity maxPods)
  (if action = .all then discard (NodeCache.updateExtInfo b msg.extInfo) else pure ())
  NodeCache.updatePhase .running

structure Received where
  now : Kube.Instant
  msg : Node.StatusMsg
  action : Node.InfoKind

def step (n : NodeCache Q) (r : Received) : Option (NodeCache Q) :=
  match (updateNodeCache q b maxPods r.now r.msg r.action).run n with
  | (.ok _, n') => some n'
  | (.error _, _) => none

-- An error from the device is returned with the text `failed to sync node status: ` in front.
inductive SyncError
  | post (text : Bytes)
  | device (e : ErrorMsg)
  | halt (h : Halt BigFloat.Fault)
  deriving DecidableEq, Repr

structure NodeSync (Q : Type) where
  cache : NodeCache Q
  err : Option SyncError

-- A message that is neither an error nor a status is not expected, and the handler exits.
def onNodeMsg (action : Node.InfoKind) (s : NodeSync Q) :
    Kube.Instant × Node.Reply → NodeSync Q × Bool
  | (_, .error e) => ({ s with err := some (.device e) }, true)
  | (_, .other) => (s, true)
  | (now, .nodeStatus ns) =>
    match (updateNodeCache q b maxPods now ns action).run s.cache with
    | (.ok _, n) => ({ s with cache := n }, false)
    | (.error h, n) => (⟨n, some (.halt h)⟩, true)

-- Posting the command gives an error, or everything that the device sends in reply, with the times at which
-- it is handled.
def syncDeviceNodeStatus (n : NodeCache Q) (action : Node.InfoKind)
    (posted : Except Bytes (List (Kube.Instant × Node.Reply))) : NodeSync Q :=
  match posted with
  | .error e => ⟨n, some (.post e)⟩
  | .ok replies => handleMessages (onNodeMsg q b maxPods action) ⟨n, none⟩ replies

end UpdateNodeCache
end Aranya.VirtualNode
