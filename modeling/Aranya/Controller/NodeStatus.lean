import Aranya.Controller.Node
import Aranya.VirtualNode.NodeCache

namespace Aranya.EdgeDevice

open Std (ExtTreeMap)

def labelArch : Bytes :=
  str "arhat.dev/arch"

def labelArchStable : Bytes :=
  str "kubernetes.io/arch"

def labelOSStable : Bytes :=
  str "kubernetes.io/os"

def kubeletLabelArch : Bytes :=
  str "beta.kubernetes.io/arch"

def kubeletLabelOS : Bytes :=
  str "beta.kubernetes.io/os"

def trimSuffix (s suffix : Bytes) : Bytes :=
  if suffix.isSuffixOf s then s.take (s.length - suffix.length) else s

def convertToGOARCH (arch : Bytes) : Bytes :=
  if arch = str "x86" then str "386"
  else if (str "armv").isPrefixOf arch then str "arm"
  else if (str "mips").isPrefixOf arch then trimSuffix arch (str "hf")
  else arch

def systemLabels (info : Kube.NodeSystemInfo) : Kube.Labels :=
  (∅ : Kube.Labels)
    |>.insert labelArch info.architecture
    |>.insert labelArchStable (convertToGOARCH info.architecture)
    |>.insert kubeletLabelArch (convertToGOARCH info.architecture)
    |>.insert labelOSStable info.operatingSystem
    |>.insert kubeletLabelOS info.operatingSystem

structure Visits where
  entries : Kube.Labels → List (Bytes × Bytes)
  perm : ∀ m, (entries m).Perm m.toList

def Visits.sorted : Visits where
  entries m := m.toList
  perm _ := .refl _

-- Devices must not override these labels, and they must be set if they are not present.
def setSystemLabel (nodeLabels extLabels : Kube.Labels) (entry : Bytes × Bytes) : Kube.Labels :=
  let (k, v) := entry
  let extLabels := if k ∈ extLabels then extLabels.insert k v else extLabels
  if nodeLabels[k]? = some v then extLabels else extLabels.insert k v

def removeAlreadySet (ext : Kube.Labels) (entry : Bytes × Bytes) : Kube.Labels :=
  if ext.getD entry.fst [] = entry.snd then ext.erase entry.fst else ext

def getNodeLabelsAndAnnotationsToSet (o : Nat → Visits) (nodeLabels nodeAnnotations : Kube.Labels)
    (nodeSystemInfo : Kube.NodeSystemInfo) (extLabels extAnnotations : Kube.Labels) :
    Kube.Labels × Kube.Labels :=
  let extLabels := ((o 0).entries (systemLabels nodeSystemInfo)).foldl (setSystemLabel nodeLabels) extLabels
  (((o 1).entries nodeLabels).foldl removeAlreadySet extLabels,
   ((o 2).entries nodeAnnotations).foldl removeAlreadySet extAnnotations)

section Resources

variable {Q : Type} (q : Kube.Quantities Q)

def checkNodeResourcesEqual (a b : Kube.ResourceList Q) : Bool :=
  q.equal (q.cpu a) (q.cpu b) && q.equal (q.pods a) (q.pods b) && q.equal (q.memory a) (q.memory b) &&
    q.equal (q.storageEphemeral a) (q.storageEphemeral b)

def checkNodeInfoEqual (a b : Kube.NodeSystemInfo) : Bool :=
  a.machineID = b.machineID && a.systemUUID = b.systemUUID && a.bootID = b.bootID &&
    a.kernelVersion = b.kernelVersion && a.osImage = b.osImage &&
    a.containerRuntimeVersion = b.containerRuntimeVersion && a.kubeletVersion = b.kubeletVersion &&
    a.kubeProxyVersion = b.kubeProxyVersion && a.operatingSystem = b.operatingSystem &&
    a.architecture = b.architecture

def used (resource : Kube.ResourceList Q → Q) (measure : Q → Int) (ctr : Kube.ResourceRequirements Q) : Int :=
  if q.value (resource ctr.limits) ≠ 0 then measure (resource ctr.limits) else measure (resource ctr.requests)

def available (resource : Kube.ResourceList Q → Q) (measure : Q → Int) (capacity : Kube.ResourceList Q)
    (pods : List (Kube.PodResources Q)) : Int :=
  pods.foldl (fun avail pod =>
    pod.containers.foldl (fun avail ctr => Kube.int64 (avail - used q resource measure ctr)) avail)
    (measure (resource capacity))

def getAllocatable (capacity : Kube.ResourceList Q) (pods : List (Kube.PodResources Q)) : Kube.ResourceList Q :=
  let podAvail := Kube.int64 (q.value (q.pods capacity) - pods.length)
  (∅ : Kube.ResourceList Q)
    |>.insert Kube.resourceCPU (q.newMilliQuantity (max 0 (available q q.cpu q.milliValue capacity pods)))
    |>.insert Kube.resourceMemory (q.newQuantity (max 0 (available q q.memory q.value capacity pods)))
    |>.insert Kube.resourceEphemeralStorage
      (q.newQuantity (max 0 (available q q.storageEphemeral q.value capacity pods)))
    |>.insert Kube.resourcePods (q.newQuantity (max 0 podAvail))

end Resources

def newNodeNotReadyCondition (t : Kube.Time) : Kube.NodeCondition where
  kind := .ready
  status := .false
  lastTransitionTime := t
  lastHeartbeatTime := t
  reason := str "EdgeDevice disconnected"
  message := str "connectivity lost"

structure Merge where
  conditions : List Kube.NodeCondition
  found : Bool
  updateStatus : Bool
  heartBeatRemain : Int

section Conditions

variable (config : Conf.VirtualnodeNodeConfig) (now : Kube.Time)

-- The body of the inner loop. Heartbeats only matter if there are no leases.
def visitCondition (expected : Kube.NodeCondition) (m : Merge) (current : Kube.NodeCondition) : Merge :=
  if expected.kind ≠ current.kind then
    { m with conditions := m.conditions ++ [current] }
  else if expected.status = current.status then
    if config.leaseEnabled then
      { m with found := true, conditions := m.conditions ++ [current] }
    else
      let remain := Kube.Time.sub (current.lastHeartbeatTime + config.mirrorSyncInterval) now
      { m with
        found := true
        heartBeatRemain := if remain < m.heartBeatRemain then remain else m.heartBeatRemain
        conditions := m.conditions ++ [{ current with lastHeartbeatTime := now }] }
  else
    { m with
      found := true
      updateStatus := true
      conditions := m.conditions ++
        [{ current with
          status := expected.status
          lastTransitionTime := now
          lastHeartbeatTime := now
          message := expected.message
          reason := expected.reason }] }

def mergeCondition (m : Merge) (expected : Kube.NodeCondition) : Merge :=
  let m := m.conditions.foldl (visitCondition config now expected) { m with conditions := [], found := false }
  if m.found then
    m
  else
    { m with
      updateStatus := true
      conditions := m.conditions ++ [{ expected with lastTransitionTime := now, lastHeartbeatTime := now }] }

-- The first condition of type `Ready` is replaced unless it is unknown or false, or else added at the end.
def markNotReady : List Kube.NodeCondition → List Kube.NodeCondition × Bool
  | [] => ([newNodeNotReadyCondition now], true)
  | c :: cs =>
    if c.kind ≠ .ready then
      let (cs, update) := markNotReady cs
      (c :: cs, update)
    else if c.status = .unknown ∨ c.status = .false then
      (c :: cs, false)
    else
      (newNodeNotReadyCondition now :: cs, true)

end Conditions

inductive StatusResult
  | done
  | reschedule (after : Int)
  | failed (err : Bytes)
  deriving DecidableEq, Repr

structure StatusChange (Q : Type) where
  status : Kube.NodeStatus Q
  updateStatus : Bool
  result : StatusResult := .done

section Status

variable {Q : Type} (q : Kube.Quantities Q) (config : Conf.VirtualnodeNodeConfig) (now : Kube.Time)

def connectedStatus (expected status : Kube.NodeStatus Q) : StatusChange Q :=
  let capacityEqual := checkNodeResourcesEqual q expected.capacity status.capacity
  let allocatableEqual := checkNodeResourcesEqual q expected.allocatable status.allocatable
  let infoEqual := checkNodeInfoEqual expected.nodeInfo status.nodeInfo
  let isRunning := status.phase = .running
  let m := expected.conditions.foldl (mergeCondition config now)
    { conditions := status.conditions
      found := false
      updateStatus := !(capacityEqual && allocatableEqual && infoEqual && isRunning)
      heartBeatRemain := 0 }
  let status :=
    { capacity := if capacityEqual then status.capacity else expected.capacity
      allocatable := if allocatableEqual then status.allocatable else expected.allocatable
      nodeInfo := if infoEqual then status.nodeInfo else expected.nodeInfo
      phase := if isRunning then status.phase else .running
      conditions := m.conditions }
  if config.leaseEnabled then
    ⟨status, m.updateStatus, .done⟩
  else if m.heartBeatRemain < config.mirrorSyncInterval.tdiv 5 then
    ⟨status, true, .done⟩
  else
    ⟨status, m.updateStatus, .reschedule ((Kube.int64 (m.heartBeatRemain * 4)).tdiv 5)⟩

def disconnectedStatus (status : Kube.NodeStatus Q) : StatusChange Q :=
  let (conditions, update) := markNotReady now status.conditions
  ⟨{ status with conditions := conditions }, update, .done⟩

end Status

structure Device (Q : Type) where
  connected : Bool
  cached : VirtualNode.Cached Q

structure StatusAnswers where
  patch : Option Kube.RequestError
  updateStatus : Option Kube.RequestError

inductive NodeRequest (Q : Type)
  | patch (node : Kube.StatusNode Q)
  | updateStatus (node : Kube.StatusNode Q)

structure StatusHandled (Q : Type) where
  stored : Kube.StatusNode Q
  requests : List (NodeRequest Q)
  result : StatusResult

def expectedStatus {Q : Type} (q : Kube.Quantities Q) (vn : Device Q) (pods : List (Kube.PodResources Q))
    (status : Kube.NodeStatus Q) : Kube.NodeStatus Q :=
  let expected := vn.cached.retrieve status
  { expected with allocatable := getAllocatable q expected.capacity pods }

namespace Controller

variable {Q : Type} (c : Controller) (q : Kube.Quantities Q) (o : Nat → Visits)

def statusChange (vn : Device Q) (pods : List (Kube.PodResources Q)) (now : Kube.Instant)
    (status : Kube.NodeStatus Q) : StatusChange Q :=
  if vn.connected then connectedStatus q c.vnConfig.node now.time (expectedStatus q vn pods status) status
  else disconnectedStatus now.time status

def writeStatus (a : StatusAnswers) (stored node : Kube.StatusNode Q) (requests : List (NodeRequest Q))
    (change : StatusChange Q) : StatusHandled Q :=
  if change.updateStatus then
    let node := { node with status := change.status }
    match a.updateStatus with
    | some e => ⟨stored, requests ++ [.updateStatus node], .failed (requestErrorText e)⟩
    | none => ⟨node, requests ++ [.updateStatus node], change.result⟩
  else
    ⟨stored, requests, change.result⟩

-- A node without a virtual node or an edge device is ignored.
def onNodeStatusUpdated (name : Bytes) (vn : Device Q) (pods : List (Kube.PodResources Q)) (now : Kube.Instant)
    (a : StatusAnswers) (stored : Kube.StatusNode Q) : StatusHandled Q :=
  if c.doNodeResourcePreCheck name then
    ⟨stored, [], .done⟩
  else
    let nodeLabels := stored.labels.getD ∅
    let nodeAnnotations := stored.annotations.getD ∅
    let (setLabels, setAnnotations) := getNodeLabelsAndAnnotationsToSet o nodeLabels nodeAnnotations
      (vn.cached.retrieve stored.status).nodeInfo vn.cached.ext.labels vn.cached.ext.annotations
    let change := c.statusChange q vn pods now stored.status
    let node := { stored with
      labels := some (nodeLabels ∪ setLabels)
      annotations := some (nodeAnnotations ∪ setAnnotations) }
    if setLabels.isEmpty && setAnnotations.isEmpty then
      writeStatus a stored node [] change
    else
      match a.patch with
      | some e => ⟨stored, [.patch node], .failed (requestErrorText e)⟩
      | none => writeStatus a node node [.patch node] change

end Controller
end Aranya.EdgeDevice
