import Aranya.Controller.Ensure

namespace Aranya.EdgeDevice

open Std (ExtTreeMap)

def labelRole : Bytes :=
  str "arhat.dev/role"

def labelNamespace : Bytes :=
  str "arhat.dev/namespace"

def labelName : Bytes :=
  str "arhat.dev/name"

def labelKubeRole : Bytes :=
  str "kubernetes.io/role"

def labelHostname : Bytes :=
  str "kubernetes.io/hostname"

def labelRoleValueNode : Bytes :=
  str "Node"

def labelRoleValueNodeLease : Bytes :=
  str "NodeLease"

def taintKeyNamespace : Bytes :=
  labelNamespace

structure Controller where
  sysNS : Bytes
  hostname : Bytes
  hostNodeAddresses : List Kube.NodeAddress
  vnConfig : Conf.VirtualnodeConfig
  edgeDevices : Apis.EdgeDevices sysNS
  virtualNodes : Bytes → Bool

structure Listener where
  port : Except Bytes Int

def getListenerPort : Option Listener → Except Bytes Int
  | none => .error (str "nil listener")
  | some l => l.port

structure NodeAnswers where
  get : Option Kube.RequestError
  patch : Option Kube.RequestError
  getPatched : Option Kube.RequestError
  patchStatus : Option Kube.RequestError
  patchCIDRs : Nat → Option Kube.RequestError
  delete : Option Kube.RequestError
  create : Option Kube.RequestError

namespace Controller

variable (c : Controller)

def getEdgeDeviceObject (name : Bytes) : Option Apis.EdgeDevice :=
  c.edgeDevices.get name

def doNodeResourcePreCheck (name : Bytes) : Bool :=
  !c.virtualNodes name || (c.getEdgeDeviceObject name).isNone

def getNodeProviderID (ns name : Bytes) : Bytes :=
  str "aranya" ++ str "://" ++ ns ++ str "/" ++ name

def checkNodeQualified (node : Kube.NodeObject) (kubeletListener : Option Listener) : Bool :=
  match getListenerPort kubeletListener with
  | .error _ => false
  | .ok port =>
    let labels := node.labels.getD ∅
    if labels.isEmpty || labels.getD labelRole [] ≠ labelRoleValueNode then
      false
    else
      node.taints.any (fun t => t.key = taintKeyNamespace && t.value = c.sysNS && t.effect = .noSchedule) &&
        node.kubeletPort = port

def nodeLabels (edgeDevice : Apis.EdgeDevice) : Kube.Labels :=
  ((∅ : Kube.Labels).insert labelKubeRole c.sysNS ∪ edgeDevice.spec.node.labels)
    |>.insert labelName edgeDevice.name
    |>.insert labelRole labelRoleValueNode
    |>.insert labelNamespace c.sysNS
    |>.insert labelHostname c.hostname

def nodeTaints (edgeDevice : Apis.EdgeDevice) : List Kube.Taint :=
  ⟨taintKeyNamespace, edgeDevice.ns, .noSchedule⟩ ::
    edgeDevice.spec.node.taints.filter (·.key ≠ taintKeyNamespace)

def newNodeForEdgeDevice (edgeDevice : Apis.EdgeDevice) (kubeletPort : Int) : Kube.NodeObject :=
  let podCIDRs := [edgeDevice.spec.pod.ipv4CIDR, edgeDevice.spec.pod.ipv6CIDR].filter (· ≠ [])
  { annotations := edgeDevice.spec.node.annotations
    labels := some (c.nodeLabels edgeDevice)
    clusterName := edgeDevice.clusterName
    ownerReferences := []
    taints := nodeTaints edgeDevice
    podCIDR := podCIDRs.headD []
    podCIDRs := podCIDRs
    providerID := getNodeProviderID edgeDevice.ns edgeDevice.name
    conditions :=
      [(.ready, .unknown), (.memoryPressure, .unknown), (.diskPressure, .unknown),
       (.pidPressure, .unknown), (.networkUnavailable, .unknown)]
    addresses := c.hostNodeAddresses
    kubeletPort := kubeletPort }

-- The taint of the namespace is always applied, others only if there is none with the same key.
def appliedTaints (old new : List Kube.Taint) : List Kube.Taint :=
  if old = [] then
    new
  else
    new.map fun t =>
      if t.key = taintKeyNamespace then t else (old.find? (·.key = t.key)).getD t

-- The label `kubernetes.io/role` is kept.
def patchedNode (old node : Kube.NodeObject) : Kube.NodeObject :=
  { old with
    annotations :=
      match old.annotations with
      | none => node.annotations
      | some labels => some (labels ∪ node.annotations.getD ∅)
    labels :=
      match old.labels with
      | none => node.labels
      | some labels => some (labels ∪ (node.labels.getD ∅).erase labelKubeRole)
    clusterName := node.clusterName
    taints := appliedTaints old.taints node.taints
    providerID := node.providerID
    ownerReferences := node.ownerReferences }

def patchNodeCIDRs (a : NodeAnswers) (cidrs : List Bytes) (stored : Kube.NodeObject) :
    Kube.NodeObject × Option Bytes :=
  let errs := [a.patchCIDRs 0, a.patchCIDRs 1, a.patchCIDRs 2]
  if errs.contains none then
    ({ stored with podCIDR := cidrs.headD [], podCIDRs := cidrs }, none)
  else
    (stored, some (str "failed to update pod cidr: " ++ ((a.patchCIDRs 2).map requestErrorText).getD []))

def patchNode (a : NodeAnswers) (old node : Kube.NodeObject) : Kube.NodeObject × Option Bytes :=
  match a.patch with
  | some e => (old, some (str "failed to patch node spec: " ++ requestErrorText e))
  | none =>
    let stored := patchedNode old node
    match a.getPatched with
    | some e => (stored, some (str "failed to get patched node: " ++ requestErrorText e))
    | none =>
      match a.patchStatus with
      | some e => (stored, some (str "failed to patch node status: " ++ requestErrorText e))
      | none =>
        let stored := { stored with addresses := node.addresses, kubeletPort := node.kubeletPort }
        if node.podCIDRs = [] then (stored, none) else patchNodeCIDRs a node.podCIDRs stored

def createNode (a : NodeAnswers) (node : Kube.NodeObject) (stored : Option Kube.NodeObject) :
    Option Kube.NodeObject × Option Bytes :=
  match stored, a.create with
  | some old, _ => (some old, some (str "already exists"))
  | none, some e => (none, some (requestErrorText e))
  | none, none => (some node, none)

-- An error of the patches is only logged.
def ensureNodeObject (name : Bytes) (kubeletListener : Option Listener) (a : NodeAnswers)
    (stored : Option Kube.NodeObject) : Option Kube.NodeObject × Option Bytes :=
  match c.getEdgeDeviceObject name with
  | none => (stored, none)
  | some edgeDevice =>
    match getListenerPort kubeletListener with
    | .error e => (stored, some e)
    | .ok kubeletPort =>
      let node := c.newNodeForEdgeDevice edgeDevice kubeletPort
      match a.get, stored with
      | some .notFound, _ | none, none => createNode a node stored
      | some e, _ => (stored, some (str "failed to get old node: " ++ requestErrorText e))
      | none, some old =>
        match patchNode a old node with
        | (stored, none) => (some stored, none)
        | (stored, some _) =>
          if c.vnConfig.node.recreateIfPatchFailed then
            match a.delete with
            | none | some .notFound => createNode a node none
            | some e => (some stored, some (str "failed to delete old node: " ++ requestErrorText e))
          else
            (some stored, none)

-- The result is `none` if `ensureNodeObject` is not called.
def onNodeUpdated (name : Bytes) (node : Kube.NodeObject) (kubeletListener : Option Listener)
    (a : NodeAnswers) : Option (Option Kube.NodeObject × Option Bytes) :=
  if c.doNodeResourcePreCheck name || kubeletListener.isNone || c.checkNodeQualified node kubeletListener then
    none
  else
    some (c.ensureNodeObject name kubeletListener a (some node))

def newLeaseForNode (now : Int) (nodeMeta : Kube.NodeMeta) : Kube.Lease where
  name := nodeMeta.name
  labels := (∅ : Kube.Labels).insert labelRole labelRoleValueNodeLease
    |>.insert labelNamespace c.sysNS
  ownerReferences := [⟨str "v1", str "Node", nodeMeta.name, nodeMeta.uid, none⟩]
  spec :=
    { holderIdentity := some nodeMeta.name
      leaseDurationSeconds := some c.vnConfig.node.leaseDurationSeconds
      acquireTime := some now
      renewTime := some now }

def checkLeaseOwner (lease : Kube.Lease) (nodeMeta : Kube.NodeMeta) (ref : Kube.OwnerReference) : Bool :=
  ref.name = lease.name && ref.controller.isNone && ref.uid = nodeMeta.uid && ref.kind = str "Node" &&
    ref.apiVersion = str "v1"

def checkNodeLeaseUpToDate (lease : Kube.Lease) (nodeMeta : Kube.NodeMeta) : Bool × Bool :=
  if c.doNodeResourcePreCheck lease.name then
    (true, true)
  else
    match lease.ownerReferences with
    | [ref] =>
      (checkLeaseOwner lease nodeMeta ref,
       !lease.labels.isEmpty && lease.spec.holderIdentity = some nodeMeta.name &&
         lease.spec.leaseDurationSeconds = some c.vnConfig.node.leaseDurationSeconds &&
         lease.labels.getD labelRole [] = labelRoleValueNodeLease &&
         lease.labels.getD labelNamespace [] = c.sysNS)
    | _ => (false, false)

def changedLease (lease old : Kube.Lease) : Kube.Lease :=
  { old with labels := old.labels ∪ lease.labels, spec := lease.spec }

def ensureNodeLease (now : Int) (nodeMeta : Kube.NodeMeta) (a : Answers) (stored : Option Kube.Lease) :
    Ensured Kube.Lease :=
  if !c.vnConfig.node.leaseEnabled then
    ⟨stored, [], none⟩
  else
    let lease := c.newLeaseForNode now nodeMeta
    ensureObject ⟨str "failed to delete old node lease: ", str "failed to create node lease: "⟩ a
      (fun old => c.checkNodeLeaseUpToDate old nodeMeta = (true, true))
      (fun old => if (c.checkNodeLeaseUpToDate old nodeMeta).fst then .patch else .update)
      (changedLease lease) lease stored

-- The result is `none` if `ensureNodeLease` is not called. It needs the node object.
def onNodeLeaseUpdated (now : Int) (node : Option Kube.NodeMeta) (a : Answers) (lease : Kube.Lease) :
    Option (Ensured Kube.Lease) :=
  if c.doNodeResourcePreCheck lease.name then
    none
  else
    node.bind fun nodeMeta =>
      if c.checkNodeLeaseUpToDate lease nodeMeta = (true, true) then none
      else some (c.ensureNodeLease now nodeMeta a (some lease))

end Controller
end Aranya.EdgeDevice
