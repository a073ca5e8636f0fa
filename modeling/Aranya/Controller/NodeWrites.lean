import Aranya.Controller.Node

namespace Aranya.EdgeDevice

inductive NodeWrite
  | patch (clone : Kube.NodeObject)
  | patchStatus (addresses : List Kube.NodeAddress) (kubeletPort : Int)
  | patchCIDRs (cidrs : List Bytes)
  | delete
  | create (node : Kube.NodeObject)

def NodeWrite.submitted : NodeWrite → Option Kube.NodeObject
  | .patch node | .create node => some node
  | _ => none

-- What an accepted request leaves behind. A node that exists is not created.
def NodeWrite.apply : NodeWrite → Option Kube.NodeObject → Option Kube.NodeObject
  | .patch clone, _ => some clone
  | .patchStatus addresses kubeletPort, some node =>
    some { node with addresses := addresses, kubeletPort := kubeletPort }
  | .patchCIDRs cidrs, some node => some { node with podCIDR := cidrs.headD [], podCIDRs := cidrs }
  | .delete, _ => none
  | .create node, none => some node
  | _, stored => stored

structure NodeWrite.Sent where
  write : NodeWrite
  accepted : Bool

namespace Controller

variable (c : Controller)

def cidrWrites (a : NodeAnswers) (cidrs : List Bytes) (attempt : Nat) : Nat → List NodeWrite.Sent
  | 0 => []
  | n + 1 =>
    ⟨.patchCIDRs cidrs, (a.patchCIDRs attempt).isNone⟩ ::
      if (a.patchCIDRs attempt).isNone then [] else cidrWrites a cidrs (attempt + 1) n

def patchWrites (a : NodeAnswers) (old node : Kube.NodeObject) : List NodeWrite.Sent :=
  ⟨.patch (patchedNode old node), a.patch.isNone⟩ ::
    if a.patch.isNone && a.getPatched.isNone then
      ⟨.patchStatus node.addresses node.kubeletPort, a.patchStatus.isNone⟩ ::
        if a.patchStatus.isNone && node.podCIDRs ≠ [] then cidrWrites a node.podCIDRs 0 3 else []
    else
      []

def recreateWrites (a : NodeAnswers) (node : Kube.NodeObject) : List NodeWrite.Sent :=
  match a.delete with
  | none | some .notFound => [⟨.delete, true⟩, ⟨.create node, a.create.isNone⟩]
  | some _ => [⟨.delete, false⟩]

def ensureNodeWrites (name : Bytes) (kubeletListener : Option Listener) (a : NodeAnswers)
    (stored : Option Kube.NodeObject) : List NodeWrite.Sent :=
  match c.getEdgeDeviceObject name with
  | none => []
  | some edgeDevice =>
    match getListenerPort kubeletListener with
    | .error _ => []
    | .ok kubeletPort =>
      let node := c.newNodeForEdgeDevice edgeDevice kubeletPort
      match a.get, stored with
      | some .notFound, _ | none, none => [⟨.create node, a.create.isNone⟩]
      | some _, _ => []
      | none, some old =>
        let recreate := (patchNode a old node).snd.isSome && c.vnConfig.node.recreateIfPatchFailed
        patchWrites a old node ++ if recreate then recreateWrites a node else []

end Controller
end Aranya.EdgeDevice
