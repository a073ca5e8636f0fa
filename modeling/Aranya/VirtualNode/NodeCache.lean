import Aranya.Kube.NodeStatus
import Aranya.Lib.Exclusive
import Aranya.Math.BigFloat
import Aranya.Proto.Message

namespace Aranya.VirtualNode

open Std (ExtTreeMap)

-- Labels and annotations, of which missing maps are empty.
structure Metadata where
  labels : Kube.Labels := ∅
  annotations : Kube.Labels := ∅

structure Cached (Q : Type) where
  status : Kube.NodeStatus Q
  node : Metadata
  ext : Metadata

abbrev NodeCache (Q : Type) := Exclusive (Cached Q)

abbrev CacheM (Q : Type) := ExceptT (Halt BigFloat.Fault) (StateM (NodeCache Q))

variable {Q F : Type}

def newNodeCache (nodeLabels nodeAnnotations : Option Kube.Labels) : NodeCache Q where
  working := false
  val :=
    { status := {}
      node := { labels := nodeLabels.getD ∅, annotations := nodeAnnotations.getD ∅ }
      ext := {} }

def Cached.retrieve (n : Cached Q) (s : Kube.NodeStatus Q) : Kube.NodeStatus Q :=
  { s with
    phase := n.status.phase
    capacity := n.status.capacity
    conditions := n.status.conditions
    nodeInfo := n.status.nodeInfo }

namespace NodeCache

def modifyStatus (f : Kube.NodeStatus Q → Kube.NodeStatus Q) : CacheM Q Unit :=
  doExclusive (modify fun n => { n with status := f n.status })

def updatePhase (p : Kube.NodePhase) : CacheM Q Unit :=
  if p = .unset then pure () else modifyStatus ({ · with phase := p })

def updateCapacity (c : Kube.ResourceList Q) : CacheM Q Unit :=
  if c.isEmpty then pure () else modifyStatus ({ · with capacity := c })

def updateConditions (c : List Kube.NodeCondition) : CacheM Q Unit :=
  if c.isEmpty then pure () else modifyStatus ({ · with conditions := c })

def updateSystemInfo (i : Kube.NodeSystemInfo) : CacheM Q Unit :=
  modifyStatus ({ · with nodeInfo := i })

def quoted (text : Bytes) : Bytes :=
  str "\"" ++ text ++ str "\""

-- Errors are returned, unless the arithmetic panics.
abbrev ResultM := ExceptT Bytes (Except BigFloat.Fault)

section ExtInfo

variable (b : BigFloats F)

def parseOld (oldVal : Bytes) : Except Bytes (BigFloat F) :=
  if oldVal = [] then .ok (.finite b.zero) else b.parse oldVal

def operate (oldNum newNum : BigFloat F) : Node.ExtInfo.Operator → ResultM Bytes
  | .set => ExceptT.mk (.ok (.ok (b.text newNum)))
  | .add => ExceptT.mk ((b.add oldNum newNum).map (.ok ∘ b.text))
  | .minus => ExceptT.mk ((b.add oldNum (b.neg newNum)).map (.ok ∘ b.text))
  | op => throw (str "unsupported operator for number " ++ quoted op.text)

-- Both texts are parsed, whatever the operator is.
def calculateNumber (oldVal v : Bytes) (op : Node.ExtInfo.Operator) : ResultM Bytes := do
  let newNum ← ExceptT.mk (.ok (b.parse v))
  let oldNum ← ExceptT.mk (.ok (parseOld b oldVal))
  operate b oldNum newNum op

def resolveValue (oldVal : Bytes) (info : Node.ExtInfo) : ResultM Bytes :=
  match info.valueType with
  | .string =>
    match info.operator with
    | .set => return info.value
    | .add => return oldVal ++ info.value
    | op => throw (str "invalid operator for string ext info " ++ quoted op.text)
  | .number =>
    (calculateNumber b oldVal info.value info.operator).adapt (str "failed to calculate number of : " ++ ·)
  | t => throw (str "unsupported ext info value type " ++ quoted t.text)

-- The value before an update is the one of the device, or else the one from the configuration.
def oldValue (oldExtValues nodeValues : Kube.Labels) (key : Bytes) : Bytes :=
  oldExtValues[key]?.getD (nodeValues.getD key [])

def applyExtInfo (n : Cached Q) (ext : Metadata) (info : Node.ExtInfo) : ResultM Metadata :=
  let key := info.targetKey
  match info.target with
  | .annotations => do
    let value ← resolveValue b (oldValue n.ext.annotations n.node.annotations key) info
    return { ext with annotations := ext.annotations.insert key value }
  | .labels => do
    let value ← resolveValue b (oldValue n.ext.labels n.node.labels key) info
    return { ext with labels := ext.labels.insert key value }
  | t => throw (str "invalid ext info target " ++ quoted t.text)

-- The new labels and annotations are kept if there is no error.
def updateExtInfo (extInfo : List Node.ExtInfo) : CacheM Q (Option Bytes) :=
  doExclusive fun n : Cached Q =>
    match (extInfo.foldlM (applyExtInfo b n) {}).run with
    | .error e => (.error e, n)
    | .ok (.error e) => (.ok (some e), n)
    | .ok (.ok ext) => (.ok none, { n with ext := ext })

end ExtInfo

def retrieveStatus (s : Kube.NodeStatus Q) : CacheM Q (Kube.NodeStatus Q) :=
  doExclusive ((Cached.retrieve · s) <$> get)

end NodeCache
end Aranya.VirtualNode
