import Aranya.Controller.NodeStatus

namespace Aranya.EdgeDevice

variable {Q : Type}

inductive HookPanic
  | assignmentToNilMap
  deriving DecidableEq, Repr

structure FieldHook where
  query : Bytes
  targetFieldPath : Bytes
  value : Bytes
  valueExpression : Bytes

structure Engine (Q : Type) where
  runQuery : Bytes → Kube.StatusNode Q → Except Bytes (Option Bytes)
  jq : Bytes → Bytes → Except Bytes Bytes

inductive MetaField
  | labels
  | annotations
  deriving DecidableEq, Repr

namespace MetaField

def path : MetaField → Bytes
  | labels => str "metadata.labels['"
  | annotations => str "metadata.annotations['"

def get (node : Kube.StatusNode Q) : MetaField → Option Kube.Labels
  | labels => node.labels
  | annotations => node.annotations

def set (node : Kube.StatusNode Q) (m : Kube.Labels) : MetaField → Kube.StatusNode Q
  | labels => { node with labels := some m }
  | annotations => { node with annotations := some m }

end MetaField

structure FieldValue where
  field : MetaField
  key : Bytes
  value : Bytes

namespace FieldHook

variable (e : Engine Q) (data : Kube.StatusNode Q) (h : FieldHook)

def result : Option Bytes :=
  match e.runQuery h.query data with
  | .error _ => none
  | .ok r => r

-- If the expression fails, this is only logged as well, and the value is empty.
def targetValue (result : Bytes) : Bytes :=
  if h.value ≠ [] then h.value
  else if h.valueExpression ≠ [] then (e.jq h.valueExpression result).toOption.getD []
  else h.value

def target : Option (MetaField × Bytes) :=
  [MetaField.labels, .annotations].findSome? fun f =>
    if f.path.isPrefixOf h.targetFieldPath && (str "']").isSuffixOf h.targetFieldPath then
      some (f, trimSuffix (h.targetFieldPath.drop f.path.length) (str "']"))
    else
      none

def change : Option FieldValue := do
  let result ← h.result e data
  let (f, key) ← h.target
  return ⟨f, key, h.targetValue e result⟩

end FieldHook

def assign (node : Kube.StatusNode Q) (c : FieldValue) : Except HookPanic (Kube.StatusNode Q) :=
  match c.field.get node with
  | none => .error .assignmentToNilMap
  | some m => .ok (c.field.set node (m.insert c.key c.value))

-- Values are compared with those of the node, and not with those of its copy.
def differs (node : Kube.StatusNode Q) (c : FieldValue) : Bool :=
  ((c.field.get node).getD ∅).getD c.key [] ≠ c.value

def evalHook (e : Engine Q) (node data : Kube.StatusNode Q) (updateNode : Option (Kube.StatusNode Q))
    (h : FieldHook) : Except HookPanic (Option (Kube.StatusNode Q)) :=
  match h.change e data with
  | none => .ok updateNode
  | some c =>
    if differs node c then (assign (updateNode.getD node) c).map some else .ok updateNode

-- A copy of the node with the metadata which is not applied yet, if there is any.
def applyExtInfo (o : Nat → Visits) (ext : Kube.Labels × Kube.Labels) (node : Kube.StatusNode Q) :
    Option (Kube.StatusNode Q) :=
  let (setLabels, setAnnotations) := getNodeLabelsAndAnnotationsToSet o (node.labels.getD ∅)
    (node.annotations.getD ∅) node.status.nodeInfo ext.fst ext.snd
  if setLabels.isEmpty && setAnnotations.isEmpty then none
  else some { node with
    labels := some (node.labels.getD ∅ ∪ setLabels)
    annotations := some (node.annotations.getD ∅ ∪ setAnnotations) }

def evalNodeFiledHooksAndUpdateNode (e : Engine Q) (o : Nat → Visits) (device : Option (List FieldHook))
    (ext : Kube.Labels × Kube.Labels) (node : Kube.StatusNode Q) :
    Except HookPanic (Option (Kube.StatusNode Q)) :=
  match device with
  | none | some [] => .ok none
  | some fieldHooks =>
    let updateNode := applyExtInfo o ext node
    fieldHooks.foldlM (evalHook e node (updateNode.getD node)) updateNode

end Aranya.EdgeDevice
