import Aranya.Pod.Reconcile

namespace Aranya.Pod.System

variable {ρ : Type}

def schedulePodJob (s : System ρ) (i : Nat) (action : JobAction) (oldPod : Option Kube.Pod)
    (newPod : Kube.Pod) : System ρ × Option Reconcile.Result :=
  let (m, err) := (s.managers i).schedulePodJob action oldPod newPod
  (s.setManager i m, err.map fun e => { err := some (jobErrorText e) })

def scheduleOnNode (s : System ρ) (action : JobAction) (oldPod : Option Kube.Pod)
    (newPod : Kube.Pod) : System ρ × Option Reconcile.Result :=
  match s.virtualNodes newPod.nodeName with
  | none => (s, some { err := some (str "failed to find virtual node") })
  | some i => s.schedulePodJob i action oldPod newPod

def onTenantPodUpdated (s : System ρ) (oldPod newPod : Kube.Pod) : System ρ × Option Reconcile.Result :=
  if s.edgeDevices newPod.name then
    (s, none)
  else if s.edgeDevices newPod.nodeName then
    s.scheduleOnNode .update (some oldPod) newPod
  else if oldPod.nodeName = newPod.nodeName then
    (s, none)
  else
    -- The pod has left a node, which may be one of the virtual nodes.
    match s.virtualNodes oldPod.nodeName with
    | none => (s, none)
    | some i => s.schedulePodJob i .delete (some oldPod) newPod

def onTenantPodGone (action : JobAction) (s : System ρ) (pod : Kube.Pod) :
    System ρ × Option Reconcile.Result :=
  if s.edgeDevices pod.name then
    (s, none)
  else if !s.edgeDevices pod.nodeName then
    (s, none)
  else
    s.scheduleOnNode action none pod

def onTenantPodDeleting : System ρ → Kube.Pod → System ρ × Option Reconcile.Result :=
  onTenantPodGone .delete

-- The name of the pod stays in the set of tenant pods, so the role of the pods is not updated.
def onTenantPodDeleted : System ρ → Kube.Pod → System ρ × Option Reconcile.Result :=
  onTenantPodGone .cleanup

inductive Action
  | create (pod : Kube.Pod)
  | change (pod : Kube.Pod)
  | remove (name : Bytes)
  | edgeDevice (name : Bytes) (present : Bool)
  | virtualNode (name : Bytes) (i : Option Nat)
  | tenantPodUpdated (oldPod newPod : Kube.Pod)
  | tenantPodDeleting (pod : Kube.Pod)
  | tenantPodDeleted (pod : Kube.Pod)
  | lookup (i : Nat) (pod : Kube.Pod)
  | stale (i : Nat) (podUID : Bytes)
  | moveResource (i : Nat) (move : Reconcile.Core.Move Bytes)
  | moveDevice (i : Nat) (move : Reconcile.Core.Move Bytes)
  | handleResource (i : Nat) (job : Job Bytes) (a : Answers)
  | handleDevice (i : Nat) (job : Job Bytes) (a : Answers)

def Action.pods : Action → List Kube.Pod
  | .create pod | .change pod | .tenantPodDeleting pod | .tenantPodDeleted pod => [pod]
  | .tenantPodUpdated oldPod newPod => [oldPod, newPod]
  | .lookup _ pod => [pod]
  | _ => []

def act (k : Cluster ρ) (s : System ρ) : Action → Option (System ρ)
  | .create pod =>
    if s.pods pod.name = none then some { s with pods := Function.update s.pods pod.name (some pod) }
    else none
  | .change pod =>
    if (s.pods pod.name).any (·.uid = pod.uid) then
      some { s with pods := Function.update s.pods pod.name (some pod) }
    else
      none
  | .remove name => some { s with pods := Function.update s.pods name none }
  | .edgeDevice name present =>
    some { s with edgeDevices := Function.update s.edgeDevices name present }
  | .virtualNode name i =>
    some { s with virtualNodes := Function.update s.virtualNodes name i }
  | .tenantPodUpdated oldPod newPod => some (s.onTenantPodUpdated oldPod newPod).fst
  | .tenantPodDeleting pod => some (s.onTenantPodDeleting pod).fst
  | .tenantPodDeleted pod => some (s.onTenantPodDeleted pod).fst
  | .lookup i pod => some (s.setManager i ((s.managers i).lookup pod))
  | .stale i podUID =>
    if (s.managers i).podCache.getByID podUID = none then
      some (s.setManager i { s.managers i with toManager := (s.managers i).deleteStale podUID })
    else
      none
  | .moveResource i move =>
    ((s.managers i).resPodRec.move move).map fun resPodRec =>
      s.setManager i { s.managers i with resPodRec := resPodRec }
  | .moveDevice i move =>
    ((s.managers i).devPodRec.move move).map fun devPodRec =>
      s.setManager i { s.managers i with devPodRec := devPodRec }
  | .handleResource i job a => s.handleResourceJob i a job
  | .handleDevice i job a => s.handleDeviceJob k i a job

-- A name can be used by several pods, but `nameOf` is the one name of the pod with a given UID.
def step (nameOf : Bytes → Bytes) (k : Cluster ρ) (s : System ρ) (a : Action) : Option (System ρ) :=
  if ∀ pod ∈ a.pods, pod.name = nameOf pod.uid then s.act k a else none

def new (managers : Nat → Manager ρ) (hostIP : Nat → Bytes) : System ρ where
  pods _ := none
  edgeDevices _ := false
  virtualNodes _ := none
  managers i :=
    { managers i with
      podCache := .new
      devPodRec := .new
      hostIP := hostIP i
      abbotPodUID := []
      resPodRec := .new }
  log := []

end Aranya.Pod.System
