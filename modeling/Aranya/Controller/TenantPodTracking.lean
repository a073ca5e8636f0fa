import Aranya.Controller.TenantPod

namespace Aranya.Pod

open Std (ExtTreeSet)

structure Tracking (ρ : Type) where
  system : System ρ
  tenantPods : ExtTreeSet Bytes
  ensureRequests : Nat
  existing : Bytes → Option Kube.Pod

namespace Tracking

variable {ρ : Type}

def addTenantPod (tenantPods : ExtTreeSet Bytes) (name : Bytes) : ExtTreeSet Bytes × Bool :=
  (tenantPods.insert name, tenantPods.size < (tenantPods.insert name).size)

-- The name is inserted, not deleted.
def removeTenantPod (tenantPods : ExtTreeSet Bytes) (name : Bytes) : ExtTreeSet Bytes × Bool :=
  (tenantPods.insert name, tenantPods.size > (tenantPods.insert name).size)

-- The error of the request is an answer of the queue of the role reconciler.
def requestTenantPodRoleEnsure (s : Tracking ρ) (err : Option Bytes) : Tracking ρ × Option Bytes :=
  ({ s with ensureRequests := s.ensureRequests + 1 }, err)

def onTenantPodAdded (err : Option Bytes) (s : Tracking ρ) (pod : Kube.Pod) :
    Tracking ρ × Option Reconcile.Result :=
  if s.system.edgeDevices pod.name then
    (s, none)
  else if !s.system.edgeDevices pod.nodeName then
    (s, none)
  else
    let s := { s with tenantPods := (addTenantPod s.tenantPods pod.name).fst }
    match s.requestTenantPodRoleEnsure err with
    | (s, some e) => (s, some { err := some e })
    | (s, none) => (s, some { nextAction := .update, scheduleAfter := 3 * 10 ^ 9 })

-- Only updated pods are added to the names.
def onTenantPodUpdated (s : Tracking ρ) (oldPod newPod : Kube.Pod) : Tracking ρ × Option Reconcile.Result :=
  let (system, result) := s.system.onTenantPodUpdated oldPod newPod
  if !s.system.edgeDevices newPod.name && s.system.edgeDevices newPod.nodeName then
    ({ s with system := system, tenantPods := (addTenantPod s.tenantPods newPod.name).fst }, result)
  else
    ({ s with system := system }, result)

def onTenantPodDeleting (s : Tracking ρ) (pod : Kube.Pod) : Tracking ρ × Option Reconcile.Result :=
  let (system, result) := s.system.onTenantPodDeleting pod
  ({ s with system := system }, result)

def onTenantPodDeleted (err : Option Bytes) (s : Tracking ρ) (pod : Kube.Pod) :
    Tracking ρ × Option Reconcile.Result :=
  if s.system.edgeDevices pod.name then
    (s, none)
  else if !s.system.edgeDevices pod.nodeName then
    (s, none)
  else
    let (tenantPods, removed) := removeTenantPod s.tenantPods pod.name
    let s := { s with tenantPods := tenantPods }
    let (s, err) := if removed then s.requestTenantPodRoleEnsure err else (s, none)
    match err with
    | some e => (s, some { err := some e })
    | none =>
      let (system, result) := s.system.onTenantPodDeleted pod
      ({ s with system := system }, result)

inductive Event (ρ : Type)
  | added (pod : Kube.Pod) (err : Option Bytes)
  | updated (oldPod newPod : Kube.Pod)
  | deleting (pod : Kube.Pod)
  | deleted (pod : Kube.Pod) (err : Option Bytes)
  | other (system : System ρ)

def tell (s : Tracking ρ) (name : Bytes) (pod : Option Kube.Pod) : Tracking ρ :=
  { s with existing := Function.update s.existing name pod }

def step (s : Tracking ρ) : Event ρ → Option (Tracking ρ)
  | .added pod err => some ((s.onTenantPodAdded err pod).fst.tell pod.name (some pod))
  | .updated oldPod newPod => some ((s.onTenantPodUpdated oldPod newPod).fst.tell newPod.name (some newPod))
  | .deleting pod => some ((s.onTenantPodDeleting pod).fst.tell pod.name (some pod))
  | .deleted pod err => some ((s.onTenantPodDeleted err pod).fst.tell pod.name none)
  | .other system => some { s with system := { system with edgeDevices := s.system.edgeDevices } }

end Tracking
end Aranya.Pod
