import Aranya.Pod.Translate

namespace Aranya.Pod

-- The objects of the reconciler are pointers to pods.
structure PodManager (ρ : Type) extends Manager ρ where
  hostIP : Bytes
  abbotPodUID : Bytes
  resPodRec : Reconcile.Core Bytes (Option Kube.Pod)

-- A request to delete the pod object with a certain name. It was made for the pod with the given UID, but
-- hits whatever pod has the name.
structure Deletion where
  podUID : Bytes
  name : Bytes
  hit : Option Kube.Pod

-- Virtual nodes are numbered, where a name refers to at most one of them at a time.
structure System (ρ : Type) where
  pods : Bytes → Option Kube.Pod
  edgeDevices : Bytes → Bool
  virtualNodes : Bytes → Option Nat
  managers : Nat → PodManager ρ
  log : List Deletion

-- What the API server and the device answer, and the delay until a failed job is tried again. By default,
-- nothing fails.
structure Answers where
  backoff : Nat := 0
  patchFinalizers : Option Bytes := none
  patchHostIP : Option Bytes := none
  deletePod : Except Kube.ApiError Bool := .ok true
  createDevicePod : Option Bytes := none
  deleteDevicePod : Except Bytes (List Runtime.Reply) := .ok []
  cleanupStorage : Option Bytes := none

inductive Return
  | result (r : Option Reconcile.Result)
  | panic

abbrev ReconcileM (ρ : Type) := ExceptT Return (StateM (System ρ))

def finalizerClusterNetwork : Bytes :=
  str "aranya.arhat.dev/cluster-network"

def finalizerClusterNetworkManager : Bytes :=
  str "aranya.arhat.dev/cluster-network-manager"

def isAbbotPod (pod : Kube.Pod) : Bool :=
  pod.role = str "Abbot" && pod.containers.any (·.name = str "abbot")

def requireClusterNetwork (pod : Kube.Pod) : Bool :=
  !pod.hostNetwork || pod.dnsPolicy = str "ClusterFirstWithHostNet"

def podRequiresRecreation (oldPod newPod : Kube.Pod) : Bool :=
  oldPod.volumes ≠ newPod.volumes || oldPod.securityContext ≠ newPod.securityContext ||
  oldPod.restartPolicy ≠ newPod.restartPolicy ||
  oldPod.serviceAccountName ≠ newPod.serviceAccountName || oldPod.hostNetwork ≠ newPod.hostNetwork ||
  oldPod.hostIPC ≠ newPod.hostIPC || oldPod.hostPID ≠ newPod.hostPID ||
  oldPod.imagePullSecrets ≠ newPod.imagePullSecrets || oldPod.hostname ≠ newPod.hostname ||
  oldPod.hostAliases ≠ newPod.hostAliases || oldPod.dnsPolicy ≠ newPod.dnsPolicy ||
  oldPod.otherSpec ≠ newPod.otherSpec

def jobErrorText : JobError → Bytes
  | .duplicated => str "job duplicat"
  | .conflict => str "job conflict"
  | .counteract => str "job counteract"
  | .invalid => str "job invalid"

def onDeleteMsg (err : Option Bytes) : Runtime.Reply → Option Bytes × Bool
  | .error e => (if e.kind = .notSupported ∨ e.kind = .notFound then none else some e.description, true)
  | _ => (err, false)

namespace PodManager

variable {ρ : Type}

def newManager (nodeName hostIP : Bytes)
    (mountPath : Option ((podUID : Bytes) → (volumeName : Bytes) → Bytes)) (cluster : ρ) : PodManager ρ where
  nodeName := nodeName
  podCache := .new
  devPodRec := .new
  mountPath := mountPath
  cluster := cluster
  hostIP := hostIP
  abbotPodUID := []
  resPodRec := .new

-- The replies are only handled if there is a command to be sent.
def deleteDevicePod (m : PodManager ρ) (podUID : Bytes) (replies : Except Bytes (List Runtime.Reply)) :
    Except Failure Unit := do
  match ← podDeleteCmd podUID (m.podCache.getByID podUID), replies with
  | none, _ => return
  | some _, .error e => throw (.error e)
  | some _, .ok msgs =>
    match handleMessages onDeleteMsg none msgs with
    | some e => throw (.error e)
    | none => return

def lookup (m : PodManager ρ) (pod : Kube.Pod) : PodManager ρ :=
  { m with
    podCache := if pod.name = m.nodeName then m.podCache.delete pod.uid else m.podCache.update pod }

-- The controller hands over a pod. A missing old pod is stored as a `nil` pointer.
def schedulePodJob (m : PodManager ρ) (action : JobAction) (oldPod : Option Kube.Pod)
    (newPod : Kube.Pod) : PodManager ρ × Option JobError :=
  let resPodRec := m.resPodRec.update newPod.uid (some oldPod) (some (some newPod))
  let (resPodRec, err) := resPodRec.schedule ⟨action, newPod.uid⟩
  ({ m with resPodRec := resPodRec }, err)

end PodManager

namespace System

variable {ρ : Type} {α : Type}

def setManager (s : System ρ) (i : Nat) (m : PodManager ρ) : System ρ :=
  { s with managers := Function.update s.managers i m }

def returnResult (r : Reconcile.Result) : ReconcileM ρ α :=
  throw (.result (some r))

def returnErr (text : Bytes) : ReconcileM ρ α :=
  returnResult { err := some text }

def returnNil : ReconcileM ρ α :=
  throw (.result none)

def panic : ReconcileM ρ α :=
  throw .panic

def ofExcept (text : Bytes) : Except Bytes α → ReconcileM ρ α
  | .ok result => return result
  | .error e => returnErr (text ++ e)

def failureText : Failure → Option Bytes
  | .device e => some e.description
  | .api e => some (apiErrorText e)
  | .error text => some text
  | .panic => none

def ofFailure : Except Failure α → ReconcileM ρ α
  | .ok result => return result
  | .error e =>
    match failureText e with
    | some text => returnErr text
    | none => panic

def manager (i : Nat) : ReconcileM ρ (PodManager ρ) :=
  return (← get).managers i

def modifyManager (i : Nat) (f : PodManager ρ → PodManager ρ) : ReconcileM ρ Unit :=
  modify fun s => s.setManager i (f (s.managers i))

def cachePod (i : Nat) (pod : Kube.Pod) : ReconcileM ρ Unit :=
  modifyManager i fun m => { m with podCache := m.podCache.update pod }

-- Requests are made by name.
def patch (err : Option Bytes) (name : Bytes) (f : Kube.Pod → Kube.Pod) :
    ReconcileM ρ (Except Bytes Kube.Pod) := do
  match err, (← get).pods name with
  | some e, _ => return .error e
  | none, none => return .error (apiErrorText .notFound)
  | none, some pod =>
    modify fun s => { s with pods := Function.update s.pods name (some (f pod)) }
    return .ok (f pod)

def deletePod (answer : Except Kube.ApiError Bool) (podUID name : Bytes) : ReconcileM ρ Unit := do
  match answer with
  | .error .notFound => return
  | .error e => returnErr (apiErrorText e)
  | .ok gone =>
    modify fun s => { s with
      pods := if gone then Function.update s.pods name none else s.pods
      log := s.log ++ [⟨podUID, name, s.pods name⟩] }

def updateDevice (i : Nat) (podUID : Bytes) : ReconcileM ρ Unit :=
  modifyManager i fun m => { m with devPodRec := m.devPodRec.update podUID none (some podUID) }

def scheduleDevice (i : Nat) (job : Job Bytes) : ReconcileM ρ Unit := do
  let err ← modifyGet fun s =>
    let (devPodRec, err) := (s.managers i).devPodRec.schedule job
    (err, s.setManager i { s.managers i with devPodRec := devPodRec })
  match err with
  | some e => returnErr (jobErrorText e)
  | none => return

-- This always panics: the new value is a `string`, but the first one was a `types.UID`.
def setAbbotPod (_ : Bytes) : ReconcileM ρ Unit :=
  panic

def ensureFinalizer (err : Option Bytes) (pod : Kube.Pod) (finalizer : Bytes) :
    ReconcileM ρ (Except Bytes Kube.Pod) :=
  if pod.finalizers.contains finalizer then
    return .ok pod
  else
    patch err pod.name fun p => { p with finalizers := p.finalizers ++ [finalizer] }

def removeFinalizer (err : Option Bytes) (pod : Kube.Pod) (finalizer : Bytes) :
    ReconcileM ρ (Except Bytes Kube.Pod) :=
  if !pod.finalizers.contains finalizer then
    return .ok pod
  else
    patch err pod.name fun p => { p with finalizers := p.finalizers.filter (· ≠ finalizer) }

variable (k : Cluster ρ) (i : Nat) (a : Answers)

def abbotPodRequired : Bytes :=
  str "cluster network required, but abbot pod not running"

-- Admits a pod that uses the cluster network, which needs a running abbot pod.
def admitClusterNetworkPod (pod : Kube.Pod) : ReconcileM ρ Unit := do
  let m ← manager i
  if m.abbotPodUID = [] then
    returnErr abbotPodRequired
  match m.podCache.getByID m.abbotPodUID with
  | none => returnErr abbotPodRequired
  | some abbotPod =>
    if abbotPod.status.phase ≠ .running then
      returnErr abbotPodRequired
    let pod ← ofExcept (str "cluster network fianlizer not applied: ") <|
      ← ensureFinalizer a.patchFinalizers pod finalizerClusterNetwork
    cachePod i pod

def admitAbbotPod (pod : Kube.Pod) : ReconcileM ρ Unit := do
  if (← manager i).abbotPodUID ≠ [] then
    returnErr (str "only one abbot pod can be deployed per node")
  let pod ← ofExcept (str "failed to add cluster network manager finalizer for abbot pod: ") <|
    ← ensureFinalizer a.patchFinalizers pod finalizerClusterNetworkManager
  setAbbotPod pod.uid
  cachePod i pod

-- Returns to its caller iff the pod is to be created.
def admitPodCreation (pod : Kube.Pod) : ReconcileM ρ Unit := do
  match pod.status.phase with
  | .running | .succeeded | .failed =>
    cachePod i pod
    returnNil
  | _ =>
    if requireClusterNetwork pod then
      admitClusterNetworkPod i a pod
    else if !isAbbotPod pod then
      cachePod i pod
    else
      admitAbbotPod i a pod

def admitPodDeletion (pod : Kube.Pod) : ReconcileM ρ Unit := do
  if requireClusterNetwork pod then
    if (← manager i).abbotPodUID = [] then
      returnErr (str "cannot delete cluster network pod without abbot pod")
    let _ ← ofExcept [] (← removeFinalizer a.patchFinalizers pod finalizerClusterNetwork)
  else if isAbbotPod pod then
    if (← manager i).podCache.uidIndex.values.any requireClusterNetwork then
      returnErr (str "cannot delete abbot pod when cluster network pod deployed")
    let _ ← ofExcept [] (← removeFinalizer a.patchFinalizers pod finalizerClusterNetworkManager)
    setAbbotPod []

def ensureHostIP (pod : Kube.Pod) : ReconcileM ρ Kube.Pod := do
  let hostIP := (← manager i).hostIP
  if hostIP ≠ [] ∧ pod.status.hostIP ≠ hostIP then
    ofExcept [] <| ← patch a.patchHostIP pod.name fun p =>
      { p with status := { p.status with hostIP := hostIP } }
  else
    return pod

-- The old pod is a `nil` pointer if a deletion of the same pod has been scheduled in the meantime.
def onResourcePodUpdated (oldPod : Option Kube.Pod) (newPod : Kube.Pod) : ReconcileM ρ Unit := do
  if newPod.name = (← manager i).nodeName then
    returnNil
  admitPodCreation i a newPod
  if ((← manager i).podCache.getByID newPod.uid).isNone then
    returnNil
  let newPod ← ensureHostIP i a newPod
  cachePod i newPod
  if ((← manager i).devPodRec.get newPod.uid).snd.isNone then
    updateDevice i newPod.uid
    scheduleDevice i ⟨.add, newPod.uid⟩
  match oldPod with
  | none => panic
  | some oldPod =>
    if podRequiresRecreation oldPod newPod then
      scheduleDevice i ⟨.update, newPod.uid⟩

def onResourcePodDeleting (pod : Kube.Pod) : ReconcileM ρ Unit := do
  if ((← manager i).podCache.getByID pod.uid).isNone then
    deletePod a.deletePod pod.uid pod.name
    returnNil
  admitPodDeletion i a pod
  updateDevice i pod.uid
  scheduleDevice i ⟨.delete, pod.uid⟩

def onResourcePodDeleted (pod : Kube.Pod) : ReconcileM ρ Unit := do
  if pod.name = (← manager i).nodeName then
    returnNil
  returnResult { nextAction := .delete }

def onRemotePodCreationRequested (podUID : Bytes) : ReconcileM ρ Unit := do
  if ((← manager i).podCache.getByID podUID).isNone then
    returnNil
  if let some e := a.createDevicePod then
    returnErr e

def onRemotePodUpdateRequested (podUID : Bytes) : ReconcileM ρ Unit := do
  let m ← manager i
  if (m.podCache.getByID podUID).isNone then
    returnNil
  ofFailure (m.deleteDevicePod podUID a.deleteDevicePod)
  if a.createDevicePod.isSome then
    returnResult { nextAction := .add }

def onRemotePodDeletionRequested (podUID : Bytes) : ReconcileM ρ Unit := do
  ofFailure ((← manager i).deleteDevicePod podUID a.deleteDevicePod)
  modifyManager i fun m => { m with podCache := m.podCache.markDeletedInRemote podUID true }
  returnResult { nextAction := .cleanup }

def call (f : Manager ρ → Manager ρ × α) : ReconcileM ρ α :=
  modifyGet fun s =>
    let (m, result) := f (s.managers i).toManager
    (result, s.setManager i { s.managers i with toManager := m })

def ask (f : ρ → ρ × α) : ReconcileM ρ α :=
  call i fun m =>
    let (cluster, result) := f m.cluster
    ({ m with cluster := cluster }, result)

def releaseVolumes (pod : Kube.Pod) : ReconcileM ρ Unit := do
  let volNames ← ofFailure (← call i (·.getUniqueVolumeNamesAndPaths k pod))
  if !volNames.isEmpty then
    let some node ← ask i k.getNode | returnErr (str "failed to get node")
    let some (inUse, attached) := removeVolumeInUse node.volumesInUse node.volumesAttached volNames
      | panic
    let node := { node with volumesInUse := inUse, volumesAttached := attached }
    if let .error e ← ask i (k.updateNodeStatus · node) then
      returnErr (apiErrorText e)

def cleanupStorage (pod : Kube.Pod) : ReconcileM ρ Unit := do
  if (← manager i).mountPath.isSome then
    if (keepPVCAndInlineCSIOnly pod).isNone then
      panic
    if let some e := a.cleanupStorage then
      returnErr e

def onRemotePodDeleted (podUID : Bytes) : ReconcileM ρ Unit := do
  match (← manager i).podCache.getByID podUID with
  | none => returnNil
  | some pod =>
    releaseVolumes k i pod
    cleanupStorage i a pod
    deletePod a.deletePod podUID pod.name
    modifyManager i fun m => { m with podCache := m.podCache.delete podUID }

-- A `nil` pointer panics as soon as it is used.
def handleResource (action : JobAction) (previous current : Option Kube.Pod) : ReconcileM ρ Unit :=
  match action, current with
  | .invalid, _ | .add, _ => return
  | _, none => panic
  | .update, some pod => onResourcePodUpdated i a previous pod
  | .delete, some pod => onResourcePodDeleting i a pod
  | .cleanup, some pod => onResourcePodDeleted i pod

def handleDevice (action : JobAction) (podUID : Bytes) : ReconcileM ρ Unit :=
  match action with
  | .invalid => return
  | .add => onRemotePodCreationRequested i a podUID
  | .update => onRemotePodUpdateRequested i a podUID
  | .delete => onRemotePodDeletionRequested i a podUID
  | .cleanup => onRemotePodDeleted k i a podUID

def run (handler : ReconcileM ρ Unit) (s : System ρ) : Option (System ρ × Option Reconcile.Result) :=
  match handler.run s with
  | (.ok (), s) => some (s, none)
  | (.error (.result r), s) => some (s, r)
  | (.error .panic, _) => none

def handleResourceJob (s : System ρ) (job : Job Bytes) : Option (System ρ) :=
  let m := s.managers i
  if job ∉ m.resPodRec.working then
    none
  else
    match m.resPodRec.objects job.key with
    | none =>
      let resPodRec := m.resPodRec.handleResult job Reconcile.resultCacheNotFound a.backoff
      some (s.setManager i { m with resPodRec := resPodRec })
    | some (previous, current) =>
      (run (handleResource i a job.action previous current) s).map fun (s, result) =>
        let m := s.managers i
        s.setManager i { m with resPodRec := m.resPodRec.finish job result a.backoff }

def handleDeviceJob (s : System ρ) (job : Job Bytes) : Option (System ρ) :=
  let m := s.managers i
  if job ∉ m.devPodRec.working then
    none
  else
    match m.devPodRec.objects job.key with
    | none =>
      let devPodRec := m.devPodRec.handleResult job Reconcile.resultCacheNotFound a.backoff
      some (s.setManager i { m with devPodRec := devPodRec })
    | some (_, podUID) =>
      (run (handleDevice k i a job.action podUID) s).map fun (s, result) =>
        let m := s.managers i
        s.setManager i { m with devPodRec := m.devPodRec.finish job result a.backoff }

end System
end Aranya.Pod
