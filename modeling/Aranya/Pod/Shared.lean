import Aranya.Lib.Ptr
import Aranya.Pod.Create
import Aranya.Pod.Reconcile
import Aranya.Pod.Sync

namespace Aranya.Pod

open Std (ExtTreeMap)

variable {ρ α : Type}

-- The objects that the informers hold. An informer never changes an object: a new version is another
-- object.
structure World (ρ : Type) where
  rest : ρ
  pods : Nat → Kube.Pod
  nodes : Nat → Kube.Node

def World.lift (w : World ρ) (f : ρ → ρ × α) : World ρ × α :=
  ({ w with rest := (f w.rest).fst }, (f w.rest).snd)

-- As `Cluster`, but pods and nodes are returned as pointers to the objects of the informers or, if there
-- are none, to those which the API server returns.
structure Informers (ρ : Type) where
  getPod : ρ → (name : Bytes) → ρ × Option (Ptr Kube.Pod)
  updatePodStatus : ρ → Kube.Pod → ρ × Option Kube.ApiError
  getNode : ρ → ρ × Option (Ptr Kube.Node)
  updateNodeStatus : ρ → Kube.Node → ρ × Except Kube.ApiError Kube.Node
  getClaim : ρ → (claimName : Bytes) → ρ × Except Bytes Bytes
  getVolume : ρ → (volumeName : Bytes) → ρ × Except Bytes (Option (Bytes × Bytes))
  parseCIDR : Bytes → Option IPFamily

def Informers.cluster (k : Informers ρ) : Cluster (World ρ) where
  getPod w name := (w.lift (k.getPod · name)).map id (·.map (·.deref w.pods))
  updatePodStatus w pod := w.lift (k.updatePodStatus · pod)
  getNode w := (w.lift k.getNode).map id (·.map (·.deref w.nodes))
  updateNodeStatus w node := w.lift (k.updateNodeStatus · node)
  getClaim w claimName := w.lift (k.getClaim · claimName)
  getVolume w volumeName := w.lift (k.getVolume · volumeName)
  parseCIDR := k.parseCIDR

def Resolver.lift (r : Resolver ρ) : Resolver (World ρ) where
  hasPodCIDR w := r.hasPodCIDR w.rest
  resolveEnv pod ctr w := w.lift (r.resolveEnv pod ctr)
  resolveImagePullAuthConfig pod w := w.lift (r.resolveImagePullAuthConfig pod)
  resolveVolumeData pod w := w.lift (r.resolveVolumeData pod)
  resolveDNSSettings pod w := w.lift (r.resolveDNSSettings pod)
  networkRequest pod dnsConfig w := w.lift (r.networkRequest pod dnsConfig)
  prepareStorage pod inUse w := w.lift (r.prepareStorage pod inUse)

-- The functions of the manager which change pods and nodes in place. The pods in the cache are copies.
namespace Shared

variable (k : Informers ρ)

def podOf (m : Manager (World ρ)) (p : Ptr Kube.Pod) : Kube.Pod :=
  p.deref m.cluster.pods

def nodeOf (m : Manager (World ρ)) (p : Ptr Kube.Node) : Kube.Node :=
  p.deref m.cluster.nodes

def setStatus (m : Manager (World ρ)) (p : Ptr Kube.Pod) (status : Kube.PodStatus) :
    Manager (World ρ) × Ptr Kube.Pod :=
  let (pods, p) := p.assign m.cluster.pods { podOf m p with status := status }
  ({ m with cluster := { m.cluster with pods := pods } }, p)

def setVolumes (m : Manager (World ρ)) (p : Ptr Kube.Node) (inUse : List Bytes)
    (attached : List Kube.AttachedVolume) : Manager (World ρ) × Ptr Kube.Node :=
  let (nodes, p) := p.assign m.cluster.nodes
    { nodeOf m p with volumesInUse := inUse, volumesAttached := attached }
  ({ m with cluster := { m.cluster with nodes := nodes } }, p)

def getNode (m : Manager (World ρ)) : Manager (World ρ) × Option (Ptr Kube.Node) :=
  let (w, p) := m.cluster.lift k.getNode
  ({ m with cluster := w }, p)

def getPod (m : Manager (World ρ)) (name : Bytes) : Manager (World ρ) × Option (Ptr Kube.Pod) :=
  match m.cluster.lift (k.getPod · name) with
  | (w, none) => ({ m with cluster := w }, none)
  | (w, some p) =>
    let pod := p.deref w.pods
    ({ m with
       cluster := w
       podCache := if pod.name = m.nodeName then m.podCache.delete pod.uid else m.podCache.update pod },
     some p)

def tryUpdateStatus : Nat → Manager (World ρ) → Ptr Kube.Pod →
    Manager (World ρ) × Ptr Kube.Pod × List Event × Bool
  | 0, m, p => (m, p, [], false)
  | n + 1, m, p =>
    match m.cluster.lift (k.updatePodStatus · (podOf m p)) with
    | (w, none) => ({ m with cluster := w }, p, [.podStatus (podOf m p)], false)
    | (w, some .notFound) => ({ m with cluster := w }, p, [], true)
    | (w, some (.other _)) =>
      match getPod k { m with cluster := w } (podOf m p).name with
      | (m, none) => tryUpdateStatus n m p
      | (m, some newPod) =>
        let (m, newPod) := setStatus m newPod (podOf m p).status
        tryUpdateStatus n m newPod

def updatePodStatus (m : Manager (World ρ)) (p : Ptr Kube.Pod) :
    Manager (World ρ) × List Event × Except Failure (Ptr Kube.Pod) :=
  match tryUpdateStatus k Manager.tryCount m p with
  | (m, _, log, true) => (m, log, .error (.api .notFound))
  | (m, p, log, false) =>
    match getPod k m (podOf m p).name with
    | (m', none) => (m', log, .error (Manager.podNotFound (podOf m p).name))
    | (m, some newPod) => (m, log, .ok newPod)

def updateMirrorPod (m : Manager (World ρ)) (p : Ptr Kube.Pod)
    (devicePodStatus : Option Runtime.PodStatusMsg) (forInitContainers : Bool) :
    Manager (World ρ) × Ptr Kube.Pod × List Event × Option Failure :=
  match Manager.mirrored k.parseCIDR (podOf m p) devicePodStatus forInitContainers with
  | none => (m, p, [], some .panic)
  | some status =>
    let (m, p) := setStatus m p status
    match updatePodStatus k m p with
    | (m, log, .error e) => (m, p, log, some e)
    | (m, log, .ok _) => (m, p, log, none)

end Shared

namespace Shared

variable (k : Informers ρ) (r : Resolver ρ) (a : Replies)

def call (f : Manager (World ρ) → Manager (World ρ) × α) : CreateM (World ρ) α :=
  Manager.call fun m =>
    let (m, result) := f m
    (m, [], result)

def mountVolumes (pod : Kube.Pod) (volNames : VolumeNames) : CreateM (World ρ) Unit := do
  let some p ← call (getNode k) | Manager.fail (.error (str "failed to get node"))
  let node := nodeOf (← get).mgr p
  let some (inUse, attached) := addVolumesInUse node.volumesInUse node.volumesAttached volNames
    | Manager.fail .panic
  let p ← call (setVolumes · p inUse attached)
  let node ← Manager.ofExcept [] (← Manager.call fun m => m.updateNodeStatus k.cluster (nodeOf m p))
  let some pod := keepPVCAndInlineCSIOnly pod | Manager.fail .panic
  Manager.require (str "failed to setup storage: ") (r.lift.prepareStorage pod node.volumesInUse)

def setupStorage (pod : Kube.Pod) : CreateM (World ρ) VolumeNames := do
  let volNames ← call (·.getUniqueVolumeNamesAndPaths k.cluster pod)
  let volNames ← Manager.ofExcept (str "failed to get unique volume names: ") volNames
  if !volNames.isEmpty then
    mountVolumes k r pod volNames
  return volNames

def mark (name : Bytes) (status : Kube.Pod → Option Kube.PodStatus) : CreateM (World ρ) (Ptr Kube.Pod) := do
  match ← call (getPod k · name) with
  | none => Manager.fail (Manager.podNotFound name)
  | some p =>
    match status (podOf (← get).mgr p) with
    | none => Manager.fail .panic
    | some status =>
      let p ← call (setStatus · p status)
      Manager.ofExcept [] (← Manager.call (updatePodStatus k · p))

def markCreating (name : Bytes) : CreateM (World ρ) (Ptr Kube.Pod) :=
  mark k name fun pod =>
    let (phase, statuses) := newContainerCreatingStatus pod
    some { pod.status with phase := phase, containerStatuses := statuses }

def markInitializing (name : Bytes) : CreateM (World ρ) (Ptr Kube.Pod) :=
  mark k name fun pod =>
    (newContainerInitializingStatus pod).map fun (phase, statuses) =>
      { pod.status with phase := phase, initContainerStatuses := statuses }

structure EnsureState (ρ : Type) extends CreateState (World ρ) where
  pod : Ptr Kube.Pod
  err : Option Failure

namespace EnsureState

def mirror (s : EnsureState ρ) (devicePodStatus : Option Runtime.PodStatusMsg) (forInitContainers : Bool) :
    EnsureState ρ × Bool :=
  if (Manager.mirrored k.parseCIDR (podOf s.mgr s.pod) devicePodStatus forInitContainers).isNone then
    ({ s with err := some .panic }, true)
  else
    let (mgr, pod, log, _) := updateMirrorPod k s.mgr s.pod devicePodStatus forInitContainers
    ({ s with mgr := mgr, log := s.log ++ log.map .api, pod := pod }, false)

def onError (s : EnsureState ρ) (e : ErrorMsg) (status : Kube.PodStatus) : EnsureState ρ × Bool :=
  let (mgr, pod) := setStatus s.mgr s.pod status
  let (s, _) := { s with mgr := mgr, pod := pod }.mirror k none false
  ({ s with err := some (.device e) }, true)

def onInitMsg (s : EnsureState ρ) : Runtime.Reply → EnsureState ρ × Bool
  | .error e =>
    let pod := podOf s.mgr s.pod
    let (phase, statuses) := newContainerErrorStatus pod
    s.onError k e { pod.status with phase := phase, initContainerStatuses := statuses }
  | .podStatus ps =>
    let s := { s with log := s.log ++ [CreateEvent.received .init ps] }
    s.mirror k (some ps) true
  | _ => (s, true)

def onWorkMsg (s : EnsureState ρ) : Runtime.Reply → EnsureState ρ × Bool
  | .error e =>
    if e.kind = .alreadyExists then
      (s, true)
    else
      let pod := podOf s.mgr s.pod
      let (phase, statuses) := newContainerErrorStatus pod
      s.onError k e { pod.status with phase := phase, containerStatuses := statuses }
  | .podStatus ps =>
    let s := { s with log := s.log ++ [CreateEvent.received .work ps] }
    s.mirror k (some ps) false
  | _ => (s, true)

end EnsureState

def ensureContainers (group : Group) (onMsg : EnsureState ρ → Runtime.Reply → EnsureState ρ × Bool)
    (p : Ptr Kube.Pod) (cmd : Runtime.PodEnsureCmd) : CreateM (World ρ) Unit := do
  Manager.record (.ensure group cmd)
  match a.ensure group with
  | .error e => Manager.fail (.error e)
  | .ok replies =>
    let err ← modifyGet fun s =>
      let s := handleMessages onMsg { s with pod := p, err := none } replies
      (s.err, s.toCreateState)
    match err with
    | some e => Manager.fail e
    | none => return

def execGroup (group : Group) (p : Ptr Kube.Pod) (cmd : Runtime.PodEnsureCmd) :
    CreateM (World ρ) (Ptr Kube.Pod) := do
  match handleContainerAsHostExec (a.host group) cmd with
  | .error e => Manager.fail (.error (str "failed to handle work container as host exec: " ++ e))
  | .ok (commands, podStatus) =>
    Manager.record (.hostExec group commands)
    Manager.record (.received group podStatus)
    let latestPod ← call fun m => getPod k m (podOf m p).name
    let (p, err) ← Manager.call fun m =>
      let (m, p, log, err) := updateMirrorPod k m (latestPod.getD p) (some podStatus) false
      (m, log, (p, err))
    match err with
    | some .panic => Manager.fail .panic
    | some _ => throw none
    | none => return p

def createInit (opts : CreateOptions) (p : Ptr Kube.Pod) : CreateM (World ρ) (Ptr Kube.Pod) := do
  match opts.initOpts with
  | none => return p
  | some cmd =>
    let p ← markInitializing k (podOf (← get).mgr p).name
    if opts.initHostExec then
      execGroup k a .init p cmd
    else
      ensureContainers a .init (EnsureState.onInitMsg k) p cmd
      return p

def createWork (opts : CreateOptions) (p : Ptr Kube.Pod) : CreateM (World ρ) Unit := do
  if opts.workHostExec then
    let _ ← execGroup k a .work p opts.workOpts
  else
    ensureContainers a .work (EnsureState.onWorkMsg k) p opts.workOpts

def resolveOptions (pod : Kube.Pod) : CreateM (World ρ) CreateOptions := do
  if !(← Manager.ask fun c => (c, r.lift.hasPodCIDR c)) && !pod.hostNetwork then
    Manager.fail (.error (str "pod cidr does not exists"))
  let resolved ← Manager.resolvePod r.lift pod
  let storageEnabled := (← get).mgr.mountPath.isSome
  let volNames ← if storageEnabled then setupStorage k r pod else pure (∅ : VolumeNames)
  Manager.generateOptions r.lift pod resolved storageEnabled volNames

def prepareCreation (opts : CreateOptions) (pod : Kube.Pod) : CreateM (World ρ) (Ptr Kube.Pod) := do
  let p ← if opts.initOpts.isNone then markCreating k pod.name else pure (.own pod)
  if !opts.images.isEmpty then
    Manager.pullImages a opts.images
  return p

-- The pod is a copy from the cache.
def createDevicePod (pod : Kube.Pod) : CreateM (World ρ) Unit := do
  let opts ← resolveOptions k r pod
  let p ← prepareCreation k a opts pod
  let p ← createInit k a opts p
  let p ← markCreating k (podOf (← get).mgr p).name
  createWork k a opts p

def runCreateDevicePod (m : Manager (World ρ)) (pod : Kube.Pod) :
    Manager (World ρ) × List CreateEvent × Option Failure :=
  match (createDevicePod k r a pod).run { mgr := m, log := [] } with
  | (.ok (), s) => (s.mgr, s.log, none)
  | (.error e, s) => (s.mgr, s.log, e)

-- The pods in `SyncDevicePods` are copies from the cache as well.

def mirror (s : SyncState (World ρ)) (pod : Kube.Pod) (ps : Runtime.PodStatusMsg) : SyncState (World ρ) :=
  let (mgr, _, log, _) := updateMirrorPod k s.mgr (.own pod) (some ps) false
  { s with mgr := mgr, log := s.log ++ log }

def syncPod (s : SyncState (World ρ)) (ps : Runtime.PodStatusMsg) : SyncState (World ρ) × Bool :=
  if ps.uid = [] then
    (s, true)
  else
    match s.mgr.podCache.getByID ps.uid with
    | none => ({ s with mgr := s.mgr.deleteStale ps.uid }, true)
    | some pod =>
      if (mirrorStatus k.parseCIDR pod ps false).isNone then
        ({ s with err := some .panic }, true)
      else
        (mirror k s pod ps).addVolumes k.cluster pod

def onSyncMsg (s : SyncState (World ρ)) : Runtime.Reply → SyncState (World ρ) × Bool
  | .error e => ({ s with err := some (.device e) }, true)
  | .podStatusList pods => loop (syncPod k) s pods
  | _ => (s, true)

def updateVolumesInUse (s : SyncState (World ρ)) : Manager (World ρ) × List Event × Option Failure :=
  if s.volumeInUse = [] then
    (s.mgr, s.log, none)
  else
    match getNode k s.mgr with
    | (m, none) => (m, s.log, some (.error (str "failed to get node")))
    | (m, some p) =>
      let (m, p) := setVolumes m p s.volumeInUse s.volumeAttached
      match m.updateNodeStatus k.cluster (nodeOf m p) with
      | (m, log, .error e) => (m, s.log ++ log, some e)
      | (m, log, .ok _) => (m, s.log ++ log, none)

def syncDevicePods (m : Manager (World ρ)) (replies : Except Bytes (List Runtime.Reply)) :
    Manager (World ρ) × List Event × Option Failure :=
  match replies with
  | .error e => (m, [], some (.error e))
  | .ok replies =>
    let s := handleMessages (onSyncMsg k) (.new m) replies
    match s.err with
    | some e => (s.mgr, s.log, some e)
    | none => updateVolumesInUse k s

variable (i : Nat) (ans : Answers)

def releaseVolumes (pod : Kube.Pod) : ReconcileM (World ρ) Unit := do
  let volNames ← System.ofFailure (← System.call i (·.getUniqueVolumeNamesAndPaths k.cluster pod))
  if !volNames.isEmpty then
    let some p ← System.call i (getNode k) | System.returnErr (str "failed to get node")
    let node := nodeOf (← System.manager i).toManager p
    let some (inUse, attached) := removeVolumeInUse node.volumesInUse node.volumesAttached volNames
      | System.panic
    let p ← System.call i (setVolumes · p inUse attached)
    let node := nodeOf (← System.manager i).toManager p
    if let .error e ← System.ask i (k.cluster.updateNodeStatus · node) then
      System.returnErr (apiErrorText e)

def onRemotePodDeleted (podUID : Bytes) : ReconcileM (World ρ) Unit := do
  match (← System.manager i).podCache.getByID podUID with
  | none => System.returnNil
  | some pod =>
    releaseVolumes k i pod
    System.cleanupStorage i ans pod
    System.deletePod ans.deletePod podUID pod.name
    System.modifyManager i fun m => { m with podCache := m.podCache.delete podUID }

end Shared
end Aranya.Pod
