import Aranya.Pod.Translate

namespace Aranya.Pod

open Std (ExtTreeMap)

inductive Group
  | init
  | work
  deriving DecidableEq, Repr

inductive CreateEvent
  | api (e : Event)
  | pull (images : ExtTreeMap Bytes Runtime.ImagePullSpec)
  | ensure (group : Group) (cmd : Runtime.PodEnsureCmd)
  | hostExec (group : Group) (commands : List (List Bytes))
  | received (group : Group) (ps : Runtime.PodStatusMsg)

structure Resolver (ρ : Type*) where
  hasPodCIDR : ρ → Bool
  resolveEnv : Kube.Pod → Kube.Container → ρ → ρ × Except Bytes Env
  resolveImagePullAuthConfig : Kube.Pod → ρ → ρ × Except Bytes (ExtTreeMap Bytes Runtime.ImageAuthConfig)
  resolveVolumeData : Kube.Pod → ρ → ρ × Except Bytes (ExtTreeMap Bytes Runtime.NamedData)
  resolveDNSSettings : Kube.Pod → ρ → ρ × Except Bytes PodDNSConfig
  networkRequest : Kube.Pod → PodDNSConfig → ρ → ρ × Except Bytes Bytes
  prepareStorage : Kube.Pod → (volumesInUse : List Bytes) → ρ → ρ × Except Bytes Unit

-- An error if a command cannot be posted, otherwise all messages that are sent until the session ends.
structure Replies where
  images : Except Bytes (List Runtime.Reply)
  ensure : Group → Except Bytes (List Runtime.Reply)
  host : Group → Host

structure Resolved where
  envs : ExtTreeMap Bytes Env
  authConfigs : ExtTreeMap Bytes Runtime.ImageAuthConfig
  volumeData : ExtTreeMap Bytes Runtime.NamedData
  dnsConfig : PodDNSConfig

structure CreateState (ρ : Type) where
  mgr : Manager ρ
  log : List CreateEvent

-- The statements of `CreateDevicePod`. An exception stands for a return statement with its result.
abbrev CreateM (ρ : Type) := ExceptT (Option Failure) (StateM (CreateState ρ))

namespace Manager

variable {ρ : Type} {α : Type} (k : Cluster ρ) (r : Resolver ρ) (a : Replies)

def record (e : CreateEvent) : CreateM ρ Unit :=
  modify fun s => { s with log := s.log ++ [e] }

def call (f : Manager ρ → Manager ρ × List Event × α) : CreateM ρ α :=
  modifyGet fun s =>
    let (mgr, log, result) := f s.mgr
    (result, { mgr := mgr, log := s.log ++ log.map .api })

def ask (f : ρ → ρ × α) : CreateM ρ α :=
  call fun m =>
    let (cluster, result) := f m.cluster
    ({ m with cluster := cluster }, [], result)

def fail (e : Failure) : CreateM ρ α :=
  throw (some e)

def require (text : Bytes) (f : ρ → ρ × Except Bytes α) : CreateM ρ α := do
  match ← ask f with
  | .error e => fail (.error (text ++ e))
  | .ok a => return a

def ofExcept (text : Bytes) : Except Failure α → CreateM ρ α
  | .ok result => return result
  | .error e => fail (e.wrap text)

def resolveEnvs (pod : Kube.Pod) :
    ExtTreeMap Bytes Env → List Kube.Container → CreateM ρ (ExtTreeMap Bytes Env)
  | envs, [] => return envs
  | envs, ctr :: cs => do
    let ctrEnv ← require [] (r.resolveEnv pod ctr)
    resolveEnvs pod (envs.insert ctr.name ctrEnv) cs

def resolvePod (pod : Kube.Pod) : CreateM ρ Resolved := do
  let envs ← resolveEnvs r pod ∅ pod.containers
  let authConfigs ← require [] (r.resolveImagePullAuthConfig pod)
  let volumeData ← require [] (r.resolveVolumeData pod)
  let dnsConfig ← require (str "failed to resolve dns settings: ") (r.resolveDNSSettings pod)
  return { envs := envs, authConfigs := authConfigs, volumeData := volumeData, dnsConfig := dnsConfig }

def mountVolumes (pod : Kube.Pod) (volNames : VolumeNames) : CreateM ρ Unit := do
  let some node ← ask k.getNode | fail (.error (str "failed to get node"))
  let some (inUse, attached) := addVolumesInUse node.volumesInUse node.volumesAttached volNames
    | fail .panic
  let node := { node with volumesInUse := inUse, volumesAttached := attached }
  let node ← ofExcept [] (← call (·.updateNodeStatus k node))
  let some pod := keepPVCAndInlineCSIOnly pod | fail .panic
  require (str "failed to setup storage: ") (r.prepareStorage pod node.volumesInUse)

def setupStorage (pod : Kube.Pod) : CreateM ρ VolumeNames := do
  let volNames ← call fun m =>
    let (m, volNames) := m.getUniqueVolumeNamesAndPaths k pod
    (m, [], volNames)
  let volNames ← ofExcept (str "failed to get unique volume names: ") volNames
  if !volNames.isEmpty then
    mountVolumes k r pod volNames
  return volNames

-- Writes a new status for the latest version of a pod. This panics if there is none.
def mark (name : Bytes) (status : Kube.Pod → Option Kube.PodStatus) : CreateM ρ Kube.Pod := do
  match ← call fun m => let (m, pod) := m.getPod k name; (m, [], pod) with
  | none => fail (podNotFound name)
  | some pod =>
    match status pod with
    | none => fail .panic
    | some status => ofExcept [] (← call (·.updatePodStatus k { pod with status := status }))

def markCreating (name : Bytes) : CreateM ρ Kube.Pod :=
  mark k name fun pod =>
    let (phase, statuses) := newContainerCreatingStatus pod
    some { pod.status with phase := phase, containerStatuses := statuses }

def markInitializing (name : Bytes) : CreateM ρ Kube.Pod :=
  mark k name fun pod =>
    (newContainerInitializingStatus pod).map fun (phase, statuses) =>
      { pod.status with phase := phase, initContainerStatuses := statuses }

-- A reply to the command that pulls the images. An unexpected one counts as success.
def onImageMsg (_ : Option Failure) : Runtime.Reply → Option Failure × Bool
  | .error e => (some (.device e), true)
  | .imageList _ => (none, false)
  | _ => (none, true)

def pullImages (images : ExtTreeMap Bytes Runtime.ImagePullSpec) : CreateM ρ Unit := do
  record (.pull images)
  match a.images with
  | .error e => fail (.error e)
  | .ok replies =>
    match handleMessages onImageMsg none replies with
    | some e => fail e
    | none => return

end Manager

structure EnsureState (ρ : Type) extends CreateState ρ where
  pod : Kube.Pod
  err : Option Failure

namespace EnsureState

variable {ρ : Type} (k : Cluster ρ)

-- The status of the captured pod itself is changed.
def mirror (s : EnsureState ρ) (devicePodStatus : Option Runtime.PodStatusMsg)
    (forInitContainers : Bool) : EnsureState ρ × Bool :=
  match Manager.mirrored k.parseCIDR s.pod devicePodStatus forInitContainers with
  | none => ({ s with err := some .panic }, true)
  | some status =>
    let (mgr, log, _) := s.mgr.updateMirrorPod k (some s.pod) devicePodStatus forInitContainers
    ({ s with mgr := mgr, log := s.log ++ log.map .api, pod := { s.pod with status := status } }, false)

def onError (s : EnsureState ρ) (e : ErrorMsg) (status : Kube.PodStatus) : EnsureState ρ × Bool :=
  let (s, _) := { s with pod := { s.pod with status := status } }.mirror k none false
  ({ s with err := some (.device e) }, true)

def onInitMsg (s : EnsureState ρ) : Runtime.Reply → EnsureState ρ × Bool
  | .error e =>
    let (phase, statuses) := newContainerErrorStatus s.pod
    s.onError k e { s.pod.status with phase := phase, initContainerStatuses := statuses }
  | .podStatus ps =>
    let s := { s with log := s.log ++ [CreateEvent.received .init ps] }
    s.mirror k (some ps) true
  | _ => (s, true)

def onWorkMsg (s : EnsureState ρ) : Runtime.Reply → EnsureState ρ × Bool
  | .error e =>
    if e.kind = .alreadyExists then
      (s, true)
    else
      let (phase, statuses) := newContainerErrorStatus s.pod
      s.onError k e { s.pod.status with phase := phase, containerStatuses := statuses }
  | .podStatus ps =>
    let s := { s with log := s.log ++ [CreateEvent.received .work ps] }
    s.mirror k (some ps) false
  | _ => (s, true)

end EnsureState

namespace Manager

variable {ρ : Type} (k : Cluster ρ) (r : Resolver ρ) (a : Replies)

def ensureContainers (group : Group) (onMsg : EnsureState ρ → Runtime.Reply → EnsureState ρ × Bool)
    (pod : Kube.Pod) (cmd : Runtime.PodEnsureCmd) : CreateM ρ Unit := do
  record (.ensure group cmd)
  match a.ensure group with
  | .error e => fail (.error e)
  | .ok replies =>
    let err ← modifyGet fun s =>
      let s := handleMessages onMsg { s with pod := pod, err := none } replies
      (s.err, s.toCreateState)
    match err with
    | some e => fail e
    | none => return

-- The statuses are recorded as those of work containers for both groups. If this fails, the creation of the
-- pod ends without an error.
def execGroup (group : Group) (pod : Kube.Pod) (cmd : Runtime.PodEnsureCmd) : CreateM ρ Kube.Pod := do
  match handleContainerAsHostExec (a.host group) cmd with
  | .error e => fail (.error (str "failed to handle work container as host exec: " ++ e))
  | .ok (commands, podStatus) =>
    record (.hostExec group commands)
    record (.received group podStatus)
    let latestPod ← call fun m => let (m, pod) := m.getPod k pod.name; (m, [], pod)
    let pod := latestPod.getD pod
    match ← call (·.updateMirrorPod k (some pod) (some podStatus) false) with
    | some .panic => fail .panic
    | some _ => throw none
    | none => return pod

def createInit (opts : CreateOptions) (pod : Kube.Pod) : CreateM ρ Kube.Pod := do
  match opts.initOpts with
  | none => return pod
  | some cmd =>
    let pod ← markInitializing k pod.name
    if opts.initHostExec then
      execGroup k a .init pod cmd
    else
      ensureContainers a .init (EnsureState.onInitMsg k) pod cmd
      return pod

def createWork (opts : CreateOptions) (pod : Kube.Pod) : CreateM ρ Unit := do
  if opts.workHostExec then
    let _ ← execGroup k a .work pod opts.workOpts
  else
    ensureContainers a .work (EnsureState.onWorkMsg k) pod opts.workOpts

-- The network request is made before anything else is translated.
def generateOptions (pod : Kube.Pod) (resolved : Resolved) (storageEnabled : Bool)
    (volNames : VolumeNames) : CreateM ρ CreateOptions := do
  let netReqBytes ← require (str "failed to generate pod creation options: ")
    (r.networkRequest pod resolved.dnsConfig)
  ofExcept (str "failed to generate pod creation options: ") <|
    translatePodCreateOptions storageEnabled pod resolved.envs resolved.authConfigs resolved.volumeData
      volNames resolved.dnsConfig netReqBytes

def resolveOptions (pod : Kube.Pod) : CreateM ρ CreateOptions := do
  if !(← ask fun c => (c, r.hasPodCIDR c)) && !pod.hostNetwork then
    fail (.error (str "pod cidr does not exists"))
  let resolved ← resolvePod r pod
  let storageEnabled := (← get).mgr.mountPath.isSome
  let volNames ← if storageEnabled then setupStorage k r pod else pure (∅ : VolumeNames)
  generateOptions r pod resolved storageEnabled volNames

def prepareCreation (opts : CreateOptions) (pod : Kube.Pod) : CreateM ρ Kube.Pod := do
  let pod ← if opts.initOpts.isNone then markCreating k pod.name else pure pod
  if !opts.images.isEmpty then
    pullImages a opts.images
  return pod

def createDevicePod (pod : Kube.Pod) : CreateM ρ Unit := do
  let opts ← resolveOptions k r pod
  let pod ← prepareCreation k a opts pod
  let pod ← createInit k a opts pod
  let pod ← markCreating k pod.name
  createWork k a opts pod

def runCreateDevicePod (m : Manager ρ) (pod : Kube.Pod) : Manager ρ × List CreateEvent × Option Failure :=
  match (createDevicePod k r a pod).run { mgr := m, log := [] } with
  | (.ok (), s) => (s.mgr, s.log, none)
  | (.error e, s) => (s.mgr, s.log, e)

end Manager
end Aranya.Pod
