import Aranya.Pod.Status
import Aranya.Pod.Volume
import Aranya.Reconcile.Core
import Aranya.Util.PodCache

namespace Aranya.Pod

structure Cluster (ρ : Type*) where
  getPod : ρ → (name : Bytes) → ρ × Option Kube.Pod
  updatePodStatus : ρ → Kube.Pod → ρ × Option Kube.ApiError
  getNode : ρ → ρ × Option Kube.Node
  updateNodeStatus : ρ → Kube.Node → ρ × Except Kube.ApiError Kube.Node
  getClaim : ρ → (claimName : Bytes) → ρ × Except Bytes Bytes
  getVolume : ρ → (volumeName : Bytes) → ρ × Except Bytes (Option (Bytes × Bytes))
  parseCIDR : Bytes → Option IPFamily

inductive Failure
  | device (e : ErrorMsg)
  | api (e : Kube.ApiError)
  | error (text : Bytes)
  | panic
  deriving DecidableEq, Repr

def Failure.wrap (text : Bytes) : Failure → Failure
  | .error e => .error (text ++ e)
  | e => e

def apiErrorText : Kube.ApiError → Bytes
  | .notFound => str "not found"
  | .other e => e

inductive Event
  | podStatus (pod : Kube.Pod)
  | nodeStatus (node : Kube.Node)
  deriving DecidableEq, Repr

-- The mount path of a persistent volume is only known if the storage is enabled.
structure Manager (ρ : Type*) where
  nodeName : Bytes
  podCache : PodCache
  devPodRec : Reconcile.Core Bytes Bytes
  mountPath : Option ((podUID : Bytes) → (volumeName : Bytes) → Bytes)
  cluster : ρ

namespace Manager

variable {ρ : Type*} (k : Cluster ρ)

def getPod (m : Manager ρ) (name : Bytes) : Manager ρ × Option Kube.Pod :=
  match k.getPod m.cluster name with
  | (r, none) => ({ m with cluster := r }, none)
  | (r, some pod) =>
    ({ m with
       cluster := r
       podCache := if pod.name = m.nodeName then m.podCache.delete pod.uid else m.podCache.update pod },
     some pod)

-- After an attempt has failed, the latest pod is used. The results are the last pod, what the API server
-- has accepted, and whether the pod was not found.
def tryUpdateStatus : Nat → Manager ρ → Kube.Pod → Manager ρ × Kube.Pod × List Event × Bool
  | 0, m, pod => (m, pod, [], false)
  | n + 1, m, pod =>
    match k.updatePodStatus m.cluster pod with
    | (r, none) => ({ m with cluster := r }, pod, [.podStatus pod], false)
    | (r, some .notFound) => ({ m with cluster := r }, pod, [], true)
    | (r, some (.other _)) =>
      match getPod k { m with cluster := r } pod.name with
      | (m, none) => tryUpdateStatus n m pod
      | (m, some newPod) => tryUpdateStatus n m { newPod with status := pod.status }

def tryCount : Nat :=
  5

def podNotFound (name : Bytes) : Failure :=
  .error (str "pod \"" ++ name ++ str "\" not found")

-- The pod that is returned together with an error is not used by any caller.
def updatePodStatus (m : Manager ρ) (pod : Kube.Pod) : Manager ρ × List Event × Except Failure Kube.Pod :=
  match tryUpdateStatus k tryCount m pod with
  | (m, _, log, true) => (m, log, .error (.api .notFound))
  | (m, pod, log, false) =>
    match getPod k m pod.name with
    | (m, none) => (m, log, .error (podNotFound pod.name))
    | (m, some newPod) => (m, log, .ok newPod)

def updateNodeStatus (m : Manager ρ) (node : Kube.Node) : Manager ρ × List Event × Except Failure Kube.Node :=
  match k.updateNodeStatus m.cluster node with
  | (r, .ok node') => ({ m with cluster := r }, [.nodeStatus node], .ok node')
  | (r, .error e) =>
    ({ m with cluster := r }, [],
     .error (.error (str "failed to update node volume in use: " ++ apiErrorText e)))

-- The error is only logged.
def deleteStale (m : Manager ρ) (podUID : Bytes) : Manager ρ :=
  let devPodRec := m.devPodRec.update podUID none (some podUID)
  { m with devPodRec := (devPodRec.schedule ⟨.delete, podUID⟩).fst }

def mirrored (parseCIDR : Bytes → Option IPFamily) (pod : Kube.Pod)
    (devicePodStatus : Option Runtime.PodStatusMsg) (forInitContainers : Bool) : Option Kube.PodStatus :=
  match devicePodStatus with
  | none => some pod.status
  | some ps => mirrorStatus parseCIDR pod ps forInitContainers

def updateMirrorPodOf (m : Manager ρ) (pod : Kube.Pod) (devicePodStatus : Option Runtime.PodStatusMsg)
    (forInitContainers : Bool) : Manager ρ × List Event × Option Failure :=
  match mirrored k.parseCIDR pod devicePodStatus forInitContainers with
  | none => (m, [], some .panic)
  | some status =>
    match m.updatePodStatus k { pod with status := status } with
    | (m, log, .error e) => (m, log, some e)
    | (m, log, .ok _) => (m, log, none)

def updateMirrorPod (m : Manager ρ) (pod : Option Kube.Pod)
    (devicePodStatus : Option Runtime.PodStatusMsg) (forInitContainers : Bool) :
    Manager ρ × List Event × Option Failure :=
  match pod, devicePodStatus with
  | some pod, _ => m.updateMirrorPodOf k pod devicePodStatus forInitContainers
  | none, none => (m, [], some (.error (str "pod cache not found for device pod status")))
  | none, some ps =>
    match m.podCache.getByID ps.uid with
    | none => (m.deleteStale ps.uid, [], none)
    | some pod => m.updateMirrorPodOf k pod devicePodStatus forInitContainers

-- The CSI plugin only knows the names of persistent volumes.
def csiVolumeName (source : Option (Bytes × Bytes)) : Except Bytes Bytes :=
  match source with
  | some (driver, volumeHandle) => .ok (driver ++ str "^" ++ volumeHandle)
  | none => .error (str "volume source not found in volume.Spec")

def inlineVolumeName : Except Bytes Bytes :=
  .error (str "unexpected api.CSIVolumeSource found in volume.Spec")

def uniqueVolumeName : Except Bytes Bytes → Except Failure Bytes
  | .ok volName => .ok (str "kubernetes.io/csi/" ++ volName)
  | .error e => .error <| .error <|
    str "failed to generate volume name with csi plugin: kubernetes.io/csi: plugin.GetVolumeName " ++
    str "failed to extract volume source from spec: " ++ e

def volumeNameAndPath (m : Manager ρ) (pod : Kube.Pod) (vol : Kube.Volume) :
    Manager ρ × Except Failure (Option (Bytes × VolumeNamePathPair)) :=
  match vol.source with
  | .csi _ => (m, (uniqueVolumeName inlineVolumeName).map fun name => some (name, ⟨vol.name, []⟩))
  | .persistentVolumeClaim claimName _ =>
    match k.getClaim m.cluster claimName with
    | (r, .error e) => ({ m with cluster := r }, .error (.error (str "failed to get pvc spec: " ++ e)))
    | (r, .ok volumeName) =>
      match k.getVolume r volumeName with
      | (r, .error e) =>
        ({ m with cluster := r }, .error (.error (str "failed to get pv referenced in pvc spec: " ++ e)))
      | (r, .ok source) =>
        ({ m with cluster := r },
         match uniqueVolumeName (csiVolumeName source), m.mountPath with
         | .error e, _ => .error e
         | .ok _, none => .error .panic
         | .ok name, some path => .ok (some (name, ⟨vol.name, path pod.uid volumeName⟩)))
  | _ => (m, .ok none)

def usedVolumeNames (pod : Kube.Pod) : List Bytes :=
  (pod.initContainers ++ pod.containers).flatMap fun ctr =>
    ctr.volumeMounts.map Kube.VolumeMount.name ++ ctr.volumeDevices

def volumeNamesAndPaths (pod : Kube.Pod) :
    Manager ρ → VolumeNames → List Kube.Volume → Manager ρ × Except Failure VolumeNames
  | m, names, [] => (m, .ok names)
  | m, names, vol :: vols =>
    if !(usedVolumeNames pod).contains vol.name then
      volumeNamesAndPaths pod m names vols
    else
      match m.volumeNameAndPath k pod vol with
      | (m, .error e) => (m, .error e)
      | (m, .ok none) => volumeNamesAndPaths pod m names vols
      | (m, .ok (some (name, pair))) => volumeNamesAndPaths pod m (names.insert name pair) vols

def getUniqueVolumeNamesAndPaths (m : Manager ρ) (pod : Kube.Pod) : Manager ρ × Except Failure VolumeNames :=
  volumeNamesAndPaths k pod m ∅ pod.volumes

end Manager
end Aranya.Pod
