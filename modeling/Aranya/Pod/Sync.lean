import Aranya.Connectivity.Handler
import Aranya.Pod.Manager

namespace Aranya.Pod

structure SyncState (ρ : Type*) where
  mgr : Manager ρ
  volumeInUse : List Bytes
  volumeAttached : List Kube.AttachedVolume
  err : Option Failure
  log : List Event

namespace SyncState

variable {ρ : Type*} (k : Cluster ρ)

def new (m : Manager ρ) : SyncState ρ where
  mgr := m
  volumeInUse := []
  volumeAttached := []
  err := none
  log := []

def addVolumes (s : SyncState ρ) (pod : Kube.Pod) : SyncState ρ × Bool :=
  match s.mgr.getUniqueVolumeNamesAndPaths k pod with
  | (mgr, .error e) =>
    ({ s with mgr := mgr, err := some (e.wrap (str "failed to get unique volume names: ")) }, true)
  | (mgr, .ok volNames) =>
    let s := { s with mgr := mgr }
    if volNames.isEmpty then
      (s, false)
    else
      match addVolumesInUse s.volumeInUse s.volumeAttached volNames with
      | none => ({ s with err := some .panic }, true)
      | some (inUse, attached) => ({ s with volumeInUse := inUse, volumeAttached := attached }, false)

def mirror (s : SyncState ρ) (pod : Kube.Pod) (ps : Runtime.PodStatusMsg) : SyncState ρ :=
  let (mgr, log, _) := s.mgr.updateMirrorPod k (some pod) (some ps) false
  { s with mgr := mgr, log := s.log ++ log }

-- The handler wants to exit as soon as there is a pod without UID, or one that is not cached.
def syncPod (s : SyncState ρ) (ps : Runtime.PodStatusMsg) : SyncState ρ × Bool :=
  if ps.uid = [] then
    (s, true)
  else
    match s.mgr.podCache.getByID ps.uid with
    | none => ({ s with mgr := s.mgr.deleteStale ps.uid }, true)
    | some pod =>
      if (mirrorStatus k.parseCIDR pod ps false).isNone then
        ({ s with err := some .panic }, true)
      else
        (s.mirror k pod ps).addVolumes k pod

def onMsg (s : SyncState ρ) : Runtime.Reply → SyncState ρ × Bool
  | .error e => ({ s with err := some (.device e) }, true)
  | .podStatusList pods => loop (syncPod k) s pods
  | _ => (s, true)

end SyncState

namespace Manager

variable {ρ : Type*} (k : Cluster ρ)

def updateVolumesInUse (s : SyncState ρ) : Manager ρ × List Event × Option Failure :=
  if s.volumeInUse = [] then
    (s.mgr, s.log, none)
  else
    match k.getNode s.mgr.cluster with
    | (r, none) => ({ s.mgr with cluster := r }, s.log, some (.error (str "failed to get node")))
    | (r, some node) =>
      let node := { node with volumesInUse := s.volumeInUse, volumesAttached := s.volumeAttached }
      match { s.mgr with cluster := r }.updateNodeStatus k node with
      | (m, log, .error e) => (m, s.log ++ log, some e)
      | (m, log, .ok _) => (m, s.log ++ log, none)

def syncDevicePods (m : Manager ρ) (replies : Except Bytes (List Runtime.Reply)) :
    Manager ρ × List Event × Option Failure :=
  match replies with
  | .error e => (m, [], some (.error e))
  | .ok replies =>
    let s := handleMessages (SyncState.onMsg k) (.new m) replies
    match s.err with
    | some e => (s.mgr, s.log, some e)
    | none => updateVolumesInUse k s

end Manager
end Aranya.Pod
