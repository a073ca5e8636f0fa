import Aranya.Kube.Objects

namespace Aranya

open Std (ExtTreeMap)

-- The keys of `nameIndex` are pairs of a namespace and a name.
structure PodCache where
  uidIndex : ExtTreeMap Bytes Kube.Pod
  nameIndex : Bytes × Bytes → Option Kube.Pod
  remoteDeleted : Finset Bytes

namespace PodCache

def new : PodCache where
  uidIndex := ∅
  nameIndex _ := none
  remoteDeleted := ∅

def markDeletedInRemote (c : PodCache) (podUID : Bytes) (deleted : Bool) : PodCache :=
  { c with
    remoteDeleted := if deleted then insert podUID c.remoteDeleted else c.remoteDeleted.erase podUID }

def isDeletedInRemote (c : PodCache) (podUID : Bytes) : Bool :=
  podUID ∈ c.remoteDeleted

def update (c : PodCache) (pod : Kube.Pod) : PodCache :=
  { c with
    uidIndex := c.uidIndex.insert pod.uid pod
    nameIndex := Function.update c.nameIndex (pod.ns, pod.name) (some pod) }

def getByID (c : PodCache) (podUID : Bytes) : Option Kube.Pod :=
  c.uidIndex[podUID]?

def getByName (c : PodCache) (ns name : Bytes) : Option Kube.Pod :=
  c.nameIndex (ns, name)

def delete (c : PodCache) (podUID : Bytes) : PodCache where
  uidIndex := c.uidIndex.erase podUID
  nameIndex :=
    match c.uidIndex[podUID]? with
    | some pod => Function.update c.nameIndex (pod.ns, pod.name) none
    | none => c.nameIndex
  remoteDeleted := c.remoteDeleted.erase podUID

-- The pods which are marked as deleted stay marked.
def cleanup (c : PodCache) : PodCache :=
  { c with
    uidIndex := (c.uidIndex.toList.map Prod.fst).foldl (·.erase ·) c.uidIndex
    nameIndex := c.uidIndex.toList.foldl
      (fun index p => Function.update index (p.snd.ns, p.snd.name) none) c.nameIndex }

inductive Action
  | update (pod : Kube.Pod)
  | delete (podUID : Bytes)
  | markDeletedInRemote (podUID : Bytes) (deleted : Bool)
  | cleanup

def act (c : PodCache) : Action → PodCache
  | .update pod => c.update pod
  | .delete podUID => c.delete podUID
  | .markDeletedInRemote podUID deleted => c.markDeletedInRemote podUID deleted
  | .cleanup => c.cleanup

variable {c : PodCache} {pod : Kube.Pod} {uid : Bytes}

theorem getByID_update : (c.update pod).getByID uid = if pod.uid = uid then some pod else c.getByID uid := by
  simp [getByID, update, ExtTreeMap.getElem?_insert]

theorem getByID_delete {podUID : Bytes} :
    (c.delete podUID).getByID uid = if podUID = uid then none else c.getByID uid := by
  simp [getByID, delete, ExtTreeMap.getElem?_erase]

end PodCache
end Aranya
