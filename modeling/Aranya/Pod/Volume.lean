import Aranya.Kube.Objects
import Mathlib.Data.List.Sort

namespace Aranya.Pod

open Std (ExtTreeMap)

structure VolumeNamePathPair where
  name : Bytes
  path : Bytes
  deriving DecidableEq, Repr

abbrev VolumeNames := ExtTreeMap Bytes VolumeNamePathPair

def isRemote (vol : Kube.Volume) : Bool :=
  match vol.source with
  | .csi _ | .persistentVolumeClaim _ _ => true
  | _ => false

-- The mounts of remote volumes are kept, each taken from the same index of `source`, which panics if there
-- is none.
def keepMounts (validNames : List Bytes) (mounts source : List Kube.VolumeMount) :
    Option (List Kube.VolumeMount) :=
  mounts.zipIdx.filter (·.fst.name ∈ validNames) |>.mapM fun (_, j) => source[j]?

-- The mounts of an init container are written to the work container with the same index.
def keepInitMounts (validNames : List Bytes) (containers : List Kube.Container)
    (init : Kube.Container × Nat) : Option (List Kube.Container) :=
  containers[init.snd]?.bind fun ctr =>
    keepMounts validNames init.fst.volumeMounts ctr.volumeMounts |>.map fun mounts =>
      containers.set init.snd { ctr with volumeMounts := mounts }

def keepPVCAndInlineCSIOnly (po : Kube.Pod) : Option Kube.Pod := do
  let volumes := po.volumes.filter isRemote
  let validNames := volumes.map Kube.Volume.name
  let containers ← po.initContainers.zipIdx.foldlM (keepInitMounts validNames) po.containers
  let containers ← containers.mapM fun ctr =>
    keepMounts validNames ctr.volumeMounts ctr.volumeMounts |>.map fun mounts =>
      { ctr with volumeMounts := mounts }
  return { po with volumes := volumes, containers := containers }

-- The attached volume with the same index is needed. The result is `none` if there are not enough of them,
-- in which case the program panics.
def attachedTo (oldVolumeInUse : List Bytes) (oldVolumeAttached : List Kube.AttachedVolume) :
    Option (List (Bytes × Kube.AttachedVolume)) :=
  if oldVolumeInUse.length ≤ oldVolumeAttached.length then
    some (oldVolumeInUse.zip oldVolumeAttached)
  else
    none

def addVolumesInUse (oldVolumeInUse : List Bytes) (oldVolumeAttached : List Kube.AttachedVolume)
    (volNames : VolumeNames) : Option (List Bytes × List Kube.AttachedVolume) :=
  (attachedTo oldVolumeInUse oldVolumeAttached).map fun old =>
    let new := volNames.keys.filter (· ∉ oldVolumeInUse)
    (new ++ old.map Prod.fst |>.insertionSort (· ≤ ·),
     new.map (⟨·, []⟩) ++ old.map Prod.snd |>.insertionSort (·.name ≤ ·.name))

def removeVolumeInUse (oldVolumeInUse : List Bytes) (oldVolumeAttached : List Kube.AttachedVolume)
    (volNames : VolumeNames) : Option (List Bytes × List Kube.AttachedVolume) := do
  let kept := oldVolumeInUse.zipIdx.filter (·.fst ∉ volNames)
  let attached ← kept.mapM fun x => oldVolumeAttached[x.snd]?
  return (kept.map Prod.fst, attached)

-- The order in which the entries of a map come, and how equal entries of a slice are sorted.
structure Choices where
  keys : VolumeNames → List Bytes
  sortNames : List Bytes → List Bytes
  sortAttached : List Kube.AttachedVolume → List Kube.AttachedVolume
  keys_perm : ∀ volNames, (keys volNames).Perm volNames.keys
  names_perm : ∀ names, (sortNames names).Perm names
  names_sorted : ∀ names, (sortNames names).Pairwise (· ≤ ·)
  attached_perm : ∀ attached, (sortAttached attached).Perm attached
  attached_sorted : ∀ attached, (sortAttached attached).Pairwise (·.name ≤ ·.name)

def Choices.default : Choices where
  keys := ExtTreeMap.keys
  sortNames := List.insertionSort (· ≤ ·)
  sortAttached := List.insertionSort (·.name ≤ ·.name)
  keys_perm := fun _ => .refl _
  names_perm := List.perm_insertionSort _
  names_sorted := List.pairwise_insertionSort _
  attached_perm := List.perm_insertionSort _
  attached_sorted := List.pairwise_insertionSort _

def addVolumesInUseWith (c : Choices) (oldVolumeInUse : List Bytes)
    (oldVolumeAttached : List Kube.AttachedVolume) (volNames : VolumeNames) :
    Option (List Bytes × List Kube.AttachedVolume) :=
  (attachedTo oldVolumeInUse oldVolumeAttached).map fun old =>
    let new := c.keys volNames |>.filter (· ∉ oldVolumeInUse)
    (c.sortNames (new ++ old.map Prod.fst), c.sortAttached (new.map (⟨·, []⟩) ++ old.map Prod.snd))

variable {inUse inUse' : List Bytes} {attached attached' : List Kube.AttachedVolume} {volNames : VolumeNames}
    {v : Bytes} {c : Choices}

theorem addVolumesInUse_eq :
    addVolumesInUse inUse attached volNames = addVolumesInUseWith .default inUse attached volNames :=
  rfl

theorem addVolumesInUse_isSome :
    (addVolumesInUse inUse attached volNames).isSome ↔ inUse.length ≤ attached.length := by
  simp [addVolumesInUse, attachedTo]

structure Extended (inUse : List Bytes) (attached : List Kube.AttachedVolume) (volNames : VolumeNames)
    (inUse' : List Bytes) (attached' : List Kube.AttachedVolume) (new : List Bytes) : Prop where
  new_perm : new.Perm (volNames.keys.filter (· ∉ inUse))
  names_perm : inUse'.Perm (new ++ inUse)
  names_sorted : inUse'.Pairwise (· ≤ ·)
  attached_perm : attached'.Perm (new.map (⟨·, []⟩) ++ attached.take inUse.length)
  attached_sorted : attached'.Pairwise (·.name ≤ ·.name)

theorem extended_of_addVolumesInUseWith
    (h : addVolumesInUseWith c inUse attached volNames = some (inUse', attached')) :
    ∃ new, Extended inUse attached volNames inUse' attached' new := by
  obtain ⟨old, ho, h⟩ := Option.map_eq_some_iff.mp h
  simp only [attachedTo, Option.ite_none_right_eq_some, Option.some.injEq] at ho
  obtain ⟨hl, rfl⟩ := ho
  have hs : (inUse.zip attached).map Prod.snd = attached.take inUse.length := by
    rw [List.zip_eq_zip_take_min, Nat.min_eq_left hl, List.map_snd_zip (by simp)]
  cases h
  rw [List.map_fst_zip hl, hs]
  exact ⟨_, (c.keys_perm volNames).filter _, c.names_perm _, c.names_sorted _, c.attached_perm _,
    c.attached_sorted _⟩

theorem Extended.mem_iff {new : List Bytes} (h : Extended inUse attached volNames inUse' attached' new) :
    v ∈ inUse' ↔ v ∈ volNames ∨ v ∈ inUse := by
  rw [h.names_perm.mem_iff, List.mem_append, h.new_perm.mem_iff, List.mem_filter, ExtTreeMap.mem_keys]
  by_cases hv : v ∈ inUse <;> simp [hv]

theorem mem_addVolumesInUse (h : addVolumesInUse inUse attached volNames = some (inUse', attached')) :
    v ∈ inUse' ↔ v ∈ volNames ∨ v ∈ inUse :=
  have ⟨_, h⟩ := extended_of_addVolumesInUseWith (addVolumesInUse_eq ▸ h)
  h.mem_iff

theorem length_addVolumesInUse
    (h : addVolumesInUse inUse attached volNames = some (inUse', attached')) :
    inUse'.length = attached'.length := by
  obtain ⟨old, ho, h⟩ := Option.map_eq_some_iff.mp h
  cases h
  simp

end Aranya.Pod
