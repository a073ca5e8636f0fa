import Aranya.Pod.Samples
import Aranya.Pod.Theorems.CreateOptions

namespace Aranya.Pod

open Std (ExtTreeMap)

variable {pod : Kube.Pod} {envs : ExtTreeMap Bytes Env} {ctr : Kube.Container} {spec : Runtime.ContainerSpec}
    {volumes : List Kube.Volume} {vm : Kube.VolumeMount} {vms : List Kube.VolumeMount}

def readOnlyFlag : Kube.VolumeSource → Option Bool
  | .persistentVolumeClaim _ readOnly => some readOnly
  | .csi readOnly => readOnly
  | _ => none

def volumeFlag (volumes : List Kube.Volume) (name : Bytes) : Option Bool :=
  (volumes.find? (·.name = name)).bind fun vol => readOnlyFlag vol.source

structure MountSound (volumes : List Kube.Volume) (spec : Runtime.ContainerSpec) (vm : Kube.VolumeMount)
    (mount : Runtime.ContainerMountSpec) : Prop where
  mounted : spec.mounts[vm.name]? = some mount
  mountPath : mount.mountPath = vm.mountPath
  subPath : mount.subPath = vm.subPath
  readOnly : vm.readOnly = true ∨ volumeFlag volumes vm.name = some true → mount.readOnly = true

-- The last mount of the volume, which is the only one that is kept.
def lastMount (vms : List Kube.VolumeMount) (name : Bytes) : Option Kube.VolumeMount :=
  (vms.filter (·.name = name)).getLast?

structure Kept (volumes : List Kube.Volume) (vm last : Kube.VolumeMount) : Prop where
  mountPath : last.mountPath = vm.mountPath
  subPath : last.subPath = vm.subPath
  readOnly : vm.readOnly = true → (volumeFlag volumes vm.name).getD last.readOnly = true

theorem translateVolumeMount_mountPath : (translateVolumeMount volumes vm).mountPath = vm.mountPath := by
  simp only [translateVolumeMount]
  split
  all_goals rfl

theorem translateVolumeMount_subPath : (translateVolumeMount volumes vm).subPath = vm.subPath := by
  simp only [translateVolumeMount]
  split
  all_goals rfl

theorem translateVolumeMount_readOnly :
    (translateVolumeMount volumes vm).readOnly = (volumeFlag volumes vm.name).getD vm.readOnly := by
  simp only [translateVolumeMount, volumeFlag]
  cases volumes.find? (·.name = vm.name)
  case none => rfl
  case some vol =>
    simp only [Option.map_some, Option.bind_some]
    cases vol.source
    case csi readOnly => cases readOnly <;> rfl
    case configMap _ mode => cases mode <;> rfl
    case secret _ mode => cases mode <;> rfl
    all_goals rfl

theorem SpecOf.getElem?_mounts (h : SpecOf pod envs ctr spec) (name : Bytes) :
    spec.mounts[name]? = (lastMount ctr.volumeMounts name).map (translateVolumeMount pod.volumes) := by
  rw [h.mounts, getElem?_store, ExtTreeMap.getElem?_empty, Option.or_none, List.filter_map, List.getLast?_map,
    Option.map_map, lastMount]
  rfl

theorem exists_lastMount (h : vm ∈ vms) : ∃ last, lastMount vms vm.name = some last ∧ last.name = vm.name := by
  have hm : vm ∈ vms.filter (·.name = vm.name) := List.mem_filter.mpr ⟨h, decide_eq_true rfl⟩
  have hl := List.getLast?_eq_some_getLast (List.ne_nil_of_mem hm)
  have hn := (List.mem_filter.mp (List.mem_of_getLast? hl)).right
  exact ⟨_, hl, by simpa using hn⟩

-- Each mount is there and read-only if it has to be iff it agrees with the last mount of the volume, and
-- the volume does not allow to write what the mount does not.
theorem mount_sound_iff (h : translateContainerSpec pod envs ctr = .ok spec) :
    (∀ vm ∈ ctr.volumeMounts, ∃ mount, MountSound pod.volumes spec vm mount) ↔
    ∀ vm ∈ ctr.volumeMounts, ∀ last, lastMount ctr.volumeMounts vm.name = some last →
      Kept pod.volumes vm last := by
  have hs := translateContainerSpec_eq_ok_iff.mp h
  refine forall₂_congr fun vm hm => ?_
  obtain ⟨last, hl, hn⟩ := exists_lastMount hm
  have hk : spec.mounts[vm.name]? = some (translateVolumeMount pod.volumes last) := by
    rw [hs.getElem?_mounts, hl, Option.map_some]
  simp only [hl, Option.some.injEq, forall_eq']
  constructor
  case mp =>
    rintro ⟨mount, h⟩
    obtain rfl : translateVolumeMount pod.volumes last = mount := Option.some.inj (hk.symm.trans h.mounted)
    constructor
    case mountPath => exact translateVolumeMount_mountPath.symm.trans h.mountPath
    case subPath => exact translateVolumeMount_subPath.symm.trans h.subPath
    case readOnly =>
      intro hr
      rw [← hn, ← translateVolumeMount_readOnly]
      exact h.readOnly (.inl hr)
  case mpr =>
    intro h
    refine ⟨_, hk, translateVolumeMount_mountPath.trans h.mountPath,
      translateVolumeMount_subPath.trans h.subPath, fun hr => ?_⟩
    rw [translateVolumeMount_readOnly, hn]
    cases hr
    case inl hr => exact h.readOnly hr
    case inr hf => rw [hf, Option.getD_some]

def claimPod : Kube.Pod :=
  { samplePod with volumes := [⟨[3], .persistentVolumeClaim [4]⟩, ⟨[5], .emptyDir⟩] }

def claimContainer (mounts : List (Bytes × Bytes × Bool)) : Kube.Container where
  name := [1]
  image := [1]
  volumeMounts := mounts.map fun (name, path, readOnly) =>
    { name := name, mountPath := path, subPath := [], readOnly := readOnly }

theorem mount_sound_iff_claim :
    let ctr := claimContainer [([3], [1], false), ([5], [2], false), ([3], [6], false)]
    ∃ spec, translateContainerSpec claimPod ∅ ctr = .ok spec ∧
      ((∀ vm ∈ ctr.volumeMounts, ∃ mount, MountSound claimPod.volumes spec vm mount) ↔
      ∀ vm ∈ ctr.volumeMounts, ∀ last, lastMount ctr.volumeMounts vm.name = some last →
        Kept claimPod.volumes vm last) :=
  ⟨_, rfl, mount_sound_iff rfl⟩

-- The first of two mounts is lost, and a mount that is read-only becomes writable.
theorem not_mountSound_claim :
    (∃ spec, translateContainerSpec claimPod ∅ (claimContainer [([3], [1], false), ([3], [2], false)]) = .ok spec ∧
      ¬∃ mount, MountSound claimPod.volumes spec
        { name := [3], mountPath := [1], subPath := [], readOnly := false } mount) ∧
    ∃ spec, translateContainerSpec claimPod ∅ (claimContainer [([3], [1], true)]) = .ok spec ∧
      ¬∃ mount, MountSound claimPod.volumes spec
        { name := [3], mountPath := [1], subPath := [], readOnly := true } mount := by
  refine ⟨⟨_, rfl, ?_⟩, _, rfl, ?_⟩
  case refine_1 =>
    rintro ⟨mount, h⟩
    cases h.mounted
    cases h.mountPath
  case refine_2 =>
    rintro ⟨mount, h⟩
    cases h.mounted
    cases h.readOnly (.inl rfl)

end Aranya.Pod
