import Aranya.Lib.Execution
import Aranya.Lib.List
import Aranya.Pod.Volume

namespace Aranya.Pod

open Std (ExtTreeMap)

variable {n n' : Kube.Node} {volNames : VolumeNames} {c : Choices} {inUse inUse' new : List Bytes}
    {attached : List Kube.AttachedVolume} {a : VolumeAction}

structure VolumesAligned (n : Kube.Node) : Prop where
  names : n.volumesAttached.map (·.name) = n.volumesInUse
  sorted : n.volumesInUse.Pairwise (· ≤ ·)
  nodup : n.volumesInUse.Nodup

inductive VolumeAction
  | add (c : Choices) (volNames : VolumeNames)
  | remove (volNames : VolumeNames)

def volumeStep (n : Kube.Node) : VolumeAction → Option Kube.Node
  | .add c volNames =>
    addVolumesInUseWith c n.volumesInUse n.volumesAttached volNames |>.map fun x => ⟨x.fst, x.snd⟩
  | .remove volNames =>
    removeVolumeInUse n.volumesInUse n.volumesAttached volNames |>.map fun x => ⟨x.fst, x.snd⟩

theorem VolumesAligned.length (h : VolumesAligned n) : n.volumesAttached.length = n.volumesInUse.length := by
  rw [← h.names, List.length_map]

theorem VolumesAligned.attached_sorted (h : VolumesAligned n) :
    n.volumesAttached.Pairwise (·.name ≤ ·.name) := by
  have hs := h.sorted
  rw [← h.names, List.pairwise_map] at hs
  exact hs

theorem VolumesAligned.attached_eq (h : VolumesAligned n) (hs : attached.Pairwise (·.name ≤ ·.name))
    (hp : attached.Perm n.volumesAttached) : attached = n.volumesAttached := by
  have hn : (n.volumesAttached.map (·.name)).Nodup := h.names ▸ h.nodup
  refine List.Perm.eq_of_pairwise (fun a b ha hb h₁ h₂ => ?_) hs h.attached_sorted hp
  exact List.inj_on_of_nodup_map hn (hp.subset ha) hb (List.le_antisymm h₁ h₂)

theorem names_eq (h₁ : inUse.Pairwise (· ≤ ·)) (h₂ : inUse'.Pairwise (· ≤ ·)) (hp : inUse.Perm inUse') :
    inUse = inUse' :=
  List.Perm.eq_of_pairwise (fun _ _ _ _ => List.le_antisymm) h₁ h₂ hp

section Add

variable (h : VolumesAligned n)
    (he : Extended n.volumesInUse n.volumesAttached volNames n'.volumesInUse n'.volumesAttached new)

include h he

theorem VolumesAligned.names_perm : (n'.volumesAttached.map (·.name)).Perm (new ++ n.volumesInUse) := by
  have hp := he.attached_perm.map (·.name)
  rw [← h.length, List.take_length, List.map_append, List.map_map, h.names] at hp
  simpa [Function.comp_def] using hp

theorem VolumesAligned.add : VolumesAligned n' := by
  have hn : new.Nodup := he.new_perm.nodup_iff.mpr (ExtTreeMap.nodup_keys.filter _)
  constructor
  case names =>
    apply names_eq _ he.names_sorted ((h.names_perm he).trans he.names_perm.symm)
    exact List.pairwise_map.mpr he.attached_sorted
  case sorted => exact he.names_sorted
  case nodup =>
    rw [he.names_perm.nodup_iff, List.nodup_append]
    refine ⟨hn, h.nodup, fun v hv w hw hvw => ?_⟩
    have hv := List.mem_filter.mp (he.new_perm.mem_iff.mp hv)
    simp [hvw, hw] at hv

end Add

theorem removeVolumeInUse_of_names (h : attached.map (·.name) = inUse) :
    removeVolumeInUse inUse attached volNames =
    some (inUse.filter (· ∉ volNames), attached.filter (·.name ∉ volNames)) := by
  subst h
  have hz : (attached.map (·.name)).zip attached = attached.map fun a => (a.name, a) := by
    simpa using List.zip_map' (l := attached) (f := (·.name)) (g := id)
  have hl : (attached.map (·.name)).length ≤ attached.length := (List.length_map _).le
  have hm := mapM_zipIdx (p := fun v => v ∉ volNames) (attached[·]?) (k := 0) hl fun j => by rw [Nat.zero_add]
  rw [hz, List.filter_map, List.map_map] at hm
  have hf := map_fst_filter_zipIdx (p := fun v => v ∉ volNames) (attached.map (·.name)) (k := 0)
  rw [removeVolumeInUse, hm, hf]
  simp [Function.comp_def]

theorem VolumesAligned.step (h : VolumesAligned n) (hs : volumeStep n a = some n') : VolumesAligned n' := by
  cases a
  case add c volNames =>
    obtain ⟨x, hx, rfl⟩ := Option.map_eq_some_iff.mp hs
    obtain ⟨new, he⟩ := extended_of_addVolumesInUseWith hx
    exact h.add he
  case remove volNames =>
    rw [volumeStep, removeVolumeInUse_of_names h.names] at hs
    cases hs
    refine ⟨?_, h.sorted.filter _, h.nodup.filter _⟩
    rw [← h.names, List.filter_map]
    rfl

theorem VolumesAligned.isSome (h : VolumesAligned n) : ∃ n', volumeStep n a = some n' := by
  cases a
  case add c volNames =>
    rw [volumeStep, addVolumesInUseWith, attachedTo, if_pos h.length.ge]
    exact ⟨_, rfl⟩
  case remove volNames =>
    rw [volumeStep, removeVolumeInUse_of_names h.names]
    exact ⟨_, rfl⟩

-- Volumes which were not in use before they have been added are removed without a trace.
theorem VolumesAligned.restored (h : VolumesAligned n)
    (he : Extended n.volumesInUse n.volumesAttached volNames n'.volumesInUse n'.volumesAttached new)
    (hd : ∀ v ∈ n.volumesInUse, v ∉ volNames) : volumeStep n' (.remove volNames) = some n := by
  have hn : ∀ v ∈ new, v ∈ volNames := by
    intro v hv
    exact ExtTreeMap.mem_keys.mp (List.mem_of_mem_filter (he.new_perm.mem_iff.mp hv))
  have hu : n'.volumesInUse.filter (· ∉ volNames) = n.volumesInUse := by
    apply names_eq (he.names_sorted.filter _) h.sorted
    have hp := he.names_perm.filter (· ∉ volNames)
    rwa [filter_append_eq_right (by simpa using hn) (by simpa using hd)] at hp
  have ha : n'.volumesAttached.filter (·.name ∉ volNames) = n.volumesAttached := by
    apply h.attached_eq (he.attached_sorted.filter _)
    have hp := he.attached_perm.filter (·.name ∉ volNames)
    have hd' : ∀ a ∈ n.volumesAttached, a.name ∉ volNames := fun a ha =>
      hd a.name (h.names ▸ List.mem_map_of_mem ha)
    rwa [← h.length, List.take_length, filter_append_eq_right (by simpa using hn) (by simpa using hd')] at hp
  rw [volumeStep, removeVolumeInUse_of_names (h.add he).names, hu, ha]
  rfl

theorem volumeLists_aligned (as : List VolumeAction) :
    ∃ n, Execution volumeStep ⟨[], []⟩ as n ∧ VolumesAligned n ∧ ∀ volNames,
      (∃ n', volumeStep n (.remove volNames) = some n' ∧
        ∀ v, v ∈ n'.volumesInUse ↔ v ∈ n.volumesInUse ∧ v ∉ volNames) ∧
      ∀ c, ∃ n', volumeStep n (.add c volNames) = some n' ∧
        (∀ v, v ∈ n'.volumesInUse ↔ v ∈ volNames ∨ v ∈ n.volumesInUse) ∧
        ((∀ v ∈ n.volumesInUse, v ∉ volNames) → volumeStep n' (.remove volNames) = some n) := by
  have he : VolumesAligned ⟨[], []⟩ := ⟨rfl, .nil, .nil⟩
  have hr : ∃ n, Execution volumeStep ⟨[], []⟩ as n ∧ VolumesAligned n :=
    Execution.progress (I := fun _ n => VolumesAligned n)
      (fun {_ a _} _ h => have ⟨n', hs⟩ := h.isSome (a := a); ⟨n', hs, h.step hs⟩) he
  obtain ⟨n, hr, h⟩ := hr
  refine ⟨n, hr, h, fun volNames => ⟨?remove, fun c => ?add⟩⟩
  case remove =>
    rw [volumeStep, removeVolumeInUse_of_names h.names]
    exact ⟨_, rfl, fun v => by simp⟩
  case add =>
    obtain ⟨n', hs⟩ := h.isSome (a := .add c volNames)
    obtain ⟨x, hx, rfl⟩ := Option.map_eq_some_iff.mp hs
    obtain ⟨new, he⟩ := extended_of_addVolumesInUseWith hx
    exact ⟨⟨x.fst, x.snd⟩, hs, fun v => he.mem_iff, h.restored he⟩

end Aranya.Pod
