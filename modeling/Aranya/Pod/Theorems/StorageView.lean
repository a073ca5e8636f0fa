import Aranya.Lib.List
import Aranya.Pod.Samples

namespace Aranya.Pod

variable {names : List Bytes} {mounts source : List Kube.VolumeMount} {ctr init : Kube.Container}
    {inits cs done : List Kube.Container} {pod : Kube.Pod}

def remoteNames (pod : Kube.Pod) : List Bytes :=
  pod.volumes.filter isRemote |>.map Kube.Volume.name

def withMounts (names : List Bytes) (ctr : Kube.Container) : Kube.Container :=
  { ctr with volumeMounts := ctr.volumeMounts.filter (·.name ∈ names) }

def storageView (pod : Kube.Pod) : Kube.Pod :=
  { pod with
    volumes := pod.volumes.filter isRemote
    initContainers := pod.initContainers.map <| withMounts (remoteNames pod)
    containers := pod.containers.map <| withMounts (remoteNames pod) }

structure StorageViewSound (pod : Kube.Pod) : Prop where
  view : keepPVCAndInlineCSIOnly pod = some (storageView pod)
  idempotent : keepPVCAndInlineCSIOnly (storageView pod) = some (storageView pod)

def keepAllInitMounts (names : List Bytes) :
    List Kube.Container → List Kube.Container → Option (List Kube.Container)
  | [], cs => some cs
  | _ :: _, [] => none
  | init :: inits, ctr :: cs =>
    keepMounts names init.volumeMounts ctr.volumeMounts |>.bind fun mounts =>
      keepAllInitMounts names inits cs |>.map ({ ctr with volumeMounts := mounts } :: ·)

theorem foldlM_keepInitMounts :
    (inits.zipIdx done.length).foldlM (keepInitMounts names) (done ++ cs) =
    (keepAllInitMounts names inits cs).map (done ++ ·) := by
  induction inits generalizing done cs
  case nil => rfl
  case cons init inits hi =>
    rw [List.zipIdx_cons, List.foldlM_cons, keepInitMounts]
    cases cs
    case nil => simp [keepAllInitMounts]
    case cons ctr cs =>
      rw [keepAllInitMounts]
      cases hk : keepMounts names init.volumeMounts ctr.volumeMounts
      case none => simp [hk]
      case some mounts =>
        have hi := @hi cs (done ++ [{ ctr with volumeMounts := mounts }])
        simp only [List.length_append, List.length_singleton, List.append_assoc, List.singleton_append] at hi
        simp [hk, hi, Function.comp_def]

theorem keepMounts_eq (h : mounts.length ≤ source.length) :
    keepMounts names mounts source = some (((mounts.zip source).filter (·.fst.name ∈ names)).map Prod.snd) :=
  mapM_zipIdx (p := fun vm : Kube.VolumeMount => vm.name ∈ names) (source[·]?) h fun j => by
    rw [Nat.zero_add]

theorem keepMounts_self : keepMounts names mounts mounts = some (mounts.filter (·.name ∈ names)) := by
  have hz : mounts.zip mounts = mounts.map fun vm => (vm, vm) := by
    simpa using List.zip_map' (l := mounts) (f := id) (g := id)
  rw [keepMounts_eq le_rfl, hz, List.filter_map, List.map_map]
  simp [Function.comp_def]

-- If all mounts of an init container are kept, they stand for the first mounts of the work container.
theorem keepMounts_of_valid (h : ∀ vm ∈ mounts, vm.name ∈ names) :
    keepMounts names mounts source =
    if mounts.length ≤ source.length then some (source.take mounts.length) else none := by
  split
  case isTrue hl =>
    have hf : (mounts.zip source).filter (·.fst.name ∈ names) = mounts.zip source := by
      rw [List.filter_eq_self]
      intro x hx
      simpa using h x.fst (List.of_mem_zip hx).left
    rw [keepMounts_eq hl, hf, List.zip_eq_zip_take_min, Nat.min_eq_left hl, List.map_snd_zip (by simp)]
  case isFalse hl =>
    -- The index of the mount that the work container does not have.
    have hi : source.length < mounts.length := Nat.lt_of_not_le hl
    rw [← Option.not_isSome_iff_eq_none, keepMounts, mapM_isSome]
    intro hs
    have hm : (mounts[source.length], source.length) ∈ mounts.zipIdx.filter (·.fst.name ∈ names) := by
      rw [List.mem_filter]
      exact ⟨List.mk_mem_zipIdx_iff_getElem?.mpr (List.getElem?_eq_getElem hi),
        by simpa using h _ (List.getElem_mem hi)⟩
    simpa using hs _ hm

theorem keepPVCAndInlineCSIOnly_eq :
    keepPVCAndInlineCSIOnly pod =
    (keepAllInitMounts (remoteNames pod) pod.initContainers pod.containers).map fun cs =>
      { pod with
        volumes := pod.volumes.filter isRemote
        containers := cs.map <| withMounts (remoteNames pod) } := by
  have hi : (pod.initContainers.zipIdx ([] : List Kube.Container).length).foldlM
      (keepInitMounts (remoteNames pod)) ([] ++ pod.containers) =
      (keepAllInitMounts (remoteNames pod) pod.initContainers pod.containers).map ([] ++ ·) :=
    foldlM_keepInitMounts
  have hm : ∀ cs : List Kube.Container, (cs.mapM fun ctr =>
      (keepMounts (remoteNames pod) ctr.volumeMounts ctr.volumeMounts).map fun mounts =>
        { ctr with volumeMounts := mounts }) = some (cs.map <| withMounts (remoteNames pod)) := by
    intro cs
    simp only [keepMounts_self, Option.map_some]
    exact List.mapM_pure
  rw [List.length_nil, List.nil_append] at hi
  change (pod.initContainers.zipIdx.foldlM (keepInitMounts (remoteNames pod)) pod.containers >>= _) = _
  rw [hi]
  cases keepAllInitMounts (remoteNames pod) pod.initContainers pod.containers
  case none => rfl
  case some cs => exact congrArg (· >>= _) (hm cs)

structure Aligned (names : List Bytes) (init ctr : Kube.Container) : Prop where
  valid : ∀ vm ∈ init.volumeMounts, vm.name ∈ names
  length : init.volumeMounts.length ≤ ctr.volumeMounts.length
  first : (withMounts names ctr).volumeMounts = ctr.volumeMounts.take init.volumeMounts.length

theorem withMounts_idem : withMounts names (withMounts names ctr) = withMounts names ctr := by
  simp [withMounts]

theorem withMounts_eq_self_iff : withMounts names ctr = ctr ↔ ∀ vm ∈ ctr.volumeMounts, vm.name ∈ names := by
  cases ctr
  simp [withMounts]

def MountsKept (names : List Bytes) (init ctr : Kube.Container) : Prop :=
  (keepMounts names init.volumeMounts ctr.volumeMounts).map (withMounts names { ctr with volumeMounts := · }) =
  some (withMounts names ctr)

def AllKept (names : List Bytes) (inits cs : List Kube.Container) : Prop :=
  (keepAllInitMounts names inits cs).map (·.map <| withMounts names) = some (cs.map <| withMounts names)

theorem allKept_cons :
    AllKept names (init :: inits) (ctr :: cs) ↔ MountsKept names init ctr ∧ AllKept names inits cs := by
  rw [AllKept, AllKept, keepAllInitMounts, MountsKept]
  cases keepMounts names init.volumeMounts ctr.volumeMounts
  case none => simp
  case some mounts =>
    cases keepAllInitMounts names inits cs
    case none => simp
    case some cs' => simp

theorem mountsKept_iff (h : ∀ vm ∈ init.volumeMounts, vm.name ∈ names) :
    MountsKept names init ctr ↔
    init.volumeMounts.length ≤ ctr.volumeMounts.length ∧
    (ctr.volumeMounts.take init.volumeMounts.length).filter (·.name ∈ names) =
      ctr.volumeMounts.filter (·.name ∈ names) := by
  rw [MountsKept, keepMounts_of_valid h]
  split
  case isTrue hl => simp [withMounts, hl]
  case isFalse hl => simp [hl]

theorem aligned_iff :
    Aligned names init ctr ↔
    withMounts names init = init ∧ MountsKept names init ctr ∧ MountsKept names init (withMounts names ctr) := by
  constructor
  case mp =>
    intro ⟨hv, hl, hf⟩
    have hk : ctr.volumeMounts.filter (·.name ∈ names) = ctr.volumeMounts.take init.volumeMounts.length := hf
    have hn : (ctr.volumeMounts.filter (·.name ∈ names)).length = init.volumeMounts.length := by
      rw [hk, List.length_take, Nat.min_eq_left hl]
    refine ⟨withMounts_eq_self_iff.mpr hv, (mountsKept_iff hv).mpr ⟨hl, ?_⟩, (mountsKept_iff hv).mpr ⟨?_, ?_⟩⟩
    · rw [← hk, List.filter_filter]
      simp
    · exact hn.ge
    · rw [withMounts, ← hn, List.take_length]
  case mpr =>
    intro ⟨hi, h₁, h₂⟩
    have hv := withMounts_eq_self_iff.mp hi
    obtain ⟨hl, ht⟩ := (mountsKept_iff hv).mp h₁
    obtain ⟨hl', ht'⟩ := (mountsKept_iff hv).mp h₂
    refine ⟨hv, hl, ?_⟩
    -- The first mounts contain as many mounts of remote volumes as there are of them, so all are.
    have hs : (ctr.volumeMounts.take init.volumeMounts.length).filter (·.name ∈ names) =
        ctr.volumeMounts.take init.volumeMounts.length := by
      apply List.Sublist.eq_of_length_le List.filter_sublist
      rw [ht, List.length_take]
      exact Nat.le_trans (Nat.min_le_left _ _) hl'
    rw [withMounts, ← ht, hs]

theorem allKept_iff :
    (inits.map (withMounts names) = inits ∧ AllKept names inits cs ∧
      AllKept names inits (cs.map <| withMounts names)) ↔
    inits.length ≤ cs.length ∧ ∀ x ∈ inits.zip cs, Aligned names x.fst x.snd := by
  induction inits generalizing cs
  case nil => simp [AllKept, keepAllInitMounts]
  case cons init inits hi =>
    cases cs
    case nil => simp [AllKept, keepAllInitMounts]
    case cons ctr cs =>
      have hi := @hi cs
      have ha : Aligned names init ctr ↔ _ := aligned_iff
      simp only [List.map_cons, allKept_cons, List.cons.injEq, List.zip_cons_cons, List.forall_mem_cons,
        List.length_cons, Nat.succ_le_succ_iff]
      tauto

theorem view_iff :
    keepPVCAndInlineCSIOnly pod = some (storageView pod) ↔
    pod.initContainers.map (withMounts (remoteNames pod)) = pod.initContainers ∧
    AllKept (remoteNames pod) pod.initContainers pod.containers := by
  rw [keepPVCAndInlineCSIOnly_eq, AllKept]
  cases keepAllInitMounts (remoteNames pod) pod.initContainers pod.containers
  case none => simp
  case some cs => simp [storageView, eq_comm]

theorem remoteNames_storageView : remoteNames (storageView pod) = remoteNames pod := by
  simp [remoteNames, storageView]

theorem storageView_idem : storageView (storageView pod) = storageView pod := by
  have hm : ∀ cs : List Kube.Container,
      (cs.map <| withMounts (remoteNames pod)).map (withMounts (remoteNames pod)) =
      cs.map (withMounts (remoteNames pod)) := by
    simp [withMounts_idem]
  rw [storageView, remoteNames_storageView]
  simp only [storageView, hm, List.filter_filter, Bool.and_self]

-- This is so iff no init container lacks a work container at its index, and the mounts of the two fit
-- together.
theorem storageViewSound_iff (pod : Kube.Pod) :
    StorageViewSound pod ↔
    pod.initContainers.length ≤ pod.containers.length ∧
    ∀ x ∈ pod.initContainers.zip pod.containers, Aligned (remoteNames pod) x.fst x.snd := by
  have hm : (pod.initContainers.map (withMounts (remoteNames pod))).map (withMounts (remoteNames pod)) =
      pod.initContainers.map (withMounts (remoteNames pod)) := by
    simp [withMounts_idem]
  have hv : keepPVCAndInlineCSIOnly (storageView pod) = _ ↔ _ := view_iff
  rw [storageView_idem, remoteNames_storageView] at hv
  rw [← allKept_iff]
  constructor
  case mp =>
    intro ⟨hs, hi⟩
    obtain ⟨hf, hk⟩ := view_iff.mp hs
    have hk' := (hv.mp hi).right
    exact ⟨hf, hk, hf ▸ hk'⟩
  case mpr =>
    intro ⟨hf, hk, hk'⟩
    have hi : (storageView pod).initContainers = pod.initContainers := hf
    exact ⟨view_iff.mpr ⟨hf, hk⟩, hv.mpr ⟨hm, hi ▸ hk'⟩⟩

def mountOf (volume : String) : Kube.VolumeMount where
  name := str volume
  mountPath := str ("/" ++ volume)
  subPath := []
  readOnly := false

def initClaimPod (mounts : List Kube.VolumeMount) : Kube.Pod :=
  { samplePod with
    volumes := [⟨str "tmp", .emptyDir⟩, ⟨str "data", .persistentVolumeClaim (str "data")⟩]
    initContainers := [{ name := str "i", image := [], volumeMounts := [mountOf "data"] }]
    containers := [{ name := str "x", image := [], volumeMounts := mounts }] }

-- A work container without mounts leads to a panic, and one which mounts another volume first loses the
-- claim.
theorem not_storageViewSound_init :
    keepPVCAndInlineCSIOnly (initClaimPod []) = none ∧ ¬StorageViewSound (initClaimPod []) ∧
    (keepPVCAndInlineCSIOnly (initClaimPod [mountOf "tmp", mountOf "data"])).map
      (·.containers.map (·.volumeMounts)) =
      some [[]] ∧
    (storageView (initClaimPod [mountOf "tmp", mountOf "data"])).containers.map (·.volumeMounts) =
      [[mountOf "data"]] := by
  have hp : keepPVCAndInlineCSIOnly (initClaimPod []) = none := by decide
  refine ⟨hp, fun h => ?_, by decide, by decide⟩
  cases hp.symm.trans h.view

end Aranya.Pod
