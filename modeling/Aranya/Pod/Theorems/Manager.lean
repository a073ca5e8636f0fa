import Aranya.Lib.Except
import Aranya.Pod.Manager

namespace Aranya.Pod

variable {ρ : Type} {α : Type} {k : Cluster ρ} {m : Manager ρ} {pod : Kube.Pod} {vol : Kube.Volume} {r : ρ}
    {text : Bytes} {I : ρ → Prop} {N : Kube.Pod → Prop} {S : Kube.PodStatus → Prop} {A : Event → Prop}

theorem wrap_ne_panic {e : Failure} (h : e ≠ .panic) : e.wrap text ≠ .panic := by
  cases e
  case error => exact nofun
  all_goals exact h

structure Cluster.Preserves (k : Cluster ρ) (I : ρ → Prop) (N : Kube.Pod → Prop) (S : Kube.PodStatus → Prop) :
    Prop where
  status : ∀ {p status}, N p → N { p with status := status }
  getPod : ∀ {c p}, I c → N p → I (k.getPod c p.name).fst
  lookup : ∀ {c p p'}, I c → N p → (k.getPod c p.name).snd = some p' → N p' ∧ S p'.status
  updatePodStatus : ∀ {c p}, I c → N p → S p.status → I (k.updatePodStatus c p).fst
  getClaim : ∀ {c} name, I c → I (k.getClaim c name).fst
  getVolume : ∀ {c} name, I c → I (k.getVolume c name).fst

structure Lookup where
  vol : Kube.Volume
  uniqueName : Bytes
  volumeName : Bytes

def resolveVolume (k : Cluster ρ) (r : ρ) (vol : Kube.Volume) : ρ × Except Failure (Option Lookup) :=
  match vol.source with
  | .csi _ => (r, (Manager.uniqueVolumeName Manager.inlineVolumeName).map fun name => some ⟨vol, name, []⟩)
  | .persistentVolumeClaim claimName _ =>
    match k.getClaim r claimName with
    | (r, .error e) => (r, .error (.error (str "failed to get pvc spec: " ++ e)))
    | (r, .ok volumeName) =>
      match k.getVolume r volumeName with
      | (r, .error e) => (r, .error (.error (str "failed to get pv referenced in pvc spec: " ++ e)))
      | (r, .ok source) =>
        (r, (Manager.uniqueVolumeName (Manager.csiVolumeName source)).map fun name => some ⟨vol, name, volumeName⟩)
  | _ => (r, .ok none)

def Lookup.entry (path : Bytes → Bytes → Bytes) (podUID : Bytes) (l : Lookup) : Bytes × VolumeNamePathPair :=
  (l.uniqueName, ⟨l.vol.name, path podUID l.volumeName⟩)

-- If the storage is not enabled, there is no function that tells the path.
def storedAs (mountPath : Option (Bytes → Bytes → Bytes)) (podUID : Bytes) :
    Option Lookup → Except Failure (Option (Bytes × VolumeNamePathPair))
  | none => .ok none
  | some l =>
    match mountPath with
    | none => .error .panic
    | some path => .ok (some (l.entry path podUID))

theorem volumeNameAndPath_eq :
    m.volumeNameAndPath k pod vol =
    ({ m with cluster := (resolveVolume k m.cluster vol).fst },
     (resolveVolume k m.cluster vol).snd.bind (storedAs m.mountPath pod.uid)) := by
  rw [Manager.volumeNameAndPath, resolveVolume]
  cases vol.source
  case csi => rfl
  case persistentVolumeClaim claimName readOnly =>
    cases hc : k.getClaim m.cluster claimName
    case mk r x =>
      cases x
      case error e => simp only [hc]; rfl
      case ok volumeName =>
        cases hv : k.getVolume r volumeName
        case mk r x =>
          cases x
          case error e => simp only [hc, hv]; rfl
          case ok source =>
            simp only [hc, hv]
            cases Manager.uniqueVolumeName (Manager.csiVolumeName source)
            case error e => rfl
            case ok name => cases m.mountPath <;> rfl
  all_goals rfl

theorem uniqueVolumeName_ne_panic (name : Except Bytes Bytes) : Manager.uniqueVolumeName name ≠ .error .panic := by
  cases name
  case ok => simp [Manager.uniqueVolumeName]
  case error => simp [Manager.uniqueVolumeName]

theorem resolveVolume_ne_panic : (resolveVolume k r vol).snd ≠ .error .panic := by
  rw [resolveVolume]
  split
  case h_1 => simp [Manager.uniqueVolumeName, Manager.inlineVolumeName, Except.map]
  case h_3 => simp
  case h_2 =>
    split
    case h_1 => simp
    case h_2 =>
      split
      case h_1 => simp
      case h_2 source _ =>
        rw [ne_eq, Except.map_eq_error_iff]
        exact uniqueVolumeName_ne_panic _

theorem resolveVolume_preserves (hk : k.Preserves I N S) (hi : I r) : I (resolveVolume k r vol).fst := by
  rw [resolveVolume]
  split
  case h_1 => exact hi
  case h_3 => exact hi
  case h_2 claimName _ _ =>
    have hc := hk.getClaim claimName hi
    split
    case h_1 h => rwa [h] at hc
    case h_2 volumeName h =>
      rw [h] at hc
      have hv := hk.getVolume volumeName hc
      split
      case h_1 h' => rwa [h'] at hv
      case h_2 h' => rwa [h'] at hv

namespace Manager

structure Calls (I : ρ → Prop) (A : Event → Prop) (Q : α → Prop) (m : Manager ρ)
    (result : Manager ρ × List Event × α) : Prop where
  cluster : I result.fst.cluster
  mountPath : result.fst.mountPath = m.mountPath
  events : ∀ e ∈ result.snd.fst, A e
  result : Q result.snd.snd

section Calls

variable (hk : k.Preserves I N S) (hA : ∀ {p}, N p → S p.status → A (.podStatus p))

include hk

theorem getPod_calls (hi : I m.cluster) (hn : N pod) :
    m.Calls I A (fun p => ∀ p', p = some p' → N p' ∧ S p'.status)
      ((m.getPod k pod.name).fst, [], (m.getPod k pod.name).snd) := by
  have hg := hk.getPod hi hn
  have hl {p : Kube.Pod} (h : (k.getPod m.cluster pod.name).snd = some p) := hk.lookup hi hn h
  rw [getPod]
  split
  case h_1 h =>
    rw [h] at hg
    exact ⟨hg, rfl, by simp, by simp⟩
  case h_2 p' h =>
    rw [h] at hg hl
    exact ⟨hg, rfl, by simp, by simpa using hl rfl⟩

include hA

theorem tryUpdateStatus_calls {n : Nat} (hi : I m.cluster) (hn : N pod) (hs : S pod.status) :
    m.Calls I A N ((tryUpdateStatus k n m pod).fst, (tryUpdateStatus k n m pod).snd.snd.fst,
      (tryUpdateStatus k n m pod).snd.fst) := by
  induction n generalizing m pod
  case zero => exact ⟨hi, rfl, by simp [tryUpdateStatus], hn⟩
  case succ n ih =>
    have hu := hk.updatePodStatus hi hn hs
    rw [tryUpdateStatus]
    split
    case h_1 h =>
      rw [h] at hu
      exact ⟨hu, rfl, by simpa using hA hn hs, hn⟩
    case h_2 h =>
      rw [h] at hu
      exact ⟨hu, rfl, by simp, hn⟩
    case h_3 c _ h =>
      rw [h] at hu
      have hg := getPod_calls (m := { m with cluster := c }) (A := A) hk hu hn
      split
      case h_1 m' h' =>
        rw [h'] at hg
        have hi := ih hg.cluster hn hs
        exact ⟨hi.cluster, hi.mountPath.trans hg.mountPath, hi.events, hi.result⟩
      case h_2 m' newPod h' =>
        rw [h'] at hg
        have hi := ih hg.cluster (hk.status (hg.result newPod rfl).left) hs
        exact ⟨hi.cluster, hi.mountPath.trans hg.mountPath, hi.events, hi.result⟩

theorem updatePodStatus_calls (hi : I m.cluster) (hn : N pod) (hs : S pod.status) :
    m.Calls I A (fun res => (∀ p, res = .ok p → N p ∧ S p.status) ∧ res ≠ .error .panic)
      (m.updatePodStatus k pod) := by
  have ht := tryUpdateStatus_calls hk hA hi hn hs (n := tryCount)
  rw [updatePodStatus]
  split
  case h_1 h =>
    rw [h] at ht
    exact ⟨ht.cluster, ht.mountPath, ht.events, by simp⟩
  case h_2 m' pod' _ h =>
    rw [h] at ht
    have hg := getPod_calls (m := m') (A := A) hk ht.cluster ht.result
    split
    case h_1 h' =>
      rw [h'] at hg
      exact ⟨hg.cluster, hg.mountPath.trans ht.mountPath, ht.events, by simp [podNotFound]⟩
    case h_2 newPod h' =>
      rw [h'] at hg
      exact ⟨hg.cluster, hg.mountPath.trans ht.mountPath, ht.events, by simpa using hg.result newPod rfl⟩

theorem updateMirrorPod_calls {ps : Option Runtime.PodStatusMsg} {b : Bool} (hi : I m.cluster) (hn : N pod)
    (hs : ∀ status, mirrored k.parseCIDR pod ps b = some status → S status) :
    m.Calls I A (· = some .panic → mirrored k.parseCIDR pod ps b = none)
      (m.updateMirrorPod k (some pod) ps b) := by
  simp only [updateMirrorPod, updateMirrorPodOf]
  cases hm : mirrored k.parseCIDR pod ps b
  case none => exact ⟨hi, rfl, by simp, fun _ => rfl⟩
  case some status =>
    have hn : N { pod with status := status } := hk.status hn
    have hu := updatePodStatus_calls hk hA hi hn (hs status hm)
    simp only
    split
    case h_1 e h =>
      rw [h] at hu
      exact ⟨hu.cluster, hu.mountPath, hu.events, fun he => (hu.result.right (by simpa using he)).elim⟩
    case h_2 h =>
      rw [h] at hu
      exact ⟨hu.cluster, hu.mountPath, hu.events, by simp⟩

end Calls

theorem updateNodeStatus_calls {node : Kube.Node} (hi : I (k.updateNodeStatus m.cluster node).fst)
    (hA : A (.nodeStatus node)) : m.Calls I A (· ≠ .error .panic) (m.updateNodeStatus k node) := by
  rw [updateNodeStatus]
  split
  case h_1 h => rw [h] at hi; exact ⟨hi, rfl, by simpa using hA, by simp⟩
  case h_2 h => rw [h] at hi; exact ⟨hi, rfl, by simp, by simp⟩

theorem volumeNameAndPath_cluster (pod : Kube.Pod) (vol : Kube.Volume) :
    ∃ c, (m.volumeNameAndPath k pod vol).fst = { m with cluster := c } := by
  rw [volumeNameAndPath_eq]
  exact ⟨_, rfl⟩

variable {vols : List Kube.Volume} {names : VolumeNames}

theorem volumeNamesAndPaths_cluster :
    ∃ c, (volumeNamesAndPaths k pod m names vols).fst = { m with cluster := c } := by
  induction vols generalizing m names
  case nil => exact ⟨m.cluster, rfl⟩
  case cons vol vols hi =>
    obtain ⟨c, hc⟩ := volumeNameAndPath_cluster (k := k) (m := m) pod vol
    simp only [volumeNamesAndPaths]
    split
    case isTrue => exact hi
    case isFalse =>
      -- Whatever the volume is, the cluster has changed before the others are looked at.
      split
      case h_1 h => rw [h] at hc; exact ⟨c, hc⟩
      case h_2 h => rw [h] at hc; subst hc; exact hi
      case h_3 h => rw [h] at hc; subst hc; exact hi

theorem volumeNameAndPath_ne_panic (vol : Kube.Volume) (h : m.mountPath.isSome) :
    (m.volumeNameAndPath k pod vol).snd ≠ .error .panic := by
  obtain ⟨path, hp⟩ := Option.isSome_iff_exists.mp h
  rw [volumeNameAndPath_eq, hp]
  intro hb
  cases Except.bind_eq_error_iff.mp hb
  case inl hr => exact resolveVolume_ne_panic hr
  case inr hs =>
    obtain ⟨l, _, hs⟩ := hs
    cases l
    case none => cases hs
    case some l => cases hs

theorem volumeNamesAndPaths_ne_panic (h : m.mountPath.isSome) :
    (volumeNamesAndPaths k pod m names vols).snd ≠ .error .panic := by
  induction vols generalizing m names
  case nil => simp [volumeNamesAndPaths]
  case cons vol vols hi =>
    have hv : (m.volumeNameAndPath k pod vol).snd ≠ .error .panic := volumeNameAndPath_ne_panic vol h
    obtain ⟨c, hc⟩ := volumeNameAndPath_cluster (k := k) (m := m) pod vol
    simp only [volumeNamesAndPaths]
    split
    case isTrue => exact hi h
    case isFalse =>
      split
      case h_1 h' => simpa [h'] using hv
      case h_2 h' => rw [h'] at hc; subst hc; exact hi h
      case h_3 h' => rw [h'] at hc; subst hc; exact hi h

section Volumes

variable (hk : k.Preserves I N S)

include hk

theorem volumeNameAndPath_preserves (vol : Kube.Volume) (hi : I m.cluster) :
    I (m.volumeNameAndPath k pod vol).fst.cluster := by
  rw [volumeNameAndPath_eq]
  exact resolveVolume_preserves hk hi

theorem volumeNamesAndPaths_preserves {names : VolumeNames} {vols : List Kube.Volume} (hi : I m.cluster) :
    I (volumeNamesAndPaths k pod m names vols).fst.cluster := by
  induction vols generalizing m names
  case nil => exact hi
  case cons vol vols ih =>
    have hv : I (m.volumeNameAndPath k pod vol).fst.cluster := volumeNameAndPath_preserves hk vol hi
    simp only [volumeNamesAndPaths]
    split
    case isTrue => exact ih hi
    case isFalse =>
      split
      case h_1 h => rwa [h] at hv
      case h_2 h => rw [h] at hv; exact ih hv
      case h_3 h => rw [h] at hv; exact ih hv

theorem getUniqueVolumeNamesAndPaths_calls (pod : Kube.Pod) (hi : I m.cluster) :
    m.Calls I A (fun res => m.mountPath.isSome → res ≠ .error .panic)
      ((m.getUniqueVolumeNamesAndPaths k pod).fst, [], (m.getUniqueVolumeNamesAndPaths k pod).snd) where
  cluster := volumeNamesAndPaths_preserves hk hi
  mountPath := by
    have hc : ∃ c, (volumeNamesAndPaths k pod m ∅ pod.volumes).fst = { m with cluster := c } :=
      volumeNamesAndPaths_cluster
    obtain ⟨c, hc⟩ := hc
    rw [getUniqueVolumeNamesAndPaths, hc]
  events := by simp
  result := volumeNamesAndPaths_ne_panic

end Volumes

end Manager
end Aranya.Pod
