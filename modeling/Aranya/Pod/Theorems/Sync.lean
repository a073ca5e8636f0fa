import Aranya.Pod.Samples
import Aranya.Pod.Sync

namespace Aranya.Pod

open Std (ExtTreeMap)

variable {ρ : Type*} {k : Cluster ρ}

namespace Manager

variable {m m' : Manager ρ} {pod : Kube.Pod} {uid : Bytes} {n : Nat}

def Accepts (k : Cluster ρ) (uid : Bytes) : Nat → Manager ρ → Kube.Pod → Prop
  | 0, _, _ => False
  | n + 1, m, pod =>
    match k.updatePodStatus m.cluster pod with
    | (_, none) => pod.uid = uid
    | (_, some .notFound) => False
    | (r, some (.other _)) =>
      match getPod k { m with cluster := r } pod.name with
      | (m, none) => Accepts k uid n m pod
      | (m, some newPod) => Accepts k uid n m { newPod with status := pod.status }

theorem accepts_iff :
    (∃ q, .podStatus q ∈ (tryUpdateStatus k n m pod).2.2.1 ∧ q.uid = uid ∧ q.status = pod.status) ↔
    Accepts k uid n m pod := by
  induction n generalizing m pod
  case zero => simp [tryUpdateStatus, Accepts]
  case succ n hi =>
    cases hu : k.updatePodStatus m.cluster pod
    case mk r err =>
      rcases err with _ | _ | text
      case none => simp [tryUpdateStatus, Accepts, hu]
      case some.notFound => simp [tryUpdateStatus, Accepts, hu]
      case some.other =>
        simp only [tryUpdateStatus, Accepts, hu]
        -- The attempt has failed, so that the next one is made for the pod that is the latest now.
        cases hg : getPod k { m with cluster := r } pod.name
        case mk m newPod =>
          cases newPod
          case none => exact hi
          case some newPod => exact hi

theorem tryUpdateStatus_log {e : Event} (h : e ∈ (tryUpdateStatus k n m pod).2.2.1) :
    ∃ q, e = .podStatus q := by
  induction n generalizing m pod
  case zero => simp [tryUpdateStatus] at h
  case succ n hi =>
    simp only [tryUpdateStatus] at h
    split at h
    case h_1 => exact ⟨pod, by simpa using h⟩
    case h_2 => simp at h
    case h_3 =>
      split at h
      case h_1 => exact hi h
      case h_2 => exact hi h

theorem updateNodeStatus_log {node node' : Kube.Node} {log : List Event}
    (h : m.updateNodeStatus k node = (m', log, .ok node')) : log = [.nodeStatus node] := by
  simp only [updateNodeStatus] at h
  split at h <;> cases h
  rfl

theorem updatePodStatus_log : (m.updatePodStatus k pod).2.1 = (tryUpdateStatus k tryCount m pod).2.2.1 := by
  simp only [updatePodStatus]
  split
  case h_1 h => simp [h]
  case h_2 h => split <;> simp [h]

theorem updateMirrorPod_log {ps : Runtime.PodStatusMsg} {status : Kube.PodStatus}
    (hs : mirrorStatus k.parseCIDR pod ps false = some status) :
    (m.updateMirrorPod k (some pod) (some ps) false).2.1 =
    (tryUpdateStatus k tryCount m { pod with status := status }).2.2.1 := by
  rw [← updatePodStatus_log]
  simp only [updateMirrorPod, updateMirrorPodOf, mirrored, hs]
  split
  case h_1 h => simp [h]
  case h_2 h => simp [h]

end Manager

inductive Entry
  | error (e : ErrorMsg)
  | unexpected
  | pod (ps : Runtime.PodStatusMsg)

def entries : Runtime.Reply → List Entry
  | .error e => [.error e]
  | .podStatusList pods => pods.map .pod
  | _ => [.unexpected]

namespace SyncState

variable {s t t' : SyncState ρ} {ps : Runtime.PodStatusMsg} {pod : Kube.Pod} {e : Entry} {v : Bytes}

def syncEntry (k : Cluster ρ) (s : SyncState ρ) : Entry → SyncState ρ × Bool
  | .error e => ({ s with err := some (.device e) }, true)
  | .unexpected => (s, true)
  | .pod ps => s.syncPod k ps

theorem handleMessages_onMsg {msgs : List Runtime.Reply} :
    handleMessages (onMsg k) s msgs = (loop (syncEntry k) s (msgs.flatMap entries)).fst := by
  have h : onMsg k = fun s msg => loop (syncEntry k) s (entries msg) := by
    funext s msg
    cases msg
    case podStatusList pods =>
      show loop (fun s ps => syncEntry k s (.pod ps)) s pods = loop (syncEntry k) s (pods.map .pod)
      exact loop_map.symm
    all_goals rfl
  rw [handleMessages_eq, h, loop_loop]

-- The deletion of a pod that is not cached is scheduled. Otherwise the API server accepts its status in the
-- device.
def Handled (k : Cluster ρ) (t : SyncState ρ) (ps : Runtime.PodStatusMsg) : Prop :=
  match t.mgr.podCache.getByID ps.uid with
  | none => (t.syncPod k ps).fst.mgr.devPodRec.jobQ.has .delete ps.uid
  | some pod =>
    ∃ q, .podStatus q ∈ (t.mgr.updateMirrorPod k (some pod) (some ps) false).2.1 ∧ q.uid = ps.uid ∧
      mirrorStatus k.parseCIDR pod ps false = some q.status

def Feasible (k : Cluster ρ) (t : SyncState ρ) (ps : Runtime.PodStatusMsg) : Prop :=
  match t.mgr.podCache.getByID ps.uid with
  | none => t.mgr.devPodRec.jobQ.has .add ps.uid = true → t.mgr.devPodRec.jobQ.has .delete ps.uid = true
  | some pod =>
    ∃ status, mirrorStatus k.parseCIDR pod ps false = some status ∧
      t.mgr.Accepts k ps.uid Manager.tryCount { pod with status := status }

def Uses (k : Cluster ρ) (t : SyncState ρ) (ps : Runtime.PodStatusMsg) (v : Bytes) : Prop :=
  ∃ pod volNames, t.mgr.podCache.getByID ps.uid = some pod ∧
    (mirrorStatus k.parseCIDR pod ps false).isSome ∧
    ((t.mirror k pod ps).mgr.getUniqueVolumeNamesAndPaths k pod).2 = .ok volNames ∧ v ∈ volNames

theorem handled_iff (h : ps.uid ≠ []) : Handled k t ps ↔ Feasible k t ps := by
  simp only [Handled, Feasible]
  split
  case h_1 hc =>
    simp only [syncPod, h, if_false, hc, Manager.deleteStale, Reconcile.Core.schedule]
    exact JobQueue.has_delete_offer
  case h_2 pod hc =>
    cases hm : mirrorStatus k.parseCIDR pod ps false
    case none => simp
    case some status =>
      rw [Manager.updateMirrorPod_log hm]
      simp only [Option.some.injEq, exists_eq_left', ← Manager.accepts_iff, eq_comm]

theorem addVolumes_exit (h : t.addVolumes k pod = (t', true)) : t'.err ≠ none := by
  simp only [addVolumes] at h
  split at h
  case h_1 => cases h; simp
  case h_2 =>
    split at h
    case isTrue => cases h
    case isFalse =>
      split at h
      case h_1 => cases h; simp
      case h_2 => cases h

theorem syncEntry_continue (h : syncEntry k t e = (t', false)) :
    ∃ ps pod, e = .pod ps ∧ ps.uid ≠ [] ∧ t.mgr.podCache.getByID ps.uid = some pod := by
  cases e
  case error => cases h
  case unexpected => cases h
  case pod ps =>
    simp only [syncEntry, syncPod] at h
    split at h
    case isTrue => cases h
    case isFalse hu =>
      split at h
      case h_1 => cases h
      case h_2 pod hc => exact ⟨ps, pod, rfl, hu, hc⟩

-- If it is left after such a pod, there is an error.
theorem syncEntry_exit (hu : ps.uid ≠ []) (hc : t.mgr.podCache.getByID ps.uid = some pod)
    (h : syncEntry k t (.pod ps) = (t', true)) : t'.err ≠ none := by
  simp only [syncEntry, syncPod, hu, if_false, hc] at h
  split at h
  case isTrue => cases h; simp
  case isFalse => exact addVolumes_exit h

structure Regular (t : SyncState ρ) : Prop where
  length : t.volumeInUse.length = t.volumeAttached.length
  err : t.err = none

theorem Regular.mirror (h : t.Regular) : (t.mirror k pod ps).Regular :=
  ⟨h.length, h.err⟩

theorem addVolumes_regular (h : t.Regular) (hc : t.addVolumes k pod = (t', false)) : t'.Regular := by
  simp only [addVolumes] at hc
  split at hc
  case h_1 => cases hc
  case h_2 =>
    split at hc
    case isTrue => cases hc; exact ⟨h.length, h.err⟩
    case isFalse =>
      split at hc
      case h_1 => cases hc
      case h_2 ha => cases hc; exact ⟨length_addVolumesInUse ha, h.err⟩

theorem mem_addVolumes (h : t.Regular) :
    v ∈ (t.addVolumes k pod).fst.volumeInUse ↔ v ∈ t.volumeInUse ∨
      ∃ volNames, (t.mgr.getUniqueVolumeNamesAndPaths k pod).2 = .ok volNames ∧ v ∈ volNames := by
  simp only [addVolumes]
  split
  case h_1 hg => simp [hg]
  case h_2 volNames hg =>
    split
    case isTrue he =>
      have hv : v ∉ volNames := by simp [ExtTreeMap.isEmpty_iff.mp he]
      simp [hg, hv]
    case isFalse =>
      split
      case h_1 ha =>
        have hs : (addVolumesInUse t.volumeInUse t.volumeAttached volNames).isSome :=
          addVolumesInUse_isSome.mpr h.length.le
        simp [ha] at hs
      case h_2 ha => simp [hg, mem_addVolumesInUse ha, or_comm]

theorem syncEntry_regular (h : t.Regular) (hc : syncEntry k t e = (t', false)) : t'.Regular := by
  obtain ⟨ps, pod, rfl, hu, hp⟩ := syncEntry_continue hc
  simp only [syncEntry, syncPod, hu, if_false, hp] at hc
  split at hc
  case isTrue => cases hc
  case isFalse => exact addVolumes_regular h.mirror hc

theorem mem_syncEntry (h : t.Regular) :
    v ∈ (syncEntry k t e).fst.volumeInUse ↔
    v ∈ t.volumeInUse ∨ ∃ ps, e = .pod ps ∧ ps.uid ≠ [] ∧ Uses k t ps v := by
  cases e
  case error => simp [syncEntry]
  case unexpected => simp [syncEntry]
  case pod ps =>
    simp only [syncEntry, syncPod, Uses]
    split
    case isTrue hu => simp [hu]
    case isFalse hu =>
      split
      case h_1 hp => simp [hp]
      case h_2 pod hp =>
        split
        case isTrue hm => simp [hp, Option.isNone_iff_eq_none.mp hm]
        case isFalse hm =>
          rw [mem_addVolumes h.mirror]
          have hm : (mirrorStatus k.parseCIDR pod ps false).isSome :=
            Option.isSome_iff_ne_none.mpr (by simpa using hm)
          simp [hu, hp, mirror, hm]

theorem log_syncEntry (h : ∀ node, .nodeStatus node ∉ t.log) (node : Kube.Node) :
    .nodeStatus node ∉ (syncEntry k t e).fst.log := by
  cases e
  case error => exact h node
  case unexpected => exact h node
  case pod ps =>
    simp only [syncEntry, syncPod]
    split
    case isTrue => exact h node
    case isFalse =>
      split
      case h_1 => exact h node
      case h_2 pod _ =>
        have hl : ∀ t : SyncState ρ, (t.addVolumes k pod).fst.log = t.log := by
          intro t
          simp only [addVolumes]
          split
          case h_1 => rfl
          case h_2 =>
            split
            case isTrue => rfl
            case isFalse => split <;> rfl
        cases hs : mirrorStatus k.parseCIDR pod ps false
        case none => exact h node
        case some status =>
          rw [Option.isNone_some, if_neg Bool.false_ne_true, hl, mirror, List.mem_append, not_or]
          refine ⟨h node, fun hm => ?_⟩
          rw [Manager.updateMirrorPod_log hs] at hm
          obtain ⟨q, hq⟩ := Manager.tryUpdateStatus_log hm
          cases hq

end SyncState

namespace Manager

variable {m m' : Manager ρ} {replies : List Runtime.Reply} {log : List Event}

abbrev Gets (k : Cluster ρ) (m : Manager ρ) (replies : List Runtime.Reply) (e : Entry)
    (post : List Entry) (t : SyncState ρ) : Prop :=
  Reaches (SyncState.syncEntry k) (.new m) (replies.flatMap entries) e post t

structure Complete (k : Cluster ρ) (m : Manager ρ) (replies : List Runtime.Reply) (log : List Event) :
    Prop where
  handled : ∀ pre ps post, replies.flatMap entries = pre ++ .pod ps :: post → ps.uid ≠ [] →
    ∃ t, loop (SyncState.syncEntry k) (.new m) pre = (t, false) ∧ t.Handled k ps
  volumes : ∀ node, .nodeStatus node ∈ log → ∀ v, v ∈ node.volumesInUse ↔
    ∃ ps post t, Gets k m replies (.pod ps) post t ∧ ps.uid ≠ [] ∧ t.Uses k ps v
  written : ∀ ps post t v, Gets k m replies (.pod ps) post t → ps.uid ≠ [] → t.Uses k ps v →
    ∃ node, .nodeStatus node ∈ log

-- As long as there are pods with a UID to come, each entry is a pod with a UID that is cached, and it is
-- feasible to handle each of them.
structure Orderly (k : Cluster ρ) (m : Manager ρ) (replies : List Runtime.Reply) : Prop where
  known : ∀ e post t, Gets k m replies e post t → (∃ ps, .pod ps ∈ post ∧ ps.uid ≠ []) →
    ∃ ps, e = .pod ps ∧ ps.uid ≠ [] ∧ (t.mgr.podCache.getByID ps.uid).isSome
  feasible : ∀ ps post t, Gets k m replies (.pod ps) post t → ps.uid ≠ [] → t.Feasible k ps

theorem syncDevicePods_eq (h : m.syncDevicePods k (.ok replies) = (m', log, none)) :
    ∃ s, (loop (SyncState.syncEntry k) (.new m) (replies.flatMap entries)).fst = s ∧ s.err = none ∧
      updateVolumesInUse k s = (m', log, none) := by
  simp only [syncDevicePods, SyncState.handleMessages_onMsg] at h
  split at h
  case h_1 => cases h
  case h_2 herr => exact ⟨_, rfl, herr, h⟩

theorem nodeStatus_updateVolumesInUse {s : SyncState ρ} (hl : ∀ node, .nodeStatus node ∉ s.log)
    (h : updateVolumesInUse k s = (m', log, none)) :
    (∀ node, .nodeStatus node ∈ log → node.volumesInUse = s.volumeInUse) ∧
    (s.volumeInUse ≠ [] → ∃ node, .nodeStatus node ∈ log) := by
  simp only [updateVolumesInUse] at h
  split at h
  case isTrue he =>
    cases h
    exact ⟨fun node hn => absurd hn (hl node), fun hv => absurd he hv⟩
  case isFalse =>
    split at h
    case h_1 => cases h
    case h_2 r node _ =>
      split at h
      case h_1 => cases h
      case h_2 hu =>
        cases h
        rw [updateNodeStatus_log hu]
        constructor
        case left =>
          intro node hn
          rw [List.mem_append, List.mem_singleton] at hn
          cases hn
          case inl hn => exact absurd hn (hl node)
          case inr hn => cases hn; rfl
        case right => exact fun _ => ⟨_, List.mem_append_right _ (List.mem_singleton_self _)⟩

theorem volumes_loop {v : Bytes} :
    v ∈ (loop (SyncState.syncEntry k) (.new m) (replies.flatMap entries)).fst.volumeInUse ↔
    ∃ ps post t, Gets k m replies (.pod ps) post t ∧ ps.uid ≠ [] ∧ t.Uses k ps v := by
  have hn : (SyncState.new m).Regular := ⟨rfl, rfl⟩
  apply (loop_accumulates (P := (v ∈ ·.volumeInUse)) (A := fun t e => ∃ ps, e = .pod ps ∧ ps.uid ≠ [] ∧
    t.Uses k ps v) hn SyncState.syncEntry_regular SyncState.mem_syncEntry).trans
  constructor
  case mp =>
    rintro (hv | ⟨e, post, t, hr, ps, he, hu, hv⟩)
    case inl => simp [SyncState.new] at hv
    case inr => subst he; exact ⟨ps, post, t, hr, hu, hv⟩
  case mpr =>
    rintro ⟨ps, post, t, hr, hu, hv⟩
    exact .inr ⟨.pod ps, post, t, hr, ps, rfl, hu, hv⟩

theorem log_loop (node : Kube.Node) :
    .nodeStatus node ∉ (loop (SyncState.syncEntry k) (.new m) (replies.flatMap entries)).fst.log := by
  revert node
  apply loop_preserves (I := fun s : SyncState ρ => ∀ node, .nodeStatus node ∉ s.log)
  case h => simp [SyncState.new]
  case hs => exact SyncState.log_syncEntry

-- A call that returns no error is complete iff the replies of the device are orderly.
theorem sync_complete_iff (h : m.syncDevicePods k (.ok replies) = (m', log, none)) :
    Complete k m replies log ↔ Orderly k m replies := by
  obtain ⟨s, hs, herr, h⟩ := syncDevicePods_eq h
  constructor
  case mp =>
    intro hc
    constructor
    case known =>
      rintro e post t ⟨pre, hp, hl⟩ ⟨ps, hm, hu⟩
      obtain ⟨post₁, post₂, rfl⟩ := List.append_of_mem hm
      obtain ⟨t', ht, _⟩ := hc.handled (pre ++ e :: post₁) ps post₂ (by simp [hp]) hu
      rw [loop_append_of_continue hl] at ht
      cases hb : SyncState.syncEntry k t e
      case mk t'' exit =>
        cases exit
        case true => simp [loop_of_exit hb] at ht
        case false =>
          obtain ⟨ps, pod, he, hu, hp⟩ := SyncState.syncEntry_continue hb
          exact ⟨ps, he, hu, by simp [hp]⟩
    case feasible =>
      rintro ps post t ⟨pre, hp, hl⟩ hu
      obtain ⟨t', ht, hh⟩ := hc.handled pre ps post hp hu
      cases hl.symm.trans ht
      exact (SyncState.handled_iff hu).mp hh
  case mpr =>
    intro ho
    obtain ⟨h₁, h₂⟩ := nodeStatus_updateVolumesInUse (hs ▸ log_loop) h
    constructor
    case handled =>
      intro pre ps post hp hu
      have hr : ∃ t, loop (SyncState.syncEntry k) (.new m) pre = (t, false) := by
        apply Reaches.of_continue hp
        intro e post' t hr hm
        obtain ⟨ps', rfl, hu', hc⟩ := ho.known e post' t hr ⟨ps, hm, hu⟩
        obtain ⟨pod, hc⟩ := Option.isSome_iff_exists.mp hc
        cases hb : SyncState.syncEntry k t (.pod ps')
        case mk t' exit =>
          cases exit
          case false => rfl
          case true =>
            have he := SyncState.syncEntry_exit hu' hc hb
            rw [hr.loop_of_exit hb] at hs
            subst hs
            exact absurd herr he
      obtain ⟨t, ht⟩ := hr
      exact ⟨t, ht, (SyncState.handled_iff hu).mpr (ho.feasible ps post t ⟨pre, hp, ht⟩ hu)⟩
    case volumes =>
      intro node hm v
      rw [h₁ node hm, ← hs, volumes_loop]
    case written =>
      intro ps post t v hr hu hv
      apply h₂
      have hm := volumes_loop.mpr ⟨ps, post, t, hr, hu, hv⟩
      rw [hs] at hm
      exact List.ne_nil_of_mem hm

def webCluster : Cluster Unit :=
  .answering (some samplePod)

def webManager : Manager Unit :=
  { Manager.idle () with podCache := PodCache.new.update samplePod }

def reported (uid : Bytes) : Runtime.PodStatusMsg where
  uid := uid
  network := none
  containers := ∅

theorem sync_complete_iff_last :
    ∃ m' log, webManager.syncDevicePods webCluster (.ok [.podStatusList [reported [1], reported [2]]]) =
        (m', log, none) ∧
      (Complete webCluster webManager [.podStatusList [reported [1], reported [2]]] log ↔
       Orderly webCluster webManager [.podStatusList [reported [1], reported [2]]]) := by
  have ⟨m', log, h⟩ : ∃ m' log, webManager.syncDevicePods webCluster
      (.ok [.podStatusList [reported [1], reported [2]]]) = (m', log, none) := ⟨_, _, rfl⟩
  exact ⟨m', log, h, sync_complete_iff h⟩

-- The device lists a pod that is not cached before one that is. The call never gets to the latter.
theorem not_complete_first :
    ∃ m', webManager.syncDevicePods webCluster (.ok [.podStatusList [reported [2], reported [1]]]) =
        (m', [], none) ∧
      ¬Complete webCluster webManager [.podStatusList [reported [2], reported [1]]] [] := by
  refine ⟨_, rfl, fun h => ?_⟩
  obtain ⟨t, ht, _⟩ := h.handled [.pod (reported [2])] (reported [1]) [] rfl (by decide)
  cases ht

end Manager
end Aranya.Pod
