import Aranya.Lib.Execution
import Aranya.Pod.Theorems.NodeStore
import Aranya.Pod.Theorems.Sync

namespace Aranya.Pod

open Std (ExtTreeMap)

variable {ρ : Type} {k : Cluster ρ} {r : Resolver ρ} {volNames : VolumeNames}

def Removes (n n' : Kube.Node) (volNames : VolumeNames) : Prop :=
  ∀ v, v ∈ n'.volumesInUse ↔ v ∈ n.volumesInUse ∧ v ∉ volNames

theorem Removes.of_removeVolumeInUse {n n' : Kube.Node}
    (h : removeVolumeInUse n.volumesInUse n.volumesAttached volNames = some (n'.volumesInUse, n'.volumesAttached)) :
    Removes n n' volNames := by
  obtain ⟨attached, -, h⟩ := Option.bind_eq_some_iff.mp h
  simp only [pure, Option.some.injEq, Prod.mk.injEq] at h
  intro v
  rw [← h.left, map_fst_filter_zipIdx (p := fun v => v ∉ volNames), List.mem_filter, decide_eq_true_eq]

theorem Removes.of_isEmpty {n : Kube.Node} (h : volNames.isEmpty = true) : Removes n n volNames := by
  intro v
  have hv : v ∉ volNames := by simp [ExtTreeMap.isEmpty_iff.mp h]
  simp [hv]

namespace System

variable {st : NodeStore k r} {i : Nat} {α β : Type} {E : Return → Prop} {pod : Kube.Pod} {a : Answers} {t : α}
    {s s' : System ρ} {podUID : Bytes} {f : α → ReconcileM ρ β} {x : Except Failure α}

abbrev Keeps (st : NodeStore k r) (i : Nat) (E : Return → Prop) (x : ReconcileM ρ α) : Prop :=
  Frames (fun s s' => st.Kept (s.managers i).toManager (s'.managers i).toManager) E x

theorem run_call {f : Manager ρ → Manager ρ × α} (h : (call i f).run s = (.ok t, s')) :
    (s'.managers i).toManager = (f (s.managers i).toManager).fst ∧ t = (f (s.managers i).toManager).snd := by
  cases h
  simp [setManager]

theorem run_ask {f : ρ → ρ × α} (h : (ask i f).run s = (.ok t, s')) :
    f (s.managers i).cluster = ((s'.managers i).cluster, t) ∧
    (s'.managers i).mountPath = (s.managers i).mountPath := by
  obtain ⟨hs, rfl⟩ := run_call h
  exact ⟨by rw [hs], by rw [hs]⟩

theorem run_ofFailure (h : (ofFailure (ρ := ρ) x).run s = (.ok t, s')) : x = .ok t ∧ s' = s := by
  cases x
  case error e =>
    cases hf : failureText e
    case none => simp only [ofFailure, hf] at h; cases h
    case some text => simp only [ofFailure, hf] at h; cases h
  case ok t => cases h; exact ⟨rfl, rfl⟩

theorem releaseVolumes_removes (st : NodeStore k r) (h : (releaseVolumes k i pod).run s = (.ok (), s')) :
    ∃ volNames, ((s.managers i).getUniqueVolumeNamesAndPaths k pod).snd = .ok volNames ∧
      Removes (st.node (s.managers i).cluster) (st.node (s'.managers i).cluster) volNames ∧
      (s'.managers i).mountPath = (s.managers i).mountPath := by
  obtain ⟨res, s₁, hg, h₁⟩ := run_bind_eq_ok h
  obtain ⟨volNames, s₂, ho, h₂⟩ := run_bind_eq_ok h₁
  have hs := run_call hg
  have hres := run_ofFailure ho
  have hv : ((s.managers i).getUniqueVolumeNamesAndPaths k pod).snd = .ok volNames :=
    hs.right.symm.trans hres.left
  have hk : st.Kept (s.managers i).toManager (s₂.managers i).toManager := by
    rw [hres.right, hs.left]
    exact .volumeNamesAndPaths
  refine ⟨volNames, hv, ?_⟩
  rw [← hk.node, ← hk.mountPath]
  split at h₂
  case isFalse he =>
    cases h₂
    exact ⟨.of_isEmpty (by simpa using he), rfl⟩
  case isTrue =>
    obtain ⟨node, s₃, hn, h₃⟩ := run_bind_eq_ok h₂
    replace hn := run_ask hn
    cases node
    case none => cases h₃
    case some node =>
      obtain ⟨rfl, -⟩ := st.getNode hn.left
      cases hr : removeVolumeInUse (st.node (s₂.managers i).cluster).volumesInUse
        (st.node (s₂.managers i).cluster).volumesAttached volNames
      case none => simp only [hr] at h₃; cases h₃
      case some x =>
        simp only [hr] at h₃
        obtain ⟨res', s₄, hu, h₄⟩ := run_bind_eq_ok h₃
        replace hu := run_ask hu
        cases res'
        case error e => cases h₄
        case ok node =>
          cases h₄
          rw [st.updateNodeStatus hu.left]
          exact ⟨.of_removeVolumeInUse hr, hu.right.trans hn.right⟩

abbrev Fails (x : ReconcileM ρ α) : Prop :=
  Frames (fun _ _ => True) (· ≠ .result none) x

theorem Fails.bind {x : ReconcileM ρ α} (hx : Fails x) (hf : ∀ t, Fails (f t)) : Fails (x >>= f) :=
  Frames.bind (fun _ _ => trivial) hx hf

theorem Fails.throw {e : Return} (h : e ≠ .result none) : Fails (throw e : ReconcileM ρ α) :=
  Frames.throw (fun _ => trivial) h

theorem Fails.call {f : Manager ρ → Manager ρ × α} : Fails (call i f) :=
  Frames.modifyGet fun _ => trivial

theorem fails_ofFailure : Fails (ofFailure (ρ := ρ) x) := by
  cases x
  case ok t => exact Frames.pure fun _ => trivial
  case error e =>
    rw [ofFailure]
    cases failureText e
    case none => exact .throw nofun
    case some text => exact .throw nofun

theorem fails_releaseVolumes : Fails (releaseVolumes k i pod) := by
  refine .bind .call fun res => .bind fails_ofFailure fun volNames => ?_
  split
  case isFalse => exact Frames.pure fun _ => trivial
  case isTrue =>
    refine .bind .call fun node => ?_
    cases node
    case none => exact .throw nofun
    case some node =>
      cases hr : removeVolumeInUse node.volumesInUse node.volumesAttached volNames
      case none => simp only [hr]; exact .throw nofun
      case some x =>
        simp only [hr]
        refine .bind .call fun res' => ?_
        cases res'
        case error e => exact .throw nofun
        case ok node => exact Frames.pure fun _ => trivial

theorem Keeps.bind {x : ReconcileM ρ α} (hx : Keeps st i E x)
    (hf : ∀ t, Keeps st i E (f t)) : Keeps st i E (x >>= f) :=
  Frames.bind .trans hx hf

theorem Keeps.pure {t : α} : Keeps st i E (pure t : ReconcileM ρ α) :=
  Frames.pure fun s => .refl (s.managers i).toManager

theorem Keeps.throw {e : Return} (h : E e) : Keeps st i E (throw e : ReconcileM ρ α) :=
  Frames.throw (fun s => .refl (s.managers i).toManager) h

theorem keeps_cleanupStorage : Keeps st i (· ≠ .result none) (cleanupStorage i a pod) := by
  have hm : Keeps st i (· ≠ .result none) (manager (ρ := ρ) i) :=
    .bind (Frames.modifyGet fun s => .refl (s.managers i).toManager) fun _ => .pure
  cases hc : a.cleanupStorage
  case none =>
    simp only [cleanupStorage, hc]
    refine hm.bind fun m => ?_
    split
    case isFalse => exact .pure
    case isTrue =>
      split
      case isTrue => exact .bind (.throw (by simp)) fun _ => .pure
      case isFalse => exact .pure
  case some e =>
    simp only [cleanupStorage, hc]
    refine hm.bind fun m => ?_
    split
    case isFalse => exact .pure
    case isTrue =>
      split
      case isTrue => exact .bind (.throw (by simp)) fun _ => .throw (by simp)
      case isFalse => exact .throw (by simp)

theorem keeps_deletePod {answer : Except Kube.ApiError Bool} {name : Bytes} :
    Keeps st i (· ≠ .result none) (deletePod (ρ := ρ) answer podUID name) := by
  rcases answer with (_ | text) | gone
  case error.notFound => exact .pure
  case error.other => exact .throw nofun
  case ok => exact Frames.modifyGet fun s => .refl (s.managers i).toManager

theorem run_eq_nil {x : ReconcileM ρ Unit} (h : run x s = some (s', none)) :
    x.run s = (.ok (), s') ∨ x.run s = (.error (.result none), s') := by
  rw [run] at h
  split at h
  case h_1 hx => cases h; exact .inl hx
  case h_2 hx => cases h; exact .inr hx
  case h_3 => cases h

theorem onRemotePodDeleted_none (hc : (s.managers i).podCache.getByID podUID = none)
    (h : run (onRemotePodDeleted k i a podUID) s = some (s', none)) : s' = s := by
  have hr : (onRemotePodDeleted k i a podUID).run s = (.error (.result none), s) := by
    refine (run_bind_ok (r := s.managers i) rfl).trans ?_
    rw [hc]
    rfl
  cases run_eq_nil h
  case inl h => cases hr.symm.trans h
  case inr h => cases hr.symm.trans h; rfl

theorem onRemotePodDeleted_removes (st : NodeStore k r) (hc : (s.managers i).podCache.getByID podUID = some pod)
    (h : run (onRemotePodDeleted k i a podUID) s = some (s', none)) :
    ∃ volNames, ((s.managers i).getUniqueVolumeNamesAndPaths k pod).snd = .ok volNames ∧
      Removes (st.node (s.managers i).cluster) (st.node (s'.managers i).cluster) volNames ∧
      (s'.managers i).mountPath = (s.managers i).mountPath := by
  have hk : Keeps st i (· ≠ .result none) (do
      cleanupStorage i a pod
      deletePod a.deletePod podUID pod.name
      modifyManager i fun m => { m with podCache := m.podCache.delete podUID }) := by
    refine .bind keeps_cleanupStorage fun _ => .bind keeps_deletePod fun _ => ?_
    refine Frames.modifyGet fun s => ?_
    simp only [setManager, Function.update_self]
    exact ⟨rfl, rfl⟩
  have hr : (onRemotePodDeleted k i a podUID).run s = (do
      releaseVolumes k i pod
      cleanupStorage i a pod
      deletePod a.deletePod podUID pod.name
      modifyManager i fun m => { m with podCache := m.podCache.delete podUID } : ReconcileM ρ Unit).run s := by
    refine (run_bind_ok (r := s.managers i) rfl).trans ?_
    rw [hc]
  have hd : ∃ s₁, (releaseVolumes k i pod).run s = (.ok (), s₁) ∧
      st.Kept (s₁.managers i).toManager (s'.managers i).toManager := by
    cases run_eq_nil h
    case inl h =>
      obtain ⟨⟨⟩, s₁, hv, h₁⟩ := run_bind_eq_ok (hr.symm.trans h)
      exact ⟨s₁, hv, hk.of_run h₁⟩
    case inr h =>
      cases run_bind_eq_error (hr.symm.trans h)
      case inl he => exact absurd rfl (fails_releaseVolumes.error he)
      case inr h₁ =>
        obtain ⟨_, _, -, he⟩ := h₁
        exact absurd rfl (hk.error he)
  obtain ⟨s₁, hv, hk⟩ := hd
  rw [hk.node, hk.mountPath]
  exact releaseVolumes_removes st hv

end System

namespace SyncState

variable {st : NodeStore k r} {t : SyncState ρ} {e : Entry} {pod : Kube.Pod} {m : Manager ρ}
    {replies : List Runtime.Reply}

theorem kept_addVolumes : st.Kept t.mgr (t.addVolumes k pod).fst.mgr := by
  have hk : st.Kept t.mgr (t.mgr.getUniqueVolumeNamesAndPaths k pod).fst := .volumeNamesAndPaths
  simp only [addVolumes]
  split
  case h_1 hg => rwa [hg] at hk
  case h_2 hg =>
    rw [hg] at hk
    split
    case isTrue => exact hk
    case isFalse =>
      split
      case h_1 => exact hk
      case h_2 => exact hk

theorem kept_syncEntry : st.Kept t.mgr (syncEntry k t e).fst.mgr := by
  cases e
  case error => exact .refl t.mgr
  case unexpected => exact .refl t.mgr
  case pod ps =>
    simp only [syncEntry, syncPod]
    split
    case isTrue => exact .refl t.mgr
    case isFalse =>
      split
      case h_1 => exact ⟨rfl, rfl⟩
      case h_2 pod hc =>
        have hk : st.Kept t.mgr (t.mgr.updateMirrorPod k (some pod) (some ps) false).fst := .updateMirrorPod
        split
        case isTrue => exact .refl t.mgr
        case isFalse => exact hk.trans (kept_addVolumes (t := t.mirror k pod ps))

theorem kept_loop : st.Kept m (loop (syncEntry k) (.new m) (replies.flatMap entries)).fst.mgr := by
  apply loop_preserves (I := fun t : SyncState ρ => st.Kept m t.mgr)
  case h => exact .refl m
  case hs => exact fun h => h.trans kept_syncEntry

end SyncState

namespace Manager

variable {st : NodeStore k r} {m m' : Manager ρ} {log : List Event} {replies : List Runtime.Reply} {v : Bytes}

def Reported (k : Cluster ρ) (m : Manager ρ) (replies : List Runtime.Reply) (v : Bytes) : Prop :=
  ∃ ps post t, Gets k m replies (.pod ps) post t ∧ ps.uid ≠ [] ∧ t.Uses k ps v

structure Synced (st : NodeStore k r) (m m' : Manager ρ) (replies : List Runtime.Reply) : Prop where
  inUse : ∀ v, v ∈ (st.node m'.cluster).volumesInUse ↔ Reported k m replies v ∨
    v ∈ (st.node m.cluster).volumesInUse ∧ ∀ v, ¬Reported k m replies v
  mountPath : m'.mountPath = m.mountPath

theorem Synced.of_sync (h : m.syncDevicePods k (.ok replies) = (m', log, none)) : Synced st m m' replies := by
  obtain ⟨s, hs, -, h⟩ := syncDevicePods_eq h
  have hk : st.Kept m s.mgr := hs ▸ SyncState.kept_loop
  have hv : ∀ v, v ∈ s.volumeInUse ↔ Reported k m replies v := fun v => hs ▸ volumes_loop
  rw [updateVolumesInUse] at h
  split at h
  case isTrue he =>
    cases h
    have hn : ∀ v, ¬Reported k m replies v := fun v hr => by simpa [he] using (hv v).mpr hr
    exact ⟨fun v => by simp [hk.node, hn], hk.mountPath⟩
  case isFalse he =>
    -- Some volume is reported, so the ones which were in use before do not matter.
    obtain ⟨v₀, hm⟩ := List.exists_mem_of_ne_nil _ he
    have hf : ¬∀ v, ¬Reported k m replies v := fun hf => hf v₀ ((hv v₀).mp hm)
    split at h
    case h_1 => cases h
    case h_2 c node hg =>
      simp only at h
      split at h
      case h_1 => cases h
      case h_2 hu =>
        cases h
        obtain ⟨hn, hp⟩ := updateNodeStatus_node st (congrArg (·.snd.snd) hu)
        rw [hu] at hn hp
        exact ⟨fun v => by simp [hn, hv, hf], hp.trans hk.mountPath⟩

def Names (k : Cluster ρ) (m : Manager ρ) (pod : Kube.Pod) (v : Bytes) : Prop :=
  ∃ volNames, (m.getUniqueVolumeNamesAndPaths k pod).snd = .ok volNames ∧ v ∈ volNames

theorem names_iff {pod : Kube.Pod} {volNames : VolumeNames}
    (h : (m.getUniqueVolumeNamesAndPaths k pod).snd = .ok volNames) : m.Names k pod v ↔ v ∈ volNames := by
  simp [Names, h]

theorem names_of_mountPath (st : NodeStore k r) {pod : Kube.Pod} (h : m'.mountPath = m.mountPath) :
    m'.Names k pod v ↔ m.Names k pod v := by
  have hv : (m'.getUniqueVolumeNamesAndPaths k pod).snd = (m.getUniqueVolumeNamesAndPaths k pod).snd :=
    st.volumeNamesAndPaths_eq h
  rw [Names, Names, hv]

end Manager

namespace DevicePods

variable {i : Nat} {s s' : DevicePods ρ} {a : Action} {as : List Action} {v podUID : Bytes} {r' : Replies}
    {a' : Answers}

def node (st : NodeStore k r) (i : Nat) (s : DevicePods ρ) : Kube.Node :=
  st.node (s.manager i).cluster

def Uses (k : Cluster ρ) (i : Nat) (s : DevicePods ρ) (podUID v : Bytes) : Prop :=
  ∃ pod, s.created podUID = some pod ∧ (s.manager i).Names k pod v

def Cached (k : Cluster ρ) (i : Nat) (s : DevicePods ρ) (podUID v : Bytes) : Prop :=
  ∃ pod, (s.manager i).podCache.getByID podUID = some pod ∧ (s.manager i).Names k pod v

def UsedByOther (k : Cluster ρ) (i : Nat) (s : DevicePods ρ) (podUID v : Bytes) : Prop :=
  ∃ podUID', podUID' ≠ podUID ∧ s.Uses k i podUID' v

def Exact (st : NodeStore k r) (i : Nat) (s : DevicePods ρ) : Prop :=
  ∀ v, v ∈ (s.node st i).volumesInUse ↔ ∃ podUID, s.Uses k i podUID v

-- A pod that is created again still uses its volumes, or others do. The volumes of a deleted pod are still
-- the same, and no other pod uses them. Listed pods with volumes are all pods.
def Orderly (k : Cluster ρ) (i : Nat) (s : DevicePods ρ) : Action → Prop
  | .create podUID _ => ∀ v, s.Uses k i podUID v → s.Cached k i podUID v ∨ s.UsedByOther k i podUID v
  | .delete podUID _ => ∀ v,
    (s.Cached k i podUID v → ¬s.UsedByOther k i podUID v) ∧
    (s.Uses k i podUID v → s.Cached k i podUID v ∨ s.UsedByOther k i podUID v)
  | .sync (.ok replies) => (∃ v, (s.manager i).Reported k replies v) →
    ∀ v, (s.manager i).Reported k replies v ↔ ∃ podUID, s.Uses k i podUID v
  | .sync (.error _) => True
  | .cache _ => True

theorem uses_iff_usedByOther :
    (∃ podUID', s.Uses k i podUID' v) ↔ s.Uses k i podUID v ∨ s.UsedByOther k i podUID v := by
  constructor
  case mp =>
    rintro ⟨podUID', h⟩
    by_cases he : podUID' = podUID
    case pos => exact .inl (he ▸ h)
    case neg => exact .inr ⟨podUID', he, h⟩
  case mpr =>
    rintro (h | ⟨podUID', -, h⟩)
    case inl => exact ⟨podUID, h⟩
    case inr => exact ⟨podUID', h⟩

theorem usedByOther_update {pod : Option Kube.Pod} (st : NodeStore k r)
    (h : (s'.manager i).mountPath = (s.manager i).mountPath)
    (hc : s'.created = Function.update s.created podUID pod) :
    s'.UsedByOther k i podUID v ↔ s.UsedByOther k i podUID v := by
  refine exists_congr fun podUID' => and_congr_right fun hne => exists_congr fun p => ?_
  rw [hc, Function.update_of_ne hne, Manager.names_of_mountPath st h]

theorem uses_update {pod : Option Kube.Pod} (st : NodeStore k r)
    (h : (s'.manager i).mountPath = (s.manager i).mountPath)
    (hc : s'.created = Function.update s.created podUID pod) :
    (∃ podUID', s'.Uses k i podUID' v) ↔
    (∃ p, pod = some p ∧ (s.manager i).Names k p v) ∨ s.UsedByOther k i podUID v := by
  have hu : s'.Uses k i podUID v ↔ ∃ p, pod = some p ∧ (s.manager i).Names k p v := by
    refine exists_congr fun p => ?_
    rw [hc, Function.update_self, Manager.names_of_mountPath st h]
  rw [uses_iff_usedByOther, hu, usedByOther_update st h hc]

theorem uses_of_created (st : NodeStore k r) (h : (s'.manager i).mountPath = (s.manager i).mountPath)
    (hc : s'.created = s.created) : (∃ podUID, s'.Uses k i podUID v) ↔ ∃ podUID, s.Uses k i podUID v := by
  refine exists_congr fun podUID => exists_congr fun pod => ?_
  rw [hc, Manager.names_of_mountPath st h]

theorem toManager_setManager {m : Manager ρ} : ((s.setManager i m).manager i).toManager = m := by
  simp [manager, setManager, System.setManager]

theorem step_create (h : s.step k r i (.create podUID r') = some s') :
    ∃ pod log, (s.manager i).podCache.getByID podUID = some pod ∧
      (s.manager i).runCreateDevicePod k r r' pod = ((s'.manager i).toManager, log, none) ∧
      s'.created = Function.update s.created podUID (some pod) := by
  rw [step] at h
  split at h
  case h_1 => cases h
  case h_2 pod hc =>
    split at h
    case h_2 => cases h
    case h_1 m log hr =>
      cases h
      have hm : ((s.setManager i m).manager i).toManager = m := toManager_setManager
      exact ⟨pod, log, hc, hr.trans (congrArg (·, log, none) hm.symm), rfl⟩

theorem step_delete (h : s.step k r i (.delete podUID a') = some s') :
    System.run (System.onRemotePodDeleted k i a' podUID) s.system = some (s'.system, none) ∧
    s'.created = Function.update s.created podUID none := by
  rw [step] at h
  split at h
  case h_1 hr => cases h; exact ⟨hr, rfl⟩
  case h_2 => cases h

theorem step_sync {replies : Except Bytes (List Runtime.Reply)} (h : s.step k r i (.sync replies) = some s') :
    ∃ msgs log, replies = .ok msgs ∧
      (s.manager i).syncDevicePods k (.ok msgs) = ((s'.manager i).toManager, log, none) ∧
      s'.created = s.created := by
  rw [step] at h
  split at h
  case h_2 => cases h
  case h_1 m log hr =>
    cases h
    cases replies
    case error e => cases hr
    case ok msgs => exact ⟨msgs, log, rfl, hr.trans (by rw [toManager_setManager]), rfl⟩

theorem cached_iff {pod : Kube.Pod} {volNames : VolumeNames}
    (hc : (s.manager i).podCache.getByID podUID = some pod)
    (hv : ((s.manager i).getUniqueVolumeNamesAndPaths k pod).snd = .ok volNames) :
    s.Cached k i podUID v ↔ v ∈ volNames := by
  simp [Cached, hc, Manager.names_iff hv]

structure Effect (st : NodeStore k r) (i : Nat) (s s' : DevicePods ρ) (inUse uses : Bytes → Prop) : Prop where
  mountPath : (s'.manager i).mountPath = (s.manager i).mountPath
  inUse : ∀ v, v ∈ (s'.node st i).volumesInUse ↔ inUse v
  uses : ∀ v, (∃ podUID, s'.Uses k i podUID v) ↔ uses v

theorem Effect.create (st : NodeStore k r) (hp : (s.manager i).mountPath.isSome)
    (h : s.step k r i (.create podUID r') = some s') :
    Effect st i s s' (fun v => s.Cached k i podUID v ∨ v ∈ (s.node st i).volumesInUse)
      (fun v => s.Cached k i podUID v ∨ s.UsedByOther k i podUID v) := by
  obtain ⟨pod, log, hc, hr, hs⟩ := step_create h
  obtain ⟨volNames, hv, ha, hm⟩ := Manager.runCreateDevicePod_adds st hp hr
  constructor
  case mountPath => exact hm
  case inUse => exact fun v => (ha v).trans <| or_congr_left (cached_iff hc hv).symm
  case uses =>
    intro v
    rw [uses_update st hm hs, cached_iff hc hv]
    simp [Manager.names_iff hv]

theorem Effect.delete (st : NodeStore k r) (h : s.step k r i (.delete podUID a') = some s') :
    Effect st i s s' (fun v => v ∈ (s.node st i).volumesInUse ∧ ¬s.Cached k i podUID v)
      (s.UsedByOther k i podUID) := by
  obtain ⟨hr, hs⟩ := step_delete h
  have hu : (s'.manager i).mountPath = (s.manager i).mountPath →
      ∀ v, (∃ podUID', s'.Uses k i podUID' v) ↔ s.UsedByOther k i podUID v := by
    intro hm v
    simp [uses_update st hm hs]
  cases hc : (s.manager i).podCache.getByID podUID
  case none =>
    have he : s'.manager i = s.manager i := by rw [manager, System.onRemotePodDeleted_none hc hr, manager]
    have hm : (s'.manager i).mountPath = (s.manager i).mountPath := by rw [he]
    exact ⟨hm, fun v => by simp [node, he, Cached, hc], hu hm⟩
  case some pod =>
    obtain ⟨volNames, hv, ha, hm⟩ := System.onRemotePodDeleted_removes st hc hr
    have hn : ∀ v, ¬s.Cached k i podUID v ↔ v ∉ volNames := fun v => not_congr (cached_iff hc hv)
    exact ⟨hm, fun v => (ha v).trans <| and_congr_right fun _ => (hn v).symm, hu hm⟩

theorem Effect.sync {msgs : List Runtime.Reply} (st : NodeStore k r)
    (h : s.step k r i (.sync (.ok msgs)) = some s') :
    Effect st i s s' (fun v => (s.manager i).Reported k msgs v ∨
        v ∈ (s.node st i).volumesInUse ∧ ∀ v, ¬(s.manager i).Reported k msgs v)
      (fun v => ∃ podUID, s.Uses k i podUID v) := by
  obtain ⟨msgs', log, hm, hr, hs⟩ := step_sync h
  cases hm
  have hd : Manager.Synced st (s.manager i).toManager (s'.manager i).toManager msgs := .of_sync hr
  exact ⟨hd.mountPath, hd.inUse, fun v => uses_of_created st hd.mountPath hs⟩

theorem Effect.cache {c : PodCache} (st : NodeStore k r) (h : s.step k r i (.cache c) = some s') :
    Effect st i s s' (· ∈ (s.node st i).volumesInUse) (fun v => ∃ podUID, s.Uses k i podUID v) := by
  cases h
  have hm := toManager_setManager (s := s) (i := i) (m := { (s.manager i).toManager with podCache := c })
  have hp : ((s.setManager i { (s.manager i).toManager with podCache := c }).manager i).mountPath =
      (s.manager i).mountPath := by rw [hm]
  exact ⟨hp, fun v => by rw [node, hm, node], fun v => uses_of_created st hp rfl⟩

theorem exact_iff (st : NodeStore k r) (hp : (s.manager i).mountPath.isSome) (he : s.Exact st i)
    (h : s.step k r i a = some s') : s'.Exact st i ↔ s.Orderly k i a := by
  have hu : ∀ v podUID, v ∈ (s.node st i).volumesInUse ↔ s.Uses k i podUID v ∨ s.UsedByOther k i podUID v :=
    fun v podUID => (he v).trans uses_iff_usedByOther
  cases a
  case create podUID r' =>
    have ef := Effect.create st hp h
    refine forall_congr' fun v => ?_
    rw [ef.inUse, ef.uses, hu v podUID]
    tauto
  case delete podUID a' =>
    have ef := Effect.delete st h
    refine forall_congr' fun v => ?_
    rw [ef.inUse, ef.uses, hu v podUID]
    tauto
  case sync replies =>
    obtain ⟨msgs, -, rfl, -⟩ := step_sync h
    have ef := Effect.sync st h
    simp only [Exact, ef.inUse, ef.uses, he _, Orderly]
    by_cases hr : ∃ v, (s.manager i).Reported k msgs v
    case pos =>
      have hf : ¬∀ v, ¬(s.manager i).Reported k msgs v := not_forall_not.mpr hr
      simp [hr, hf]
    case neg =>
      rw [not_exists] at hr
      simp [hr]
  case cache c =>
    have ef := Effect.cache st h
    simp only [Exact, ef.inUse, ef.uses, Orderly, iff_true]
    exact he

theorem mountPath_step (st : NodeStore k r) (hp : (s.manager i).mountPath.isSome)
    (h : s.step k r i a = some s') : (s'.manager i).mountPath = (s.manager i).mountPath := by
  cases a
  case create => exact (Effect.create st hp h).mountPath
  case delete => exact (Effect.delete st h).mountPath
  case sync => obtain ⟨_, _, rfl, -⟩ := step_sync h; exact (Effect.sync st h).mountPath
  case cache => exact (Effect.cache st h).mountPath

-- In a run, the volumes in use are always those of the pods iff all steps are orderly.
theorem exact_iff_orderly (st : NodeStore k r) (e : Execution (step k r i) s as s')
    (hp : (s.manager i).mountPath.isSome) (h : s.Exact st i) :
    (∀ pre t, pre <+: as → Execution (step k r i) s pre t → t.Exact st i) ↔
    Along (step k r i) (Orderly k i) s as := by
  apply Execution.always_iff_along (J := fun t => (t.manager i).mountPath.isSome ∧ t.Exact st i) _ _ _ e ⟨hp, h⟩
  case _ => exact fun h => h.right
  case _ =>
    rintro t a t' ⟨hp, h⟩ ho hs
    exact ⟨mountPath_step st hp hs ▸ hp, (exact_iff st hp h hs).mpr ho⟩
  case _ =>
    rintro t a t' ⟨hp, h⟩ hs h'
    exact (exact_iff st hp h hs).mp h'

def shared (uid : Bytes) : Kube.Pod :=
  { samplePod with
    name := uid
    uid := uid
    volumes := [⟨[3], .persistentVolumeClaim [4]⟩]
    containers := [{ name := [2], image := [2], volumeMounts := [⟨[3], [], [], false⟩] }] }

def sharedCluster : Cluster Kube.Node :=
  { Cluster.answering none with
    getPod := fun c name => (c, some (shared name))
    getNode := fun c => (c, some c)
    updateNodeStatus := fun _ node => (node, .ok node)
    getClaim := fun c _ => (c, .ok [5])
    getVolume := fun c _ => (c, .ok (some ([6], [7]))) }

def sharedStore : NodeStore sharedCluster .answering where
  node := id
  claims _ := .ok [5]
  volumes _ := .ok (some ([6], [7]))
  getNode h := by cases h; exact ⟨rfl, rfl⟩
  updateNodeStatus h := by cases h; rfl
  getPod _ _ := rfl
  updatePodStatus _ _ := rfl
  getClaim _ _ := rfl
  getVolume _ _ := rfl
  claims_eq _ _ := rfl
  volumes_eq _ _ := rfl
  resolveEnv _ _ _ := rfl
  resolveImagePullAuthConfig _ _ := rfl
  resolveVolumeData _ _ := rfl
  resolveDNSSettings _ _ := rfl
  networkRequest _ _ _ := rfl
  prepareStorage _ _ _ := rfl

def sharedManager : PodManager Kube.Node :=
  { PodManager.newManager [9] [] (some fun _ _ => [8]) ⟨[], []⟩ with
    podCache := (PodCache.new.update (shared [1])).update (shared [2]) }

def noPods : DevicePods Kube.Node where
  system := ⟨fun _ => none, fun _ => false, fun _ => none, fun _ => sharedManager, []⟩
  created := fun _ => none

def accepted : Replies where
  images := .ok []
  ensure _ := .ok []
  host _ := { logFiles := none, exec _ _ := none, createdAt _ := 1, finishedAt _ := 2 }

theorem exact_noPods : noPods.Exact sharedStore 0 :=
  fun _ => iff_of_false List.not_mem_nil fun ⟨_, _, h, _⟩ => nomatch h

def sharedVolume : Bytes :=
  str "kubernetes.io/csi/" ++ ([6] ++ str "^" ++ [7])

theorem names_shared {m : Manager Kube.Node} {uid : Bytes} (h : m.mountPath.isSome) :
    m.Names sharedCluster (shared uid) sharedVolume := by
  obtain ⟨nodeName, podCache, devPodRec, mountPath, cluster⟩ := m
  cases mountPath
  case none => cases h
  case some path =>
    exact ⟨(∅ : VolumeNames).insert sharedVolume ⟨[3], path uid [5]⟩, rfl, ExtTreeMap.mem_insert_self⟩

theorem created_shared : ∃ s₁ s₂,
    noPods.step sharedCluster .answering 0 (.create [1] accepted) = some s₁ ∧
    s₁.step sharedCluster .answering 0 (.create [2] accepted) = some s₂ ∧
    s₁.created [2] = none ∧ s₂.created [2] = some (shared [2]) ∧
    (s₂.manager 0).podCache.getByID [1] = some (shared [1]) ∧
    (s₂.step sharedCluster .answering 0 (.delete [1] {})).isSome := by
  have h : (noPods.step sharedCluster .answering 0 (.create [1] accepted)).any (fun s₁ =>
      (s₁.step sharedCluster .answering 0 (.create [2] accepted)).any fun s₂ =>
      s₁.created [2] = none ∧ s₂.created [2] = some (shared [2]) ∧
      (s₂.manager 0).podCache.getByID [1] = some (shared [1]) ∧
      (s₂.step sharedCluster .answering 0 (.delete [1] {})).isSome) = true := by
    decide +kernel
  obtain ⟨s₁, h₁, h⟩ := Option.any_eq_true _ _ |>.mp h
  obtain ⟨s₂, h₂, h⟩ := Option.any_eq_true _ _ |>.mp h
  exact ⟨s₁, s₂, h₁, h₂, of_decide_eq_true h⟩

theorem along_shared {s₁ s₂ : DevicePods Kube.Node}
    (h₁ : noPods.step sharedCluster .answering 0 (.create [1] accepted) = some s₁)
    (h₂ : s₁.step sharedCluster .answering 0 (.create [2] accepted) = some s₂)
    (hc : s₁.created [2] = none) :
    Along (step sharedCluster .answering 0) (Orderly sharedCluster 0) noPods
      [.create [1] accepted, .create [2] accepted] := by
  refine .cons ?first h₁ <| .cons ?second h₂ trivial
  case first => rintro v ⟨_, h, -⟩; cases h
  case second => rintro v ⟨_, h, -⟩; cases hc.symm.trans h

theorem exact_iff_orderly_created : ∃ s,
    Execution (step sharedCluster .answering 0) noPods [.create [1] accepted, .create [2] accepted] s ∧
    s.Uses sharedCluster 0 [2] sharedVolume ∧ s.Exact sharedStore 0 := by
  obtain ⟨s₁, s₂, h₁, h₂, hc, hs, -⟩ := created_shared
  have e : Execution (step sharedCluster .answering 0) noPods
      [.create [1] accepted, .create [2] accepted] s₂ :=
    .trans h₁ <| .single h₂
  have hp : (s₁.manager 0).mountPath.isSome := mountPath_step sharedStore rfl h₁ ▸ rfl
  have hu : s₂.Uses sharedCluster 0 [2] sharedVolume :=
    ⟨_, hs, names_shared (mountPath_step sharedStore hp h₂ ▸ hp)⟩
  have h := exact_iff_orderly sharedStore e rfl exact_noPods |>.mpr (along_shared h₁ h₂ hc)
  exact ⟨s₂, e, hu, h _ _ List.prefix_rfl e⟩

-- One of two pods which share a volume is deleted.
theorem not_exact_deleted : ∃ s,
    Execution (step sharedCluster .answering 0) noPods
      [.create [1] accepted, .create [2] accepted, .delete [1] {}] s ∧
    s.Uses sharedCluster 0 [2] sharedVolume ∧ sharedVolume ∉ (s.node sharedStore 0).volumesInUse := by
  obtain ⟨s₁, s₂, h₁, h₂, -, hs, hc, hd⟩ := created_shared
  obtain ⟨s₃, h₃⟩ := Option.isSome_iff_exists.mp hd
  have hp₁ : (s₁.manager 0).mountPath.isSome := mountPath_step sharedStore rfl h₁ ▸ rfl
  have hp₂ : (s₂.manager 0).mountPath.isSome := mountPath_step sharedStore hp₁ h₂ ▸ hp₁
  have hp₃ : (s₃.manager 0).mountPath.isSome := mountPath_step sharedStore hp₂ h₃ ▸ hp₂
  have hs₃ : s₃.created [2] = some (shared [2]) := by
    rw [(step_delete h₃).right, Function.update_of_ne (by decide), hs]
  have hv : s₂.Cached sharedCluster 0 [1] sharedVolume := ⟨_, hc, names_shared hp₂⟩
  refine ⟨s₃, .trans h₁ <| .trans h₂ <| .single h₃, ⟨_, hs₃, names_shared hp₃⟩, fun hm => ?_⟩
  exact ((Effect.delete sharedStore h₃).inUse _ |>.mp hm).right hv

end DevicePods
end Aranya.Pod
