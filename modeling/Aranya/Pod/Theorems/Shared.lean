import Aranya.Pod.Shared
import Aranya.Pod.Theorems.Create
import Aranya.Pod.Theorems.DeletedPods

namespace Aranya.Pod

open Std (ExtTreeMap)

variable {ρ α : Type} {k : Informers ρ} {r : Resolver ρ} {a : Replies} {w w₁ w₂ : World ρ}
    {m m' : Manager (World ρ)} {pod : Kube.Pod} {p : Ptr Kube.Pod} {name : Bytes}

-- The objects of the informers that `GetPod` and `GetNode` return.

def Informers.ReturnsPod (k : Informers ρ) (addr : Nat) : Prop :=
  ∃ r name, (k.getPod r name).snd = some (.held addr)

def Informers.ReturnsNode (k : Informers ρ) (addr : Nat) : Prop :=
  ∃ r, (k.getNode r).snd = some (.held addr)

structure Untouched (k : Informers ρ) (w w' : World ρ) : Prop where
  pods : ∀ addr, ¬k.ReturnsPod addr → w'.pods addr = w.pods addr
  nodes : ∀ addr, ¬k.ReturnsNode addr → w'.nodes addr = w.nodes addr

namespace Untouched

theorem refl : Untouched k w w :=
  ⟨fun _ _ => rfl, fun _ _ => rfl⟩

theorem trans (h₁ : Untouched k w w₁) (h₂ : Untouched k w₁ w₂) : Untouched k w w₂ where
  pods addr h := (h₂.pods addr h).trans (h₁.pods addr h)
  nodes addr h := (h₂.nodes addr h).trans (h₁.nodes addr h)

theorem lift {f : ρ → ρ × α} (h : Untouched k w w₁) : Untouched k w (w₁.lift f).fst :=
  ⟨h.pods, h.nodes⟩

theorem of_lift {f : ρ → ρ × α} {x : α} (h : w.lift f = (w₁, x)) : Untouched k w w₁ := by
  cases h
  exact refl.lift

end Untouched

-- If a pointer to a shared object is used, the object has been looked up.
def Looked (k : Informers ρ) (p : Ptr Kube.Pod) : Prop :=
  ∀ addr, p = .held addr → k.ReturnsPod addr

def LookedNode (k : Informers ρ) (n : Ptr Kube.Node) : Prop :=
  ∀ addr, n = .held addr → k.ReturnsNode addr

namespace Shared

structure Keeps (k : Informers ρ) (m m' : Manager (World ρ)) : Prop where
  world : Untouched k m.cluster m'.cluster
  mountPath : m'.mountPath = m.mountPath

theorem Keeps.refl : Keeps k m m :=
  ⟨.refl, rfl⟩

theorem Keeps.trans {m₁ m₂ : Manager (World ρ)} (h₁ : Keeps k m m₁) (h₂ : Keeps k m₁ m₂) : Keeps k m m₂ :=
  ⟨h₁.world.trans h₂.world, h₂.mountPath.trans h₁.mountPath⟩

theorem getPod_keeps {x : Option (Ptr Kube.Pod)} (h : getPod k m name = (m', x)) : Keeps k m m' := by
  rw [getPod] at h
  split at h
  case h_1 hl => cases h; exact ⟨.of_lift hl, rfl⟩
  case h_2 hl => cases h; exact ⟨.of_lift hl, rfl⟩

theorem getPod_looked (h : getPod k m name = (m', some p)) : Looked k p := by
  rintro addr rfl
  rw [getPod] at h
  split at h
  case h_1 => cases h
  case h_2 p hl =>
    cases h
    exact ⟨m.cluster.rest, name, congrArg Prod.snd hl⟩

theorem setStatus_keeps {status : Kube.PodStatus} (hp : Looked k p) : Keeps k m (setStatus m p status).fst where
  world := ⟨fun addr h => Ptr.assign_of_ne fun he => h (hp addr he), fun _ _ => rfl⟩
  mountPath := rfl

theorem setStatus_looked {status : Kube.PodStatus} (hp : Looked k p) : Looked k (setStatus m p status).snd :=
  fun addr h => hp addr <| Ptr.assign_eq_held.mp h

theorem getNode_keeps : Keeps k m (getNode k m).fst :=
  ⟨Untouched.refl.lift, rfl⟩

theorem getNode_looked {n : Ptr Kube.Node} (h : (getNode k m).snd = some n) : LookedNode k n :=
  fun _ hn => ⟨m.cluster.rest, hn ▸ h⟩

theorem setVolumes_keeps {n : Ptr Kube.Node} (hn : LookedNode k n) (inUse : List Bytes)
    (attached : List Kube.AttachedVolume) : Keeps k m (setVolumes m n inUse attached).fst where
  world := ⟨fun _ _ => rfl, fun addr h => Ptr.assign_of_ne fun he => h (hn addr he)⟩
  mountPath := rfl

theorem updateNodeStatus_keeps {node : Kube.Node} {x : List Event × Except Failure Kube.Node}
    (h : m.updateNodeStatus k.cluster node = (m', x)) : Keeps k m m' := by
  rw [Manager.updateNodeStatus] at h
  split at h
  case h_1 hl => cases h; exact ⟨Untouched.of_lift (f := (k.updateNodeStatus · _)) hl, rfl⟩
  case h_2 hl => cases h; exact ⟨Untouched.of_lift (f := (k.updateNodeStatus · _)) hl, rfl⟩

theorem tryUpdateStatus_keeps {n : Nat} : Keeps k m (tryUpdateStatus k n m p).fst := by
  induction n generalizing m p
  case zero => exact .refl
  case succ n hi =>
    rw [tryUpdateStatus]
    split
    case h_1 h => exact ⟨.of_lift h, rfl⟩
    case h_2 h => exact ⟨.of_lift h, rfl⟩
    case h_3 w _ h =>
      have hw : Keeps k m { m with cluster := w } := ⟨.of_lift h, rfl⟩
      split
      case h_1 hg => exact hw.trans <| (getPod_keeps hg).trans hi
      case h_2 newPod hg =>
        exact hw.trans <| (getPod_keeps hg).trans <| (setStatus_keeps (getPod_looked hg)).trans hi

theorem updatePodStatus_keeps (m : Manager (World ρ)) (p : Ptr Kube.Pod) :
    Keeps k m (updatePodStatus k m p).fst := by
  have ht := tryUpdateStatus_keeps (k := k) (m := m) (p := p) (n := Manager.tryCount)
  rw [updatePodStatus]
  split
  case h_1 h => rwa [h] at ht
  case h_2 h =>
    rw [h] at ht
    split
    case h_1 hg => exact ht.trans (getPod_keeps hg)
    case h_2 hg => exact ht.trans (getPod_keeps hg)

theorem updatePodStatus_looked {p' : Ptr Kube.Pod} (h : (updatePodStatus k m p).2.2 = .ok p') : Looked k p' := by
  rw [updatePodStatus] at h
  split at h
  case h_1 => cases h
  case h_2 =>
    split at h
    case h_1 => cases h
    case h_2 hg => cases h; exact getPod_looked hg

theorem updateMirrorPod_keeps (hp : Looked k p) (ps : Option Runtime.PodStatusMsg) (b : Bool) :
    Keeps k m (updateMirrorPod k m p ps b).fst ∧ Looked k (updateMirrorPod k m p ps b).2.1 := by
  rw [updateMirrorPod]
  split
  case h_1 => exact ⟨.refl, hp⟩
  case h_2 status _ =>
    have hs : Keeps k m (setStatus m p status).fst := setStatus_keeps hp
    have hu := hs.trans (updatePodStatus_keeps _ (setStatus m p status).snd)
    simp only
    split
    case h_1 h => rw [h] at hu; exact ⟨hu, setStatus_looked hp⟩
    case h_2 h => rw [h] at hu; exact ⟨hu, setStatus_looked hp⟩

def policy (k : Informers ρ) (w : World ρ) (mountPath : Option (Bytes → Bytes → Bytes)) : Policy (World ρ) where
  cluster w' := Untouched k w w'
  pods _ := True
  statuses _ := True
  events _ := True
  errors _ := True
  mountPath := mountPath

variable {mountPath : Option (Bytes → Bytes → Bytes)} {Q : α → Prop} {opts : CreateOptions}
    {cmd : Runtime.PodEnsureCmd} {group : Group}

theorem policy_preserves : k.cluster.Preserves (Untouched k w) (fun _ => True) (fun _ => True) where
  status _ := trivial
  getPod h _ := ⟨h.pods, h.nodes⟩
  lookup _ _ _ := ⟨trivial, trivial⟩
  updatePodStatus h _ := fun _ => h.lift
  getClaim _ h := h.lift
  getVolume _ h := h.lift

theorem volumeNames_keeps : Keeps k m (m.getUniqueVolumeNamesAndPaths k.cluster pod).fst := by
  have hc : m.Calls (Untouched k m.cluster) (fun _ => True) _ _ :=
    Manager.getUniqueVolumeNamesAndPaths_calls policy_preserves pod .refl
  exact ⟨hc.cluster, hc.mountPath⟩

theorem policy_admits : (policy k w mountPath).Admits k.cluster where
  toPreserves := policy_preserves
  podStatus _ _ := trivial
  error _ _ := trivial

theorem policy_resolves : (policy k w mountPath).Resolves r.lift pod where
  resolveEnv _ _ h := h.lift
  resolveImagePullAuthConfig _ h := h.lift
  resolveVolumeData _ h := h.lift
  resolveDNSSettings _ h := h.lift
  networkRequest _ _ h := h.lift
  translate _ _ _ _ _ _ _ _ := trivial

theorem emits_manager_call {f : Manager (World ρ) → Manager (World ρ) × List Event × α}
    (h : ∀ m, Keeps k m (f m).fst ∧ Q (f m).2.2) : Emits (policy k w mountPath) Q (Manager.call f) :=
  Manager.emits_call fun m hc _ =>
    ⟨hc.trans (h m).left.world, (h m).left.mountPath, fun _ _ => trivial, (h m).right⟩

theorem emits_call {f : Manager (World ρ) → Manager (World ρ) × α} (h : ∀ m, Keeps k m (f m).fst ∧ Q (f m).snd) :
    Emits (policy k w mountPath) Q (call f) :=
  emits_manager_call h

theorem emits_get :
    Emits (policy k w mountPath) (fun _ => True) (get : CreateM (World ρ) (CreateState (World ρ))) :=
  .modifyGet fun _ hs => ⟨hs, trivial⟩

theorem emits_throw {e : Option Failure} : Emits (policy k w mountPath) Q (throw e : CreateM (World ρ) α) :=
  .throw trivial

theorem emits_ofExcept {x : Except Failure α} {text : Bytes} (h : ∀ t, x = .ok t → Q t) :
    Emits (policy k w mountPath) Q (Manager.ofExcept text x) :=
  Manager.emits_ofExcept policy_admits (fun _ => trivial) h

theorem emits_mark {status : Kube.Pod → Option Kube.PodStatus} :
    Emits (policy k w mountPath) (Looked k) (mark k name status) := by
  have hg : Emits (policy k w mountPath) (fun x => ∀ p, x = some p → Looked k p) (call (getPod k · name)) :=
    emits_call fun m => ⟨getPod_keeps rfl, fun p h => getPod_looked (Prod.ext rfl h)⟩
  refine .bind hg fun x hx => ?_
  cases x
  case none => exact emits_throw
  case some p =>
    have hp := hx p rfl
    refine .bind emits_get fun s _ => ?_
    cases hs : status (podOf s.mgr p)
    case none => exact emits_throw
    case some st =>
      refine .bind (emits_call fun m => ⟨setStatus_keeps hp, setStatus_looked hp⟩) fun p hp => ?_
      have hu : Emits (policy k w mountPath) (fun x => ∀ p, x = .ok p → Looked k p)
          (Manager.call (updatePodStatus k · p)) :=
        emits_manager_call fun m => ⟨updatePodStatus_keeps m p, fun _ => updatePodStatus_looked⟩
      exact .bind hu fun x hx => emits_ofExcept hx

theorem emits_mountVolumes {volNames : VolumeNames} :
    Emits (policy k w mountPath) (fun _ => True) (mountVolumes k r pod volNames) := by
  have hg : Emits (policy k w mountPath) (fun x => ∀ n, x = some n → LookedNode k n) (call (getNode k)) :=
    emits_call fun m => ⟨getNode_keeps, fun n h => getNode_looked h⟩
  refine .bind hg fun x hx => ?_
  cases x
  case none => exact emits_throw
  case some n =>
    refine .bind emits_get fun s _ => ?_
    simp only
    cases addVolumesInUse (nodeOf s.mgr n).volumesInUse (nodeOf s.mgr n).volumesAttached volNames
    case none => exact emits_throw
    case some lists =>
      refine .bind (emits_call (Q := fun _ => True) fun m => ⟨setVolumes_keeps (hx n rfl) .., trivial⟩)
        fun n _ => ?_
      refine .bind (emits_manager_call (Q := fun _ => True) fun m => ⟨updateNodeStatus_keeps rfl, trivial⟩)
        fun x _ => ?_
      refine .bind (emits_ofExcept (Q := fun _ => True) fun _ _ => trivial) fun node _ => ?_
      cases keepPVCAndInlineCSIOnly pod
      case none => exact emits_throw
      case some pod => exact Manager.emits_require policy_admits (fun _ h => h.lift) fun _ _ _ => trivial

theorem emits_setupStorage : Emits (policy k w mountPath) (fun _ => True) (setupStorage k r pod) := by
  refine .bind (emits_call (Q := fun _ => True) fun m => ⟨volumeNames_keeps, trivial⟩) fun x _ => ?_
  refine .bind (emits_ofExcept (Q := fun _ => True) fun _ _ => trivial) fun volNames _ => ?_
  simp only
  split
  case isTrue => exact .bind emits_mountVolumes fun _ _ => .pure trivial
  case isFalse => exact .pure trivial

theorem emits_resolveOptions : Emits (policy k w mountPath) (fun _ => True) (resolveOptions k r pod) := by
  have hr : Emits (policy k w mountPath) (fun _ => True) (do
      let resolved ← Manager.resolvePod r.lift pod
      let storageEnabled := (← get).mgr.mountPath.isSome
      let volNames ← if storageEnabled then setupStorage k r pod else pure (∅ : VolumeNames)
      Manager.generateOptions r.lift pod resolved storageEnabled volNames) := by
    refine .bind (Manager.emits_resolvePod (I := fun _ _ => True) policy_admits policy_resolves.toReads
      (fun _ _ => trivial) trivial) fun resolved _ => ?_
    refine .bind emits_get fun s _ => ?_
    have ho {b : Bool} (volNames : VolumeNames) (_ : True) :
        Emits (policy k w mountPath) (fun _ => True) (Manager.generateOptions r.lift pod resolved b volNames) :=
      (Manager.emits_generateOptions policy_admits policy_resolves).mono fun _ _ => trivial
    simp only
    split
    case isTrue => exact .bind emits_setupStorage ho
    case isFalse => exact .bind (.pure trivial) ho
  refine .bind (Manager.emits_ask (Q := fun _ => True) fun _ hc => ⟨hc, trivial⟩) fun b _ => ?_
  simp only
  split
  case isTrue => exact .bind (emits_throw (Q := fun _ => True)) fun _ _ => hr
  case isFalse => exact hr

theorem emits_prepareCreation : Emits (policy k w mountPath) (Looked k) (prepareCreation k a opts pod) := by
  have hp (p : Ptr Kube.Pod) (hp : Looked k p) : Emits (policy k w mountPath) (Looked k)
      (if !opts.images.isEmpty then Manager.pullImages a opts.images >>= fun _ => pure p else pure p) := by
    split
    case isTrue => exact .bind (Manager.emits_pullImages policy_admits trivial) fun _ _ => .pure hp
    case isFalse => exact .pure hp
  rw [prepareCreation]
  split
  case isTrue => exact .bind emits_mark hp
  case isFalse => exact .bind (.pure nofun) hp

theorem emits_execGroup (hp : Looked k p) :
    Emits (policy k w mountPath) (Looked k) (execGroup k a group p cmd) := by
  rw [execGroup]
  cases handleContainerAsHostExec (a.host group) cmd
  case error e => exact emits_throw
  case ok result =>
    refine .bind (Manager.emits_record trivial) fun _ _ => ?_
    refine .bind (Manager.emits_record trivial) fun _ _ => ?_
    have hg : Emits (policy k w mountPath) (fun x => ∀ p, x = some p → Looked k p)
        (call fun m => getPod k m (podOf m p).name) :=
      emits_call fun m => ⟨getPod_keeps rfl, fun p h => getPod_looked (Prod.ext rfl h)⟩
    refine .bind hg fun latestPod hl => ?_
    have hl : Looked k (latestPod.getD p) := by
      cases latestPod
      case none => exact hp
      case some p => exact hl p rfl
    refine .bind (emits_manager_call (Q := fun res => Looked k res.fst) fun m => updateMirrorPod_keeps hl ..)
      fun res hr => ?_
    obtain ⟨p, err⟩ := res
    simp only
    split
    case h_1 => exact emits_throw
    case h_2 => exact emits_throw
    case h_3 => exact .pure hr

structure EnsureState.Emitted (k : Informers ρ) (w : World ρ) (mountPath : Option (Bytes → Bytes → Bytes))
    (s : EnsureState ρ) : Prop extends Pod.Emitted (policy k w mountPath) s.toCreateState where
  pod : Looked k s.pod

namespace EnsureState.Emitted

variable {s : EnsureState ρ} {e : ErrorMsg} {status : Kube.PodStatus} {msg : Runtime.Reply}

theorem setStatus (h : s.Emitted k w mountPath) (status : Kube.PodStatus) :
    EnsureState.Emitted k w mountPath { s with
      mgr := (Shared.setStatus s.mgr s.pod status).fst, pod := (Shared.setStatus s.mgr s.pod status).snd } where
  cluster := h.cluster.trans (setStatus_keeps h.pod).world
  mountPath := h.mountPath
  events := h.events
  pod := setStatus_looked h.pod

theorem mirror (ps : Option Runtime.PodStatusMsg) (b : Bool) (h : s.Emitted k w mountPath) :
    (s.mirror k ps b).fst.Emitted k w mountPath := by
  obtain ⟨hk, hl⟩ := updateMirrorPod_keeps (m := s.mgr) h.pod ps b
  rw [EnsureState.mirror]
  split
  case isTrue => exact ⟨h.toEmitted, h.pod⟩
  case isFalse =>
    exact ⟨⟨h.cluster.trans hk.world, hk.mountPath.trans h.mountPath, fun _ _ => trivial⟩, hl⟩

theorem onError (h : s.Emitted k w mountPath) : (s.onError k e status).fst.Emitted k w mountPath := by
  have hm := h.setStatus status |>.mirror none false
  exact ⟨hm.toEmitted, hm.pod⟩

theorem received {group : Group} {ps : Runtime.PodStatusMsg} (h : s.Emitted k w mountPath) :
    EnsureState.Emitted k w mountPath { s with log := s.log ++ [CreateEvent.received group ps] } :=
  ⟨h.toEmitted.record trivial, h.pod⟩

theorem onInitMsg (h : s.Emitted k w mountPath) : (s.onInitMsg k msg).fst.Emitted k w mountPath := by
  cases msg
  case error e => exact h.onError
  case podStatus ps => exact h.received.mirror (some ps) true
  all_goals exact h

theorem onWorkMsg (h : s.Emitted k w mountPath) : (s.onWorkMsg k msg).fst.Emitted k w mountPath := by
  cases msg
  case podStatus ps => exact h.received.mirror (some ps) false
  case error e =>
    rw [EnsureState.onWorkMsg]
    split
    case isTrue => exact h
    case isFalse => exact h.onError
  all_goals exact h

end EnsureState.Emitted

theorem emits_ensureContainers
    {onMsg : EnsureState ρ → Runtime.Reply → EnsureState ρ × Bool}
    (hm : ∀ {s msg}, s.Emitted k w mountPath → (onMsg s msg).fst.Emitted k w mountPath) (hp : Looked k p) :
    Emits (policy k w mountPath) (fun _ => True) (ensureContainers a group onMsg p cmd) := by
  refine .bind (Manager.emits_record trivial) fun _ _ => ?_
  cases a.ensure group
  case error e => exact emits_throw
  case ok replies =>
    refine .bind (.modifyGet (Q := fun _ => True) fun s hs => ⟨?_, trivial⟩) fun err _ => ?_
    case refine_1 =>
      have hi : (handleMessages onMsg ⟨s, p, none⟩ replies).Emitted k w mountPath := by
        rw [handleMessages_eq]
        exact loop_preserves (I := fun t : EnsureState ρ => t.Emitted k w mountPath) ⟨hs, hp⟩ hm
      exact hi.toEmitted
    case refine_2 =>
      cases err
      case none => exact .pure trivial
      case some e => exact emits_throw

theorem emits_createInit (hp : Looked k p) :
    Emits (policy k w mountPath) (Looked k) (createInit k a opts p) := by
  rw [createInit]
  cases opts.initOpts
  case none => exact .pure hp
  case some cmd =>
    refine .bind emits_get fun s _ => ?_
    refine .bind emits_mark fun p hp => ?_
    split
    case isTrue => exact emits_execGroup hp
    case isFalse =>
      exact .bind (emits_ensureContainers (fun h => h.onInitMsg) hp) fun _ _ => .pure hp

theorem emits_createWork (hp : Looked k p) :
    Emits (policy k w mountPath) (fun _ => True) (createWork k a opts p) := by
  rw [createWork]
  split
  case isTrue => exact .bind (emits_execGroup hp) fun _ _ => .pure trivial
  case isFalse => exact emits_ensureContainers (fun h => h.onWorkMsg) hp

theorem emits_createDevicePod : Emits (policy k w mountPath) (fun _ => True) (createDevicePod k r a pod) := by
  refine .bind emits_resolveOptions fun opts _ => ?_
  refine .bind emits_prepareCreation fun p hp => ?_
  refine .bind (emits_createInit hp) fun p hp => ?_
  refine .bind emits_get fun s _ => ?_
  exact .bind emits_mark fun p hp => emits_createWork hp

theorem runCreateDevicePod_kept : Untouched k m.cluster (runCreateDevicePod k r a m pod).fst.cluster := by
  have he : Emits (policy k m.cluster m.mountPath) (fun _ => True) (createDevicePod k r a pod) :=
    emits_createDevicePod
  have hs : Emitted (policy k m.cluster m.mountPath) { mgr := m, log := [] } := ⟨.refl, rfl, by simp⟩
  rw [runCreateDevicePod]
  split
  case h_1 s hr => exact (he.ok hs hr).left.cluster
  case h_2 s hr => exact (he.error hs hr).left.cluster

section Sync

variable {s : SyncState (World ρ)} {ps : Runtime.PodStatusMsg} {msg : Runtime.Reply}

theorem addVolumes_keeps : Keeps k s.mgr (s.addVolumes k.cluster pod).fst.mgr := by
  have hv : Keeps k s.mgr (s.mgr.getUniqueVolumeNamesAndPaths k.cluster pod).fst := volumeNames_keeps
  rw [SyncState.addVolumes]
  split
  case h_1 h => rwa [h] at hv
  case h_2 h =>
    rw [h] at hv
    simp only
    split
    case isTrue => exact hv
    case isFalse => split <;> exact hv

theorem syncPod_keeps : Keeps k s.mgr (syncPod k s ps).fst.mgr := by
  rw [syncPod]
  split
  case isTrue => exact .refl
  case isFalse =>
    split
    case h_1 => exact ⟨.refl, rfl⟩
    case h_2 pod _ =>
      have hl : Looked k (.own pod) := fun _ h => nomatch h
      have hm : Keeps k s.mgr (mirror k s pod ps).mgr := (updateMirrorPod_keeps hl (some ps) false).left
      split
      case isTrue => exact .refl
      case isFalse => exact hm.trans addVolumes_keeps

theorem onSyncMsg_keeps : Keeps k s.mgr (onSyncMsg k s msg).fst.mgr := by
  cases msg
  case error => exact .refl
  case podStatusList pods =>
    exact loop_preserves (I := fun t : SyncState (World ρ) => Keeps k s.mgr t.mgr) .refl
      fun h => h.trans syncPod_keeps
  all_goals exact .refl

theorem updateVolumesInUse_keeps : Keeps k s.mgr (updateVolumesInUse k s).fst := by
  have hg := getNode_keeps (k := k) (m := s.mgr)
  rw [updateVolumesInUse]
  split
  case isTrue => exact .refl
  case isFalse =>
    split
    case h_1 h => rwa [h] at hg
    case h_2 m n h =>
      rw [h] at hg
      have hs := hg.trans <| setVolumes_keeps (getNode_looked (congrArg Prod.snd h)) s.volumeInUse s.volumeAttached
      simp only
      split
      case h_1 h => exact hs.trans <| updateNodeStatus_keeps h
      case h_2 h => exact hs.trans <| updateNodeStatus_keeps h

theorem syncDevicePods_kept {replies : Except Bytes (List Runtime.Reply)} :
    Untouched k m.cluster (syncDevicePods k m replies).fst.cluster := by
  cases replies
  case error => exact .refl
  case ok replies =>
    have hs : Keeps k m (handleMessages (onSyncMsg k) (.new m) replies).mgr := by
      rw [handleMessages_eq]
      exact loop_preserves (I := fun t : SyncState (World ρ) => Keeps k m t.mgr) .refl
        fun h => h.trans onSyncMsg_keeps
    simp only [syncDevicePods]
    split
    case h_1 => exact hs.world
    case h_2 => exact hs.world.trans updateVolumesInUse_keeps.world

end Sync

section Reconcile

variable {i : Nat} {ans : Answers} {podUID : Bytes}

-- A handler of a reconciler keeps the objects of the informers of its virtual node.
abbrev Handles (k : Informers ρ) (i : Nat) (w : World ρ) (Q : α → Prop) (x : ReconcileM (World ρ) α) : Prop :=
  Maintains (fun s => Untouched k w (s.managers i).cluster) Q (fun _ => True) x

theorem handles_get : Handles k i w (fun _ => True) (System.manager i) :=
  .bind (.modifyGet (Q := fun _ => True) fun _ hs => ⟨hs, trivial⟩) fun _ _ => .pure trivial

theorem handles_throw {e : Return} : Handles k i w Q (throw e : ReconcileM (World ρ) α) :=
  .throw trivial

theorem handles_call {f : Manager (World ρ) → Manager (World ρ) × α} (h : ∀ m, Keeps k m (f m).fst ∧ Q (f m).snd) :
    Handles k i w Q (System.call i f) := by
  refine .modifyGet fun s hs => ⟨?_, (h _).right⟩
  simpa [System.setManager] using hs.trans (h _).left.world

theorem handles_ask {f : ρ → ρ × α} : Handles k i w (fun _ => True) (System.ask i (World.lift · f)) :=
  handles_call fun _ => ⟨⟨Untouched.refl.lift, rfl⟩, trivial⟩

theorem handles_modifyManager {f : PodManager (World ρ) → PodManager (World ρ)}
    (h : ∀ m, (f m).cluster = m.cluster) : Handles k i w (fun _ => True) (System.modifyManager i f) := by
  refine .modifyGet fun s hs => ⟨?_, trivial⟩
  simpa [System.setManager, h] using hs

theorem handles_ofFailure {x : Except Failure α} : Handles k i w (fun _ => True) (System.ofFailure x) := by
  cases x
  case ok => exact .pure trivial
  case error => rw [System.ofFailure]; split <;> exact handles_throw

theorem handles_releaseVolumes : Handles k i w (fun _ => True) (releaseVolumes k i pod) := by
  refine .bind (handles_call (Q := fun _ => True) fun m => ⟨volumeNames_keeps, trivial⟩) fun x _ => ?_
  refine .bind handles_ofFailure fun volNames _ => ?_
  split
  case isFalse => exact .pure trivial
  case isTrue =>
    have hg : Handles k i w (fun x => ∀ n, x = some n → LookedNode k n) (System.call i (getNode k)) :=
      handles_call fun m => ⟨getNode_keeps, fun n h => getNode_looked h⟩
    refine .bind hg fun x hx => ?_
    cases x
    case none => exact handles_throw
    case some n =>
      refine .bind handles_get fun m _ => ?_
      simp only
      split
      case h_1 inUse attached _ =>
        refine .bind (handles_call (Q := fun _ => True) fun m => ⟨setVolumes_keeps (hx n rfl) .., trivial⟩)
          fun n _ => ?_
        refine .bind handles_get fun m _ => ?_
        refine .bind (handles_ask (f := (k.updateNodeStatus · _))) fun x _ => ?_
        cases x
        case ok => exact .pure trivial
        case error => exact handles_throw
      case h_2 => exact handles_throw

theorem handles_cleanupStorage : Handles k i w (fun _ => True) (System.cleanupStorage i ans pod) := by
  refine .bind handles_get fun m _ => ?_
  split
  case isFalse => exact .pure trivial
  case isTrue =>
    simp only
    cases (keepPVCAndInlineCSIOnly pod).isNone
    case true => exact .bind (handles_throw (Q := fun _ => False)) nofun
    case false =>
      cases ans.cleanupStorage
      case none => exact .pure trivial
      case some => exact handles_throw

theorem handles_onRemotePodDeleted : Handles k i w (fun _ => True) (onRemotePodDeleted k i ans podUID) := by
  refine .bind handles_get fun m _ => ?_
  cases m.podCache.getByID podUID
  case none => exact handles_throw
  case some pod =>
    refine .bind handles_releaseVolumes fun _ _ => ?_
    refine .bind handles_cleanupStorage fun _ _ => ?_
    have hd : Handles k i w (fun _ => True) (System.deletePod ans.deletePod podUID pod.name) := by
      rw [System.deletePod.eq_def]
      split
      case h_1 => exact .pure trivial
      case h_2 => exact handles_throw
      case h_3 => exact .modifyGet fun _ hs => ⟨hs, trivial⟩
    exact .bind hd fun _ _ => handles_modifyManager fun _ => rfl

theorem onRemotePodDeleted_kept {s : System (World ρ)} :
    Untouched k (s.managers i).cluster (((onRemotePodDeleted k i ans podUID).run s).snd.managers i).cluster := by
  have hh : Handles k i (s.managers i).cluster (fun _ => True) (onRemotePodDeleted k i ans podUID) :=
    handles_onRemotePodDeleted
  cases hr : (onRemotePodDeleted k i ans podUID).run s
  case mk res s' =>
    cases res
    case ok => exact (hh.ok .refl hr).left
    case error => exact (hh.error .refl hr).left

end Reconcile

end Shared

inductive Runs (k : Informers ρ) : World ρ → World ρ → Prop
  | updatePodStatus (m : Manager (World ρ)) (p : Ptr Kube.Pod) :
    Runs k m.cluster (Shared.updatePodStatus k m p).fst.cluster
  | createDevicePod (r : Resolver ρ) (a : Replies) (m : Manager (World ρ)) (pod : Kube.Pod) :
    Runs k m.cluster (Shared.runCreateDevicePod k r a m pod).fst.cluster
  | syncDevicePods (m : Manager (World ρ)) (replies : Except Bytes (List Runtime.Reply)) :
    Runs k m.cluster (Shared.syncDevicePods k m replies).fst.cluster
  | onRemotePodDeleted (i : Nat) (ans : Answers) (s : System (World ρ)) (podUID : Bytes) :
    Runs k (s.managers i).cluster (((Shared.onRemotePodDeleted k i ans podUID).run s).snd.managers i).cluster

theorem Runs.kept {w w' : World ρ} (h : Runs k w w') : Untouched k w w' := by
  cases h
  case updatePodStatus => exact (Shared.updatePodStatus_keeps ..).world
  case createDevicePod => exact Shared.runCreateDevicePod_kept
  case syncDevicePods => exact Shared.syncDevicePods_kept
  case onRemotePodDeleted => exact Shared.onRemotePodDeleted_kept

-- Pods and nodes are looked up in the same way, while all other requests may have other results.
structure Informers.SameGetters (k k' : Informers ρ) : Prop where
  getPod : k'.getPod = k.getPod
  getNode : k'.getNode = k.getNode

namespace Informers.SameGetters

variable {k' : Informers ρ} {addr : Nat}

theorem returnsPod (h : k.SameGetters k') : k'.ReturnsPod addr ↔ k.ReturnsPod addr := by
  rw [ReturnsPod, ReturnsPod, h.getPod]

theorem returnsNode (h : k.SameGetters k') : k'.ReturnsNode addr ↔ k.ReturnsNode addr := by
  rw [ReturnsNode, ReturnsNode, h.getNode]

end Informers.SameGetters

def boundPod : Kube.Pod :=
  volumePod (.persistentVolumeClaim [8] false)

def storingManager (r : ρ) : Manager (World ρ) where
  nodeName := [9]
  podCache := PodCache.new.update boundPod
  devPodRec := .new
  mountPath := some fun podUID volumeName => podUID ++ volumeName
  cluster :=
    { rest := r
      pods := fun _ => boundPod
      nodes := fun _ => { volumesInUse := [], volumesAttached := [] } }

-- A status that is not accepted is written to the pod which is looked up afterwards.

theorem Shared.podOf_setStatus {status : Kube.PodStatus} :
    podOf (setStatus m p status).fst (setStatus m p status).snd = { podOf m p with status := status } :=
  Ptr.deref_assign

theorem Shared.updatePodStatus_writes {addr : Nat} {e : Bytes}
    (hu : m.cluster.lift (k.updatePodStatus · (podOf m p)) = (w, some (.other e)))
    (hg : getPod k { m with cluster := w } (podOf m p).name = (m', some (.held addr)))
    (hn : ∀ r, k.updatePodStatus r { podOf m' (.held addr) with status := (podOf m' p).status } =
      (r, some .notFound)) :
    (updatePodStatus k m p).fst.cluster.pods addr =
    { podOf m' (.held addr) with status := (podOf m' p).status } := by
  -- The first attempt to write the status fails, and the second one is the last.
  have ht : tryUpdateStatus k Manager.tryCount m p =
      ((setStatus m' (.held addr) (podOf m' p).status).fst, .held addr, [], true) := by
    rw [Manager.tryCount, tryUpdateStatus]
    simp only [hu, hg]
    rw [tryUpdateStatus]
    simp only [World.lift]
    rw [podOf_setStatus, hn]
    rfl
  rw [updatePodStatus, ht]
  exact podOf_setStatus (p := .held addr)

def Informers.failingStatus (k : Informers ρ) (r : ρ) : Informers ρ :=
  { k with updatePodStatus := fun r' pod => if pod.uid = [] then (r, some (.other [])) else (r', some .notFound) }

def unsavedPod (name : Bytes) : Kube.Pod :=
  { boundPod with name := name, uid := [], status := { Kube.PodStatus.empty with phase := .running } }

theorem failingStatus_modifies {r : ρ} {addr : Nat} (h : (k.getPod r name).snd = some (.held addr)) :
    (Shared.updatePodStatus (k.failingStatus r) (storingManager r) (.own (unsavedPod name))).fst.cluster.pods
      addr ≠ boundPod := by
  have hg : Shared.getPod (k.failingStatus r) (storingManager r) name =
      ((Shared.getPod (k.failingStatus r) (storingManager r) name).fst, some (.held addr)) := by
    simp only [Shared.getPod, World.lift, storingManager, Informers.failingStatus, h]
  have hp : (Shared.getPod (k.failingStatus r) (storingManager r) name).fst.cluster.pods addr = boundPod := by
    simp only [Shared.getPod, World.lift, storingManager, Informers.failingStatus, h]
  have hw := Shared.updatePodStatus_writes (m := storingManager r) (p := .own (unsavedPod name)) (e := []) rfl hg
  rw [Shared.podOf, Ptr.deref, hp] at hw
  rw [hw fun _ => rfl]
  exact fun h => nomatch congrArg (·.status.phase) h

-- The volumes are written to the node which is looked up, even if they are not accepted.

theorem Shared.updateNodeStatus_nodes {node : Kube.Node} {x : List Event × Except Failure Kube.Node}
    (h : m.updateNodeStatus k.cluster node = (m', x)) : m'.cluster.nodes = m.cluster.nodes := by
  rw [Manager.updateNodeStatus] at h
  split at h
  case h_1 hl => cases h; exact congrArg (·.fst.nodes) hl.symm
  case h_2 hl => cases h; exact congrArg (·.fst.nodes) hl.symm

theorem Shared.updateVolumesInUse_writes {s : SyncState (World ρ)} {addr : Nat} (hv : s.volumeInUse ≠ [])
    (h : (k.getNode s.mgr.cluster.rest).snd = some (.held addr)) :
    (updateVolumesInUse k s).fst.cluster.nodes addr = ⟨s.volumeInUse, s.volumeAttached⟩ := by
  have hs : (setVolumes (getNode k s.mgr).fst (.held addr) s.volumeInUse s.volumeAttached).fst.cluster.nodes addr =
      ⟨s.volumeInUse, s.volumeAttached⟩ :=
    Ptr.assign_held
  have hg : getNode k s.mgr = ((getNode k s.mgr).fst, some (.held addr)) := Prod.ext rfl h
  rw [updateVolumesInUse, if_neg hv, hg]
  simp only
  split
  case h_1 hu => rw [updateNodeStatus_nodes hu, hs]
  case h_2 hu => rw [updateNodeStatus_nodes hu, hs]

def Informers.bindingVolumes (k : Informers ρ) (r : ρ) : Informers ρ :=
  { k with
    updatePodStatus := fun r' _ => (r', some .notFound)
    updateNodeStatus := fun r' _ => (r', .error (.other []))
    getClaim := fun r' _ => (r', .ok [5])
    getVolume := fun _ _ => (r, .ok (some ([6], [7]))) }

def bindingReplies : List Runtime.Reply :=
  [.podStatusList [{ uid := [1], network := none, containers := ∅ }]]

theorem bindingVolumes_modifies {r : ρ} {addr : Nat} (h : (k.getNode r).snd = some (.held addr)) :
    ((Shared.syncDevicePods (k.bindingVolumes r) (storingManager r) (.ok bindingReplies)).fst.cluster.nodes
      addr).volumesInUse ≠ [] := by
  have hv : (handleMessages (Shared.onSyncMsg (k.bindingVolumes r)) (.new (storingManager r))
      bindingReplies).volumeInUse ≠ [] :=
    List.cons_ne_nil _ _
  have hw := Shared.updateVolumesInUse_writes (k := k.bindingVolumes r) hv h
  have he : Shared.syncDevicePods (k.bindingVolumes r) (storingManager r) (.ok bindingReplies) =
      Shared.updateVolumesInUse (k.bindingVolumes r) (handleMessages (Shared.onSyncMsg (k.bindingVolumes r))
        (.new (storingManager r)) bindingReplies) :=
    rfl
  rwa [he, hw]

-- Whatever the other requests result in, an object of the informers stays as it is iff it is never looked
-- up.
theorem unmodified_iff (k : Informers ρ) (addr : Nat) :
    ((∀ k', k.SameGetters k' → ∀ w w', Runs k' w w' → w'.pods addr = w.pods addr) ↔ ¬k.ReturnsPod addr) ∧
    ((∀ k', k.SameGetters k' → ∀ w w', Runs k' w w' → w'.nodes addr = w.nodes addr) ↔ ¬k.ReturnsNode addr) := by
  refine ⟨⟨?_, ?_⟩, ⟨?_, ?_⟩⟩
  case refine_1 =>
    rintro h ⟨r, name, hr⟩
    exact failingStatus_modifies hr <| h (k.failingStatus r) ⟨rfl, rfl⟩ _ _ <| .updatePodStatus ..
  case refine_2 => exact fun h k' hk w w' hr => hr.kept.pods addr <| mt hk.returnsPod.mp h
  case refine_3 =>
    rintro h ⟨r, hr⟩
    exact bindingVolumes_modifies hr <|
      congrArg (·.volumesInUse) <| h (k.bindingVolumes r) ⟨rfl, rfl⟩ _ _ <| .syncDevicePods ..
  case refine_4 => exact fun h k' hk w w' hr => hr.kept.nodes addr <| mt hk.returnsNode.mp h

def rejectingInformers : Informers Unit where
  getPod _ _ := ((), some (.held 0))
  updatePodStatus _ _ := ((), some (.other []))
  getNode _ := ((), some (.held 0))
  updateNodeStatus _ _ := ((), .error (.other []))
  getClaim _ _ := ((), .ok [5])
  getVolume _ _ := ((), .ok (some ([6], [7])))
  parseCIDR _ := none

def boundVolumeName : Bytes :=
  str "kubernetes.io/csi/" ++ ([6] ++ str "^" ++ [7])

def usingSystem : System (World Unit) where
  pods := fun _ => none
  edgeDevices := fun _ => false
  virtualNodes := fun _ => none
  managers := fun _ => { storingManager () with
    hostIP := []
    abbotPodUID := []
    resPodRec := .new
    cluster := { (storingManager ()).cluster with
      nodes := fun _ => { volumesInUse := [boundVolumeName], volumesAttached := [⟨boundVolumeName, []⟩] } } }
  log := []

theorem not_unmodified_rejected :
    let m := storingManager ()
    let updated := Shared.updatePodStatus rejectingInformers m (.own (unsavedPod [7]))
    let created := Shared.runCreateDevicePod rejectingInformers .answering
      (Manager.migrationReplies []) m { boundPod with volumes := [] }
    let synced := Shared.syncDevicePods rejectingInformers m (.ok bindingReplies)
    let deleted := (Shared.onRemotePodDeleted rejectingInformers 0 {} [1]).run usingSystem
    updated.snd.fst = [] ∧ (updated.fst.cluster.pods 0).status ≠ (m.cluster.pods 0).status ∧
    (created.fst.cluster.pods 0).status ≠ (m.cluster.pods 0).status ∧
    synced.snd.fst = [] ∧ (synced.fst.cluster.nodes 0).volumesInUse ≠ (m.cluster.nodes 0).volumesInUse ∧
    ((deleted.snd.managers 0).cluster.nodes 0).volumesInUse ≠
      ((usingSystem.managers 0).cluster.nodes 0).volumesInUse := by
  refine ⟨rfl, ?_, ?_, rfl, ?_, ?_⟩
  all_goals decide

end Aranya.Pod
