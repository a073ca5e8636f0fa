import Aranya.Lib.Frame
import Aranya.Pod.Reconcile
import Aranya.Pod.Theorems.Phase
import Aranya.Pod.Theorems.RemotePaths
import Aranya.Pod.Theorems.Sync

namespace Aranya.Pod

open Std (ExtTreeMap)

variable {ρ : Type} {k : Cluster ρ} {m : Manager ρ} {pod : Kube.Pod} {vol : Kube.Volume} {r r' : ρ}
    {names : VolumeNames}

def RequestsSucceed (k : Cluster ρ) (r : ρ) (vol : Kube.Volume) : Prop :=
  match vol.source with
  | .persistentVolumeClaim claimName _ =>
    ∃ volumeName source, (k.getClaim r claimName).snd = .ok volumeName ∧
      (k.getVolume (k.getClaim r claimName).fst volumeName).snd = .ok source
  | _ => True

def LookupsSucceed (k : Cluster ρ) : ρ → List Kube.Volume → Prop
  | _, [] => True
  | r, vol :: vols =>
    RequestsSucceed k r vol ∧
      ∀ l, (resolveVolume k r vol).snd = .ok l → LookupsSucceed k (resolveVolume k r vol).fst vols

def firstRemote (pod : Kube.Pod) (vols : List Kube.Volume) : Option Kube.Volume :=
  (usedVolumes pod vols).find? isRemote

theorem resolveVolume_of_not_isRemote (h : isRemote vol = false) : resolveVolume k r vol = (r, .ok none) := by
  rw [isRemote] at h
  rw [resolveVolume]
  cases hs : vol.source
  case csi => simp [hs] at h
  case persistentVolumeClaim => simp [hs] at h
  all_goals rfl

theorem requestsSucceed_of_resolveVolume {l : Option Lookup} (h : (resolveVolume k r vol).snd = .ok l) :
    RequestsSucceed k r vol := by
  rw [RequestsSucceed]
  cases hs : vol.source
  case persistentVolumeClaim claimName readOnly =>
    dsimp only
    rw [resolveVolume, hs] at h
    cases hc : k.getClaim r claimName
    case mk r x =>
      cases x
      case error e => simp [hc] at h
      case ok volumeName =>
        cases hv : k.getVolume r volumeName
        case mk r x =>
          cases x
          case error e => simp [hc, hv] at h
          case ok source => exact ⟨volumeName, source, by simp [hv]⟩
  all_goals trivial

section FirstRemote

variable {vols : List Kube.Volume}

theorem firstRemote_cons_of_skip
    (h : (Manager.usedVolumeNames pod).contains vol.name = false ∨ isRemote vol = false) :
    firstRemote pod (vol :: vols) = firstRemote pod vols ∧
    Manager.volumeNamesAndPaths k pod m names (vol :: vols) = Manager.volumeNamesAndPaths k pod m names vols := by
  rw [firstRemote, usedVolumes_cons, firstRemote, Manager.volumeNamesAndPaths]
  cases hu : (Manager.usedVolumeNames pod).contains vol.name
  case false => exact ⟨rfl, rfl⟩
  case true =>
    have hr : isRemote vol = false := h.resolve_left (by rw [hu]; simp)
    rw [if_pos rfl, List.find?_cons, hr, volumeNameAndPath_eq, resolveVolume_of_not_isRemote hr]
    exact ⟨rfl, rfl⟩

theorem firstRemote_cons_of_remote (hu : (Manager.usedVolumeNames pod).contains vol.name = true)
    (h : isRemote vol = true) : firstRemote pod (vol :: vols) = some vol := by
  rw [firstRemote, usedVolumes_cons, if_pos hu, List.find?_cons, h]

end FirstRemote

theorem volumeNamesAndPaths_of_no_remote {vols : List Kube.Volume} (h : firstRemote pod vols = none) :
    Manager.volumeNamesAndPaths k pod m names vols = (m, .ok names) := by
  induction vols
  case nil => rfl
  case cons vol vols hi =>
    by_cases hs : (Manager.usedVolumeNames pod).contains vol.name = false ∨ isRemote vol = false
    case pos =>
      obtain ⟨hf, hv⟩ := firstRemote_cons_of_skip hs
      rw [hv]
      exact hi (hf ▸ h)
    case neg =>
      simp only [not_or, Bool.not_eq_false] at hs
      cases (firstRemote_cons_of_remote hs.left hs.right).symm.trans h

-- Without the storage, the first one that has a name is a call of a function that is not set.
theorem volumeNamesAndPaths_of_remote {vols : List Kube.Volume} (hp : m.mountPath = none)
    (h : firstRemote pod vols = some vol) :
    (Manager.volumeNamesAndPaths k pod m names vols).snd =
    (resolveVolume k m.cluster vol).snd.bind fun _ => .error .panic := by
  induction vols
  case nil => cases h
  case cons vol' vols hi =>
    by_cases hs : (Manager.usedVolumeNames pod).contains vol'.name = false ∨ isRemote vol' = false
    case pos =>
      obtain ⟨hf, hv⟩ := firstRemote_cons_of_skip hs
      rw [hv]
      exact hi (hf ▸ h)
    case neg =>
      simp only [not_or, Bool.not_eq_false] at hs
      obtain ⟨hu, hr⟩ := hs
      cases (firstRemote_cons_of_remote hu hr).symm.trans h
      rw [Manager.volumeNamesAndPaths, hu, volumeNameAndPath_eq, hp]
      cases hv : resolveVolume k m.cluster vol
      case mk r x =>
        cases x
        case error e => rfl
        case ok l =>
          cases resolveVolume_cases hv
          case inl hl => cases hr.symm.trans hl.right
          case inr hl =>
            obtain ⟨l, rfl, _⟩ := hl
            rfl

theorem lookupsSucceed_iff_of_remote {vols : List Kube.Volume} (h : vols.find? isRemote = some vol)
    (he : ∀ l, (resolveVolume k r vol).snd ≠ .ok l) : LookupsSucceed k r vols ↔ RequestsSucceed k r vol := by
  induction vols
  case nil => cases h
  case cons vol' vols hi =>
    rw [LookupsSucceed]
    rw [List.find?_cons] at h
    cases hr : isRemote vol'
    case true =>
      obtain rfl : vol' = vol := by simpa [hr] using h
      exact and_iff_left fun l hl => absurd hl (he l)
    case false =>
      have hv := resolveVolume_of_not_isRemote (k := k) (r := r) hr
      rw [hv, ← hi (by simpa [hr] using h)]
      have hq := requestsSucceed_of_resolveVolume (congrArg Prod.snd hv)
      exact ⟨fun hs => hs.right none rfl, fun hs => ⟨hq, fun _ _ => hs⟩⟩

def CallsNil (k : Cluster ρ) (m : Manager ρ) (pod : Kube.Pod) : Prop :=
  m.mountPath = none ∧
  ∃ vol l, firstRemote pod pod.volumes = some vol ∧ (resolveVolume k m.cluster vol).snd = .ok l

theorem getUniqueVolumeNamesAndPaths_panic_iff :
    (m.getUniqueVolumeNamesAndPaths k pod).snd = .error .panic ↔ CallsNil k m pod := by
  cases hp : m.mountPath
  case some path =>
    have hn : (m.getUniqueVolumeNamesAndPaths k pod).snd ≠ .error .panic :=
      Manager.volumeNamesAndPaths_ne_panic (Option.isSome_of_eq_some hp)
    exact ⟨fun h => absurd h hn, fun h => nomatch hp.symm.trans h.left⟩
  case none =>
    rw [Manager.getUniqueVolumeNamesAndPaths]
    cases hf : firstRemote pod pod.volumes
    case none => simp [volumeNamesAndPaths_of_no_remote hf, CallsNil, hf]
    case some vol =>
      rw [volumeNamesAndPaths_of_remote hp hf]
      constructor
      case mp =>
        intro h
        cases Except.bind_eq_error_iff.mp h
        case inl h => exact absurd h resolveVolume_ne_panic
        case inr h =>
          obtain ⟨l, hl, _⟩ := h
          exact ⟨hp, vol, l, hf, hl⟩
      case mpr =>
        rintro ⟨_, vol', l, hf', hl⟩
        cases hf.symm.trans hf'
        rw [hl]
        rfl

structure Nameable (k : Cluster ρ) (m : Manager ρ) (pod : Kube.Pod) : Prop where
  disabled : m.mountPath = none → ∀ vol, firstRemote pod pod.volumes = some vol → ¬RequestsSucceed k m.cluster vol
  enabled : m.mountPath.isSome → LookupsSucceed k m.cluster (usedVolumes pod pod.volumes) →
    ∃ ls, (resolveVolumes k m.cluster (usedVolumes pod pod.volumes)).snd = .ok ls

theorem nameable_iff :
    Nameable k m pod ↔ (m.getUniqueVolumeNamesAndPaths k pod).snd ≠ .error .panic ∧
      (LookupsSucceed k m.cluster (usedVolumes pod pod.volumes) →
        ∃ names, (m.getUniqueVolumeNamesAndPaths k pod).snd = .ok names) := by
  cases hp : m.mountPath
  case some path =>
    have hn : (m.getUniqueVolumeNamesAndPaths k pod).snd ≠ .error .panic :=
      Manager.volumeNamesAndPaths_ne_panic (Option.isSome_of_eq_some hp)
    have hs : (∃ names, (m.getUniqueVolumeNamesAndPaths k pod).snd = .ok names) ↔
        ∃ ls, (resolveVolumes k m.cluster (usedVolumes pod pod.volumes)).snd = .ok ls := by
      rw [Manager.getUniqueVolumeNamesAndPaths, volumeNamesAndPaths_eq pod.volumes hp]
      simp only [Except.map_eq_ok_iff]
      constructor
      case mp => rintro ⟨_, ls, h, _⟩; exact ⟨ls, h⟩
      case mpr => rintro ⟨ls, h⟩; exact ⟨_, ls, h, rfl⟩
    rw [hs]
    constructor
    case mp => exact fun h => ⟨hn, h.enabled <| Option.isSome_of_eq_some hp⟩
    case mpr => exact fun h => ⟨fun hd => by simp [hp] at hd, fun _ => h.right⟩
  case none =>
    have he : Nameable k m pod ↔
        ∀ vol, firstRemote pod pod.volumes = some vol → ¬RequestsSucceed k m.cluster vol :=
      ⟨fun h => h.disabled hp, fun h => ⟨fun _ => h, fun hs => by simp [hp] at hs⟩⟩
    rw [he, Manager.getUniqueVolumeNamesAndPaths]
    cases hf : firstRemote pod pod.volumes
    case none => simp [volumeNamesAndPaths_of_no_remote hf]
    case some vol =>
      rw [volumeNamesAndPaths_of_remote hp hf]
      cases hr : (resolveVolume k m.cluster vol).snd
      case ok l => simp [Except.bind, requestsSucceed_of_resolveVolume hr]
      case error e =>
        have hn : e ≠ .panic := fun h => resolveVolume_ne_panic (h ▸ hr)
        rw [lookupsSucceed_iff_of_remote hf fun l hl => by simp [hr] at hl]
        simp [Except.bind, hn]

def NodeUpdated (k : Cluster ρ) (r : ρ) (names : VolumeNames) : Prop :=
  ∃ r' node lists node', k.getNode r = (r', some node) ∧
    removeVolumeInUse node.volumesInUse node.volumesAttached names = some lists ∧
    (k.updateNodeStatus r' { node with volumesInUse := lists.fst, volumesAttached := lists.snd }).snd = .ok node'

namespace System

variable {s : System ρ} {i : Nat} {a : Answers} {t : System ρ} {P : System ρ → Prop}
    {res : Except Return Unit × System ρ} {h : ReconcileM ρ Unit} {p p' o o' : Prop}

def Releases (k : Cluster ρ) (m : Manager ρ) (pod : Kube.Pod) : Prop :=
  ∃ names, (m.getUniqueVolumeNamesAndPaths k pod).snd = .ok names ∧
    (names ≠ ∅ → NodeUpdated k (m.getUniqueVolumeNamesAndPaths k pod).fst.cluster names)

def OutOfRange (k : Cluster ρ) (m : Manager ρ) (pod : Kube.Pod) : Prop :=
  ∃ names r node, (m.getUniqueVolumeNamesAndPaths k pod).snd = .ok names ∧ names ≠ ∅ ∧
    k.getNode (m.getUniqueVolumeNamesAndPaths k pod).fst.cluster = (r, some node) ∧
    removeVolumeInUse node.volumesInUse node.volumesAttached names = none

structure ReleaseSpec (k : Cluster ρ) (m : Manager ρ) (pod : Kube.Pod) (x : Except Return Unit) : Prop where
  ok : x = .ok () ↔ Releases k m pod
  panic : x = .error .panic ↔ CallsNil k m pod ∨ OutOfRange k m pod
  result : x ≠ .error (.result none)

theorem ReleaseSpec.of_error {e : Failure} {x : Return} (h : (m.getUniqueVolumeNamesAndPaths k pod).snd = .error e)
    (hx : x = .panic ↔ e = .panic) (hr : x ≠ .result none) : ReleaseSpec k m pod (.error x) where
  ok := ⟨nofun, fun ⟨_, hn, _⟩ => nomatch h.symm.trans hn⟩
  panic := by
    have ho : ¬OutOfRange k m pod := fun ⟨_, _, _, hn, _⟩ => nomatch h.symm.trans hn
    rw [← getUniqueVolumeNamesAndPaths_panic_iff, h, or_iff_left ho, Except.error.injEq, Except.error.injEq, hx]
  result := fun h => hr (Except.error.inj h)

theorem ReleaseSpec.of_unused (h : (m.getUniqueVolumeNamesAndPaths k pod).snd = .ok ∅) :
    ReleaseSpec k m pod (.ok ()) where
  ok := ⟨fun _ => ⟨∅, h, (absurd rfl ·)⟩, fun _ => rfl⟩
  panic := by
    rw [← getUniqueVolumeNamesAndPaths_panic_iff, h]
    refine ⟨nofun, ?_⟩
    rintro (hp | ⟨names, _, _, hn, he, _⟩)
    case inl => cases hp
    case inr => exact absurd (Except.ok.inj <| hn.symm.trans h) he
  result := nofun

theorem ReleaseSpec.of_names {x : Except Return Unit} {c : ρ}
    (h : (m.getUniqueVolumeNamesAndPaths k pod).snd = .ok names)
    (hc : (m.getUniqueVolumeNamesAndPaths k pod).fst.cluster = c) (hn : names ≠ ∅)
    (ho : x = .ok () ↔ NodeUpdated k c names)
    (hp : x = .error .panic ↔ ∃ r node, k.getNode c = (r, some node) ∧
      removeVolumeInUse node.volumesInUse node.volumesAttached names = none)
    (hr : x ≠ .error (.result none)) : ReleaseSpec k m pod x where
  ok := by
    subst hc
    refine ho.trans ⟨fun hu => ⟨names, h, fun _ => hu⟩, fun ⟨names', h', hu⟩ => ?_⟩
    cases h.symm.trans h'
    exact hu hn
  panic := by
    subst hc
    rw [← getUniqueVolumeNamesAndPaths_panic_iff, hp]
    constructor
    case mp => exact fun ⟨r, node, hg, hr⟩ => .inr ⟨names, r, node, h, hn, hg, hr⟩
    case mpr =>
      rintro (hp | ⟨names', r, node, h', _, hg, hr⟩)
      case inl => cases h.symm.trans hp
      case inr =>
        cases h.symm.trans h'
        exact ⟨r, node, hg, hr⟩
  result := hr

theorem ofFailure_error {α : Type} {e : Failure} (he : e ≠ .panic) :
    ∃ result, (ofFailure (.error e) : ReconcileM ρ α).run s = (.error <| .result <| some result, s) := by
  cases e
  case panic => exact absurd rfl he
  all_goals exact ⟨_, rfl⟩

def withCluster (s : System ρ) (i : Nat) (c : ρ) : System ρ :=
  s.setManager i { s.managers i with cluster := c }

theorem withCluster_withCluster {c c' : ρ} : (s.withCluster i c).withCluster i c' = s.withCluster i c' := by
  simp [withCluster, setManager]

theorem ask_run {α : Type} {f : ρ → ρ × α} {c : ρ} :
    (ask i f).run (s.withCluster i c) = (.ok (f c).snd, s.withCluster i (f c).fst) := by
  have hr : (ask i f).run (s.withCluster i c) =
      (.ok (f ((s.withCluster i c).managers i).cluster).snd,
       (s.withCluster i c).withCluster i (f ((s.withCluster i c).managers i).cluster).fst) := rfl
  rw [hr, withCluster_withCluster]
  simp [withCluster, setManager]

theorem releaseVolumes_run :
    ∃ x c, ReleaseSpec k (s.managers i).toManager pod x ∧
      (releaseVolumes k i pod).run s = (x, s.withCluster i c) := by
  let m := (s.managers i).toManager
  obtain ⟨c, hc⟩ : ∃ c, (m.getUniqueVolumeNamesAndPaths k pod).fst = { m with cluster := c } :=
    Manager.volumeNamesAndPaths_cluster
  have hr : (call i (·.getUniqueVolumeNamesAndPaths k pod)).run s =
      (.ok (m.getUniqueVolumeNamesAndPaths k pod).snd, s.withCluster i c) := by
    have hr : (call i (·.getUniqueVolumeNamesAndPaths k pod)).run s =
        (.ok (m.getUniqueVolumeNamesAndPaths k pod).snd,
         s.setManager i { s.managers i with toManager := (m.getUniqueVolumeNamesAndPaths k pod).fst }) := rfl
    rw [hr, hc]
    rfl
  replace hc : (m.getUniqueVolumeNamesAndPaths k pod).fst.cluster = c := by rw [hc]
  rw [releaseVolumes, run_bind_ok hr]
  cases hx : (m.getUniqueVolumeNamesAndPaths k pod).snd
  case error e =>
    by_cases he : e = .panic
    case pos =>
      subst he
      exact ⟨_, c, .of_error hx (iff_of_true rfl rfl) nofun, rfl⟩
    case neg =>
      obtain ⟨result, hf⟩ := ofFailure_error (s := s.withCluster i c) (α := VolumeNames) he
      exact ⟨_, c, .of_error hx (by simp [he]) (by simp), run_bind_error hf⟩
  case ok names =>
    have hf : (ofFailure (.ok names) : ReconcileM ρ VolumeNames).run (s.withCluster i c) =
        (.ok names, s.withCluster i c) := rfl
    rw [run_bind_ok hf]
    by_cases hn : names = ∅
    case pos =>
      subst hn
      exact ⟨.ok (), c, .of_unused hx, rfl⟩
    case neg =>
      have he : (!names.isEmpty) = true := by simpa using hn
      rw [if_pos he, run_bind_ok ask_run]
      cases hg : k.getNode c
      case mk r node =>
        cases node
        case none =>
          refine ⟨_, r, .of_names hx hc hn ?_ ?_ ?_, rfl⟩
          all_goals simp [hg, NodeUpdated]
        case some node =>
          dsimp only
          cases hr : removeVolumeInUse node.volumesInUse node.volumesAttached names
          case none =>
            refine ⟨_, r, .of_names hx hc hn ?_ ?_ ?_, rfl⟩
            all_goals simp [hg, hr, NodeUpdated]
          case some lists =>
            obtain ⟨inUse, attached⟩ := lists
            dsimp only
            rw [run_bind_ok ask_run]
            cases hu : k.updateNodeStatus r { node with volumesInUse := inUse, volumesAttached := attached }
            case mk r' res =>
              cases res
              case error e =>
                refine ⟨_, r', .of_names hx hc hn ?_ ?_ ?_, rfl⟩
                all_goals simp [hg, hr, hu, NodeUpdated]
              case ok node' =>
                refine ⟨_, r', .of_names hx hc hn ?_ ?_ ?_, rfl⟩
                all_goals simp [hg, hr, hu, NodeUpdated]

structure Ends (res : Except Return Unit × System ρ) (panics ok : Prop) (P : System ρ → Prop) : Prop where
  panic : res.fst = .error .panic ↔ panics
  ok : res.fst = .ok () ↔ ok
  result : res.fst ≠ .error (.result none)
  state : res.fst = .ok () → P res.snd

theorem Ends.bind {c d : ReconcileM ρ Unit} {P Q : System ρ → Prop} (hc : Ends (c.run s) p o P)
    (hd : ∀ t, P t → Ends (d.run t) p' o' Q) : Ends ((c >>= fun _ => d).run s) (p ∨ o ∧ p') (o ∧ o') Q := by
  cases hr : c.run s
  case mk x t =>
    rw [hr] at hc
    cases x
    case error e =>
      rw [run_bind_error hr]
      have ho : ¬o := fun h => nomatch hc.ok.mpr h
      exact ⟨by simpa [ho] using hc.panic, by simp [ho], hc.result, nofun⟩
    case ok u =>
      rw [run_bind_ok hr]
      have ho : o := hc.ok.mp rfl
      have hp : ¬p := fun h => nomatch hc.panic.mpr h
      have hd := hd t (hc.state rfl)
      exact ⟨by simpa [ho, hp] using hd.panic, by simpa [ho] using hd.ok, hd.result, hd.state⟩

theorem run_isSome_iff : (run h s).isSome ↔ (h.run s).fst ≠ .error .panic := by
  rw [run]
  split
  case h_1 hr => simp [hr]
  case h_2 hr => simp [hr]
  case h_3 hr => simp [hr]

theorem run_eq_nil_iff {s' : System ρ} (hn : (h.run s).fst ≠ .error (.result none)) :
    run h s = some (s', none) ↔ h.run s = (.ok (), s') := by
  rw [run]
  cases hr : h.run s
  case mk x t =>
    rw [hr] at hn
    cases x
    case ok u =>
      exact ⟨fun h => by cases h; rfl, fun h => by cases h; rfl⟩
    case error e =>
      cases e
      case panic => exact ⟨nofun, nofun⟩
      case result r =>
        refine ⟨fun h => ?_, nofun⟩
        cases h
        exact absurd rfl hn

theorem Ends.congr (h : Ends res p o P) (hp : p ↔ p') (ho : o ↔ o') : Ends res p' o' P :=
  ⟨h.panic.trans hp, h.ok.trans ho, h.result, h.state⟩

theorem Ends.imp {p o : Prop} {P Q : System ρ → Prop} (h : Ends res p o P)
    (hi : ∀ t, P t → Q t) : Ends res p o Q :=
  ⟨h.panic, h.ok, h.result, fun hr => hi _ (h.state hr)⟩

theorem Ends.of_ok : Ends (.ok (), t) False True (· = t) where
  panic := by simp
  ok := by simp
  result := by simp
  state _ := rfl

theorem Ends.of_panic : Ends (.error .panic, t) True False P where
  panic := by simp
  ok := by simp
  result := by simp
  state h := by cases h

theorem Ends.of_returnErr {r : Reconcile.Result} : Ends (.error (.result (some r)), t) False False P where
  panic := by simp
  ok := by simp
  result := by simp
  state h := by cases h

theorem modifyManager_ends {f : PodManager ρ → PodManager ρ} :
    Ends ((modifyManager i f).run t) False True (· = t.setManager i (f (t.managers i))) :=
  .of_ok

theorem releaseVolumes_ends :
    Ends ((releaseVolumes k i pod).run s)
      (CallsNil k (s.managers i).toManager pod ∨ OutOfRange k (s.managers i).toManager pod)
      (Releases k (s.managers i).toManager pod) (∃ c, · = s.withCluster i c) := by
  have hr : ∃ x c, ReleaseSpec k (s.managers i).toManager pod x ∧
      (releaseVolumes k i pod).run s = (x, s.withCluster i c) :=
    releaseVolumes_run
  obtain ⟨x, c, hs, hr⟩ := hr
  rw [hr]
  exact ⟨hs.panic, hs.ok, hs.result, fun _ => ⟨c, rfl⟩⟩

theorem cleanupStorage_ends :
    Ends ((cleanupStorage i a pod).run t)
      ((t.managers i).mountPath.isSome ∧ keepPVCAndInlineCSIOnly pod = none)
      ((t.managers i).mountPath.isSome → (keepPVCAndInlineCSIOnly pod).isSome ∧ a.cleanupStorage = none)
      (· = t) := by
  have hm : (manager i : ReconcileM ρ (PodManager ρ)).run t = (.ok (t.managers i), t) := rfl
  rw [cleanupStorage, run_bind_ok hm]
  cases hp : (t.managers i).mountPath
  case none => exact .congr .of_ok (by simp) (by simp)
  case some path =>
    cases hk : keepPVCAndInlineCSIOnly pod
    case none => exact .congr .of_panic (by simp) (by simp)
    case some pod =>
      cases hc : a.cleanupStorage
      case none => exact .congr .of_ok (by simp) (by simp)
      case some e => exact .congr .of_returnErr (by simp) (by simp)

theorem deletePod_ends {podUID name : Bytes} :
    Ends ((deletePod a.deletePod podUID name).run t) False
      (a.deletePod = .error .notFound ∨ ∃ gone, a.deletePod = .ok gone)
      (fun t' => t'.managers = t.managers ∧
        (a.deletePod = .error .notFound ∨ t'.log = t.log ++ [⟨podUID, name, t.pods name⟩])) := by
  cases hd : a.deletePod
  case ok gone => exact .congr (Ends.of_ok.imp fun _ h => h ▸ ⟨rfl, .inr rfl⟩) .rfl (by simp)
  case error e =>
    cases e
    case notFound => exact .congr (Ends.of_ok.imp fun _ h => h ▸ ⟨rfl, .inl rfl⟩) .rfl (by simp)
    case other e => exact .congr .of_returnErr .rfl (by simp)

variable {podUID : Bytes}

theorem delete_ends :
    Ends ((do
        deletePod a.deletePod podUID pod.name
        modifyManager i fun m => { m with podCache := m.podCache.delete podUID } : ReconcileM ρ Unit).run t)
      False (a.deletePod = .error .notFound ∨ ∃ gone, a.deletePod = .ok gone)
      (fun t' => (t'.managers i).podCache.getByID podUID = none ∧
        (a.deletePod = .error .notFound ∨ t'.log = t.log ++ [⟨podUID, pod.name, t.pods pod.name⟩])) := by
  refine .congr (.bind deletePod_ends fun t₁ ht => modifyManager_ends.imp ?_) (by simp) (by simp)
  rintro _ rfl
  exact ⟨by simp [setManager, PodCache.getByID_delete], ht.right⟩

structure CallsSucceed (k : Cluster ρ) (a : Answers) (m : Manager ρ) (pod : Kube.Pod) : Prop where
  lookups : LookupsSucceed k m.cluster (usedVolumes pod pod.volumes)
  node : ∀ names, (m.getUniqueVolumeNamesAndPaths k pod).snd = .ok names → names ≠ ∅ →
    NodeUpdated k (m.getUniqueVolumeNamesAndPaths k pod).fst.cluster names
  cleanup : Releases k m pod → m.mountPath.isSome → a.cleanupStorage = none
  delete : Releases k m pod → a.deletePod = .error .notFound ∨ ∃ gone, a.deletePod = .ok gone

structure DeletionSound (k : Cluster ρ) (i : Nat) (a : Answers) (s : System ρ) (podUID : Bytes) (pod : Kube.Pod) :
    Prop where
  returns : (run (onRemotePodDeleted k i a podUID) s).isSome
  deletes : CallsSucceed k a (s.managers i).toManager pod → ∃ s',
    run (onRemotePodDeleted k i a podUID) s = some (s', none) ∧ (s'.managers i).podCache.getByID podUID = none ∧
    (a.deletePod = .error .notFound ∨ s'.log = s.log ++ [⟨podUID, pod.name, s.pods pod.name⟩])

structure Deletable (k : Cluster ρ) (m : Manager ρ) (pod : Kube.Pod) : Prop where
  nameable : Nameable k m pod
  inRange : ¬OutOfRange k m pod
  mounts : m.mountPath.isSome → Releases k m pod → (keepPVCAndInlineCSIOnly pod).isSome

section Deleted

variable (hc : (s.managers i).podCache.getByID podUID = some pod)

include hc

theorem onRemotePodDeleted_ends :
    Ends ((onRemotePodDeleted k i a podUID).run s)
      ((CallsNil k (s.managers i).toManager pod ∨ OutOfRange k (s.managers i).toManager pod) ∨
        Releases k (s.managers i).toManager pod ∧
          (s.managers i).mountPath.isSome ∧ keepPVCAndInlineCSIOnly pod = none)
      (Releases k (s.managers i).toManager pod ∧
        ((s.managers i).mountPath.isSome → (keepPVCAndInlineCSIOnly pod).isSome ∧ a.cleanupStorage = none) ∧
        (a.deletePod = .error .notFound ∨ ∃ gone, a.deletePod = .ok gone))
      (fun s' => (s'.managers i).podCache.getByID podUID = none ∧
        (a.deletePod = .error .notFound ∨ s'.log = s.log ++ [⟨podUID, pod.name, s.pods pod.name⟩])) := by
  have hm : (manager i : ReconcileM ρ (PodManager ρ)).run s = (.ok (s.managers i), s) := rfl
  rw [onRemotePodDeleted, run_bind_ok hm, hc]
  refine .bind releaseVolumes_ends ?rest
  rintro _ ⟨c, rfl⟩
  have hp : ((s.withCluster i c).managers i).mountPath = (s.managers i).mountPath := by
    simp [withCluster, setManager]
  rw [← hp]
  refine .congr (.bind cleanupStorage_ends fun t ht => delete_ends.imp fun _ h => ?_) (by simp) .rfl
  rwa [ht] at h

theorem deletionSound_iff : DeletionSound k i a s podUID pod ↔ Deletable k (s.managers i).toManager pod := by
  have he := onRemotePodDeleted_ends (k := k) (a := a) hc
  constructor
  case mp =>
    intro hs
    have hp := mt he.panic.mpr <| run_isSome_iff.mp hs.returns
    rw [not_or, not_or, ← getUniqueVolumeNamesAndPaths_panic_iff] at hp
    obtain ⟨⟨hn, ho⟩, hm⟩ := hp
    constructor
    case nameable =>
      refine nameable_iff.mpr ⟨hn, fun hl => ?_⟩
      by_contra hu
      -- The calls that are made succeed, but the names are not known.
      have hr : ¬Releases k (s.managers i).toManager pod := fun ⟨names, h, _⟩ => hu ⟨names, h⟩
      obtain ⟨s', hd, _⟩ := hs.deletes {
        lookups := hl
        node := fun names h => absurd ⟨names, h⟩ hu
        cleanup := fun h => absurd h hr
        delete := fun h => absurd h hr }
      exact hr (he.ok.mp <| congrArg Prod.fst <| (run_eq_nil_iff he.result).mp hd).left
    case inRange => exact ho
    case mounts =>
      intro hp hr
      exact Option.isSome_iff_ne_none.mpr fun hk => hm ⟨hr, hp, hk⟩
  case mpr =>
    intro hd
    obtain ⟨hn, hl⟩ := nameable_iff.mp hd.nameable
    constructor
    case returns =>
      refine run_isSome_iff.mpr fun h => ?_
      rcases he.panic.mp h with (h | h) | ⟨hr, hp, hk⟩
      case inl.inl => exact hn <| getUniqueVolumeNamesAndPaths_panic_iff.mpr h
      case inl.inr => exact hd.inRange h
      case inr => simpa [hk] using hd.mounts hp hr
    case deletes =>
      intro hs
      obtain ⟨names, h⟩ := hl hs.lookups
      have hr : Releases k (s.managers i).toManager pod := ⟨names, h, hs.node names h⟩
      have ho := he.ok.mpr ⟨hr, fun hp => ⟨hd.mounts hp hr, hs.cleanup hr hp⟩, hs.delete hr⟩
      exact ⟨_, (run_eq_nil_iff he.result).mpr <| Prod.ext ho rfl, he.state ho⟩

end Deleted
end System

namespace SyncState

variable {t : SyncState ρ} {e : Entry}

-- The status of a container is nil, or a function that is not set is called after the status of the pod has
-- been written.
def Crashes (k : Cluster ρ) (t : SyncState ρ) (e : Entry) : Prop :=
  ∃ ps pod, e = .pod ps ∧ ps.uid ≠ [] ∧ t.mgr.podCache.getByID ps.uid = some pod ∧
    ((∃ ctr ∈ pod.containers, ps.containers[ctr.name]? = some none) ∨ CallsNil k (t.mirror k pod ps).mgr pod)

theorem addVolumes_panic_iff (h : t.Regular) :
    (t.addVolumes k pod).fst.err = some .panic ↔ CallsNil k t.mgr pod := by
  rw [← getUniqueVolumeNamesAndPaths_panic_iff, addVolumes]
  cases hg : t.mgr.getUniqueVolumeNamesAndPaths k pod
  case mk m x =>
    cases x
    case error e =>
      cases e
      all_goals simp [Failure.wrap]
    case ok names =>
      dsimp only
      split
      case isTrue => simp [h.err]
      case isFalse =>
        have hs : (addVolumesInUse t.volumeInUse t.volumeAttached names).isSome :=
          addVolumesInUse_isSome.mpr h.length.le
        split
        case h_1 hn => simp [hn] at hs
        case h_2 => simp [h.err]

theorem syncEntry_panic_iff (h : t.Regular) :
    (syncEntry k t e).fst.err = some .panic ↔ t.err = some .panic ∨ Crashes k t e := by
  have hn : t.err ≠ some .panic := by simp [h.err]
  rw [or_iff_right hn]
  cases e
  case error => simp [syncEntry, Crashes]
  case unexpected => simpa [syncEntry, Crashes] using hn
  case pod ps =>
    simp only [syncEntry, syncPod]
    split
    case isTrue hu => simp [hn, Crashes, hu]
    case isFalse hu =>
      split
      case h_1 hp => simp [hn, Crashes, hp]
      case h_2 pod hp =>
        have hc : Crashes k t (.pod ps) ↔
            (∃ ctr ∈ pod.containers, ps.containers[ctr.name]? = some none) ∨
            CallsNil k (t.mirror k pod ps).mgr pod := by
          constructor
          case mpr => exact fun hc => ⟨ps, pod, rfl, hu, hp, hc⟩
          case mp =>
            rintro ⟨ps', pod', he, _, hp', hc⟩
            cases he
            cases hp.symm.trans hp'
            exact hc
        have hm : (mirrorStatus k.parseCIDR pod ps false).isSome ↔ Present pod.containers ps := mirrorStatus_isSome
        rw [hc]
        split
        case isTrue hs =>
          rw [Option.isNone_iff_eq_none.mp hs] at hm
          exact iff_of_true rfl (.inl (by simpa [Present] using hm))
        case isFalse hs =>
          have hs : (mirrorStatus k.parseCIDR pod ps false).isSome :=
            Option.isSome_iff_ne_none.mpr (by simpa using hs)
          rw [addVolumes_panic_iff h.mirror, or_iff_right]
          rintro ⟨ctr, hc, hn⟩
          exact hm.mp hs ctr hc hn

end SyncState

theorem updateVolumesInUse_ne_panic {s : SyncState ρ} : (Manager.updateVolumesInUse k s).2.2 ≠ some .panic := by
  rw [Manager.updateVolumesInUse]
  split
  case isTrue => simp
  case isFalse =>
    split
    case h_1 => simp
    case h_2 r node _ =>
      simp only [Manager.updateNodeStatus]
      cases k.updateNodeStatus r { node with volumesInUse := s.volumeInUse, volumesAttached := s.volumeAttached }
      case mk r x =>
        cases x
        case ok => simp
        case error => simp

theorem syncDevicePods_panic_iff {replies : Except Bytes (List Runtime.Reply)} :
    (m.syncDevicePods k replies).2.2 = some .panic ↔
    ∃ msgs e post t, replies = .ok msgs ∧ m.Gets k msgs e post t ∧ t.Crashes k e := by
  cases replies
  case error e => simp [Manager.syncDevicePods]
  case ok msgs =>
    have hn : (SyncState.new m).Regular := ⟨rfl, rfl⟩
    have hl : (loop (SyncState.syncEntry k) (.new m) (msgs.flatMap entries)).fst.err = some .panic ↔ _ :=
      loop_accumulates (P := (·.err = some .panic)) (A := SyncState.Crashes k) hn SyncState.syncEntry_regular
        SyncState.syncEntry_panic_iff
    rw [or_iff_right (by simp [SyncState.new])] at hl
    simp only [Manager.syncDevicePods, SyncState.handleMessages_onMsg]
    constructor
    case mp =>
      intro h
      have hp : (loop (SyncState.syncEntry k) (.new m) (msgs.flatMap entries)).fst.err = some .panic := by
        split at h
        case h_1 he => exact he.trans h
        case h_2 => exact absurd h updateVolumesInUse_ne_panic
      obtain ⟨e, post, t, hr, hc⟩ := hl.mp hp
      exact ⟨msgs, e, post, t, rfl, hr, hc⟩
    case mpr =>
      rintro ⟨msgs', e, post, t, hm, hr, hc⟩
      cases hm
      rw [hl.mpr ⟨e, post, t, hr, hc⟩]

-- The deletion of a cached pod is sound iff it is deletable, and the device pods are synced without a panic
-- iff no pod that is reached crashes.
theorem deletion_and_sync_iff {s : System ρ} {i : Nat} {podUID : Bytes} (a : Answers)
    (replies : Except Bytes (List Runtime.Reply)) (hc : (s.managers i).podCache.getByID podUID = some pod) :
    (System.DeletionSound k i a s podUID pod ↔ System.Deletable k (s.managers i).toManager pod) ∧
    (((s.managers i).toManager.syncDevicePods k replies).2.2 ≠ some .panic ↔
      ∀ msgs e post t, replies = .ok msgs → (s.managers i).toManager.Gets k msgs e post t → ¬t.Crashes k e) := by
  refine ⟨System.deletionSound_iff hc, ?_⟩
  rw [ne_eq, syncDevicePods_panic_iff]
  push Not
  rfl

def boundCluster : Cluster Unit :=
  { Cluster.answering none with
    getNode := fun _ => ((), some { volumesInUse := [], volumesAttached := [] })
    getClaim := fun _ _ => ((), .ok [5])
    getVolume := fun _ _ => ((), .ok (some ([6], [7]))) }

def volumePod (source : Kube.VolumeSource) : Kube.Pod :=
  { samplePod with
    volumes := [⟨[3], source⟩]
    containers := [{ name := [4], image := [], volumeMounts := [⟨[3], [], [], false⟩] }] }

def emptySystem : System Unit where
  pods := fun _ => none
  edgeDevices := fun _ => false
  virtualNodes := fun _ => none
  managers := fun _ => .newManager [9] [] none ()
  log := []

def admittedSystem (pod : Kube.Pod) : System Unit :=
  emptySystem.setManager 0 { emptySystem.managers 0 with
    podCache := (emptySystem.managers 0).podCache.update pod }

theorem deletion_and_sync_iff_local :
    let pod := volumePod .emptyDir
    let s := admittedSystem pod
    (s.managers 0).podCache.getByID [1] = some pod ∧ System.DeletionSound boundCluster 0 {} s [1] pod ∧
    ((s.managers 0).toManager.syncDevicePods boundCluster (.ok [.podStatusList [Manager.reported [1]]])).2.2 ≠
      some .panic := by
  intro pod s
  have hc : (s.managers 0).podCache.getByID [1] = some pod := rfl
  have hi := deletion_and_sync_iff (k := boundCluster) {} (.ok [.podStatusList [Manager.reported [1]]]) hc
  have hv : (s.managers 0).toManager.getUniqueVolumeNamesAndPaths boundCluster pod =
      ((s.managers 0).toManager, .ok ∅) := rfl
  refine ⟨hc, hi.left.mpr ⟨⟨fun _ _ h => (nomatch h), nofun⟩, ?_, nofun⟩, nofun⟩
  rintro ⟨names, _, _, hn, he, _⟩
  rw [hv] at hn
  cases hn
  exact he rfl

-- Without the storage, a pod whose claim is bound makes both functions panic. So does a status that is nil
-- for a container of any pod.
theorem not_deletion_and_sync_claim :
    let pod := volumePod (.persistentVolumeClaim [8] false)
    let s := admittedSystem pod
    (System.admitPodCreation 0 {} pod).run emptySystem = (.ok (), s) ∧
    (s.managers 0).podCache.getByID [1] = some pod ∧ ¬System.DeletionSound boundCluster 0 {} s [1] pod ∧
    System.run (System.onRemotePodDeleted boundCluster 0 {} [1]) s = none ∧
    ((s.managers 0).toManager.syncDevicePods boundCluster (.ok [.podStatusList [Manager.reported [1]]])).2.2 =
      some .panic ∧
    (((admittedSystem (volumePod .emptyDir)).managers 0).toManager.syncDevicePods boundCluster
      (.ok [.podStatusList [⟨[1], none, (∅ : ExtTreeMap Bytes _).insert [4] none⟩]])).2.2 = some .panic := by
  intro pod s
  have hr : System.run (System.onRemotePodDeleted boundCluster 0 {} [1]) s = none := rfl
  refine ⟨rfl, rfl, fun h => ?_, hr, rfl, rfl⟩
  simpa [hr] using h.returns

end Aranya.Pod
