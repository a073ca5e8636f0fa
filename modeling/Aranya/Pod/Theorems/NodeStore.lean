import Aranya.Pod.Theorems.Emits
import Aranya.Pod.VolumesInUse

namespace Aranya.Pod

open Std (ExtTreeMap)

variable {ρ : Type} {k : Cluster ρ} {r : Resolver ρ}

namespace NodeStore

variable (st : NodeStore k r) {m m' m₁ m₂ m₃ : Manager ρ} {pod : Kube.Pod} {ps : Option Runtime.PodStatusMsg}
    {b : Bool} {name : Bytes}

structure Kept (m m' : Manager ρ) : Prop where
  node : st.node m'.cluster = st.node m.cluster
  mountPath : m'.mountPath = m.mountPath

namespace Kept

variable {st}

theorem refl (m : Manager ρ) : st.Kept m m :=
  ⟨rfl, rfl⟩

theorem trans (h₁ : st.Kept m₁ m₂) (h₂ : st.Kept m₂ m₃) : st.Kept m₁ m₃ :=
  ⟨h₂.node.trans h₁.node, h₂.mountPath.trans h₁.mountPath⟩

end Kept

theorem preserves (node : Kube.Node) :
    k.Preserves (fun c => st.node c = node) (fun _ => True) (fun _ => True) where
  status _ := trivial
  getPod hc _ := (st.getPod _ _).trans hc
  lookup _ _ _ := ⟨trivial, trivial⟩
  updatePodStatus h _ _ := (st.updatePodStatus _ _).trans h
  getClaim name hc := (st.getClaim _ name).trans hc
  getVolume name hc := (st.getVolume _ name).trans hc

namespace Kept

variable {st}

theorem updateMirrorPod : st.Kept m (m.updateMirrorPod k (some pod) ps b).fst := by
  have h : m.Calls (st.node · = st.node m.cluster) (fun _ => True) _ (m.updateMirrorPod k (some pod) ps b) :=
    Manager.updateMirrorPod_calls (st.preserves _) (fun _ _ => trivial) rfl trivial fun _ _ => trivial
  exact ⟨h.cluster, h.mountPath⟩

theorem volumeNameAndPath {vol : Kube.Volume} : st.Kept m (m.volumeNameAndPath k pod vol).fst := by
  obtain ⟨c, hc⟩ := Manager.volumeNameAndPath_cluster (k := k) (m := m) pod vol
  exact ⟨Manager.volumeNameAndPath_preserves (st.preserves _) vol rfl, by rw [hc]⟩

theorem volumeNamesAndPaths {vols : List Kube.Volume} {names : VolumeNames} :
    st.Kept m (Manager.volumeNamesAndPaths k pod m names vols).fst := by
  have hc : ∃ c, (Manager.volumeNamesAndPaths k pod m names vols).fst = { m with cluster := c } :=
    Manager.volumeNamesAndPaths_cluster
  obtain ⟨c, hc⟩ := hc
  exact ⟨Manager.volumeNamesAndPaths_preserves (st.preserves _) rfl, by rw [hc]⟩

end Kept

include st

theorem volumeNameAndPath_eq (pod : Kube.Pod) (vol : Kube.Volume) (h : m'.mountPath = m.mountPath) :
    (m'.volumeNameAndPath k pod vol).snd = (m.volumeNameAndPath k pod vol).snd := by
  cases hs : vol.source
  case persistentVolumeClaim claimName readOnly =>
    have hc : (k.getClaim m'.cluster claimName).snd = (k.getClaim m.cluster claimName).snd := by
      rw [st.claims_eq, st.claims_eq]
    have hv : ∀ c c' name, (k.getVolume c' name).snd = (k.getVolume c name).snd := by
      intro c c' name
      rw [st.volumes_eq, st.volumes_eq]
    simp only [Manager.volumeNameAndPath, hs]
    rcases hx : k.getClaim m.cluster claimName with ⟨c, res⟩
    rcases hx' : k.getClaim m'.cluster claimName with ⟨c', res'⟩
    rw [hx, hx'] at hc
    cases hc
    cases res
    case error e => rfl
    case ok volumeName =>
      replace hv := hv c c' volumeName
      rcases hy : k.getVolume c volumeName with ⟨d, source⟩
      rcases hy' : k.getVolume c' volumeName with ⟨d', source'⟩
      rw [hy, hy'] at hv
      cases hv
      cases source
      case error e => simp only [hy, hy']
      case ok source => simp only [hy, hy', h]
  all_goals simp only [Manager.volumeNameAndPath, hs]

theorem volumeNamesAndPaths_eq {vols : List Kube.Volume} {names : VolumeNames}
    (h : m'.mountPath = m.mountPath) :
    (Manager.volumeNamesAndPaths k pod m' names vols).snd =
      (Manager.volumeNamesAndPaths k pod m names vols).snd := by
  induction vols generalizing m m' names
  case nil => rfl
  case cons vol vols hi =>
    have hv := st.volumeNameAndPath_eq pod vol h
    have hk : st.Kept m (m.volumeNameAndPath k pod vol).fst := .volumeNameAndPath
    have hk' : st.Kept m' (m'.volumeNameAndPath k pod vol).fst := .volumeNameAndPath
    simp only [Manager.volumeNamesAndPaths]
    split
    case isTrue => exact hi h
    case isFalse =>
      rcases hx : m.volumeNameAndPath k pod vol with ⟨m₁, res⟩
      rcases hx' : m'.volumeNameAndPath k pod vol with ⟨m₁', res'⟩
      rw [hx] at hv hk
      rw [hx'] at hv hk'
      cases hv
      have h₁ : m₁'.mountPath = m₁.mountPath := hk'.mountPath.trans <| h.trans hk.mountPath.symm
      rcases res with e | _ | ⟨name, pair⟩
      case error => rfl
      case ok.none => exact hi h₁
      case ok.some => exact hi h₁

end NodeStore

namespace Manager

variable {st : NodeStore k r} {α : Type} {E : Option Failure → Prop} {pod : Kube.Pod} {a : Replies}
    {opts : CreateOptions} {cmd : Runtime.PodEnsureCmd}

abbrev Keeps (st : NodeStore k r) (E : Option Failure → Prop) (x : CreateM ρ α) : Prop :=
  Frames (fun s s' => st.Kept s.mgr s'.mgr) E x

section Keeps

def nodePolicy (st : NodeStore k r) (E : Option Failure → Prop) (m : Manager ρ) : Policy ρ where
  cluster c := st.node c = st.node m.cluster
  pods _ := True
  statuses _ := True
  events _ := True
  errors := E
  mountPath := m.mountPath

theorem Keeps.of_emits {x : CreateM ρ α} {Q : α → Prop} (h : ∀ m, Emits (nodePolicy st E m) Q x) :
    Keeps st E x where
  state s := by
    have hs : Emitted (nodePolicy st E s.mgr) s := ⟨rfl, rfl, fun _ _ => trivial⟩
    have hk {s' : CreateState ρ} (h : Emitted (nodePolicy st E s.mgr) s') : st.Kept s.mgr s'.mgr :=
      ⟨h.cluster, h.mountPath⟩
    cases hr : x.run s
    case mk res s' =>
      cases res
      case ok t => exact hk ((h s.mgr).ok hs hr).left
      case error e => exact hk ((h s.mgr).error hs hr).left
  error {s e s'} hr := ((h s.mgr).error ⟨rfl, rfl, fun _ _ => trivial⟩ hr).right

variable (hE : ∀ e, E (some e))

include hE

theorem nodePolicy_admits {m : Manager ρ} : (nodePolicy st E m).Admits k where
  toPreserves := st.preserves _
  podStatus _ _ := trivial
  error e _ := hE e

theorem nodePolicy_resolves {m : Manager ρ} : (nodePolicy st E m).Resolves r pod where
  resolveEnv ctr c := (st.resolveEnv pod ctr c).trans
  resolveImagePullAuthConfig c := (st.resolveImagePullAuthConfig pod c).trans
  resolveVolumeData c := (st.resolveVolumeData pod c).trans
  resolveDNSSettings c := (st.resolveDNSSettings pod c).trans
  networkRequest dnsConfig c := (st.networkRequest pod dnsConfig c).trans
  translate _ _ _ _ _ _ _ _ := hE .panic

theorem keeps_require {text : Bytes} {f : ρ → ρ × Except Bytes α} (h : ∀ c, st.node (f c).fst = st.node c) :
    Keeps st E (require text f) :=
  .of_emits fun _ => emits_require (Q := fun _ => True) (nodePolicy_admits hE) (fun c => (h c).trans)
    fun _ _ _ => trivial

theorem keeps_resolvePod : Keeps st E (resolvePod r pod) :=
  .of_emits fun _ => emits_resolvePod (I := fun _ _ => True) (nodePolicy_admits hE)
    (nodePolicy_resolves hE).toReads (fun _ _ => trivial) trivial

theorem keeps_generateOptions {resolved : Resolved} {b : Bool} {volNames : VolumeNames} :
    Keeps st E (generateOptions r pod resolved b volNames) :=
  .of_emits fun _ => emits_generateOptions (nodePolicy_admits hE) (nodePolicy_resolves hE)

end Keeps

theorem nodePolicy_creates {m : Manager ρ} : (nodePolicy st (fun _ => True) m).Creates k a opts := by
  constructor
  case init => exact fun cmd _ => by split <;> constructor <;> simp [nodePolicy]
  case work => exact fun _ => by split <;> constructor <;> simp [nodePolicy]
  all_goals simp [nodePolicy]

theorem keeps_create : Keeps st (fun _ => True) (do
    let pod ← prepareCreation k a opts pod
    let pod ← createInit k a opts pod
    let pod ← markCreating k pod.name
    createWork k a opts pod) :=
  .of_emits fun _ => emits_create (nodePolicy_admits fun _ => trivial) ⟨fun _ _ => trivial, trivial⟩
    (fun _ => nodePolicy_creates) trivial

def Adds (n n' : Kube.Node) (volNames : VolumeNames) : Prop :=
  ∀ v, v ∈ n'.volumesInUse ↔ v ∈ volNames ∨ v ∈ n.volumesInUse

variable {s s' : CreateState ρ} {volNames : VolumeNames} {t : α} {n n' : Kube.Node}

theorem run_call {f : Manager ρ → Manager ρ × List Event × α} (h : (call f).run s = (.ok t, s')) :
    s'.mgr = (f s.mgr).fst ∧ t = (f s.mgr).snd.snd := by
  cases h
  exact ⟨rfl, rfl⟩

theorem run_ask {f : ρ → ρ × α} (h : (ask f).run s = (.ok t, s')) :
    f s.mgr.cluster = (s'.mgr.cluster, t) ∧ s'.mgr.mountPath = s.mgr.mountPath := by
  cases h
  exact ⟨rfl, rfl⟩

theorem run_ofExcept {text : Bytes} {x : Except Failure α} (h : (ofExcept (ρ := ρ) text x).run s = (.ok t, s')) :
    x = .ok t ∧ s' = s := by
  cases x
  case error e => cases h
  case ok t => cases h; exact ⟨rfl, rfl⟩

theorem updateNodeStatus_node (st : NodeStore k r) {m : Manager ρ}
    (h : (m.updateNodeStatus k n).snd.snd = .ok n') :
    st.node (m.updateNodeStatus k n).fst.cluster = n ∧
    (m.updateNodeStatus k n).fst.mountPath = m.mountPath := by
  rw [updateNodeStatus] at h ⊢
  split at h
  case h_1 hu => exact ⟨st.updateNodeStatus hu, rfl⟩
  case h_2 => cases h

theorem Adds.of_addVolumesInUse
    (h : addVolumesInUse n.volumesInUse n.volumesAttached volNames = some (n'.volumesInUse, n'.volumesAttached)) :
    Adds n n' volNames :=
  fun _ => mem_addVolumesInUse h

theorem Adds.of_isEmpty {n : Kube.Node} (h : volNames.isEmpty = true) : Adds n n volNames := by
  intro v
  have hv : v ∉ volNames := by simp [ExtTreeMap.isEmpty_iff.mp h]
  simp [hv]

theorem mountVolumes_adds (st : NodeStore k r) (h : (mountVolumes k r pod volNames).run s = (.ok (), s')) :
    Adds (st.node s.mgr.cluster) (st.node s'.mgr.cluster) volNames ∧ s'.mgr.mountPath = s.mgr.mountPath := by
  obtain ⟨node, s₁, hg, h₁⟩ := run_bind_eq_ok h
  replace hg := run_ask hg
  cases node
  case none => cases h₁
  case some node =>
    obtain ⟨rfl, -⟩ := st.getNode hg.left
    cases ha : addVolumesInUse (st.node s.mgr.cluster).volumesInUse (st.node s.mgr.cluster).volumesAttached volNames
    case none => simp only [ha] at h₁; cases h₁
    case some x =>
      simp only [ha] at h₁
      obtain ⟨res, s₂, hu, h₂⟩ := run_bind_eq_ok h₁
      obtain ⟨node', s₃, ho, h₃⟩ := run_bind_eq_ok h₂
      have hs := run_call hu
      have hres := run_ofExcept ho
      -- The status which has been written stays while the volumes are mounted.
      have hk : st.Kept s₃.mgr s'.mgr := by
        cases hp : keepPVCAndInlineCSIOnly pod
        case none => simp only [hp] at h₃; cases h₃
        case some pod' =>
          simp only [hp] at h₃
          exact (keeps_require (E := fun _ => True) (fun _ => trivial) (st.prepareStorage pod' _)).of_run h₃
      obtain ⟨hn, hp⟩ := updateNodeStatus_node st (hs.right.symm.trans hres.left)
      rw [hk.node, hk.mountPath, hres.right, hs.left, hn, hp]
      exact ⟨.of_addVolumesInUse ha, hg.right⟩

theorem setupStorage_adds (st : NodeStore k r) (h : (setupStorage k r pod).run s = (.ok volNames, s')) :
    (s.mgr.getUniqueVolumeNamesAndPaths k pod).snd = .ok volNames ∧
    Adds (st.node s.mgr.cluster) (st.node s'.mgr.cluster) volNames ∧ s'.mgr.mountPath = s.mgr.mountPath := by
  obtain ⟨res, s₁, hg, h₁⟩ := run_bind_eq_ok h
  obtain ⟨volNames', s₂, ho, h₂⟩ := run_bind_eq_ok h₁
  have hs := run_call hg
  have hres := run_ofExcept ho
  have hv : (s.mgr.getUniqueVolumeNamesAndPaths k pod).snd = .ok volNames' := hs.right.symm.trans hres.left
  have hk : st.Kept s.mgr s₂.mgr := by
    rw [hres.right, hs.left]
    exact .volumeNamesAndPaths
  simp only at h₂
  split at h₂
  case isTrue =>
    obtain ⟨⟨⟩, s₃, hm, h₃⟩ := run_bind_eq_ok h₂
    cases h₃
    have hm := mountVolumes_adds st hm
    rw [hk.node, hk.mountPath] at hm
    exact ⟨hv, hm⟩
  case isFalse he =>
    cases h₂
    rw [hk.node, hk.mountPath]
    exact ⟨hv, .of_isEmpty (by simpa using he), rfl⟩

theorem resolveOptions_adds (st : NodeStore k r) (hp : s.mgr.mountPath.isSome)
    (h : (resolveOptions k r pod).run s = (.ok opts, s')) :
    ∃ volNames, (s.mgr.getUniqueVolumeNamesAndPaths k pod).snd = .ok volNames ∧
      Adds (st.node s.mgr.cluster) (st.node s'.mgr.cluster) volNames ∧
      s'.mgr.mountPath = s.mgr.mountPath := by
  obtain ⟨b, s₁, hc, h₁⟩ := run_bind_eq_ok h
  have k₁ : st.Kept s.mgr s₁.mgr := by
    cases hc
    exact .refl s.mgr
  simp only at h₁
  split at h₁
  case isTrue =>
    obtain ⟨_, _, hf, -⟩ := run_bind_eq_ok h₁
    cases hf
  case isFalse =>
    obtain ⟨_, s₂, hr, h₂⟩ := run_bind_eq_ok h₁
    have k₂ : st.Kept s.mgr s₂.mgr :=
      k₁.trans <| (keeps_resolvePod (E := fun _ => True) fun _ => trivial).of_run hr
    obtain ⟨_, s₃, hs, h₃⟩ := run_bind_eq_ok h₂
    cases hs
    rw [← k₂.mountPath] at hp
    simp only [hp, if_true] at h₃
    obtain ⟨volNames, s₄, hv, h₄⟩ := run_bind_eq_ok h₃
    have hv := setupStorage_adds st hv
    have k₄ : st.Kept s₄.mgr s'.mgr := (keeps_generateOptions (E := fun _ => True) fun _ => trivial).of_run h₄
    rw [k₄.node, k₄.mountPath, ← k₂.node, ← k₂.mountPath]
    exact ⟨volNames, (st.volumeNamesAndPaths_eq k₂.mountPath).symm.trans hv.left, hv.right⟩

abbrev Fails (x : CreateM ρ α) : Prop :=
  Frames (fun _ _ => True) (· ≠ none) x

theorem fails_resolveOptions : Fails (resolveOptions k r pod) where
  state _ := trivial
  error {s e s'} hr := by
    let P : Policy ρ := ⟨fun _ => True, fun _ => True, fun _ => True, fun _ => True, (· ≠ none), s.mgr.mountPath⟩
    have hP : P.Admits k := by
      constructor
      case toPreserves => constructor <;> simp [P]
      all_goals simp [P]
    have h : Emits P (FromResolved r pod fun _ => True) (resolveOptions k r pod) := by
      refine emits_resolveOptions (I := fun _ _ => True) hP ?resolves (fun _ => ?mounts) (fun _ _ => trivial)
        trivial
      case resolves => exact ⟨by constructor <;> simp [P], by simp [P]⟩
      case mounts => constructor <;> simp [P]
    exact (h.error ⟨trivial, rfl, fun _ _ => trivial⟩ hr).right

theorem runCreateDevicePod_adds (st : NodeStore k r) {m m' : Manager ρ} {log : List CreateEvent}
    (hp : m.mountPath.isSome) (h : runCreateDevicePod k r a m pod = (m', log, none)) :
    ∃ volNames, (m.getUniqueVolumeNamesAndPaths k pod).snd = .ok volNames ∧
      Adds (st.node m.cluster) (st.node m'.cluster) volNames ∧ m'.mountPath = m.mountPath := by
  have hc : ∃ opts s₁, (resolveOptions k r pod).run ⟨m, []⟩ = (.ok opts, s₁) ∧ st.Kept s₁.mgr m' := by
    rw [runCreateDevicePod] at h
    split at h
    case h_1 s' hx =>
      cases h
      obtain ⟨opts, s₁, ho, h₁⟩ := run_bind_eq_ok hx
      exact ⟨opts, s₁, ho, keeps_create.of_run h₁⟩
    case h_2 e s' hx =>
      cases h
      cases run_bind_eq_error hx
      case inl he => exact absurd rfl (fails_resolveOptions.error he)
      case inr h₁ =>
        obtain ⟨opts, s₁, ho, h₁⟩ := h₁
        exact ⟨opts, s₁, ho, keeps_create.of_run h₁⟩
  obtain ⟨opts, s₁, ho, hk⟩ := hc
  rw [hk.node, hk.mountPath]
  exact resolveOptions_adds st hp ho

end Manager

end Aranya.Pod
