import Aranya.Pod.Samples
import Aranya.Pod.Theorems.CreateOptions
import Aranya.Pod.Theorems.Manager

namespace Aranya.Pod

open Std (ExtTreeMap)

variable {ρ : Type} {k : Cluster ρ} {m : Manager ρ} {pod : Kube.Pod} {vol : Kube.Volume}
    {path : Bytes → Bytes → Bytes} {r r' : ρ} {names : VolumeNames} {envs : ExtTreeMap Bytes Env} {e : Failure}
    {cs : List Kube.Container} {ports : NamedPorts}

def resolveVolumes (k : Cluster ρ) : ρ → List Kube.Volume → ρ × Except Failure (List Lookup)
  | r, [] => (r, .ok [])
  | r, vol :: vols =>
    match resolveVolume k r vol with
    | (r, .error e) => (r, .error e)
    | (r, .ok l) => ((resolveVolumes k r vols).fst, (resolveVolumes k r vols).snd.map (l.toList ++ ·))

def usedVolumes (pod : Kube.Pod) (vols : List Kube.Volume) : List Kube.Volume :=
  vols.filter ((Manager.usedVolumeNames pod).contains ·.name)

theorem usedVolumes_cons (vols : List Kube.Volume) :
    usedVolumes pod (vol :: vols) =
    if (Manager.usedVolumeNames pod).contains vol.name then vol :: usedVolumes pod vols
    else usedVolumes pod vols :=
  List.filter_cons

theorem volumeNamesAndPaths_eq (vols : List Kube.Volume) (hp : m.mountPath = some path) :
    Manager.volumeNamesAndPaths k pod m names vols =
    ({ m with cluster := (resolveVolumes k m.cluster (usedVolumes pod vols)).fst },
     (resolveVolumes k m.cluster (usedVolumes pod vols)).snd.map fun ls =>
       store names (ls.map (·.entry path pod.uid))) := by
  induction vols generalizing m names
  case nil => rfl
  case cons vol vols hi =>
    rw [Manager.volumeNamesAndPaths, usedVolumes_cons]
    cases hu : (Manager.usedVolumeNames pod).contains vol.name
    case false => exact hi hp
    case true =>
      rw [volumeNameAndPath_eq, if_pos rfl, resolveVolumes]
      cases hr : resolveVolume k m.cluster vol
      case mk r x =>
        cases x
        case error e => rfl
        case ok l =>
          have hi := fun names => @hi { m with cluster := r } names hp
          cases l
          case none =>
            refine (hi names).trans ?_
            dsimp only
            cases (resolveVolumes k r (usedVolumes pod vols)).snd <;> rfl
          case some l =>
            have hs : storedAs m.mountPath pod.uid (some l) = .ok (some (l.entry path pod.uid)) := by
              simp [storedAs, hp]
            simp only [Bool.not_true, Bool.false_eq_true, if_false, Except.bind, hs]
            refine (hi _).trans ?_
            dsimp only
            cases (resolveVolumes k r (usedVolumes pod vols)).snd <;> rfl

theorem resolveVolume_cases {x : Option Lookup} (h : resolveVolume k r vol = (r', .ok x)) :
    (x = none ∧ isRemote vol = false) ∨ ∃ l, x = some l ∧ l.vol = vol ∧ isRemote vol = true := by
  rw [resolveVolume] at h
  rw [isRemote]
  cases hs : vol.source <;> simp only [hs] at h ⊢
  case csi => cases h
  case persistentVolumeClaim =>
    split at h
    case h_1 => cases h
    case h_2 =>
      split at h
      case h_1 => cases h
      case h_2 source _ =>
        cases hu : Manager.uniqueVolumeName (Manager.csiVolumeName source)
        case error e => simp [hu, Except.map] at h
        case ok name =>
          rw [hu] at h
          cases h
          exact .inr ⟨_, rfl, rfl, trivial⟩
  all_goals
    cases h
    exact .inl ⟨rfl, trivial⟩

theorem map_vol_of_resolveVolumes {vols : List Kube.Volume} {ls : List Lookup}
    (h : resolveVolumes k r vols = (r', .ok ls)) : ls.map (·.vol) = vols.filter isRemote := by
  induction vols generalizing r ls
  case nil => cases h; rfl
  case cons vol vols hi =>
    rw [resolveVolumes] at h
    split at h
    case h_1 => cases h
    case h_2 r₁ x hv =>
      obtain ⟨hr, hl⟩ := Prod.mk.inj h
      obtain ⟨ls₁, hs, rfl⟩ := Except.map_eq_ok_iff.mp hl
      have hi := hi (Prod.ext hr hs)
      obtain ⟨rfl, hn⟩ | ⟨l, rfl, rfl, hn⟩ := resolveVolume_cases hv
      case inl => simp [hi, hn]
      case inr => simp [hi, hn]

section Stored

variable {ls : List Lookup} {l : Lookup} {podUID name : Bytes} {hostPaths : ExtTreeMap Bytes Bytes}
    {vols : List Kube.Volume} {volNames : VolumeNames} {hostPaths' : ExtTreeMap Bytes Bytes} {p : Bytes}

def storedNames (path : Bytes → Bytes → Bytes) (podUID : Bytes) (ls : List Lookup) : VolumeNames :=
  store ∅ (ls.map (·.entry path podUID))

def noRemotePath (name : Bytes) : Failure :=
  .error (str "no remote path found for volume \"" ++ name ++ str "\"")

theorem remotePath_eq_ok_iff :
    remotePath true volNames name = .ok p ↔
    ∃ v, (volNames.values.filter (·.name = name)).getLast? = some v ∧ v.path = p := by
  rw [remotePath]
  cases (volNames.values.filter (·.name = name)).getLast?
  case none => simp [throw, throwThe, MonadExceptOf.throw]
  case some v => simp [pure, Except.pure]

theorem remotePath_eq_error {e : Failure} (h : remotePath true volNames name = .error e) :
    e = noRemotePath name := by
  simp only [remotePath, Bool.not_true, Bool.false_eq_true, if_false] at h
  split at h
  case h_1 => cases h
  case h_2 => cases h; rfl

theorem entry_of_mem_values (hn : (ls.map (·.vol.name)).Nodup) (hl : l ∈ ls) {v : VolumeNamePathPair}
    (hv : v ∈ (storedNames path podUID ls).values) (he : v.name = l.vol.name) :
    v = (l.entry path podUID).snd ∧ (storedNames path podUID ls)[l.uniqueName]? = some v := by
  obtain ⟨key, hk⟩ := mem_values_iff.mp hv
  obtain ⟨l', hl', h⟩ := List.mem_map.mp (mem_of_getElem?_store hk)
  cases h
  cases List.inj_on_of_nodup_map hn hl' hl he
  exact ⟨rfl, hk⟩

theorem remotePath_eq (hn : (ls.map (·.vol.name)).Nodup) (hl : l ∈ ls)
    (hp : remotePath true (storedNames path podUID ls) l.vol.name = .ok p) :
    p = path podUID l.volumeName ∧
    (storedNames path podUID ls)[l.uniqueName]? = some (l.entry path podUID).snd := by
  obtain ⟨v, hv, rfl⟩ := remotePath_eq_ok_iff.mp hp
  obtain ⟨hm, he⟩ := List.mem_filter.mp (List.mem_of_getLast? hv)
  obtain ⟨rfl, hs⟩ := entry_of_mem_values hn hl hm (by simpa using he)
  exact ⟨rfl, hs⟩

theorem exists_of_remotePath (hp : remotePath true (storedNames path podUID ls) name = .ok p) :
    ∃ l ∈ ls, l.vol.name = name := by
  obtain ⟨v, hv, rfl⟩ := remotePath_eq_ok_iff.mp hp
  obtain ⟨hm, he⟩ := List.mem_filter.mp (List.mem_of_getLast? hv)
  obtain ⟨key, hk⟩ := mem_values_iff.mp hm
  obtain ⟨l, hl, h⟩ := List.mem_map.mp (mem_of_getElem?_store hk)
  cases h
  exact ⟨l, hl, by simpa using he⟩

theorem exists_remotePath (hs : (storedNames path podUID ls)[l.uniqueName]? = some (l.entry path podUID).snd) :
    ∃ p, remotePath true (storedNames path podUID ls) l.vol.name = .ok p := by
  have hm : (l.entry path podUID).snd ∈
      (storedNames path podUID ls).values.filter (·.name = l.vol.name) :=
    List.mem_filter.mpr ⟨mem_values_iff.mpr ⟨_, hs⟩, decide_eq_true rfl⟩
  obtain ⟨v, hv⟩ := getLast?_of_mem hm
  exact ⟨_, remotePath_eq_ok_iff.mpr ⟨v, hv, rfl⟩⟩

theorem forall_remotePath_iff (path : Bytes → Bytes → Bytes) (podUID : Bytes) (hn : (ls.map (·.vol.name)).Nodup) :
    (∀ l ∈ ls, ∃ p, remotePath true (storedNames path podUID ls) l.vol.name = .ok p) ↔
    (ls.map (·.uniqueName)).Nodup := by
  constructor
  case mp =>
    intro h
    refine List.Nodup.map_on (fun l₁ h₁ l₂ h₂ he => ?_) hn.of_map
    obtain ⟨p₁, hp₁⟩ := h l₁ h₁
    obtain ⟨p₂, hp₂⟩ := h l₂ h₂
    have hs₁ := (remotePath_eq hn h₁ hp₁).right
    have hs₂ := (remotePath_eq hn h₂ hp₂).right
    rw [he, hs₂] at hs₁
    exact List.inj_on_of_nodup_map hn h₁ h₂ (congrArg VolumeNamePathPair.name (Option.some.inj hs₁)).symm
  case mpr =>
    intro hu l hl
    have hm : l.entry path podUID ∈ ls.map (·.entry path podUID) := List.mem_map_of_mem hl
    apply exists_remotePath
    exact getElem?_store_of_mem (by rw [List.map_map]; exact hu) hm

theorem addHostPath_frame {vol : Kube.Volume}
    (h : addHostPath true volNames hostPaths vol = .ok hostPaths') (hv : vol.name ≠ name) :
    hostPaths'[name]? = hostPaths[name]? := by
  obtain ⟨-, p, rfl⟩ | ⟨-, rfl⟩ := addHostPath_cases h
  case inl => simp [ExtTreeMap.getElem?_insert, hv]
  case inr => rfl

theorem foldlM_addHostPath_frame
    (h : vols.foldlM (addHostPath true volNames) hostPaths = .ok hostPaths') (hv : ∀ vol ∈ vols, vol.name ≠ name) :
    hostPaths'[name]? = hostPaths[name]? := by
  induction vols generalizing hostPaths
  case nil => cases h; rfl
  case cons vol vols hi =>
    obtain ⟨hostPaths₁, h₁, h₂⟩ := Except.bind_eq_ok_iff.mp h
    rw [hi h₂ fun vol hm => hv vol (List.mem_cons_of_mem _ hm), addHostPath_frame h₁ (hv _ List.mem_cons_self)]

theorem addHostPath_remote (hv : isRemote vol = true) :
    addHostPath true volNames hostPaths vol =
    (remotePath true volNames vol.name).map (hostPaths.insert vol.name) := by
  rw [isRemote] at hv
  rw [addHostPath]
  split at hv
  case h_1 hs => simp only [hs]; cases remotePath true volNames vol.name <;> rfl
  case h_2 hs => simp only [hs]; cases remotePath true volNames vol.name <;> rfl
  case h_3 => cases hv

theorem addHostPath_local (hv : isRemote vol = false) (volNames : VolumeNames)
    (hostPaths : ExtTreeMap Bytes Bytes) : ∃ p, addHostPath true volNames hostPaths vol = .ok p := by
  rw [isRemote] at hv
  rw [addHostPath]
  cases hs : vol.source <;> simp only [hs, Bool.true_eq_false] at hv ⊢
  all_goals exact ⟨_, rfl⟩

theorem foldlM_addHostPath_iff :
    (∃ hostPaths', vols.foldlM (addHostPath true volNames) hostPaths = .ok hostPaths') ↔
    ∀ vol ∈ vols, isRemote vol = true → ∃ p, remotePath true volNames vol.name = .ok p := by
  induction vols generalizing hostPaths
  case nil => simp [pure, Except.pure]
  case cons vol vols hi =>
    rw [List.foldlM_cons, List.forall_mem_cons]
    simp only [Except.bind_eq_ok_iff]
    cases hv : isRemote vol
    case false =>
      obtain ⟨p, hp⟩ := addHostPath_local hv volNames hostPaths
      simp [hp, hi]
    case true =>
      rw [addHostPath_remote hv]
      cases hr : remotePath true volNames vol.name
      case error e => simp [Except.map]
      case ok p => simp [Except.map, hi]

theorem getElem?_foldlM_addHostPath
    (h : vols.foldlM (addHostPath true volNames) hostPaths = .ok hostPaths') (hn : (vols.map (·.name)).Nodup)
    (hm : vol ∈ vols) (hv : isRemote vol = true) (hp : remotePath true volNames vol.name = .ok p) :
    hostPaths'[vol.name]? = some p := by
  induction vols generalizing hostPaths
  case nil => cases hm
  case cons vol' vols hi =>
    obtain ⟨hostPaths₁, h₁, h₂⟩ := Except.bind_eq_ok_iff.mp h
    rw [List.map_cons, List.nodup_cons] at hn
    cases List.mem_cons.mp hm
    case inl he =>
      subst he
      rw [addHostPath_remote hv, hp] at h₁
      cases h₁
      have hne : ∀ vol' ∈ vols, vol'.name ≠ vol.name := fun vol' hm he => hn.left (he ▸ List.mem_map_of_mem hm)
      rw [foldlM_addHostPath_frame h₂ hne, ExtTreeMap.getElem?_insert_self]
    case inr hm => exact hi h₂ hn.right hm

end Stored

theorem translateHandler_error {h : Option Kube.Handler}
    (he : translateHandler h ports = .error e) : e = .panic := by
  cases h
  case none => cases he
  case some h =>
    simp only [translateHandler] at he
    split at he
    case h_1 => cases he
    case h_2 => split at he <;> cases he
    case h_3 =>
      cases Except.bind_eq_error_iff.mp he
      case inl he =>
        rw [deref.eq_def] at he
        split at he
        case h_1 => cases he; rfl
        case h_2 => cases he
      case inr he =>
        obtain ⟨_, _, he⟩ := he
        split at he <;> cases he
    case h_4 => cases he

theorem translateProbe_error {p : Option Kube.Probe}
    (he : translateProbe p ports = .error e) : e = .panic := by
  cases p
  case none => cases he
  case some p =>
    cases Except.bind_eq_error_iff.mp he
    case inl he => exact translateHandler_error he
    case inr he => obtain ⟨_, _, he⟩ := he; cases he

theorem translateContainers_error {text : Bytes} (h : translateContainers pod envs text cs = .error e) :
    e = .panic ∨ e = .error text := by
  simp only [translateContainers, Except.bind_eq_error_iff] at h
  obtain h | ⟨specs, -, h⟩ := h
  case inl =>
    obtain ⟨ctr, -, h⟩ := Except.mapM_eq_error h
    simp only [translateContainerSpec, Except.bind_eq_error_iff] at h
    obtain h | ⟨_, -, h | ⟨_, -, h | ⟨_, -, h⟩⟩⟩ := h
    case inl => exact .inl (translateProbe_error h)
    case inr.inl => exact .inl (translateProbe_error h)
    case inr.inr.inl => exact .inl (translateHandler_error h)
    case inr.inr.inr => cases h
  case inr =>
    split at h
    case isTrue => cases h
    case isFalse => cases h; exact .inr rfl

theorem translateContainers_found {text name : Bytes}
    (ht : text.head? = some 105) : translateContainers pod envs text cs ≠ .error (noRemotePath name) := by
  intro h
  cases translateContainers_error h
  case inl he => cases he
  case inr he =>
    have hh := congrArg List.head? (Failure.error.inj he)
    rw [ht] at hh
    cases hh

section Complete

variable {ls : List Lookup} {volNames : VolumeNames}

structure PathsComplete (path : Bytes → Bytes → Bytes) (pod : Kube.Pod) (ls : List Lookup)
    (volNames : VolumeNames) : Prop where
  found : ∀ envs authConfigs volumeData dnsConfig netReqBytes name,
    translatePodCreateOptions true pod envs authConfigs volumeData volNames dnsConfig netReqBytes ≠
      .error (noRemotePath name)
  work : ∀ envs authConfigs volumeData dnsConfig netReqBytes opts,
    translatePodCreateOptions true pod envs authConfigs volumeData volNames dnsConfig netReqBytes = .ok opts →
    ∀ l ∈ ls, Mounted pod.containers l.vol.name →
      opts.workOpts.volumes.hostPaths[l.vol.name]? = some (path pod.uid l.volumeName)
  init : ∀ envs authConfigs volumeData dnsConfig netReqBytes opts,
    translatePodCreateOptions true pod envs authConfigs volumeData volNames dnsConfig netReqBytes = .ok opts →
    ∀ l ∈ ls, Mounted pod.initContainers l.vol.name →
      ∃ cmd, opts.initOpts = some cmd ∧ cmd.volumes.hostPaths[l.vol.name]? = some (path pod.uid l.volumeName)

theorem PathsComplete.of_hostPaths {hostPaths : ExtTreeMap Bytes Bytes}
    (hf : pod.volumes.foldlM (addHostPath true volNames) ∅ = .ok hostPaths)
    (hl : ∀ l ∈ ls, hostPaths[l.vol.name]? = some (path pod.uid l.volumeName)) :
    PathsComplete path pod ls volNames := by
  constructor
  case found =>
    intro envs authConfigs volumeData dnsConfig netReqBytes name h
    simp only [translatePodCreateOptions, hf, Except.bind_eq_error_iff] at h
    obtain h | ⟨_, h', h | ⟨specs, -, h | ⟨initSpecs, -, h⟩⟩⟩ := h
    case inl => cases h
    case inr.inl => exact translateContainers_found rfl h
    case inr.inr.inl => exact translateContainers_found rfl h
    case inr.inr.inr => cases h
  case work =>
    intro envs authConfigs volumeData dnsConfig netReqBytes opts h l hm hw
    obtain ⟨_, specs, initSpecs, hf', -, -, rfl⟩ := translatePodCreateOptions_eq_ok_iff.mp h
    cases hf.symm.trans hf'
    have hp := mountedBy_eq_some_iff.mpr ⟨hw, hl l hm⟩
    simp only [createOptions]
    split
    case isTrue => exact hp
    case isFalse => exact hp
  case init =>
    intro envs authConfigs volumeData dnsConfig netReqBytes opts h l hm hw
    obtain ⟨_, specs, initSpecs, hf', -, -, rfl⟩ := translatePodCreateOptions_eq_ok_iff.mp h
    cases hf.symm.trans hf'
    obtain ⟨ctr, hc, -⟩ := id hw
    exact ⟨_, if_neg (List.ne_nil_of_mem hc), mountedBy_eq_some_iff.mpr ⟨hw, hl l hm⟩⟩

theorem PathsComplete.foldlM (h : PathsComplete path pod ls volNames) :
    ∃ hostPaths, pod.volumes.foldlM (addHostPath true volNames) ∅ = .ok hostPaths := by
  cases hf : pod.volumes.foldlM (addHostPath true volNames) ∅
  case ok hostPaths => exact ⟨hostPaths, rfl⟩
  case error e =>
    obtain ⟨vol, -, paths, he⟩ := Except.foldlM_eq_error hf
    obtain ⟨name, rfl⟩ : ∃ name, e = noRemotePath name := by
      cases hv : isRemote vol
      case false =>
        obtain ⟨p, hp⟩ := addHostPath_local hv volNames paths
        cases hp.symm.trans he
      case true =>
        rw [addHostPath_remote hv] at he
        cases hr : remotePath true volNames vol.name
        case ok p => simp [hr, Except.map] at he
        case error e' =>
          rw [hr] at he
          cases he
          exact ⟨vol.name, remotePath_eq_error hr⟩
    refine absurd ?_ (h.found ∅ ∅ ∅ {} [] name)
    rw [translatePodCreateOptions, hf]
    rfl

-- This is so iff each remote volume is used by a container, and no two of them have the same unique name,
-- as two volumes for one claim have.
theorem pathsComplete_iff (hp : m.mountPath = some path) (hn : (pod.volumes.map (·.name)).Nodup)
    (hr : resolveVolumes k m.cluster (usedVolumes pod pod.volumes) = (r', .ok ls)) :
    ∃ volNames, m.getUniqueVolumeNamesAndPaths k pod = ({ m with cluster := r' }, .ok volNames) ∧
      (PathsComplete path pod ls volNames ↔
        (∀ vol ∈ pod.volumes, isRemote vol = true → vol.name ∈ Manager.usedVolumeNames pod) ∧
        (ls.map (·.uniqueName)).Nodup) := by
  have hv := map_vol_of_resolveVolumes hr
  have hm : ∀ l ∈ ls, l.vol ∈ pod.volumes ∧ isRemote l.vol = true ∧
      l.vol.name ∈ Manager.usedVolumeNames pod := by
    intro l hl
    have hl : l.vol ∈ (usedVolumes pod pod.volumes).filter isRemote := hv ▸ List.mem_map_of_mem hl
    simp only [usedVolumes, List.mem_filter] at hl
    exact ⟨hl.left.left, hl.right, by simpa using hl.left.right⟩
  have hd : (ls.map (·.vol.name)).Nodup := by
    have hs : (ls.map (·.vol)).Sublist pod.volumes := hv ▸ List.filter_sublist.trans List.filter_sublist
    have hs := (hs.map (·.name)).nodup hn
    rwa [List.map_map] at hs
  refine ⟨storedNames path pod.uid ls, ?_, ?_⟩
  case refine_1 =>
    rw [Manager.getUniqueVolumeNamesAndPaths, volumeNamesAndPaths_eq _ hp, hr]
    rfl
  case refine_2 =>
    rw [← forall_remotePath_iff path pod.uid hd]
    constructor
    case mp =>
      intro h
      have hf := foldlM_addHostPath_iff.mp h.foldlM
      refine ⟨fun vol hvol hrem => ?_, fun l hl => hf l.vol (hm l hl).left (hm l hl).right.left⟩
      obtain ⟨p, hp⟩ := hf vol hvol hrem
      obtain ⟨l, hl, he⟩ := exists_of_remotePath hp
      exact he ▸ (hm l hl).right.right
    case mpr =>
      rintro ⟨hu, hl⟩
      have hf : ∃ hostPaths, pod.volumes.foldlM (addHostPath true _) ∅ = .ok hostPaths :=
        foldlM_addHostPath_iff.mpr fun vol hvol hrem => by
        have hvol : vol ∈ (usedVolumes pod pod.volumes).filter isRemote := by
          simp only [usedVolumes, List.mem_filter]
          exact ⟨⟨hvol, by simpa using hu vol hvol hrem⟩, hrem⟩
        obtain ⟨l, hm, rfl⟩ := List.mem_map.mp (hv ▸ hvol)
        exact hl l hm
      obtain ⟨hostPaths, hf⟩ := hf
      refine .of_hostPaths hf fun l hlm => ?_
      obtain ⟨p, hp⟩ := hl l hlm
      obtain ⟨hvol, hrem, -⟩ := hm l hlm
      rw [getElem?_foldlM_addHostPath hf hn hvol hrem hp, (remotePath_eq hd hlm hp).left]

def boundClaims : Cluster Unit :=
  { Cluster.answering none with
    getClaim := fun _ name => ((), .ok name)
    getVolume := fun _ name => ((), .ok (some (str "driver", name))) }

def volumePath (podUID volumeName : Bytes) : Bytes :=
  podUID ++ str "/" ++ volumeName

def storageManager : Manager Unit :=
  { Manager.idle () with mountPath := some volumePath }

def claimsPod (claims : List (String × String)) (mounts : List String) : Kube.Pod :=
  { samplePod with
    volumes := claims.map fun c => ⟨str c.fst, .persistentVolumeClaim (str c.snd)⟩
    containers := [{ name := str "x", image := [], volumeMounts := mounts.map (⟨str ·, [], [], false⟩) }] }

theorem pathsComplete_two_claims :
    ∃ ls volNames,
      resolveVolumes boundClaims () (usedVolumes (claimsPod [("u", "a"), ("v", "b")] ["u", "v"])
        (claimsPod [("u", "a"), ("v", "b")] ["u", "v"]).volumes) = ((), .ok ls) ∧
      storageManager.getUniqueVolumeNamesAndPaths boundClaims (claimsPod [("u", "a"), ("v", "b")] ["u", "v"]) =
        (storageManager, .ok volNames) ∧
      PathsComplete volumePath (claimsPod [("u", "a"), ("v", "b")] ["u", "v"]) ls volNames := by
  have hn : ((claimsPod [("u", "a"), ("v", "b")] ["u", "v"]).volumes.map (·.name)).Nodup := by decide
  obtain ⟨volNames, hv, h⟩ := pathsComplete_iff (k := boundClaims) (m := storageManager) rfl hn rfl
  exact ⟨_, volNames, rfl, hv, h.mpr ⟨by decide, by decide⟩⟩

-- Neither a volume that no container uses is found, nor the first of two volumes for the same claim.
theorem not_pathsComplete_claims :
    (∃ volNames, storageManager.getUniqueVolumeNamesAndPaths boundClaims (claimsPod [("u", "a")] []) =
        (storageManager, .ok volNames) ∧
      translatePodCreateOptions true (claimsPod [("u", "a")] []) ∅ ∅ ∅ volNames {} [] =
        .error (noRemotePath (str "u"))) ∧
    ∃ volNames, storageManager.getUniqueVolumeNamesAndPaths boundClaims
        (claimsPod [("u", "a"), ("v", "a")] ["u", "v"]) = (storageManager, .ok volNames) ∧
      translatePodCreateOptions true (claimsPod [("u", "a"), ("v", "a")] ["u", "v"]) ∅ ∅ ∅ volNames {} [] =
        .error (noRemotePath (str "u")) :=
  ⟨⟨_, rfl, rfl⟩, _, rfl, rfl⟩

end Complete

end Aranya.Pod
