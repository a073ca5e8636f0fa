import Aranya.Lib.Except
import Aranya.Pod.Translate

namespace Aranya.Pod

open Std (ExtTreeMap)

variable {storageEnabled : Bool} {pod : Kube.Pod} {envs : ExtTreeMap Bytes Env}
    {authConfigs : ExtTreeMap Bytes Runtime.ImageAuthConfig} {volumeData : ExtTreeMap Bytes Runtime.NamedData}
    {volNames : VolumeNames} {dnsConfig : PodDNSConfig} {netReqBytes text : Bytes} {opts : CreateOptions}
    {ctr : Kube.Container} {containers : List Kube.Container} {spec : Runtime.ContainerSpec}
    {specs : List Runtime.ContainerSpec} {name image : Bytes} {hostPaths hostPaths' : ExtTreeMap Bytes Bytes}

structure SpecOf (pod : Kube.Pod) (envs : ExtTreeMap Bytes Env) (ctr : Kube.Container)
    (spec : Runtime.ContainerSpec) : Prop where
  name : spec.name = ctr.name
  image : spec.image = ctr.image
  command : spec.command = ctr.command
  args : spec.args = ctr.args
  workingDir : spec.workingDir = ctr.workingDir
  stdin : spec.stdin = ctr.stdin
  tty : spec.tty = ctr.tty
  envs : spec.envs = envs[ctr.name]?.getD ∅
  mounts : spec.mounts = store ∅ (ctr.volumeMounts.map fun volMount =>
    (volMount.name, translateVolumeMount pod.volumes volMount))
  readinessCheck : translateProbe ctr.readinessProbe (getNamedContainerPorts ctr) = .ok spec.readinessCheck
  livenessCheck : translateProbe ctr.livenessProbe (getNamedContainerPorts ctr) = .ok spec.livenessCheck
  security : spec.security = translateContainerSecOpts pod.securityContext ctr.securityContext
  hookPostStart : translateHandler (ctr.lifecycle.bind (·.postStart)) (getNamedContainerPorts ctr) =
    .ok spec.hookPostStart

theorem translateContainerSpec_eq_ok_iff :
    translateContainerSpec pod envs ctr = .ok spec ↔ SpecOf pod envs ctr spec := by
  simp only [translateContainerSpec, Except.bind_eq_ok_iff]
  constructor
  case mp =>
    rintro ⟨readinessCheck, hr, livenessCheck, hl, hookPostStart, hp, hs⟩
    cases hs
    exact { name := rfl, image := rfl, command := rfl, args := rfl, workingDir := rfl, stdin := rfl,
            tty := rfl, envs := rfl, mounts := rfl, readinessCheck := hr, livenessCheck := hl,
            security := rfl, hookPostStart := hp }
  case mpr =>
    intro h
    cases spec
    obtain ⟨rfl, rfl, rfl, rfl, rfl, rfl, rfl, rfl, rfl, hr, hl, rfl, hp⟩ := h
    exact ⟨_, hr, _, hl, _, hp, rfl⟩

def Mixed (containers : List Kube.Container) : Prop :=
  (∃ ctr ∈ containers, ctr.image = virtualImageNameHostExec) ∧
  ∃ ctr ∈ containers, ctr.image ≠ virtualImageNameHostExec

theorem validImages_iff : validImages containers = true ↔ ¬Mixed containers := by
  simp only [validImages, List.countP_eq_zero, List.countP_eq_length, isVirtual, decide_eq_true_eq, Mixed,
    not_and_or, not_exists, not_not, ← imp_iff_not_or]

structure GroupOf (pod : Kube.Pod) (envs : ExtTreeMap Bytes Env) (containers : List Kube.Container)
    (specs : List Runtime.ContainerSpec) : Prop where
  specs : List.Forall₂ (SpecOf pod envs) containers specs
  valid : ¬Mixed containers

theorem translateContainers_eq_ok_iff :
    translateContainers pod envs text containers = .ok specs ↔ GroupOf pod envs containers specs := by
  simp only [translateContainers, Except.bind_eq_ok_iff, Except.mapM_eq_ok_iff,
    translateContainerSpec_eq_ok_iff]
  constructor
  case mp =>
    rintro ⟨specs', hs, h⟩
    split at h
    case isTrue hv => cases h; exact ⟨hs, validImages_iff.mp hv⟩
    case isFalse hv => cases h
  case mpr =>
    intro h
    exact ⟨specs, h.specs, if_pos (validImages_iff.mpr h.valid)⟩

def OnHost (vol : Kube.Volume) : Bool :=
  match vol.source with
  | .hostPath _ | .emptyDir | .persistentVolumeClaim _ _ | .csi _ => true
  | .configMap _ _ | .secret _ _ | .other => false

theorem addHostPath_cases {vol : Kube.Volume}
    (h : addHostPath storageEnabled volNames hostPaths vol = .ok hostPaths') :
    OnHost vol ∧ (∃ path, hostPaths' = hostPaths.insert vol.name path) ∨
    ¬OnHost vol ∧ hostPaths' = hostPaths := by
  rw [addHostPath] at h
  rw [OnHost]
  cases hs : vol.source <;> simp only [hs] at h
  case hostPath | emptyDir => cases h; exact .inl ⟨rfl, _, rfl⟩
  case configMap | secret | other => cases h; exact .inr ⟨nofun, rfl⟩
  case persistentVolumeClaim | csi =>
    obtain ⟨path, _, h⟩ := Except.bind_eq_ok_iff.mp h
    cases h
    exact .inl ⟨rfl, path, rfl⟩

theorem mem_of_foldlM_addHostPath {vols : List Kube.Volume}
    (h : vols.foldlM (addHostPath storageEnabled volNames) hostPaths = .ok hostPaths') :
    name ∈ hostPaths' ↔ name ∈ hostPaths ∨ ∃ vol ∈ vols, vol.name = name ∧ OnHost vol := by
  induction vols generalizing hostPaths
  case nil =>
    cases h
    simp
  case cons vol vols hi =>
    obtain ⟨hostPaths₁, h₁, h₂⟩ := Except.bind_eq_ok_iff.mp h
    rw [hi h₂]
    rcases addHostPath_cases h₁ with ⟨hv, path, rfl⟩ | ⟨hv, rfl⟩
    case inl => simp [ExtTreeMap.mem_insert, hv, or_assoc, or_comm (a := name ∈ hostPaths)]
    case inr => simp [hv]

def Mounted (containers : List Kube.Container) (name : Bytes) : Prop :=
  ∃ ctr ∈ containers, ∃ vol ∈ ctr.volumeMounts, vol.name = name

theorem mountedBy_eq_some_iff {α : Type} {volumes : ExtTreeMap Bytes α} {a : α} :
    (mountedBy containers volumes)[name]? = some a ↔ Mounted containers name ∧ volumes[name]? = some a := by
  have he (a : α) : (name, a) ∈ (containers.flatMap (·.volumeMounts) |>.filterMap fun vol =>
      volumes[vol.name]?.map fun a => (vol.name, a)) ↔
      Mounted containers name ∧ volumes[name]? = some a := by
    simp only [List.mem_filterMap, List.mem_flatMap, Option.map_eq_some_iff, Mounted]
    grind
  constructor
  case mp => exact fun h => (he a).mp (mem_of_getElem?_store h)
  case mpr =>
    intro h
    have hm : name ∈ mountedBy containers volumes := mem_store.mpr (.inr ⟨a, (he a).mpr h⟩)
    obtain ⟨a', ha⟩ := Option.isSome_iff_exists.mp (ExtTreeMap.mem_iff_isSome_getElem?.mp hm)
    have hv : volumes[name]? = some a' := ((he a').mp (mem_of_getElem?_store ha)).right
    rw [ha, ← hv, h.right]

theorem translatePodCreateOptions_eq_ok_iff :
    translatePodCreateOptions storageEnabled pod envs authConfigs volumeData volNames dnsConfig netReqBytes =
      .ok opts ↔
    ∃ hostPaths containers initContainers,
      pod.volumes.foldlM (addHostPath storageEnabled volNames) ∅ = .ok hostPaths ∧
      GroupOf pod envs pod.containers containers ∧ GroupOf pod envs pod.initContainers initContainers ∧
      opts = createOptions pod authConfigs volumeData dnsConfig netReqBytes hostPaths containers
        initContainers := by
  simp only [translatePodCreateOptions, Except.bind_eq_ok_iff, translateContainers_eq_ok_iff]
  constructor
  case mp =>
    rintro ⟨hostPaths, hh, containers, hc, initContainers, hi, h⟩
    cases h
    exact ⟨hostPaths, containers, initContainers, hh, hc, hi, rfl⟩
  case mpr =>
    rintro ⟨hostPaths, containers, initContainers, hh, hc, hi, rfl⟩
    exact ⟨hostPaths, hh, containers, hc, initContainers, hi, rfl⟩

structure GroupExact (pod : Kube.Pod) (envs : ExtTreeMap Bytes Env)
    (volumeData : ExtTreeMap Bytes Runtime.NamedData) (containers : List Kube.Container)
    (cmd : Runtime.PodEnsureCmd) : Prop where
  specs : List.Forall₂ (SpecOf pod envs) containers cmd.containers
  hostPaths : ∀ name, name ∈ cmd.volumes.hostPaths ↔
    Mounted containers name ∧ ∃ vol ∈ pod.volumes, vol.name = name ∧ OnHost vol
  volumeData : ∀ name data, cmd.volumes.volumeData[name]? = some data ↔
    Mounted containers name ∧ volumeData[name]? = some data

def HostExec (containers : List Kube.Container) : Prop :=
  containers ≠ [] ∧ ∀ ctr ∈ containers, ctr.image = virtualImageNameHostExec

structure OptionsExact (pod : Kube.Pod) (envs : ExtTreeMap Bytes Env)
    (volumeData : ExtTreeMap Bytes Runtime.NamedData) (opts : CreateOptions) : Prop where
  images : ∀ image, image ∈ opts.images ↔
    image ≠ virtualImageNameHostExec ∧ ∃ ctr ∈ pod.initContainers ++ pod.containers, ctr.image = image
  initOpts : opts.initOpts.isSome ↔ pod.initContainers ≠ []
  init : ∀ cmd, opts.initOpts = some cmd → GroupExact pod envs volumeData pod.initContainers cmd
  work : GroupExact pod envs volumeData pod.containers opts.workOpts
  initHostExec : opts.initHostExec ↔ HostExec pod.initContainers
  workHostExec : opts.workHostExec ↔ HostExec pod.containers

theorem GroupOf.exact {cmd : Runtime.PodEnsureCmd}
    (h : GroupOf pod envs containers specs)
    (hh : pod.volumes.foldlM (addHostPath storageEnabled volNames) ∅ = .ok hostPaths)
    (hs : cmd.containers = specs) (hp : cmd.volumes.hostPaths = mountedBy containers hostPaths)
    (hd : cmd.volumes.volumeData = mountedBy containers volumeData) :
    GroupExact pod envs volumeData containers cmd where
  specs := hs ▸ h.specs
  hostPaths name := by
    rw [hp, ExtTreeMap.mem_iff_isSome_getElem?, Option.isSome_iff_exists]
    simp only [mountedBy_eq_some_iff, exists_and_left]
    rw [← Option.isSome_iff_exists, ← ExtTreeMap.mem_iff_isSome_getElem?, mem_of_foldlM_addHostPath hh]
    simp
  volumeData name data := by
    rw [hd, mountedBy_eq_some_iff]

theorem any_isVirtual_iff (h : ¬Mixed containers) : containers.any isVirtual ↔ HostExec containers := by
  simp only [List.any_eq_true, isVirtual, decide_eq_true_eq, HostExec]
  constructor
  case mp =>
    rintro ⟨ctr, hc, hv⟩
    refine ⟨List.ne_nil_of_mem hc, fun ctr' hc' => ?_⟩
    by_contra hn
    exact h ⟨⟨ctr, hc, hv⟩, ctr', hc', hn⟩
  case mpr =>
    rintro ⟨hn, hv⟩
    obtain ⟨ctr, hc⟩ := List.exists_mem_of_ne_nil containers hn
    exact ⟨ctr, hc, hv ctr hc⟩

theorem mem_imagesToPull_iff {pull : Runtime.ImagePullSpec} :
    (image, pull) ∈ imagesToPull authConfigs containers ↔
    image ≠ virtualImageNameHostExec ∧ ∃ ctr ∈ containers, ctr.image = image ∧
      pull = ⟨authConfigs[image]?, translateImagePullPolicy ctr.imagePullPolicy⟩ := by
  simp only [imagesToPull, List.mem_map, List.mem_filter, isVirtual, Prod.mk.injEq]
  constructor
  case mp =>
    rintro ⟨ctr, ⟨hc, hv⟩, rfl, rfl⟩
    exact ⟨by simpa using hv, ctr, hc, rfl, rfl⟩
  case mpr =>
    rintro ⟨hv, ctr, hc, rfl, rfl⟩
    exact ⟨ctr, ⟨hc, by simpa using hv⟩, rfl, rfl⟩

theorem OptionsExact.of_groups {initSpecs : List Runtime.ContainerSpec}
    (hh : pod.volumes.foldlM (addHostPath storageEnabled volNames) ∅ = .ok hostPaths)
    (hc : GroupOf pod envs pod.containers specs) (hi : GroupOf pod envs pod.initContainers initSpecs) :
    OptionsExact pod envs volumeData
      (createOptions pod authConfigs volumeData dnsConfig netReqBytes hostPaths specs initSpecs) where
  images image := by
    simp only [createOptions, mem_store, mem_imagesToPull_iff, ExtTreeMap.not_mem_empty, false_or]
    grind
  initOpts := by
    simp [createOptions]
  init cmd h := by
    obtain ⟨_, h⟩ := Option.ite_none_left_eq_some.mp h
    cases h
    exact hi.exact hh rfl rfl rfl
  work := by
    simp only [createOptions]
    split
    case isTrue => exact hc.exact hh rfl rfl rfl
    case isFalse => exact hc.exact hh rfl rfl rfl
  initHostExec := any_isVirtual_iff hi.valid
  workHostExec := any_isVirtual_iff hc.valid

-- There are none if a group mixes virtual and real images.
theorem create_options_exact (storageEnabled : Bool) (pod : Kube.Pod) (envs : ExtTreeMap Bytes Env)
    (authConfigs : ExtTreeMap Bytes Runtime.ImageAuthConfig)
    (volumeData : ExtTreeMap Bytes Runtime.NamedData) (volNames : VolumeNames)
    (dnsConfig : PodDNSConfig) (netReqBytes : Bytes) :
    (∀ opts, translatePodCreateOptions storageEnabled pod envs authConfigs volumeData volNames dnsConfig
      netReqBytes = .ok opts → OptionsExact pod envs volumeData opts) ∧
    (Mixed pod.containers ∨ Mixed pod.initContainers → ∃ e, translatePodCreateOptions storageEnabled pod envs
      authConfigs volumeData volNames dnsConfig netReqBytes = .error e) := by
  constructor
  case left =>
    intro opts h
    obtain ⟨_, _, _, hh, hc, hi, rfl⟩ := translatePodCreateOptions_eq_ok_iff.mp h
    exact .of_groups hh hc hi
  case right =>
    intro hm
    cases h : translatePodCreateOptions storageEnabled pod envs authConfigs volumeData volNames dnsConfig
      netReqBytes
    case error e => exact ⟨e, rfl⟩
    case ok opts =>
      obtain ⟨_, _, _, _, hc, hi, _⟩ := translatePodCreateOptions_eq_ok_iff.mp h
      exact (hm.elim hc.valid hi.valid).elim

end Aranya.Pod
