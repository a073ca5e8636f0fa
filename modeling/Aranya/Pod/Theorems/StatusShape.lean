import Aranya.Pod.Theorems.Create
import Aranya.Pod.Theorems.Handlers

namespace Aranya.Pod

open Std (ExtTreeMap)

variable {ρ : Type} {k : Cluster ρ} {r : Resolver ρ} {a : Replies} {pod p : Kube.Pod} {group g : Group}
    {old status : Kube.PodStatus}

namespace Group

def containers (pod : Kube.Pod) : Group → List Kube.Container
  | .init => pod.initContainers
  | .work => pod.containers

def statuses (status : Kube.PodStatus) : Group → List Kube.ContainerStatus
  | .init => status.initContainerStatuses
  | .work => status.containerStatuses

end Group

structure SameContainers (pod p : Kube.Pod) : Prop where
  name : p.name = pod.name
  containers : ∀ group : Group, group.containers p = group.containers pod

-- What is read is what was written last, and a write may be rejected.
structure PodStore (k : Cluster ρ) (r : Resolver ρ) (pod : Kube.Pod) where
  state : ρ → Kube.PodStatus × Kube.Node
  getPod : ∀ c, state (k.getPod c pod.name).fst = state c
  lookup : ∀ {c p}, (k.getPod c pod.name).snd = some p →
    SameContainers pod p ∧ p.status = (state c).fst
  updatePodStatus : ∀ c p, state (k.updatePodStatus c p).fst = state c ∨
    state (k.updatePodStatus c p).fst = (p.status, (state c).snd)
  getNode : ∀ c, state (k.getNode c).fst = state c
  node : ∀ {c node}, (k.getNode c).snd = some node → node = (state c).snd
  updateNodeStatus : ∀ c node, state (k.updateNodeStatus c node).fst = state c ∨
    state (k.updateNodeStatus c node).fst = ((state c).fst, node)
  getClaim : ∀ c name, state (k.getClaim c name).fst = state c
  getVolume : ∀ c name, state (k.getVolume c name).fst = state c
  resolveEnv : ∀ ctr c, state (r.resolveEnv pod ctr c).fst = state c
  resolveImagePullAuthConfig : ∀ c, state (r.resolveImagePullAuthConfig pod c).fst = state c
  resolveVolumeData : ∀ c, state (r.resolveVolumeData pod c).fst = state c
  resolveDNSSettings : ∀ c, state (r.resolveDNSSettings pod c).fst = state c
  networkRequest : ∀ dnsConfig c, state (r.networkRequest pod dnsConfig c).fst = state c
  prepareStorage : ∀ p inUse c, state (r.prepareStorage p inUse c).fst = state c

def executed (a : Replies) (pod : Kube.Pod) (group : Group) :
    ExtTreeMap Bytes (Option Runtime.ContainerStatus) :=
  (execContainers (a.host group) 0 ∅ ((group.containers pod).map hostSpec)).snd

def Reported (a : Replies) (pod : Kube.Pod) (group : Group) (name : Bytes) (s : Runtime.ContainerStatus) : Prop :=
  if (group.containers pod).any isVirtual then
    (executed a pod group)[name]? = some (some s)
  else
    ∃ replies ps, a.ensure group = .ok replies ∧ .podStatus ps ∈ replies ∧ ps.containers[name]? = some (some s)

inductive OwnStatus (a : Replies) (pod : Kube.Pod) (group : Group) : Kube.ContainerStatus → Prop
  | unknown (name : Bytes) : OwnStatus a pod group { name := name }
  | waiting (reason : Bytes) (ctr : Kube.Container) : OwnStatus a pod group (waitingStatus reason ctr)
  | reported {ctr : Kube.Container} {s : Runtime.ContainerStatus} (h : Reported a pod group ctr.name s) :
    OwnStatus a pod group (containerStatus ctr (some s))

structure GroupShaped (a : Replies) (pod : Kube.Pod) (group : Group) (statuses : List Kube.ContainerStatus) :
    Prop where
  names : statuses.map (·.name) = (group.containers pod).map (·.name)
  own : ∀ status ∈ statuses, OwnStatus a pod group status

def Shaped (a : Replies) (pod : Kube.Pod) (old status : Kube.PodStatus) : Prop :=
  ∀ group : Group, group.statuses status = group.statuses old ∨ GroupShaped a pod group (group.statuses status)

def Pulled (a : Replies) (pod : Kube.Pod) : Prop :=
  (∀ ctr ∈ pod.containers ++ pod.initContainers, isVirtual ctr) ∨ Pulls a

-- No status has an entry without a value, and an error, which is recorded for the work containers whichever
-- group it is about, fits nevertheless.
structure Replied (a : Replies) (pod : Kube.Pod) (g : Group) : Prop where
  present : ∀ {replies ps}, a.ensure g = .ok replies → Read replies (.podStatus ps) →
    Present (g.containers pod) ps
  error : ∀ {replies e}, a.ensure g = .ok replies → Read replies (.error e) →
    pod.containers.map (·.name) = (g.containers pod).map (·.name)

structure InitRegular (a : Replies) (pod : Kube.Pod) : Prop where
  length : pod.initContainers.length = pod.containers.length
  executes : pod.initContainers.any isVirtual → (a.host .init).logFiles = none →
    ∀ ctr ∈ pod.containers, ctr.name ∉ executed a pod .init
  replies : ¬pod.initContainers.any isVirtual → Replied a pod .init

def InitCompletes (a : Replies) (pod : Kube.Pod) : Prop :=
  if pod.initContainers.any isVirtual then (a.host .init).logFiles = none else Answered a .init

structure Regular (a : Replies) (m : Manager ρ) (pod : Kube.Pod) (node : Kube.Node) : Prop where
  init : pod.initContainers ≠ [] → Pulled a pod → InitRegular a pod
  work : Pulled a pod → (pod.initContainers ≠ [] → InitCompletes a pod) → ¬pod.containers.any isVirtual →
    Replied a pod .work
  handlers : ∀ ctr ∈ pod.containers ++ pod.initContainers, ∀ h ∈ startHandlers ctr, ¬ConnectsTCP h
  attached : m.mountPath.isSome → Attached node
  mounts : m.mountPath.isSome → (keepPVCAndInlineCSIOnly pod).isSome

theorem containerStatus_name (ctr : Kube.Container) (s : Option Runtime.ContainerStatus) :
    (containerStatus ctr s).name = ctr.name := by
  cases s
  case none => rfl
  case some s => rfl

theorem GroupShaped.map {f : Kube.Container → Kube.ContainerStatus} (hn : ∀ ctr, (f ctr).name = ctr.name)
    (ho : ∀ ctr ∈ g.containers pod, OwnStatus a pod g (f ctr)) :
    GroupShaped a pod g ((g.containers pod).map f) where
  names := by
    rw [List.map_map]
    exact List.map_congr_left fun ctr _ => hn ctr
  own := List.forall_mem_map.mpr ho

theorem GroupShaped.waiting {cs : List Kube.Container} {reason : Bytes}
    (h : cs.map (·.name) = (g.containers pod).map (·.name)) :
    GroupShaped a pod g (cs.map (waitingStatus reason)) where
  names := by rwa [List.map_map]
  own := List.forall_mem_map.mpr fun ctr _ => .waiting reason ctr

theorem Shaped.set (hs : Shaped a pod old p.status) (g : Group)
    (h : ∀ group : Group, group ≠ g → group.statuses status = group.statuses p.status)
    (hg : GroupShaped a pod g (g.statuses status)) : Shaped a pod old status := by
  intro group
  by_cases he : group = g
  case pos => exact .inr (he ▸ hg)
  case neg => exact h group he ▸ hs group

theorem statuses_mirrorStatus {parseCIDR : Bytes → Option IPFamily} {ps : Runtime.PodStatusMsg} {b : Bool}
    (h : mirrorStatus parseCIDR p ps b = some status) (group : Group) :
    group.statuses status = if b = (group = .init) then
      (group.containers p).map fun ctr => containerStatus ctr ps.containers[ctr.name]?.join
    else group.statuses p.status := by
  have ha (st : Kube.PodStatus) : group.statuses (mirrorAddresses parseCIDR ps st) = group.statuses st := by
    rw [mirrorAddresses]
    cases ps.network <;> cases group <;> rfl
  obtain ⟨st, hs, rfl⟩ := Option.map_eq_some_iff.mp h
  rw [ha]
  cases b <;> cases group <;>
    (obtain ⟨x, hx, rfl⟩ := Option.map_eq_some_iff.mp hs
     obtain ⟨-, hx⟩ := Option.ite_none_left_eq_some.mp hx
     cases hx
     simp [Group.statuses, Group.containers])

theorem Shaped.mirrorStatus {parseCIDR : Bytes → Option IPFamily} {ps : Runtime.PodStatusMsg}
    (hs : Shaped a pod old p.status) (hp : SameContainers pod p)
    (h : mirrorStatus parseCIDR p ps (g = .init) = some status)
    (ho : ∀ ctr ∈ g.containers pod, ∀ s, ps.containers[ctr.name]? = some (some s) →
      OwnStatus a pod g (containerStatus ctr (some s))) :
    Shaped a pod old status := by
  have hm := statuses_mirrorStatus h
  refine hs.set g (fun group hn => ?_) ?_
  case refine_1 =>
    rw [hm group, if_neg]
    cases g <;> cases group <;> simp_all
  case refine_2 =>
    rw [hm g, if_pos (by simp), hp.containers]
    refine .map (fun ctr => containerStatus_name ctr _) fun ctr hc => ?_
    rcases hl : ps.containers[ctr.name]? with _ | _ | s
    case none => exact .unknown ctr.name
    case some.none => exact .unknown ctr.name
    case some.some => exact ho ctr hc s hl

theorem mirrorStatus_ne_none {parseCIDR : Bytes → Option IPFamily} {ps : Runtime.PodStatusMsg}
    (hp : SameContainers pod p) (h : Present (g.containers pod) ps) :
    mirrorStatus parseCIDR p ps (g = .init) ≠ none := by
  rw [← Option.isSome_iff_ne_none, mirrorStatus_isSome]
  rw [← hp.containers] at h
  cases g <;> exact h

theorem Shaped.errorStatus (hs : Shaped a pod old p.status) (hp : SameContainers pod p)
    (h : pod.containers.map (·.name) = (g.containers pod).map (·.name)) : Shaped a pod old (g.errorStatus p) := by
  have hw : p.containers = pod.containers := hp.containers .work
  refine hs.set g (by cases g <;> rintro (_ | _) <;> simp [Group.errorStatus, Group.statuses]) ?_
  have hg : g.statuses (g.errorStatus p) = pod.containers.map (waitingStatus (str "ContainerErrored")) := by
    rw [← hw]
    cases g <;> rfl
  exact hg ▸ .waiting h

theorem newContainerInitializingStatus_eq (hp : SameContainers pod p)
    (h : pod.initContainers.length = pod.containers.length) : newContainerInitializingStatus p =
    some (.pending, pod.initContainers.map (waitingStatus (str "PodInitializing"))) := by
  have hi : p.initContainers = pod.initContainers := hp.containers .init
  have hw : p.containers = pod.containers := hp.containers .work
  rw [newContainerInitializingStatus, hi, hw, if_neg h.not_gt, h, Nat.sub_self, List.replicate_zero,
    List.append_nil]

namespace Manager

variable {st : PodStore k r pod} {m : Manager ρ} {opts : CreateOptions} {cmd : Runtime.PodEnsureCmd}
    {envs : ExtTreeMap Bytes Env}

def shapePolicy (st : PodStore k r pod) (a : Replies) (m : Manager ρ) : Policy ρ where
  cluster c := Shaped a pod (st.state m.cluster).fst (st.state c).fst ∧
    (m.mountPath.isSome → Attached (st.state c).snd)
  pods := SameContainers pod
  statuses := Shaped a pod (st.state m.cluster).fst
  events
    | .api (.podStatus p) => Shaped a pod (st.state m.cluster).fst p.status
    | _ => True
  errors := (· ≠ some .panic)
  mountPath := m.mountPath

theorem shapePolicy_of_eq {c c' : ρ} (h : st.state c' = st.state c) (hc : (shapePolicy st a m).cluster c) :
    (shapePolicy st a m).cluster c' := by
  simp only [shapePolicy, h]
  exact hc

theorem shapePolicy_admits : (shapePolicy st a m).Admits k where
  status hp := ⟨hp.name, hp.containers⟩
  getPod hc hp := shapePolicy_of_eq (hp.name ▸ st.getPod _) hc
  lookup hc hp hl := by
    rw [hp.name] at hl
    obtain ⟨hs, he⟩ := st.lookup hl
    exact ⟨hs, he ▸ hc.left⟩
  updatePodStatus hc _ hs := by
    cases st.updatePodStatus _ _
    case inl h => exact shapePolicy_of_eq h hc
    case inr h => exact ⟨h ▸ hs, h ▸ hc.right⟩
  getClaim name hc := shapePolicy_of_eq (st.getClaim _ name) hc
  getVolume name hc := shapePolicy_of_eq (st.getVolume _ name) hc
  podStatus _ hs := hs
  error e he h := he (Option.some.inj h)

theorem shapePolicy_resolves (hr : Regular a m pod (st.state m.cluster).snd) :
    (shapePolicy st a m).Resolves r pod where
  resolveEnv ctr c := shapePolicy_of_eq (st.resolveEnv ctr c)
  resolveImagePullAuthConfig c := shapePolicy_of_eq (st.resolveImagePullAuthConfig c)
  resolveVolumeData c := shapePolicy_of_eq (st.resolveVolumeData c)
  resolveDNSSettings c := shapePolicy_of_eq (st.resolveDNSSettings c)
  networkRequest dnsConfig c := shapePolicy_of_eq (st.networkRequest dnsConfig c)
  translate _ _ _ _ _ _ _ hp := by
    obtain ⟨ctr, hc, h, hm, ht⟩ := translatePodCreateOptions_panic hp
    exact (hr.handlers ctr hc h hm ht).elim

theorem shapePolicy_mounts (hr : Regular a m pod (st.state m.cluster).snd) (hm : m.mountPath.isSome) :
    (shapePolicy st a m).Mounts k r pod where
  nodeStatus _ := trivial
  getNode c := shapePolicy_of_eq (st.getNode c)
  updateNodeStatus hc ha := by
    cases st.updateNodeStatus _ _
    case inl h => exact shapePolicy_of_eq h hc
    case inr h => exact ⟨h ▸ hc.left, fun _ => h ▸ ha⟩
  prepareStorage p inUse c := shapePolicy_of_eq (st.prepareStorage p inUse c)
  attached hc hn ha := (ha (st.node hn ▸ hc.right hm)).elim
  mounts h := by simpa [h] using hr.mounts hm

theorem shapePolicy_prepares : (shapePolicy st a m).Prepares opts where
  creating hp hs := hs.set .work (fun group hn => by cases group; rfl; exact absurd rfl hn) <|
    .waiting (congrArg _ (hp.containers .work))
  pull := trivial

theorem containers_of_hostExec (group : Group)
    {commands : List (List Bytes)} {ps : Runtime.PodStatusMsg}
    (hg : GroupOf pod envs (group.containers pod) cmd.containers)
    (h : handleContainerAsHostExec (a.host group) cmd = .ok (commands, ps)) :
    (a.host group).logFiles = none ∧ ps.containers = executed a pod group := by
  have hc := handleContainerAsHostExec_containers h
  rw [handleContainerAsHostExec] at h
  split at h
  case isTrue => cases h
  case isFalse =>
    split at h
    case h_1 => cases h
    case h_2 hl => exact ⟨hl, by rw [hc, executed, ← hg.commandOf_eq, execContainers_commandOf]⟩

theorem shapePolicy_executes
    (h : ∀ {commands ps}, handleContainerAsHostExec (a.host group) cmd = .ok (commands, ps) →
      ∀ ctr ∈ pod.containers, ∀ s, ps.containers[ctr.name]? = some (some s) →
        OwnStatus a pod .work (containerStatus ctr (some s))) :
    (shapePolicy st a m).Executes k a group cmd where
  executed _ := ⟨trivial, trivial⟩
  mirror hh hp hs hm := hs.mirrorStatus (g := .work) hp hm (h hh)
  aborted := by simp [shapePolicy]

theorem shapePolicy_ensures (hv : ¬(g.containers pod).any isVirtual) (hr : Replied a pod g) :
    (shapePolicy st a m).Ensures k a g cmd where
  ensure := trivial
  received _ _ := trivial
  mirror h hm hp hs hmir := hs.mirrorStatus hp hmir fun _ _ _ hl =>
    .reported (if_neg hv |>.mpr ⟨_, _, h, hm.mem, hl⟩)
  panic h hm hp hn := (mirrorStatus_ne_none hp (hr.present h hm) hn).elim
  error h hm hp hs := hs.errorStatus hp (hr.error h hm)

theorem pulled_of_images {hostPaths : ExtTreeMap Bytes Bytes} {volumeData : ExtTreeMap Bytes Runtime.NamedData}
    {authConfigs : ExtTreeMap Bytes Runtime.ImageAuthConfig} {dnsConfig : PodDNSConfig} {netReqBytes : Bytes}
    {specs initSpecs : List Runtime.ContainerSpec}
    (ho : opts = createOptions pod authConfigs volumeData dnsConfig netReqBytes hostPaths specs initSpecs)
    (h : opts.images.isEmpty ∨ Pulls a) : Pulled a pod := by
  refine h.imp_left fun he ctr hc => ?_
  by_contra hv
  have hv : ctr.image ≠ virtualImageNameHostExec := by simpa [isVirtual] using hv
  have hm : ctr.image ∈ opts.images :=
    ho ▸ mem_store.mpr (.inr ⟨_, mem_imagesToPull_iff.mpr ⟨hv, ctr, hc, rfl, rfl⟩⟩)
  rw [ExtTreeMap.isEmpty_iff.mp he] at hm
  simp at hm

theorem shapePolicy_creates (hr : Regular a m pod (st.state m.cluster).snd)
    (ho : FromResolved r pod (fun _ => True) opts) (hp : opts.images.isEmpty ∨ Pulls a) :
    (shapePolicy st a m).Creates k a opts := by
  obtain ⟨envs, authConfigs, _, _, _, volumeData, _, dnsConfig, netReqBytes, ht⟩ := ho
  obtain ⟨hostPaths, specs, initSpecs, _, hc, hi, rfl⟩ := translatePodCreateOptions_eq_ok_iff.mp ht
  have hp := pulled_of_images rfl hp
  constructor
  case initializing =>
    intro p statuses hn hs hsh h
    have hI := hr.init (by simpa [createOptions] using hn) hp
    cases (newContainerInitializingStatus_eq hs hI.length).symm.trans h
    exact hsh.set .init (fun group hn => by cases group; exact absurd rfl hn; rfl) <| .waiting rfl
  case panic =>
    intro p hn hs h
    have hI := hr.init (by simpa [createOptions] using hn) hp
    cases (newContainerInitializingStatus_eq hs hI.length).symm.trans h
  case init =>
    intro cmd h
    obtain ⟨hn, h⟩ := Option.ite_none_left_eq_some.mp h
    cases h
    have hI := hr.init hn hp
    show if pod.initContainers.any isVirtual then _ else _
    split
    case isTrue hv =>
      refine shapePolicy_executes fun h ctr hc s hs => ?_
      obtain ⟨hl, he⟩ := containers_of_hostExec .init hi h
      exact (hI.executes hv hl ctr hc (ExtTreeMap.mem_iff_isSome_getElem?.mpr (by simp [← he, hs]))).elim
    case isFalse hv => exact shapePolicy_ensures (g := .init) hv (hI.replies hv)
  case work =>
    intro hd
    show if pod.containers.any isVirtual then _ else _
    split
    case isTrue hv =>
      refine shapePolicy_executes fun h ctr _ s hl => .reported ?_
      have hg : GroupOf pod envs pod.containers (createOptions pod authConfigs volumeData dnsConfig netReqBytes
          hostPaths specs initSpecs).workOpts.containers := by
        simp only [createOptions]
        split <;> exact hc
      rw [(containers_of_hostExec .work hg h).right] at hl
      exact if_pos hv |>.mpr hl
    case isFalse hv =>
      refine shapePolicy_ensures (g := .work) hv (hr.work hp (fun hn => ?_) hv)
      have hd : if pod.initContainers.any isVirtual then _ else _ := hd _ (if_neg hn)
      rw [InitCompletes]
      split at hd
      case isTrue hv =>
        obtain ⟨result, hx⟩ := hd
        rw [if_pos hv]
        exact (containers_of_hostExec .init hi hx).left
      case isFalse hv => rwa [if_neg hv]

def storedCluster (pod : Kube.Pod) : Cluster Kube.PodStatus :=
  { Cluster.answering none with
    getPod := fun c _ => (c, some { pod with status := c })
    updatePodStatus := fun _ p => (p.status, none) }

def storedPod (pod : Kube.Pod) : PodStore (storedCluster pod) .answering pod where
  state c := (c, ⟨[], []⟩)
  getPod _ := rfl
  lookup h := by cases h; exact ⟨⟨rfl, fun group => by cases group <;> rfl⟩, rfl⟩
  updatePodStatus _ _ := .inr rfl
  getNode _ := rfl
  node h := by cases h
  updateNodeStatus _ _ := .inl rfl
  getClaim _ _ := rfl
  getVolume _ _ := rfl
  resolveEnv _ _ := rfl
  resolveImagePullAuthConfig _ := rfl
  resolveVolumeData _ := rfl
  resolveDNSSettings _ := rfl
  networkRequest _ _ := rfl
  prepareStorage _ _ _ := rfl

def storedManager : Manager Kube.PodStatus :=
  .idle .empty

def crowded : Kube.Pod :=
  { migrated with initContainers := [plainContainer [1] [1], plainContainer [3] [3]] }

def sparse : Kube.Pod :=
  { migrated with containers := [plainContainer [2] [2], plainContainer [3] [3]] }

def paired : Kube.Pod :=
  { crowded with containers := [plainContainer [2] [2], plainContainer [4] [4]] }

def pairedReplies : Replies :=
  migrationReplies [.podStatus migrationSucceeded]

def shadowing : Kube.Pod :=
  { migrated with initContainers := [plainContainer [2] virtualImageNameHostExec] }

def unsetStatus : Runtime.PodStatusMsg :=
  { migrationSucceeded with containers := (∅ : ExtTreeMap Bytes (Option Runtime.ContainerStatus)).insert [1] none }

end Manager
end Aranya.Pod
