import Aranya.Lib.Frame
import Aranya.Pod.Create
import Aranya.Pod.Theorems.CreateOptions
import Aranya.Pod.Theorems.HostExec
import Aranya.Pod.Theorems.Manager

namespace Aranya.Pod

open Std (ExtTreeMap)

-- What is allowed while a pod is created.
structure Policy (ρ : Type) where
  cluster : ρ → Prop
  pods : Kube.Pod → Prop
  statuses : Kube.PodStatus → Prop
  events : CreateEvent → Prop
  errors : Option Failure → Prop
  mountPath : Option ((podUID : Bytes) → (volumeName : Bytes) → Bytes)

variable {ρ : Type} {α : Type} {P : Policy ρ} {k : Cluster ρ} {r : Resolver ρ} {a : Replies} {pod : Kube.Pod}
    {Q : α → Prop} {text : Bytes}

structure Emitted (P : Policy ρ) (s : CreateState ρ) : Prop where
  cluster : P.cluster s.mgr.cluster
  mountPath : s.mgr.mountPath = P.mountPath
  events : ∀ e ∈ s.log, P.events e

abbrev Emits (P : Policy ρ) (Q : α → Prop) (x : CreateM ρ α) : Prop :=
  Maintains (Emitted P) Q P.errors x

abbrev Manager.Follows (P : Policy ρ) (Q : α → Prop) (m : Manager ρ) (result : Manager ρ × List Event × α) : Prop :=
  m.Calls P.cluster (P.events <| .api ·) Q result

theorem Emitted.record {s : CreateState ρ} {e : CreateEvent} (h : Emitted P s) (he : P.events e) :
    Emitted P { s with log := s.log ++ [e] } where
  cluster := h.cluster
  mountPath := h.mountPath
  events e' hm := by
    cases List.mem_append.mp hm
    case inl hm => exact h.events e' hm
    case inr hm => exact List.mem_singleton.mp hm ▸ he

theorem Emitted.calls {s : CreateState ρ} {result : Manager ρ × List Event × α} (h : Emitted P s)
    (hc : s.mgr.Follows P Q result) :
    Emitted P { mgr := result.fst, log := s.log ++ result.snd.fst.map .api } where
  cluster := hc.cluster
  mountPath := hc.mountPath.trans h.mountPath
  events e hm := by
    cases List.mem_append.mp hm
    case inl hm => exact h.events e hm
    case inr hm =>
      obtain ⟨e, he, rfl⟩ := List.mem_map.mp hm
      exact hc.events e he

structure Policy.Admits (P : Policy ρ) (k : Cluster ρ) : Prop
    extends k.Preserves P.cluster P.pods P.statuses where
  podStatus : ∀ {p}, P.pods p → P.statuses p.status → P.events (.api (.podStatus p))
  error : ∀ e, e ≠ .panic → P.errors (some e)

namespace Manager

theorem emits_record {e : CreateEvent} (h : P.events e) : Emits P (fun _ => True) (record (ρ := ρ) e) :=
  .modifyGet fun _ hs => ⟨hs.record h, trivial⟩

theorem emits_call {f : Manager ρ → Manager ρ × List Event × α}
    (h : ∀ m : Manager ρ, P.cluster m.cluster → m.mountPath = P.mountPath → m.Follows P Q (f m)) :
    Emits P Q (call f) := by
  refine .modifyGet fun s hs => ?_
  have hc := h s.mgr hs.cluster hs.mountPath
  exact ⟨hs.calls hc, hc.result⟩

theorem emits_ask {f : ρ → ρ × α} (h : ∀ c, P.cluster c → P.cluster (f c).fst ∧ Q (f c).snd) :
    Emits P Q (ask f) :=
  emits_call fun m hc _ => ⟨(h m.cluster hc).left, rfl, by simp, (h m.cluster hc).right⟩

section Admits

variable (hP : P.Admits k)

include hP

theorem emits_error {e : Bytes} : Emits P Q (fail (ρ := ρ) (.error e)) :=
  .throw (hP.error _ (by simp))

theorem emits_require {f : ρ → ρ × Except Bytes α} (hc : ∀ c, P.cluster c → P.cluster (f c).fst)
    (h : ∀ c t, (f c).snd = .ok t → Q t) : Emits P Q (require text f) := by
  have ha : Emits P (fun res => ∀ t, res = .ok t → Q t) (ask f) := emits_ask fun c hi => ⟨hc c hi, h c⟩
  refine .bind ha fun res hr => ?_
  cases res
  case ok t => exact .pure (hr t rfl)
  case error e => exact emits_error hP

theorem emits_ofExcept {x : Except Failure α} (hp : x = .error .panic → P.errors (some .panic))
    (h : ∀ t, x = .ok t → Q t) : Emits P Q (ofExcept (ρ := ρ) text x) := by
  cases x
  case ok t => exact .pure (h t rfl)
  case error e =>
    by_cases he : e = .panic
    case pos => subst he; exact .throw (hp rfl)
    case neg => exact .throw (hP.error _ (wrap_ne_panic he))

theorem emits_getPod (hn : P.pods pod) :
    Emits P (fun p => ∀ p', p = some p' → P.pods p' ∧ P.statuses p'.status)
      (call fun m => let (m, p) := m.getPod k pod.name; (m, [], p)) :=
  emits_call fun _ hc _ => getPod_calls hP.toPreserves hc hn

theorem emits_mark {status : Kube.Pod → Option Kube.PodStatus} (hn : P.pods pod)
    (hs : ∀ p, P.pods p → P.statuses p.status → ∀ st, status p = some st → P.statuses st)
    (hp : ∀ p, P.pods p → status p = none → P.errors (some .panic)) :
    Emits P (fun p => P.pods p ∧ P.statuses p.status) (mark k pod.name status) := by
  refine .bind (emits_getPod hP hn) fun latestPod hl => ?_
  cases latestPod
  case none => exact emits_error hP
  case some p =>
    obtain ⟨hn, hs'⟩ := hl p rfl
    cases hst : status p
    case none => simp only [hst]; exact .throw (hp p hn hst)
    case some st =>
      simp only [hst]
      refine .bind (emits_call fun _ hc _ => updatePodStatus_calls hP.toPreserves hP.podStatus hc
        (hP.status hn) (hs p hn hs' st hst)) fun res hr => ?_
      exact emits_ofExcept hP (fun he => (hr.right he).elim) hr.left

end Admits
end Manager

structure Policy.Reads (P : Policy ρ) (r : Resolver ρ) (pod : Kube.Pod) : Prop where
  resolveEnv : ∀ ctr c, P.cluster c → P.cluster (r.resolveEnv pod ctr c).fst
  resolveImagePullAuthConfig : ∀ c, P.cluster c → P.cluster (r.resolveImagePullAuthConfig pod c).fst
  resolveVolumeData : ∀ c, P.cluster c → P.cluster (r.resolveVolumeData pod c).fst
  resolveDNSSettings : ∀ c, P.cluster c → P.cluster (r.resolveDNSSettings pod c).fst
  networkRequest : ∀ dnsConfig c, P.cluster c → P.cluster (r.networkRequest pod dnsConfig c).fst

structure Policy.Resolves (P : Policy ρ) (r : Resolver ρ) (pod : Kube.Pod) : Prop extends P.Reads r pod where
  translate : ∀ storageEnabled envs authConfigs volumeData volNames dnsConfig netReqBytes,
    translatePodCreateOptions storageEnabled pod envs authConfigs volumeData volNames dnsConfig netReqBytes =
      .error .panic → P.errors (some .panic)

def Attached (node : Kube.Node) : Prop :=
  node.volumesInUse.length ≤ node.volumesAttached.length

structure Policy.Mounts (P : Policy ρ) (k : Cluster ρ) (r : Resolver ρ) (pod : Kube.Pod) : Prop where
  nodeStatus : ∀ node, P.events (.api (.nodeStatus node))
  getNode : ∀ c, P.cluster c → P.cluster (k.getNode c).fst
  updateNodeStatus : ∀ {c node}, P.cluster c → Attached node → P.cluster (k.updateNodeStatus c node).fst
  prepareStorage : ∀ p inUse c, P.cluster c → P.cluster (r.prepareStorage p inUse c).fst
  attached : ∀ {c node}, P.cluster c → (k.getNode c).snd = some node → ¬Attached node →
    P.errors (some .panic)
  mounts : keepPVCAndInlineCSIOnly pod = none → P.errors (some .panic)

def Generated (pod : Kube.Pod) (envs : ExtTreeMap Bytes Env)
    (authConfigs : ExtTreeMap Bytes Runtime.ImageAuthConfig) (opts : CreateOptions) : Prop :=
  ∃ storageEnabled volumeData volNames dnsConfig netReqBytes,
    translatePodCreateOptions storageEnabled pod envs authConfigs volumeData volNames dnsConfig netReqBytes =
      .ok opts

def FromResolved (r : Resolver ρ) (pod : Kube.Pod) (H : ExtTreeMap Bytes Env → Prop) (opts : CreateOptions) :
    Prop :=
  ∃ envs authConfigs, H envs ∧ (∃ c, (r.resolveImagePullAuthConfig pod c).snd = .ok authConfigs) ∧
    Generated pod envs authConfigs opts

namespace Manager

variable (hP : P.Admits k)

include hP

section Envs

variable (hr : P.Reads r pod) {I : List Kube.Container → ExtTreeMap Bytes Env → Prop}
    (hi : ∀ {envs ctr cs c env}, I (ctr :: cs) envs → (r.resolveEnv pod ctr c).snd = .ok env →
           I cs (envs.insert ctr.name env))

include hr hi

theorem emits_resolveEnvs {envs : ExtTreeMap Bytes Env} {cs : List Kube.Container} (h : I cs envs) :
    Emits P (I []) (resolveEnvs r pod envs cs) := by
  induction cs generalizing envs
  case nil => exact .pure h
  case cons ctr cs ih =>
    have hq : Emits P (fun env => I cs (envs.insert ctr.name env)) (require [] (r.resolveEnv pod ctr)) :=
      emits_require hP (hr.resolveEnv ctr) fun _ _ => hi h
    exact .bind hq fun env hv => ih hv

theorem emits_resolvePod (h : I pod.containers ∅) :
    Emits P (fun resolved => I [] resolved.envs ∧
      ∃ c, (r.resolveImagePullAuthConfig pod c).snd = .ok resolved.authConfigs) (resolvePod r pod) := by
  refine .bind (emits_resolveEnvs hP hr hi h) fun envs hv => ?_
  refine .bind (emits_require (Q := fun authConfigs =>
    ∃ c, (r.resolveImagePullAuthConfig pod c).snd = .ok authConfigs) hP hr.resolveImagePullAuthConfig
    fun c _ ha => ⟨c, ha⟩) fun _ ha => ?_
  refine .bind (emits_require (Q := fun _ => True) hP hr.resolveVolumeData fun _ _ _ => trivial) fun _ _ => ?_
  exact .bind (emits_require (Q := fun _ => True) hP hr.resolveDNSSettings fun _ _ _ => trivial)
    fun _ _ => .pure ⟨hv, ha⟩

end Envs

theorem emits_generateOptions (hr : P.Resolves r pod) {resolved : Resolved} {b : Bool} {volNames : VolumeNames} :
    Emits P (Generated pod resolved.envs resolved.authConfigs)
      (generateOptions r pod resolved b volNames) := by
  refine .bind (emits_require (Q := fun _ => True) hP (hr.networkRequest _) fun _ _ _ => trivial) fun _ _ => ?_
  exact emits_ofExcept hP (hr.translate _ _ _ _ _ _ _) fun opts ho => ⟨_, _, _, _, _, ho⟩

section Mounts

variable (hm : P.Mounts k r pod)

include hm

theorem emits_mountVolumes {volNames : VolumeNames} :
    Emits P (fun _ => True) (mountVolumes k r pod volNames) := by
  refine .bind (emits_ask (Q := fun node => ∃ c, P.cluster c ∧ (k.getNode c).snd = node)
    fun c hc => ⟨hm.getNode c hc, c, hc, rfl⟩) fun node hn => ?_
  cases node
  case none => exact emits_error hP
  case some node =>
    obtain ⟨c, hc, hn⟩ := hn
    cases ha : addVolumesInUse node.volumesInUse node.volumesAttached volNames
    case none =>
      have hl : ¬Attached node := by
        rw [Attached, ← addVolumesInUse_isSome, ha]
        simp
      simp only [ha]
      exact .throw (hm.attached hc hn hl)
    case some x =>
      have hl : Attached { node with volumesInUse := x.fst, volumesAttached := x.snd } :=
        (length_addVolumesInUse ha).le
      simp only [ha]
      refine .bind (emits_call fun _ hc _ => updateNodeStatus_calls (hm.updateNodeStatus hc hl)
        (hm.nodeStatus _)) fun res hr => ?_
      refine .bind (emits_ofExcept (Q := fun _ => True) hP (fun he => (hr he).elim) fun _ _ => trivial)
        fun node _ => ?_
      cases hk : keepPVCAndInlineCSIOnly pod
      case none => exact .throw (hm.mounts hk)
      case some p => exact emits_require hP (hm.prepareStorage p _) fun _ _ _ => trivial

theorem emits_setupStorage (hs : P.mountPath.isSome) : Emits P (fun _ => True) (setupStorage k r pod) := by
  have hc : Emits P (· ≠ .error .panic) (call fun m : Manager ρ =>
      ((m.getUniqueVolumeNamesAndPaths k pod).fst, [], (m.getUniqueVolumeNamesAndPaths k pod).snd)) := by
    refine emits_call fun m hc hp => ?_
    have hv := getUniqueVolumeNamesAndPaths_calls (A := (P.events <| .api ·)) hP.toPreserves pod hc
    exact ⟨hv.cluster, hv.mountPath, hv.events, hv.result (hp ▸ hs)⟩
  refine .bind hc fun res hr => ?_
  refine .bind (emits_ofExcept (Q := fun _ => True) hP (fun he => (hr he).elim) fun _ _ => trivial)
    fun volNames _ => ?_
  simp only
  split
  case isTrue => exact .bind (emits_mountVolumes hP hm) fun _ _ => .pure trivial
  case isFalse => exact .pure trivial

end Mounts

theorem emits_resolveOptions {I : List Kube.Container → ExtTreeMap Bytes Env → Prop}
    (hr : P.Resolves r pod) (hm : P.mountPath.isSome → P.Mounts k r pod)
    (hi : ∀ {envs ctr cs c env}, I (ctr :: cs) envs → (r.resolveEnv pod ctr c).snd = .ok env →
      I cs (envs.insert ctr.name env))
    (h : I pod.containers ∅) : Emits P (FromResolved r pod (I [])) (resolveOptions k r pod) := by
  have hr : Emits P (FromResolved r pod (I [])) (do
      let resolved ← resolvePod r pod
      let storageEnabled := (← get).mgr.mountPath.isSome
      let volNames ← if storageEnabled then setupStorage k r pod else pure (∅ : VolumeNames)
      generateOptions r pod resolved storageEnabled volNames) := by
    refine .bind (emits_resolvePod hP hr.toReads hi h) fun resolved hv => ?_
    refine .bind (.modifyGet (Q := fun s : CreateState ρ => s.mgr.mountPath = P.mountPath)
      fun s hs => ⟨hs, hs.mountPath⟩) fun s hs => ?_
    have ho {b : Bool} (volNames : VolumeNames) (_ : True) :
        Emits P (FromResolved r pod (I [])) (generateOptions r pod resolved b volNames) :=
      (emits_generateOptions hP hr).mono fun opts ho => ⟨_, _, hv.left, hv.right, ho⟩
    simp only [hs]
    split
    case isTrue hs => exact .bind (emits_setupStorage hP (hm hs) hs) ho
    case isFalse => exact .bind (.pure trivial) ho
  refine .bind (emits_ask (Q := fun _ => True) fun _ hc => ⟨hc, trivial⟩) fun b _ => ?_
  simp only
  split
  case isTrue => exact .bind (emits_error (Q := fun _ => True) hP) fun _ _ => hr
  case isFalse => exact hr

end Manager

def Group.errorStatus (group : Group) (pod : Kube.Pod) : Kube.PodStatus :=
  let (phase, statuses) := newContainerErrorStatus pod
  match group with
  | .init => { pod.status with phase := phase, initContainerStatuses := statuses }
  | .work => { pod.status with phase := phase, containerStatuses := statuses }

variable {group : Group} {cmd : Runtime.PodEnsureCmd} {opts : CreateOptions}

-- Only a status does not end the loop over the replies.
def Read (replies : List Runtime.Reply) (msg : Runtime.Reply) : Prop :=
  ∃ pre post, replies = pre ++ msg :: post ∧ ∀ msg ∈ pre, ∃ ps, msg = .podStatus ps

theorem Read.mem {replies : List Runtime.Reply} {msg : Runtime.Reply} (h : Read replies msg) : msg ∈ replies := by
  obtain ⟨pre, post, rfl, -⟩ := h
  simp

def Pulls (a : Replies) : Prop :=
  ∃ replies, a.images = .ok replies ∧ handleMessages Manager.onImageMsg none replies = none

def Answered (a : Replies) (group : Group) : Prop :=
  ∃ replies, a.ensure group = .ok replies ∧ ∀ e, ¬Read replies (.error e)

def Completes (a : Replies) (opts : CreateOptions) : Prop :=
  ∀ cmd, opts.initOpts = some cmd →
    if opts.initHostExec then ∃ result, handleContainerAsHostExec (a.host .init) cmd = .ok result
    else Answered a .init

structure Policy.Executes (P : Policy ρ) (k : Cluster ρ) (a : Replies) (group : Group)
    (cmd : Runtime.PodEnsureCmd) : Prop where
  executed : ∀ {commands ps}, handleContainerAsHostExec (a.host group) cmd = .ok (commands, ps) →
    P.events (.hostExec group commands) ∧ P.events (.received group ps)
  mirror : ∀ {commands ps p status}, handleContainerAsHostExec (a.host group) cmd = .ok (commands, ps) →
    P.pods p → P.statuses p.status → mirrorStatus k.parseCIDR p ps false = some status → P.statuses status
  aborted : P.errors none

structure Policy.Ensures (P : Policy ρ) (k : Cluster ρ) (a : Replies) (group : Group)
    (cmd : Runtime.PodEnsureCmd) : Prop where
  ensure : P.events (.ensure group cmd)
  received : ∀ {replies ps}, a.ensure group = .ok replies → Read replies (.podStatus ps) →
    P.events (.received group ps)
  mirror : ∀ {replies ps p status}, a.ensure group = .ok replies → Read replies (.podStatus ps) →
    P.pods p → P.statuses p.status → mirrorStatus k.parseCIDR p ps (group = .init) = some status →
    P.statuses status
  panic : ∀ {replies ps p}, a.ensure group = .ok replies → Read replies (.podStatus ps) →
    P.pods p → mirrorStatus k.parseCIDR p ps (group = .init) = none → P.errors (some .panic)
  error : ∀ {replies e p}, a.ensure group = .ok replies → Read replies (.error e) →
    P.pods p → P.statuses p.status → P.statuses (group.errorStatus p)

structure Policy.Prepares (P : Policy ρ) (opts : CreateOptions) : Prop where
  creating : ∀ {p}, P.pods p → P.statuses p.status →
    P.statuses { p.status with phase := (newContainerCreatingStatus p).fst
                               containerStatuses := (newContainerCreatingStatus p).snd }
  pull : P.events (.pull opts.images)

structure Policy.Creates (P : Policy ρ) (k : Cluster ρ) (a : Replies) (opts : CreateOptions) : Prop where
  initializing : ∀ {p st}, opts.initOpts.isSome → P.pods p → P.statuses p.status →
    newContainerInitializingStatus p = some st →
    P.statuses { p.status with phase := st.fst, initContainerStatuses := st.snd }
  panic : ∀ {p}, opts.initOpts.isSome → P.pods p → newContainerInitializingStatus p = none →
    P.errors (some .panic)
  init : ∀ cmd, opts.initOpts = some cmd →
    if opts.initHostExec then P.Executes k a .init cmd else P.Ensures k a .init cmd
  work : Completes a opts → if opts.workHostExec then P.Executes k a .work opts.workOpts
    else P.Ensures k a .work opts.workOpts

structure EnsureState.Emitted (P : Policy ρ) (s : EnsureState ρ) : Prop extends Pod.Emitted P s.toCreateState where
  pod : P.pods s.pod
  status : P.statuses s.pod.status
  err : s.err = some .panic → P.errors (some .panic)

namespace EnsureState

variable {s : EnsureState ρ} {replies : List Runtime.Reply} {msg : Runtime.Reply}

theorem Emitted.mirror (h : s.Emitted P) (hP : P.Admits k) (ps : Option Runtime.PodStatusMsg) (b : Bool)
    (hs : ∀ status, Manager.mirrored k.parseCIDR s.pod ps b = some status → P.statuses status)
    (hn : Manager.mirrored k.parseCIDR s.pod ps b = none → P.errors (some .panic)) :
    (s.mirror k ps b).fst.Emitted P := by
  rw [EnsureState.mirror]
  split
  case h_1 hm => exact { h with err := fun _ => hn hm }
  case h_2 status hm =>
    exact { toEmitted := h.toEmitted.calls <|
              Manager.updateMirrorPod_calls hP.toPreserves hP.podStatus h.cluster h.pod hs
            err := h.err
            pod := hP.toPreserves.status h.pod
            status := hs status hm }

theorem Emitted.onError {e : ErrorMsg} {status : Kube.PodStatus} (h : s.Emitted P) (hP : P.Admits k)
    (hs : P.statuses status) : (s.onError k e status).fst.Emitted P := by
  have hm : ({ s with pod := { s.pod with status := status } } : EnsureState ρ).Emitted P :=
    { toEmitted := h.toEmitted, pod := hP.toPreserves.status h.pod, status := hs, err := h.err }
  have hm := hm.mirror hP none false (fun _ h => Option.some.inj h ▸ hs) nofun
  exact { toEmitted := hm.toEmitted, pod := hm.pod, status := hm.status, err := by simp [EnsureState.onError] }

theorem Emitted.received {ps : Runtime.PodStatusMsg} (h : s.Emitted P) (he : P.events (.received group ps)) :
    ({ s with log := s.log ++ [CreateEvent.received group ps] } : EnsureState ρ).Emitted P :=
  { toEmitted := h.toEmitted.record he, pod := h.pod, status := h.status, err := h.err }

theorem Emitted.onInitMsg (h : s.Emitted P) (hP : P.Admits k) (he : P.Ensures k a .init cmd)
    (hr : a.ensure .init = .ok replies) (hm : Read replies msg) : (s.onInitMsg k msg).fst.Emitted P := by
  cases msg
  case error e => exact h.onError hP (he.error hr hm h.pod h.status)
  case podStatus ps =>
    exact (h.received (he.received hr hm)).mirror hP (some ps) true (fun _ => he.mirror hr hm h.pod h.status)
      (he.panic hr hm h.pod)
  all_goals exact h

theorem Emitted.onWorkMsg (h : s.Emitted P) (hP : P.Admits k) (he : P.Ensures k a .work cmd)
    (hr : a.ensure .work = .ok replies) (hm : Read replies msg) : (s.onWorkMsg k msg).fst.Emitted P := by
  cases msg
  case podStatus ps =>
    exact (h.received (he.received hr hm)).mirror hP (some ps) false (fun _ => he.mirror hr hm h.pod h.status)
      (he.panic hr hm h.pod)
  case error e =>
    rw [EnsureState.onWorkMsg]
    split
    case isTrue => exact h
    case isFalse => exact h.onError hP (he.error hr hm h.pod h.status)
  all_goals exact h

end EnsureState

section Continue

variable {s t : EnsureState ρ} {replies pre post : List Runtime.Reply} {msg : Runtime.Reply}

theorem onInitMsg_continues (h : s.onInitMsg k msg = (t, false)) : ∃ ps, msg = .podStatus ps := by
  cases msg
  case podStatus ps => exact ⟨ps, rfl⟩
  all_goals cases h

theorem onWorkMsg_continues (h : s.onWorkMsg k msg = (t, false)) : ∃ ps, msg = .podStatus ps := by
  cases msg
  case podStatus ps => exact ⟨ps, rfl⟩
  case error e =>
    rw [EnsureState.onWorkMsg] at h
    split at h <;> cases h
  all_goals cases h

-- Without an error, no status among the replies ends the loop.
theorem onInitMsg_continue (hp : ∀ msg ∈ pre, ∃ ps, msg = .podStatus ps)
    (he : (loop (EnsureState.onInitMsg k) s (pre ++ post)).fst.err = none) :
    ∃ t, loop (EnsureState.onInitMsg k) s pre = (t, false) := by
  induction pre generalizing s
  case nil => exact ⟨s, rfl⟩
  case cons msg pre hi =>
    obtain ⟨⟨ps, rfl⟩, ht⟩ := List.forall_mem_cons.mp hp
    cases hb : s.onInitMsg k (.podStatus ps)
    case mk s' exit =>
      cases exit
      case false =>
        rw [List.cons_append, loop_of_continue hb] at he
        rw [loop_of_continue hb]
        exact hi ht he
      case true =>
        rw [List.cons_append, loop_of_exit hb] at he
        simp only [EnsureState.onInitMsg, EnsureState.mirror] at hb
        split at hb
        case h_1 => cases hb; cases he
        case h_2 => cases hb

-- The loop ends with the error if there is one.
theorem answered_of_ok (hr : a.ensure .init = .ok replies)
    (he : (handleMessages (EnsureState.onInitMsg k) s replies).err = none) : Answered a .init := by
  refine ⟨replies, hr, fun e ⟨pre, post, hp, hm⟩ => ?_⟩
  subst hp
  rw [handleMessages_eq] at he
  obtain ⟨t, ht⟩ := onInitMsg_continue hm he
  rw [loop_append_of_continue ht] at he
  cases he

end Continue

namespace Manager

variable (hP : P.Admits k)

include hP

theorem emits_pullImages {images : ExtTreeMap Bytes Runtime.ImagePullSpec} (h : P.events (.pull images)) :
    Emits P (fun _ => Pulls a) (pullImages (ρ := ρ) a images) := by
  have hm (msgs : List Runtime.Reply) : handleMessages onImageMsg none msgs ≠ some .panic := by
    rw [handleMessages_eq]
    apply loop_preserves (I := fun e : Option Failure => e ≠ some .panic) (by simp)
    intro e msg he
    cases msg <;> simp [onImageMsg]
  refine .bind (emits_record h) fun _ _ => ?_
  cases ha : a.images
  case error e => exact emits_error hP
  case ok replies =>
    have hm := hm replies
    cases hr : handleMessages onImageMsg none replies
    case none => simp only [hr]; exact .pure ⟨replies, ha, hr⟩
    case some e => simp only [hr]; exact .throw (hP.error e fun he => hm (he ▸ hr))

theorem emits_markCreating (hc : P.Prepares opts) (hn : P.pods pod) :
    Emits P (fun p => P.pods p ∧ P.statuses p.status) (markCreating k pod.name) := by
  refine emits_mark hP hn (fun p hn hs st h => ?_) (by simp)
  cases h
  exact hc.creating hn hs

theorem emits_markInitializing (hc : P.Creates k a opts) (hi : opts.initOpts.isSome) (hn : P.pods pod) :
    Emits P (fun p => P.pods p ∧ P.statuses p.status) (markInitializing k pod.name) := by
  refine emits_mark hP hn (fun p hn hs st h => ?_) fun p hn h => ?_
  case refine_1 =>
    obtain ⟨st, hst, rfl⟩ := Option.map_eq_some_iff.mp h
    exact hc.initializing hi hn hs hst
  case refine_2 => exact hc.panic hi hn (Option.map_eq_none_iff.mp h)

theorem emits_execGroup (he : P.Executes k a group cmd) (hn : P.pods pod) (hs : P.statuses pod.status) :
    Emits P (fun p => P.pods p ∧ ∃ result, handleContainerAsHostExec (a.host group) cmd = .ok result)
      (execGroup k a group pod cmd) := by
  rw [execGroup]
  cases h : handleContainerAsHostExec (a.host group) cmd
  case error e => exact emits_error hP
  case ok result =>
    refine .bind (emits_record (he.executed h).left) fun _ _ => ?_
    refine .bind (emits_record (he.executed h).right) fun _ _ => ?_
    refine .bind (emits_getPod hP hn) fun latestPod hl => ?_
    have hl : P.pods (latestPod.getD pod) ∧ P.statuses (latestPod.getD pod).status := by
      cases latestPod
      case none => exact ⟨hn, hs⟩
      case some p => exact hl p rfl
    refine .bind (emits_call fun _ hc _ => updateMirrorPod_calls hP.toPreserves hP.podStatus hc hl.left
      fun _ => he.mirror h hl.left hl.right) fun err hp => ?_
    split
    case h_1 =>
      have hm : (mirrorStatus k.parseCIDR (latestPod.getD pod) result.snd false).isSome :=
        mirrorStatus_isSome.mpr (present_execContainers (handleContainerAsHostExec_containers h))
      rw [show mirrorStatus _ _ _ _ = none from hp rfl] at hm
      cases hm
    case h_2 => exact .throw he.aborted
    case h_3 => exact .pure ⟨hl.left, result, rfl⟩

theorem emits_ensureContainers {onMsg : EnsureState ρ → Runtime.Reply → EnsureState ρ × Bool} {D : Prop}
    (he : P.Ensures k a group cmd) (hc : ∀ {s msg t}, onMsg s msg = (t, false) → ∃ ps, msg = .podStatus ps)
    (hm : ∀ {replies msg s}, a.ensure group = .ok replies → Read replies msg → s.Emitted P →
      (onMsg s msg).fst.Emitted P)
    (hd : ∀ {replies s}, a.ensure group = .ok replies → (handleMessages onMsg s replies).err = none → D)
    (hn : P.pods pod) (hs : P.statuses pod.status) :
    Emits P (fun _ => D) (ensureContainers a group onMsg pod cmd) := by
  refine .bind (emits_record he.ensure) fun _ _ => ?_
  cases hr : a.ensure group
  case error e => exact emits_error hP
  case ok replies =>
    refine .bind (.modifyGet (Q := fun err => (err = some .panic → P.errors (some .panic)) ∧ (err = none → D))
      fun s hs' => ?_) fun err hne => ?_
    case refine_1 =>
      have hi : (handleMessages onMsg ⟨s, pod, none⟩ replies).Emitted P := by
        rw [handleMessages_eq]
        refine loop_preserves_reached (I := fun t : EnsureState ρ => t.Emitted P)
          { toEmitted := hs', pod := hn, status := hs, err := by simp } fun ⟨pre, hp, hl⟩ => ?_
        exact hm hr ⟨pre, _, hp, forall_mem_of_continue hc hl⟩
      exact ⟨hi.toEmitted, hi.err, hd hr⟩
    case refine_2 =>
      cases err
      case none => exact .pure (hne.right rfl)
      case some e =>
        by_cases he : e = .panic
        case pos => subst he; exact .throw (hne.left rfl)
        case neg => exact .throw (hP.error e he)

theorem emits_prepareCreation (hc : P.Prepares opts) (hn : P.pods pod) :
    Emits P (fun p => P.pods p ∧ (opts.images.isEmpty ∨ Pulls a)) (prepareCreation k a opts pod) := by
  have hp (pod : Kube.Pod) (hn : P.pods pod) : Emits P (fun p => P.pods p ∧ (opts.images.isEmpty ∨ Pulls a))
      (if !opts.images.isEmpty then pullImages a opts.images >>= fun _ => pure pod else pure pod) := by
    split
    case isTrue => exact .bind (emits_pullImages hP hc.pull) fun _ hp => .pure ⟨hn, .inr hp⟩
    case isFalse he => exact .pure ⟨hn, .inl (by simpa using he)⟩
  rw [prepareCreation]
  split
  case isTrue => exact .bind (emits_markCreating hP hc hn) fun pod hn => hp pod hn.left
  case isFalse => exact .bind (.pure hn) hp

section Creates

variable (hc : P.Creates k a opts)

include hc

theorem emits_createInit (hn : P.pods pod) :
    Emits P (fun p => P.pods p ∧ Completes a opts) (createInit k a opts pod) := by
  have hi := hc.init
  rw [createInit]
  cases ho : opts.initOpts
  case none => exact .pure ⟨hn, fun cmd h => nomatch ho.symm.trans h⟩
  case some cmd =>
    refine .bind (emits_markInitializing hP hc (by simp [ho]) hn) fun pod hm => ?_
    have hi := hi cmd ho
    have hd (h : if opts.initHostExec then
        ∃ result, handleContainerAsHostExec (a.host .init) cmd = .ok result else Answered a .init) :
        Completes a opts := by
      intro cmd' ho'
      cases ho.symm.trans ho'
      exact h
    split
    case isTrue hx =>
      rw [if_pos hx] at hi
      exact (emits_execGroup hP hi hm.left hm.right).mono fun p h => ⟨h.left, hd ((if_pos hx).mpr h.right)⟩
    case isFalse hx =>
      rw [if_neg hx] at hi
      exact .bind (emits_ensureContainers hP hi onInitMsg_continues (fun hr hm h => h.onInitMsg hP hi hr hm)
        answered_of_ok hm.left hm.right) fun _ h => .pure ⟨hm.left, hd ((if_neg hx).mpr h)⟩

theorem emits_createWork (hd : Completes a opts) (hn : P.pods pod) (hs : P.statuses pod.status) :
    Emits P (fun _ => True) (createWork k a opts pod) := by
  have hw := hc.work hd
  rw [createWork]
  split
  case isTrue hx =>
    rw [if_pos hx] at hw
    exact .bind (emits_execGroup hP hw hn hs) fun _ _ => .pure trivial
  case isFalse hx =>
    rw [if_neg hx] at hw
    exact emits_ensureContainers hP hw onWorkMsg_continues (fun hr hm h => h.onWorkMsg hP hw hr hm)
      (fun _ _ => trivial) hn hs

end Creates

theorem emits_create (hp : P.Prepares opts) (hc : opts.images.isEmpty ∨ Pulls a → P.Creates k a opts)
    (hn : P.pods pod) : Emits P (fun _ => True) (do
    let pod ← prepareCreation k a opts pod
    let pod ← createInit k a opts pod
    let pod ← markCreating k pod.name
    createWork k a opts pod) := by
  refine .bind (emits_prepareCreation hP hp hn) fun pod hn => ?_
  have hc := hc hn.right
  refine .bind (emits_createInit hP hc hn.left) fun pod hn => ?_
  exact .bind (emits_markCreating hP hp hn.left) fun pod hm => emits_createWork hP hc hn.right hm.left hm.right

theorem emits_createDevicePod {I : List Kube.Container → ExtTreeMap Bytes Env → Prop}
    (hr : P.Resolves r pod) (hm : P.mountPath.isSome → P.Mounts k r pod)
    (hi : ∀ {envs ctr cs c env}, I (ctr :: cs) envs → (r.resolveEnv pod ctr c).snd = .ok env →
      I cs (envs.insert ctr.name env))
    (h : I pod.containers ∅) (hp : ∀ opts, FromResolved r pod (I []) opts → P.Prepares opts)
    (hc : ∀ opts, FromResolved r pod (I []) opts → opts.images.isEmpty ∨ Pulls a → P.Creates k a opts)
    (hn : P.pods pod) : Emits P (fun _ => True) (createDevicePod k r a pod) :=
  .bind (emits_resolveOptions hP hr hm hi h) fun opts ho => emits_create hP (hp opts ho) (hc opts ho) hn

omit hP

theorem runCreateDevicePod_emits {m : Manager ρ} (h : Emits P (fun _ => True) (createDevicePod k r a pod))
    (hc : P.cluster m.cluster) (hm : m.mountPath = P.mountPath) :
    (∀ e ∈ (runCreateDevicePod k r a m pod).snd.fst, P.events e) ∧
    ((runCreateDevicePod k r a m pod).snd.snd = none ∨ P.errors (runCreateDevicePod k r a m pod).snd.snd) := by
  have hs : Emitted P { mgr := m, log := [] } := ⟨hc, hm, by simp⟩
  rw [runCreateDevicePod]
  split
  case h_1 s hr => exact ⟨(h.ok hs hr).left.events, .inl rfl⟩
  case h_2 e s hr => exact ⟨(h.error hs hr).left.events, .inr (h.error hs hr).right⟩

end Manager
end Aranya.Pod
