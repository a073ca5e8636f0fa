import Aranya.Lib.Related
import Aranya.Pod.Theorems.Shared

namespace Aranya.Pod

variable {ρ α : Type} {k : Informers ρ} {r : Resolver ρ} {a : Replies} {m : Manager (World ρ)} {pod : Kube.Pod}
    {name : Bytes}

structure Informers.Private (k : Informers ρ) : Prop where
  pods : ∀ addr, ¬k.ReturnsPod addr
  nodes : ∀ addr, ¬k.ReturnsNode addr

namespace Informers.Private

theorem own_pod (hk : k.Private) {s : ρ} {p : Ptr Kube.Pod} (h : (k.getPod s name).snd = some p) :
    ∃ pod, p = .own pod :=
  Ptr.exists_own fun addr hp => hk.pods addr ⟨s, name, hp ▸ h⟩

theorem own_node (hk : k.Private) {s : ρ} {p : Ptr Kube.Node} (h : (k.getNode s).snd = some p) :
    ∃ node, p = .own node :=
  Ptr.exists_own fun addr hp => hk.nodes addr ⟨s, hp ▸ h⟩

end Informers.Private

namespace Shared

@[simp]
theorem podOf_own : podOf m (.own pod) = pod :=
  rfl

@[simp]
theorem nodeOf_own {node : Kube.Node} : nodeOf m (.own node) = node :=
  rfl

@[simp]
theorem setStatus_own {status : Kube.PodStatus} :
    setStatus m (.own pod) status = (m, .own { pod with status := status }) :=
  rfl

@[simp]
theorem setVolumes_own {node : Kube.Node} {inUse : List Bytes} {attached : List Kube.AttachedVolume} :
    setVolumes m (.own node) inUse attached =
    (m, .own { node with volumesInUse := inUse, volumesAttached := attached }) :=
  rfl

theorem getPod_copy (hk : k.Private) :
    getPod k m name = ((m.getPod k.cluster name).fst, (m.getPod k.cluster name).snd.map .own) := by
  rw [getPod, Manager.getPod]
  cases h : (k.getPod m.cluster.rest name).snd
  case none => simp [World.lift, Informers.cluster, h]
  case some p =>
    obtain ⟨pod, rfl⟩ := hk.own_pod h
    simp only [World.lift, Informers.cluster, h]
    rfl

theorem getNode_copy (hk : k.Private) :
    getNode k m =
    ({ m with cluster := (k.cluster.getNode m.cluster).fst }, (k.cluster.getNode m.cluster).snd.map .own) := by
  rw [getNode]
  cases h : (k.getNode m.cluster.rest).snd
  case none => simp [World.lift, Informers.cluster, h]
  case some p =>
    obtain ⟨node, rfl⟩ := hk.own_node h
    simp [World.lift, Informers.cluster, h]

theorem tryUpdateStatus_copy (hk : k.Private) {n : Nat} :
    tryUpdateStatus k n m (.own pod) =
    ((m.tryUpdateStatus k.cluster n pod).fst, .own (m.tryUpdateStatus k.cluster n pod).2.1,
     (m.tryUpdateStatus k.cluster n pod).2.2) := by
  induction n generalizing m pod
  case zero => rfl
  case succ n hi =>
    rw [tryUpdateStatus, Manager.tryUpdateStatus]
    have hu : m.cluster.lift (k.updatePodStatus · pod) = k.cluster.updatePodStatus m.cluster pod := rfl
    simp only [podOf_own, hu, getPod_copy hk]
    cases k.cluster.updatePodStatus m.cluster pod
    case mk w err =>
      cases err
      case none => rfl
      case some e =>
        cases e
        case notFound => rfl
        case other e =>
          simp only
          cases Manager.getPod k.cluster { m with cluster := w } pod.name
          case mk m' newPod =>
            cases newPod
            case none => exact hi
            case some newPod => exact hi

theorem updatePodStatus_copy (hk : k.Private) (m : Manager (World ρ)) (pod : Kube.Pod) :
    updatePodStatus k m (.own pod) =
    ((m.updatePodStatus k.cluster pod).fst, (m.updatePodStatus k.cluster pod).2.1,
     (m.updatePodStatus k.cluster pod).2.2.map .own) := by
  rw [updatePodStatus, Manager.updatePodStatus, tryUpdateStatus_copy hk]
  cases m.tryUpdateStatus k.cluster Manager.tryCount pod
  case mk m' res =>
    obtain ⟨pod', log, missing⟩ := res
    cases missing
    case true => rfl
    case false =>
      simp only [podOf_own, getPod_copy hk]
      cases m'.getPod k.cluster pod'.name
      case mk m' newPod => cases newPod <;> rfl

def mirrored (k : Informers ρ) (pod : Kube.Pod) (ps : Option Runtime.PodStatusMsg) (b : Bool) : Kube.Pod :=
  { pod with status := (Manager.mirrored k.parseCIDR pod ps b).getD pod.status }

theorem updateMirrorPod_copy (hk : k.Private) (m : Manager (World ρ)) (pod : Kube.Pod)
    (ps : Option Runtime.PodStatusMsg) (b : Bool) :
    updateMirrorPod k m (.own pod) ps b =
    ((m.updateMirrorPod k.cluster (some pod) ps b).fst, .own (mirrored k pod ps b),
     (m.updateMirrorPod k.cluster (some pod) ps b).2) := by
  have hc : k.cluster.parseCIDR = k.parseCIDR := rfl
  simp only [updateMirrorPod, podOf_own, Manager.updateMirrorPod, Manager.updateMirrorPodOf, hc, mirrored]
  cases Manager.mirrored k.parseCIDR pod ps b
  case none => rfl
  case some status =>
    simp only [setStatus_own, updatePodStatus_copy hk]
    cases m.updatePodStatus k.cluster { pod with status := status }
    case mk m' res => obtain ⟨log, res⟩ := res; cases res <;> rfl

theorem syncPod_copy (hk : k.Private) : syncPod k = SyncState.syncPod k.cluster := by
  funext s ps
  have hm (pod : Kube.Pod) : mirror k s pod ps = s.mirror k.cluster pod ps := by
    simp only [mirror, SyncState.mirror, updateMirrorPod_copy hk]
  rw [syncPod, SyncState.syncPod]
  cases s.mgr.podCache.getByID ps.uid
  case none => rfl
  case some pod => simp only [hm]; rfl

theorem onSyncMsg_copy (hk : k.Private) : onSyncMsg k = SyncState.onMsg k.cluster := by
  funext s msg
  cases msg
  case podStatusList => rw [onSyncMsg, SyncState.onMsg, syncPod_copy hk]
  all_goals rfl

theorem syncDevicePods_copy (hk : k.Private) (replies : Except Bytes (List Runtime.Reply)) :
    syncDevicePods k m replies = m.syncDevicePods k.cluster replies := by
  have hu {s : SyncState (World ρ)} : updateVolumesInUse k s = Manager.updateVolumesInUse k.cluster s := by
    rw [updateVolumesInUse, Manager.updateVolumesInUse, getNode_copy hk]
    cases k.cluster.getNode s.mgr.cluster
    case mk w node =>
      cases node
      case none => rfl
      case some node =>
        simp only [Option.map_some, setVolumes_own, nodeOf_own]
        generalize Manager.updateNodeStatus k.cluster _ _ = x
        obtain ⟨m', log, res⟩ := x
        cases res <;> rfl
  cases replies
  case error => rfl
  case ok replies =>
    rw [syncDevicePods, Manager.syncDevicePods, onSyncMsg_copy hk]
    cases (handleMessages (SyncState.onMsg k.cluster) (.new m) replies).err <;> simp only [hu]

section Create

variable {Q : α → α → Prop} {opts : CreateOptions} {group : Group} {cmd : Runtime.PodEnsureCmd}
    {p : Ptr Kube.Pod}

def SameName (p : Ptr Kube.Pod) (pod : Kube.Pod) : Prop :=
  ∃ pod', p = .own pod' ∧ pod'.name = pod.name

theorem related_call {β : Type} {Q : α → β → Prop} {f : Manager (World ρ) → Manager (World ρ) × List Event × α}
    {g : Manager (World ρ) → Manager (World ρ) × List Event × β} (hm : ∀ m, (f m).fst = (g m).fst)
    (hl : ∀ m, (f m).2.1 = (g m).2.1) (hq : ∀ m, Q (f m).2.2 (g m).2.2) :
    Related Q (Manager.call f) (Manager.call g) := by
  refine .modifyGet (fun s => ?_) fun s => hq s.mgr
  show CreateState.mk (f s.mgr).fst (s.log ++ (f s.mgr).2.1.map .api) =
    CreateState.mk (g s.mgr).fst (s.log ++ (g s.mgr).2.1.map .api)
  rw [hm, hl]

theorem call_eq_pure {f : Manager (World ρ) → Manager (World ρ) × α} {x : α} (h : ∀ m, f m = (m, x)) :
    call f = (pure x : CreateM (World ρ) α) := by
  funext s
  show (Except.ok (f s.mgr).snd, CreateState.mk (f s.mgr).fst (s.log ++ [])) = (.ok x, s)
  rw [h, List.append_nil]

theorem related_getPod (hk : k.Private) :
    Related (fun x y => x = y.map .own) (call (getPod k · name))
      (Manager.call fun m => let (m, pod) := m.getPod k.cluster name; (m, [], pod)) :=
  related_call (fun _ => congrArg Prod.fst (getPod_copy hk)) (fun _ => rfl)
    fun _ => congrArg Prod.snd (getPod_copy hk)

theorem related_ofExcept {x : Except Failure (Ptr Kube.Pod)} {y : Except Failure Kube.Pod} {text : Bytes}
    (h : x = y.map .own) :
    Related (fun p pod => p = .own pod) (Manager.ofExcept text x) (Manager.ofExcept (ρ := World ρ) text y) := by
  subst h
  cases y
  case ok => exact .pure rfl
  case error => exact .throw

theorem related_mark (hk : k.Private) {status : Kube.Pod → Option Kube.PodStatus} :
    Related (fun p pod => p = .own pod) (mark k name status) (Manager.mark k.cluster name status) := by
  refine .bind (related_getPod hk) fun x y hx => ?_
  subst hx
  cases y
  case none => exact .throw
  case some pod =>
    refine .get_bind fun s => ?_
    simp only [podOf_own]
    cases status pod
    case none => exact .throw
    case some status =>
      simp only
      rw [call_eq_pure fun _ => setStatus_own, pure_bind]
      have hu (m : Manager (World ρ)) := updatePodStatus_copy hk m { pod with status := status }
      exact .bind (related_call (fun m => by rw [hu]) (fun m => by rw [hu]) fun m => congrArg (·.2.2) (hu m))
        fun _ _ h => related_ofExcept h

theorem related_mountVolumes (hk : k.Private) {volNames : VolumeNames} :
    Related (· = ·) (mountVolumes k r pod volNames) (Manager.mountVolumes k.cluster r.lift pod volNames) := by
  have hg : Related (fun x y => x = y.map .own) (call (getNode k)) (Manager.ask k.cluster.getNode) :=
    related_call (fun _ => congrArg Prod.fst (getNode_copy hk)) (fun _ => rfl)
      fun _ => congrArg Prod.snd (getNode_copy hk)
  refine .bind hg fun x y hx => ?_
  subst hx
  cases y
  case none => exact .throw
  case some node =>
    refine .get_bind fun s => ?_
    simp only [nodeOf_own]
    cases addVolumesInUse node.volumesInUse node.volumesAttached volNames
    case none => exact .throw
    case some lists =>
      simp only
      rw [call_eq_pure fun _ => setVolumes_own, pure_bind]
      exact .refl fun _ => trivial

theorem related_resolveOptions (hk : k.Private) :
    Related (· = ·) (resolveOptions k r pod) (Manager.resolveOptions k.cluster r.lift pod) := by
  have hs : setupStorage k r pod = Manager.setupStorage k.cluster r.lift pod := by
    simp only [setupStorage, Manager.setupStorage, (related_mountVolumes hk).run_eq]
    rfl
  simp only [resolveOptions, Manager.resolveOptions, hs]
  exact .refl fun _ => rfl

theorem related_prepareCreation (hk : k.Private) :
    Related SameName (prepareCreation k a opts pod) (Manager.prepareCreation k.cluster a opts pod) := by
  have hp (p : Ptr Kube.Pod) (pod : Kube.Pod) (h : p = .own pod) :
      Related SameName (Manager.pullImages a opts.images >>= fun _ => pure p : CreateM (World ρ) (Ptr Kube.Pod))
        (Manager.pullImages a opts.images >>= fun _ => pure pod) ∧
      Related SameName (pure p : CreateM (World ρ) (Ptr Kube.Pod)) (pure pod) :=
    ⟨.bind (.refl fun _ => rfl) fun _ _ _ => .pure ⟨pod, h, rfl⟩, .pure ⟨pod, h, rfl⟩⟩
  rw [prepareCreation, Manager.prepareCreation]
  cases opts.initOpts.isNone <;> cases opts.images.isEmpty
  case true.true => exact .bind (related_mark hk) fun p pod h => (hp p pod h).right
  case true.false => exact .bind (related_mark hk) fun p pod h => (hp p pod h).left
  case false.true => exact (hp (.own pod) pod rfl).right
  case false.false => exact (hp (.own pod) pod rfl).left

theorem related_execGroup (hk : k.Private) {pod : Kube.Pod} (hp : p = .own pod) :
    Related SameName (execGroup k a group p cmd) (Manager.execGroup k.cluster a group pod cmd) := by
  subst hp
  rw [execGroup, Manager.execGroup]
  cases handleContainerAsHostExec (a.host group) cmd
  case error => exact .throw
  case ok result =>
    obtain ⟨commands, podStatus⟩ := result
    simp only [podOf_own]
    refine .bind (.refl fun _ => rfl) fun _ _ _ => ?_
    refine .bind (.refl fun _ => rfl) fun _ _ _ => ?_
    refine .bind (related_getPod hk) fun latestPod latestPod' hl => ?_
    have hg : latestPod.getD (.own pod) = .own (latestPod'.getD pod) := by subst hl; cases latestPod' <;> rfl
    rw [hg]
    generalize latestPod'.getD pod = pod
    have hu (m : Manager (World ρ)) := updateMirrorPod_copy hk m pod (some podStatus) false
    refine .bind (related_call (Q := fun x y => x = (.own (mirrored k pod (some podStatus) false), y))
      (fun m => congrArg Prod.fst (hu m)) (fun m => congrArg (·.2.2.1) (hu m))
      fun m => congrArg (fun x => (x.2.1, x.2.2.2)) (hu m)) fun x err hx => ?_
    subst hx
    rcases err with _ | _ | _ | _ | _
    case none => exact .pure ⟨_, rfl, rfl⟩
    all_goals exact .throw

def EnsureState.copyOf (s : Pod.EnsureState (World ρ)) : EnsureState ρ where
  toCreateState := s.toCreateState
  pod := .own s.pod
  err := s.err

namespace EnsureState

variable {s : Pod.EnsureState (World ρ)} {ps : Option Runtime.PodStatusMsg} {b : Bool} {msg : Runtime.Reply}

theorem mirror_copyOf (hk : k.Private) (s : Pod.EnsureState (World ρ)) (ps : Option Runtime.PodStatusMsg)
    (b : Bool) : (copyOf s).mirror k ps b = (s.mirror k.cluster ps b).map copyOf id := by
  have hc : k.cluster.parseCIDR = k.parseCIDR := rfl
  have hu := updateMirrorPod_copy hk s.mgr s.pod ps b
  simp only [EnsureState.mirror, copyOf, Pod.EnsureState.mirror, hu, podOf_own, hc, mirrored]
  cases Manager.mirrored k.parseCIDR s.pod ps b
  case none => rfl
  case some status => rfl

theorem onError_copyOf (hk : k.Private) {e : ErrorMsg} {status : Kube.PodStatus} :
    (copyOf s).onError k e status = (s.onError k.cluster e status).map copyOf id := by
  have hm := mirror_copyOf hk { s with pod := { s.pod with status := status } } none false
  exact congrArg (fun x => ({ x.fst with err := some (.device e) }, true)) hm

theorem received_copyOf (hk : k.Private) {group : Group} {ps : Runtime.PodStatusMsg} :
    { copyOf s with log := s.log ++ [CreateEvent.received group ps] }.mirror k (some ps) b =
    ({ s with log := s.log ++ [CreateEvent.received group ps] }.mirror k.cluster (some ps) b).map copyOf id :=
  mirror_copyOf hk { s with log := s.log ++ [CreateEvent.received group ps] } (some ps) b

theorem onInitMsg_copyOf (hk : k.Private) :
    (copyOf s).onInitMsg k msg = (s.onInitMsg k.cluster msg).map copyOf id := by
  cases msg
  case error e => exact onError_copyOf hk
  case podStatus ps => exact received_copyOf hk
  all_goals rfl

theorem onWorkMsg_copyOf (hk : k.Private) :
    (copyOf s).onWorkMsg k msg = (s.onWorkMsg k.cluster msg).map copyOf id := by
  cases msg
  case error e =>
    rw [EnsureState.onWorkMsg, Pod.EnsureState.onWorkMsg]
    split
    case isTrue => rfl
    case isFalse => exact onError_copyOf hk
  case podStatus ps => exact received_copyOf hk
  all_goals rfl

end EnsureState

theorem related_ensureContainers {onMsg : EnsureState ρ → Runtime.Reply → EnsureState ρ × Bool}
    {onMsg' : Pod.EnsureState (World ρ) → Runtime.Reply → Pod.EnsureState (World ρ) × Bool}
    (hm : ∀ s msg, onMsg (.copyOf s) msg = (onMsg' s msg).map .copyOf id) :
    Related (· = ·) (ensureContainers a group onMsg (.own pod) cmd)
      (Manager.ensureContainers a group onMsg' pod cmd) := by
  refine .bind (.refl fun _ => rfl) fun _ _ _ => ?_
  cases a.ensure group
  case error => exact .throw
  case ok replies =>
    have hl (s : CreateState (World ρ)) : handleMessages onMsg { s with pod := .own pod, err := none } replies =
        .copyOf (handleMessages onMsg' { s with pod := pod, err := none } replies) := by
      rw [handleMessages_eq, handleMessages_eq]
      refine loop_related (R := fun s t => s = EnsureState.copyOf t) rfl fun {s t} msg h => ?_
      subst h
      rw [hm]
      exact ⟨rfl, rfl⟩
    refine .bind (.modifyGet (Q := (· = ·)) (fun s => ?_) fun s => ?_) fun err err' h => ?_
    case refine_1 => simp only [hl]; rfl
    case refine_2 => simp only [hl]; rfl
    case refine_3 =>
      subst h
      exact .refl fun _ => rfl

theorem related_createInit (hk : k.Private) {pod : Kube.Pod} (hp : SameName p pod) :
    Related SameName (createInit k a opts p) (Manager.createInit k.cluster a opts pod) := by
  rw [createInit, Manager.createInit]
  cases opts.initOpts
  case none => exact .pure hp
  case some cmd =>
    obtain ⟨pod', rfl, hn⟩ := hp
    refine .get_bind fun s => ?_
    rw [podOf_own, hn]
    refine .bind (related_mark hk) fun p pod hp => ?_
    split
    case isTrue => exact related_execGroup hk hp
    case isFalse =>
      subst hp
      exact .bind (related_ensureContainers fun s msg => EnsureState.onInitMsg_copyOf hk)
        fun _ _ _ => .pure ⟨pod, rfl, rfl⟩

theorem related_createWork (hk : k.Private) :
    Related (· = ·) (createWork k a opts (.own pod)) (Manager.createWork k.cluster a opts pod) := by
  rw [createWork, Manager.createWork]
  split
  case isTrue => exact .bind (related_execGroup hk rfl) fun _ _ _ => .pure rfl
  case isFalse => exact related_ensureContainers fun s msg => EnsureState.onWorkMsg_copyOf hk

theorem createDevicePod_copy (hk : k.Private) :
    createDevicePod k r a pod = Manager.createDevicePod k.cluster r.lift a pod := by
  refine Related.run_eq <| .bind (related_resolveOptions hk) fun opts _ ho => ?_
  subst ho
  refine .bind (related_prepareCreation hk) fun p pod hp => ?_
  refine .bind (related_createInit hk hp) fun p pod hp => ?_
  obtain ⟨pod', rfl, hn⟩ := hp
  refine .get_bind fun s => ?_
  rw [podOf_own, hn]
  refine .bind (related_mark hk) fun p pod hp => ?_
  subst hp
  exact related_createWork hk

theorem runCreateDevicePod_copy (hk : k.Private) :
    runCreateDevicePod k r a m pod = m.runCreateDevicePod k.cluster r.lift a pod := by
  rw [runCreateDevicePod, Manager.runCreateDevicePod, createDevicePod_copy hk]
  cases (Manager.createDevicePod k.cluster r.lift a pod).run { mgr := m, log := [] }
  case mk res s => cases res <;> rfl

end Create

section Reconcile

variable {i : Nat}

theorem systemCall_eq_pure {f : Manager (World ρ) → Manager (World ρ) × α} {x : α} (h : ∀ m, f m = (m, x)) :
    System.call i f = (pure x : ReconcileM (World ρ) α) := by
  funext s
  show (Except.ok (f (s.managers i).toManager).snd, s.setManager i { s.managers i with
    toManager := (f (s.managers i).toManager).fst }) = (.ok x, s)
  rw [h]
  simp [System.setManager]

theorem related_manager_bind {Q : α → α → Prop} {f : PodManager (World ρ) → ReconcileM (World ρ) α}
    {y : ReconcileM (World ρ) α} (h : ∀ m, Related Q (f m) y) : Related Q (System.manager i >>= f) y where
  state s := (h (s.managers i)).state s
  result s := (h (s.managers i)).result s

theorem related_releaseVolumes (hk : k.Private) :
    Related (· = ·) (releaseVolumes k i pod) (System.releaseVolumes k.cluster i pod) := by
  refine .bind (.refl fun _ => rfl) fun x y hx => ?_
  subst hx
  refine .bind (.refl fun _ => rfl) fun volNames y hx => ?_
  subst hx
  split
  case isFalse => exact .pure rfl
  case isTrue =>
    have hg : Related (fun x y => x = y.map .own) (System.call i (getNode k))
        (System.ask i k.cluster.getNode) := by
      refine .modifyGet (fun s => ?_) fun s => congrArg Prod.snd (getNode_copy hk)
      exact congrArg (fun m => s.setManager i { s.managers i with toManager := m }) <|
        congrArg Prod.fst (getNode_copy hk)
    refine .bind hg fun x y hx => ?_
    subst hx
    cases y
    case none => exact .throw
    case some node =>
      refine related_manager_bind fun m => ?_
      simp only [nodeOf_own]
      cases removeVolumeInUse node.volumesInUse node.volumesAttached volNames
      case none => exact .throw
      case some lists =>
        simp only
        rw [systemCall_eq_pure fun _ => setVolumes_own, pure_bind]
        exact related_manager_bind fun m => .refl fun _ => trivial

theorem onRemotePodDeleted_copy (hk : k.Private) {ans : Answers} {podUID : Bytes} :
    onRemotePodDeleted k i ans podUID = System.onRemotePodDeleted k.cluster i ans podUID := by
  refine Related.run_eq <| .bind (.refl fun _ => rfl) fun m _ hm => ?_
  subst hm
  cases m.podCache.getByID podUID
  case none => exact .throw
  case some pod => exact .bind (related_releaseVolumes hk) fun _ _ _ => .refl fun _ => rfl

end Reconcile

-- Without shared objects, it makes no difference that objects are changed in place.
theorem copies_agree (hk : k.Private) (r : Resolver ρ) (a : Replies) (m : Manager (World ρ)) (pod : Kube.Pod)
    (replies : Except Bytes (List Runtime.Reply)) (i : Nat) (ans : Answers) :
    runCreateDevicePod k r a m pod = m.runCreateDevicePod k.cluster r.lift a pod ∧
    syncDevicePods k m replies = m.syncDevicePods k.cluster replies ∧
    onRemotePodDeleted k i ans pod.uid = System.onRemotePodDeleted k.cluster i ans pod.uid :=
  ⟨runCreateDevicePod_copy hk, syncDevicePods_copy hk replies, onRemotePodDeleted_copy hk⟩

def copyingInformers : Informers Unit :=
  { rejectingInformers with getPod _ _ := ((), some (.own boundPod)), getNode _ := ((), none) }

theorem copies_agree_bound :
    copyingInformers.Private ∧ syncDevicePods copyingInformers (storingManager ()) (.ok bindingReplies) =
      (storingManager ()).syncDevicePods copyingInformers.cluster (.ok bindingReplies) := by
  have hk : copyingInformers.Private := by
    constructor
    case pods => rintro addr ⟨_, _, h⟩; cases h
    case nodes => rintro addr ⟨_, h⟩; cases h
  exact ⟨hk, (copies_agree hk .answering (Manager.migrationReplies []) _ boundPod _ 0 {}).2.1⟩

end Shared
end Aranya.Pod
