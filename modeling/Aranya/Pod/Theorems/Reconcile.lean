import Aranya.Lib.Triple
import Aranya.Pod.Reconcile
import Aranya.Pod.Theorems.Manager
import Aranya.Reconcile.Theorems.Core

namespace Aranya.Pod

open Std.Do

set_option mvcgen.warning false

variable {ρ : Type} {α : Type} {nameOf : Bytes → Bytes}

def Named (nameOf : Bytes → Bytes) (uid : Bytes) (pod : Kube.Pod) : Prop :=
  pod.uid = uid ∧ pod.name = nameOf uid

structure PodManager.Valid (nameOf : Bytes → Bytes) (settled : Bytes → Prop) (m : PodManager ρ) : Prop where
  cached : ∀ {uid pod}, m.podCache.getByID uid = some pod → Named nameOf uid pod
  resource : ∀ {uid pod}, m.resPodRec.cache uid = some (some pod) → Named nameOf uid pod
  device : ∀ {uid podUID}, m.devPodRec.cache uid = some podUID → podUID = uid
  deleting : ∀ {job}, m.resPodRec.Pending job → job.action.Deletes → settled job.key
  removing : ∀ {job}, m.devPodRec.Pending job → job.action.Deletes → settled job.key

namespace System

variable {s : System ρ} {i : Nat} {m : PodManager ρ} {u : Option Bytes}

def Settled (nameOf : Bytes → Bytes) (s : System ρ) (uid : Bytes) : Prop :=
  ∀ pod, s.pods (nameOf uid) = some pod → pod.uid = uid

def Right (log : List Deletion) : Prop :=
  ∀ d ∈ log, ∀ pod, d.hit = some pod → pod.uid = d.podUID

structure Valid (nameOf : Bytes → Bytes) (s : System ρ) : Prop where
  pods : ∀ {name pod}, s.pods name = some pod → pod.name = name ∧ Named nameOf pod.uid pod
  managers : ∀ i, (s.managers i).Valid nameOf (s.Settled nameOf)
  log : Right s.log

structure Safe (nameOf : Bytes → Bytes) (u : Option Bytes) (s : System ρ) : Prop where
  valid : s.Valid nameOf
  settled : ∀ uid, u = some uid → s.Settled nameOf uid

theorem Valid.setManager (h : s.Valid nameOf) (hm : m.Valid nameOf (s.Settled nameOf)) :
    (s.setManager i m).Valid nameOf where
  pods := h.pods
  managers j := by
    show (Function.update s.managers i m j).Valid nameOf (s.Settled nameOf)
    by_cases hj : j = i
    case pos => rw [hj, Function.update_self]; exact hm
    case neg => rw [Function.update_of_ne hj]; exact h.managers j
  log := h.log

theorem Safe.setManager (h : s.Safe nameOf u) (hm : m.Valid nameOf (s.Settled nameOf)) :
    (s.setManager i m).Safe nameOf u where
  valid := h.valid.setManager hm
  settled := h.settled

end System

theorem PodManager.Valid.mono {settled settled' : Bytes → Prop} {m : PodManager ρ}
    (h : m.Valid nameOf settled) (hs : ∀ {uid}, settled uid → settled' uid) : m.Valid nameOf settled' where
  cached := h.cached
  resource := h.resource
  device := h.device
  deleting hp hd := hs (h.deleting hp hd)
  removing hp hd := hs (h.removing hp hd)

namespace System

variable {s : System ρ} {u : Option Bytes} {pods : Bytes → Option Kube.Pod}
    {log : List Deletion}

theorem Settled.of_pods {uid : Bytes} (h : s.Settled nameOf uid)
    (hp : ∀ {name pod}, pods name = some pod → ∃ old, s.pods name = some old ∧ old.uid = pod.uid) :
    { s with pods := pods, log := log }.Settled nameOf uid := by
  intro pod hu
  obtain ⟨old, ho, he⟩ := hp hu
  exact he ▸ h old ho

theorem Safe.setPods (h : s.Safe nameOf u)
    (hn : ∀ {name pod}, pods name = some pod → pod.name = name ∧ Named nameOf pod.uid pod)
    (hp : ∀ {name pod}, pods name = some pod → ∃ old, s.pods name = some old ∧ old.uid = pod.uid)
    (hl : Right log) : { s with pods := pods, log := log }.Safe nameOf u where
  valid :=
    { pods := hn
      managers j := (h.valid.managers j).mono fun hs => hs.of_pods hp
      log := hl }
  settled uid hu := (h.settled uid hu).of_pods hp

end System

-- The action that follows is not a deletion, unless the job is one.
@[grind]
def Return.Fair (u : Option Bytes) : Return → Prop
  | .result (some ⟨.delete, _, _⟩) | .result (some ⟨.cleanup, _, _⟩) => u ≠ none
  | _ => True

theorem Return.Fair.of_deletes {u : Option Bytes} {r : Reconcile.Result}
    (h : (Return.result (some r)).Fair u) (hd : r.nextAction.Deletes) : u ≠ none := by
  cases r
  case mk action delay err =>
    cases hd
    case inl ha => cases ha; exact h
    case inr ha => cases ha; exact h

def target (job : Job Bytes) : Option Bytes :=
  match job.action with
  | .delete | .cleanup => some job.key
  | _ => none

theorem target_eq_some {job : Job Bytes} {uid : Bytes} :
    target job = some uid ↔ job.action.Deletes ∧ job.key = uid := by
  cases job
  case mk action key => cases action <;> simp [target, JobAction.Deletes]

theorem target_of_ne_none {job : Job Bytes} (h : target job ≠ none) : target job = some job.key := by
  obtain ⟨uid, hu⟩ := Option.ne_none_iff_exists'.mp h
  rw [hu, (target_eq_some.mp hu).right]

namespace System

variable {i : Nat} {u : Option Bytes}

-- Whether the handler returns or not, the state stays safe. An early return is fair.
abbrev KeepsSafe (nameOf : Bytes → Bytes) (u : Option Bytes) (x : ReconcileM ρ α) : Prop :=
  ⦃fun s => ⌜s.Safe nameOf u⌝⦄ x
  ⦃post⟨fun _ s => ⌜s.Safe nameOf u⌝, fun e s => ⌜s.Safe nameOf u ∧ e.Fair u⌝⟩⦄

attribute [spec] returnResult returnErr returnNil panic

@[spec]
theorem ofExcept_spec (text : Bytes) (x : Except Bytes α) :
    ⦃fun s => ⌜s.Safe nameOf u⌝⦄ ofExcept (ρ := ρ) text x
    ⦃post⟨fun result s => ⌜s.Safe nameOf u ∧ x = .ok result⌝,
          fun e s => ⌜s.Safe nameOf u ∧ e.Fair u⌝⟩⦄ := by
  mvcgen [ofExcept]

@[spec]
theorem ofFailure_spec (x : Except Failure α) :
    KeepsSafe nameOf u (ofFailure (ρ := ρ) x) := by
  mvcgen [ofFailure]

@[spec]
theorem modifyManager_spec {f : PodManager ρ → PodManager ρ}
    (hf : ∀ {settled : Bytes → Prop} {m : PodManager ρ}, (∀ uid, u = some uid → settled uid) →
      m.Valid nameOf settled → (f m).Valid nameOf settled) :
    KeepsSafe nameOf u (modifyManager i f) := by
  mvcgen [modifyManager]
  case vc1 s h _ => exact h.setManager (hf h.settled (h.valid.managers i))

end System

namespace PodManager.Valid

variable {settled : Bytes → Prop} {m : PodManager ρ} {pod : Kube.Pod} {podUID : Bytes}

theorem cachePod (h : m.Valid nameOf settled) (hn : Named nameOf pod.uid pod) :
    { m with podCache := m.podCache.update pod }.Valid nameOf settled :=
  { h with
    cached := by
      intro uid pod' hc
      rw [PodCache.getByID_update] at hc
      split at hc
      case isTrue hu => cases hc; exact hu ▸ hn
      case isFalse => exact h.cached hc }

theorem deletePod (h : m.Valid nameOf settled) :
    { m with podCache := m.podCache.delete podUID }.Valid nameOf settled :=
  { h with
    cached := by
      intro uid pod hc
      rw [PodCache.getByID_delete] at hc
      split at hc
      case isTrue => cases hc
      case isFalse => exact h.cached hc }

theorem setResource {c : Reconcile.Core Bytes (Option Kube.Pod)} (h : m.Valid nameOf settled)
    (hc : ∀ {uid pod}, c.cache uid = some (some pod) →
      m.resPodRec.cache uid = some (some pod) ∨ Named nameOf uid pod)
    (hp : ∀ {job}, c.Pending job → job.action.Deletes → m.resPodRec.Pending job ∨ settled job.key) :
    { m with resPodRec := c }.Valid nameOf settled :=
  { h with
    resource := fun ho => (hc ho).elim h.resource id
    deleting := fun hj hd => (hp hj hd).elim (h.deleting · hd) id }

theorem setDevice {c : Reconcile.Core Bytes Bytes} (h : m.Valid nameOf settled)
    (hc : ∀ {uid podUID}, c.cache uid = some podUID →
      m.devPodRec.cache uid = some podUID ∨ podUID = uid)
    (hp : ∀ {job}, c.Pending job → job.action.Deletes → m.devPodRec.Pending job ∨ settled job.key) :
    { m with devPodRec := c }.Valid nameOf settled :=
  { h with
    device := fun ho => (hc ho).elim h.device id
    removing := fun hj hd => (hp hj hd).elim (h.removing · hd) id }

theorem updateDevice (h : m.Valid nameOf settled) :
    { m with devPodRec := m.devPodRec.update podUID none (some podUID) }.Valid nameOf settled := by
  apply h.setDevice
  case hp => exact fun hp _ => .inl hp.of_update
  case hc =>
    intro uid v ho
    cases Reconcile.Core.cache_update ho
    case inl ho => exact .inl ho
    case inr ho => exact .inr ((Option.some.inj ho.right).symm.trans ho.left.symm)

theorem scheduleDevice {job : Job Bytes} (h : m.Valid nameOf settled)
    (hs : job.action.Deletes → settled job.key) :
    { m with devPodRec := (m.devPodRec.schedule job).fst }.Valid nameOf settled := by
  apply h.setDevice
  case hc => exact .inl
  case hp =>
    intro w hp hd
    cases hp.of_schedule
    case inl hp => exact .inl hp
    case inr hw => subst hw; exact .inr (hs hd)

end PodManager.Valid

namespace System

variable {s : System ρ} {i : Nat} {u : Option Bytes} {pod : Kube.Pod} {k : Cluster ρ} {a : Answers}
    {name : Bytes}

@[spec]
theorem cachePod_spec (hn : Named nameOf pod.uid pod) :
    KeepsSafe nameOf u (cachePod (ρ := ρ) i pod) :=
  modifyManager_spec fun _ hm => hm.cachePod hn

theorem Valid.pods_update {pod' : Kube.Pod} (h : s.Valid nameOf)
    (hn : Named nameOf pod.uid pod)
    (hp : Function.update s.pods pod.name (some pod) name = some pod') :
    pod'.name = name ∧ Named nameOf pod'.uid pod' := by
  by_cases hn' : name = pod.name
  case pos =>
    rw [hn', Function.update_self, Option.some.injEq] at hp
    exact hp ▸ ⟨hn'.symm, hn⟩
  case neg =>
    rw [Function.update_of_ne hn'] at hp
    exact h.pods hp

theorem Safe.replace {old : Kube.Pod} (h : s.Safe nameOf u) (hn : Named nameOf pod.uid pod)
    (ho : s.pods pod.name = some old) (hu : old.uid = pod.uid) :
    { s with pods := Function.update s.pods pod.name (some pod) }.Safe nameOf u := by
  refine h.setPods (h.valid.pods_update hn) ?hp h.valid.log
  case hp =>
    intro name pod' hp
    by_cases hn' : name = pod.name
    case pos =>
      rw [hn', Function.update_self, Option.some.injEq] at hp
      exact ⟨old, hn' ▸ ho, hp ▸ hu⟩
    case neg =>
      rw [Function.update_of_ne hn'] at hp
      exact ⟨pod', hp, rfl⟩

theorem pods_of_update_none {name name' : Bytes}
    (hp : Function.update s.pods name none name' = some pod) : s.pods name' = some pod := by
  by_cases hn : name' = name
  case pos => simp [hn] at hp
  case neg => simpa [hn] using hp

theorem Safe.patch {f : Kube.Pod → Kube.Pod} (h : s.Safe nameOf u)
    (hp : s.pods name = some pod) (hf : (f pod).uid = pod.uid ∧ (f pod).name = pod.name) :
    { s with pods := Function.update s.pods name (some (f pod)) }.Safe nameOf u := by
  obtain ⟨h₁, h₂⟩ := h.valid.pods hp
  obtain rfl : (f pod).name = name := hf.right.trans h₁
  apply h.replace _ hp hf.left.symm
  rwa [Named, hf.left, hf.right]

theorem Safe.delete {gone : Bool} {podUID name : Bytes} (h : s.Safe nameOf u) (hu : u = some podUID)
    (hn : name = nameOf podUID) :
    { s with
      pods := if gone then Function.update s.pods name none else s.pods
      log := s.log ++ [Deletion.mk podUID name (s.pods name)] }.Safe nameOf u := by
  have hp : ∀ {name' pod}, (if gone then Function.update s.pods name none else s.pods) name' = some pod →
      s.pods name' = some pod := by
    intro name' pod hp
    cases gone
    case false => exact hp
    case true => exact pods_of_update_none hp
  apply h.setPods
  case hn => exact fun hp' => h.valid.pods (hp hp')
  case hp => exact fun {_ pod} hp' => ⟨pod, hp hp', rfl⟩
  case hl =>
    intro d hd pod hh
    cases List.mem_append.mp hd
    case inl hd => exact h.valid.log d hd pod hh
    case inr hd =>
      cases List.mem_singleton.mp hd
      -- The name is in use by the pod itself or by none.
      exact h.settled _ hu pod (hn ▸ hh)

-- The pod that is returned has the name, but it can be another one.
@[spec]
theorem patch_spec (err : Option Bytes) (name : Bytes) (f : Kube.Pod → Kube.Pod)
    (hf : ∀ pod, (f pod).uid = pod.uid ∧ (f pod).name = pod.name) :
    ⦃fun s => ⌜s.Safe nameOf u⌝⦄ patch (ρ := ρ) err name f
    ⦃post⟨fun r s => ⌜s.Safe nameOf u ∧ ∀ pod, r = .ok pod → Named nameOf pod.uid pod⌝,
          fun e s => ⌜s.Safe nameOf u ∧ e.Fair u⌝⟩⦄ := by
  mvcgen [patch]
  case vc1.h_1 h _ _ _ _ => exact ⟨h, by simp⟩
  case vc2.h_2 h _ _ => exact ⟨h, by simp⟩
  case vc3.h_3 h pod hp _ _ =>
    refine ⟨h.patch hp (hf pod), fun pod' hr => ?_⟩
    cases hr
    rw [Named, (hf pod).left, (hf pod).right]
    exact (h.valid.pods hp).right

@[spec]
theorem deletePod_spec (answer : Except Kube.ApiError Bool) {podUID name : Bytes}
    (hu : u = some podUID) (hn : name = nameOf podUID) :
    KeepsSafe nameOf u (deletePod (ρ := ρ) answer podUID name) := by
  mvcgen [deletePod]
  case vc3.h_3 h _ => exact h.delete hu hn

@[spec]
theorem updateDevice_spec (podUID : Bytes) :
    KeepsSafe nameOf u (updateDevice (ρ := ρ) i podUID) :=
  modifyManager_spec fun _ hm => hm.updateDevice

@[spec]
theorem scheduleDevice_spec {job : Job Bytes} (hj : job.action.Deletes → u = some job.key) :
    KeepsSafe nameOf u (scheduleDevice (ρ := ρ) i job) := by
  have hs {s : System ρ} (h : s.Safe nameOf u) : (s.setManager i { s.managers i with
      devPodRec := ((s.managers i).devPodRec.schedule job).fst }).Safe nameOf u :=
    h.setManager ((h.valid.managers i).scheduleDevice fun hd => h.settled _ (hj hd))
  mvcgen [scheduleDevice]
  case vc1.h_1 h _ _ _ => exact ⟨hs h, trivial⟩
  case vc2.h_2 h _ _ => exact hs h

@[spec]
theorem ensureFinalizer_spec (err : Option Bytes) (finalizer : Bytes) (hn : Named nameOf pod.uid pod) :
    ⦃fun s => ⌜s.Safe nameOf u⌝⦄ ensureFinalizer (ρ := ρ) err pod finalizer
    ⦃post⟨fun r s => ⌜s.Safe nameOf u ∧ ∀ pod, r = .ok pod → Named nameOf pod.uid pod⌝,
          fun e s => ⌜s.Safe nameOf u ∧ e.Fair u⌝⟩⦄ := by
  mvcgen [ensureFinalizer] with grind

@[spec]
theorem removeFinalizer_spec (err : Option Bytes) (finalizer : Bytes) :
    KeepsSafe nameOf u (removeFinalizer (ρ := ρ) err pod finalizer) := by
  mvcgen [removeFinalizer] with grind

@[spec]
theorem admitClusterNetworkPod_spec (hn : Named nameOf pod.uid pod) :
    KeepsSafe nameOf u (admitClusterNetworkPod (ρ := ρ) i a pod) := by
  mvcgen [admitClusterNetworkPod, manager] with grind

@[spec]
theorem admitAbbotPod_spec (hn : Named nameOf pod.uid pod) :
    KeepsSafe nameOf u (admitAbbotPod (ρ := ρ) i a pod) := by
  mvcgen [admitAbbotPod, setAbbotPod, manager] with grind

@[spec]
theorem admitPodCreation_spec (hn : Named nameOf pod.uid pod) :
    KeepsSafe nameOf u (admitPodCreation (ρ := ρ) i a pod) := by
  mvcgen [admitPodCreation] with grind

@[spec]
theorem admitPodDeletion_spec :
    KeepsSafe nameOf u (admitPodDeletion (ρ := ρ) i a pod) := by
  mvcgen [admitPodDeletion, setAbbotPod, manager] with grind

@[spec]
theorem ensureHostIP_spec (hn : Named nameOf pod.uid pod) :
    ⦃fun s => ⌜s.Safe nameOf u⌝⦄ ensureHostIP (ρ := ρ) i a pod
    ⦃post⟨fun pod s => ⌜s.Safe nameOf u ∧ Named nameOf pod.uid pod⌝,
          fun e s => ⌜s.Safe nameOf u ∧ e.Fair u⌝⟩⦄ := by
  mvcgen [ensureHostIP, manager] with grind

@[spec]
theorem onResourcePodUpdated_spec (oldPod : Option Kube.Pod) (hn : Named nameOf pod.uid pod) :
    KeepsSafe nameOf u (onResourcePodUpdated (ρ := ρ) i a oldPod pod) := by
  mvcgen [onResourcePodUpdated, manager] with grind

@[spec]
theorem onResourcePodDeleting_spec (hu : u = some pod.uid) (hn : Named nameOf pod.uid pod) :
    KeepsSafe nameOf u (onResourcePodDeleting (ρ := ρ) i a pod) := by
  mvcgen [onResourcePodDeleting, manager] with grind [Named]

@[spec]
theorem onResourcePodDeleted_spec (hu : u = some pod.uid) :
    KeepsSafe nameOf u (onResourcePodDeleted (ρ := ρ) i pod) := by
  mvcgen [onResourcePodDeleted, manager] with grind

@[spec]
theorem onRemotePodCreationRequested_spec (podUID : Bytes) :
    KeepsSafe nameOf u (onRemotePodCreationRequested (ρ := ρ) i a podUID) := by
  mvcgen [onRemotePodCreationRequested, manager]

@[spec]
theorem onRemotePodUpdateRequested_spec (podUID : Bytes) :
    KeepsSafe nameOf u (onRemotePodUpdateRequested (ρ := ρ) i a podUID) := by
  mvcgen [onRemotePodUpdateRequested, manager]

@[spec]
theorem onRemotePodDeletionRequested_spec {podUID : Bytes} (hu : u = some podUID) :
    KeepsSafe nameOf u (onRemotePodDeletionRequested (ρ := ρ) i a podUID) := by
  mvcgen [onRemotePodDeletionRequested, manager]
  case vc2.hf => exact fun _ h => { h with cached := h.cached }
  case vc4.post.success.post.success _ _ h => exact ⟨h, by simp [Return.Fair, hu]⟩

@[spec]
theorem call_spec (f : Manager ρ → Manager ρ × α) (hf : ∀ m, ∃ c, (f m).fst = { m with cluster := c }) :
    KeepsSafe nameOf u (call (ρ := ρ) i f) := by
  mvcgen [call]
  case vc1 s h _ =>
    apply h.setManager
    obtain ⟨c, hc⟩ := hf (s.managers i).toManager
    rw [hc]
    exact { h.valid.managers i with }

@[spec]
theorem ask_spec (f : ρ → ρ × α) :
    KeepsSafe nameOf u (ask (ρ := ρ) i f) :=
  call_spec _ fun _ => ⟨_, rfl⟩

end System

namespace System

variable {s : System ρ} {i : Nat} {u : Option Bytes} {pod : Kube.Pod} {k : Cluster ρ} {a : Answers}

@[spec]
theorem releaseVolumes_spec (pod : Kube.Pod) :
    KeepsSafe nameOf u (releaseVolumes (ρ := ρ) k i pod) := by
  mvcgen [releaseVolumes]
  case vc1.hf => exact fun _ => Manager.volumeNamesAndPaths_cluster

@[spec]
theorem cleanupStorage_spec (pod : Kube.Pod) :
    KeepsSafe nameOf u (cleanupStorage (ρ := ρ) i a pod) := by
  mvcgen [cleanupStorage, manager]

@[spec]
theorem onRemotePodDeleted_spec {podUID : Bytes} (hu : u = some podUID) :
    KeepsSafe nameOf u (onRemotePodDeleted (ρ := ρ) k i a podUID) := by
  mvcgen [onRemotePodDeleted, manager]
  case vc5.hn h pod hc _ _ _ _ _ _ => exact ((h.valid.managers i).cached hc).right
  case vc8 => exact fun _ _ _ _ _ hm => hm.deletePod

theorem handleResource_spec {job : Job Bytes} {previous current : Option Kube.Pod}
    (hc : ∀ pod, current = some pod → Named nameOf job.key pod)
    (hu : job.action.Deletes → u = some job.key) :
    KeepsSafe nameOf u (handleResource (ρ := ρ) i a job.action previous current) := by
  mvcgen [handleResource] with grind [Named]

theorem handleDevice_spec {job : Job Bytes} (hu : job.action.Deletes → u = some job.key) :
    KeepsSafe nameOf u (handleDevice (ρ := ρ) k i a job.action job.key) := by
  mvcgen [handleDevice] with grind

theorem Safe.run {handler : ReconcileM ρ Unit} {s' : System ρ} {result : Option Reconcile.Result}
    (h : s.Safe nameOf u) (hr : run handler s = some (s', result))
    (ht : KeepsSafe nameOf u handler) :
    s'.Safe nameOf u ∧ ∀ r, result = some r → r.nextAction.Deletes → u ≠ none := by
  have hs := triple_iff_run (P := Safe nameOf u) (Q := fun _ => Safe nameOf u)
    (R := fun e s => Safe nameOf u s ∧ Return.Fair u e) |>.mp ht s h
  simp only [System.run] at hr
  split at hr
  case h_1 hx =>
    cases hr
    rw [hx] at hs
    exact ⟨hs, nofun⟩
  case h_2 hx =>
    cases hr
    rw [hx] at hs
    exact ⟨hs.left, fun r hr hd => Return.Fair.of_deletes (hr ▸ hs.right) hd⟩
  case h_3 => cases hr

variable {s' : System ρ} {job : Job Bytes}

theorem Valid.run {handler : ReconcileM ρ Unit} {result : Option Reconcile.Result} (h : s.Valid nameOf)
    (hj : job.action.Deletes → s.Settled nameOf job.key) (hr : run handler s = some (s', result))
    (ht : (job.action.Deletes → target job = some job.key) → KeepsSafe nameOf (target job) handler) :
    s'.Valid nameOf ∧ (job.action.Deletes → s'.Settled nameOf job.key) ∧
    ∀ r, result = some r → r.nextAction.Deletes → s'.Settled nameOf job.key := by
  have hs : s.Safe nameOf (target job) := by
    refine ⟨h, fun uid hu => ?_⟩
    obtain ⟨hd, rfl⟩ := target_eq_some.mp hu
    exact hj hd
  have hd (hd : job.action.Deletes) := target_eq_some.mpr ⟨hd, rfl⟩
  obtain ⟨hs, hf⟩ := hs.run hr (ht hd)
  exact ⟨hs.valid, fun hw => hs.settled _ (hd hw), fun r hr hw => hs.settled _ (target_of_ne_none (hf r hr hw))⟩

theorem Valid.handleResourceJob (h : s.Valid nameOf) (hs : s.handleResourceJob i a job = some s') :
    s'.Valid nameOf := by
  simp only [System.handleResourceJob] at hs
  split at hs
  case isTrue => cases hs
  case isFalse hw =>
    have hj := (h.managers i).deleting (.inr (.inr (not_not.mp hw)))
    split at hs
    case h_1 =>
      cases hs
      apply h.setManager
      apply (h.managers i).setResource
      case hc => exact fun ho => .inl (Reconcile.Core.cache_handleResult ho)
      case hp => exact fun hp hd => hp.of_notFound_deletes hd hj
    case h_2 previous current ho =>
      obtain ⟨⟨s₁, result⟩, hr, rfl⟩ := Option.map_eq_some_iff.mp hs
      have hc : ∀ pod, current = some pod → Named nameOf job.key pod := by
        rintro pod rfl
        exact (h.managers i).resource (Reconcile.Core.objects_current ho)
      obtain ⟨hs, hw, hf⟩ := h.run hj hr (handleResource_spec hc)
      apply hs.setManager
      apply (hs.managers i).setResource
      case hc => exact fun ho => .inl (Reconcile.Core.cache_finish ho)
      case hp => exact fun hp hd => hp.of_finish_deletes hd hw hf

theorem Valid.handleDeviceJob (h : s.Valid nameOf) (hs : s.handleDeviceJob k i a job = some s') :
    s'.Valid nameOf := by
  simp only [System.handleDeviceJob] at hs
  split at hs
  case isTrue => cases hs
  case isFalse hw =>
    have hj := (h.managers i).removing (.inr (.inr (not_not.mp hw)))
    split at hs
    case h_1 =>
      cases hs
      apply h.setManager
      apply (h.managers i).setDevice
      case hc => exact fun ho => .inl (Reconcile.Core.cache_handleResult ho)
      case hp => exact fun hp hd => hp.of_notFound_deletes hd hj
    case h_2 previous podUID ho =>
      obtain ⟨⟨s₁, result⟩, hr, rfl⟩ := Option.map_eq_some_iff.mp hs
      have hc : podUID = job.key := (h.managers i).device (Reconcile.Core.objects_current ho)
      subst hc
      obtain ⟨hs, hw, hf⟩ := h.run hj hr handleDevice_spec
      apply hs.setManager
      apply (hs.managers i).setDevice
      case hc => exact fun ho => .inl (Reconcile.Core.cache_finish ho)
      case hp => exact fun hp hd => hp.of_finish_deletes hd hw hf

end System
end Aranya.Pod
