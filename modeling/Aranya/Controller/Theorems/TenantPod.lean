import Aranya.Controller.TenantPod
import Aranya.Lib.Execution
import Aranya.Pod.Samples
import Aranya.Pod.Theorems.Reconcile

namespace Aranya.Pod

variable {ρ : Type} {nameOf : Bytes → Bytes}

def PodManager.Pending (m : PodManager ρ) (job : Job Bytes) : Prop :=
  m.resPodRec.Pending job ∨ m.devPodRec.Pending job

open Reconcile (Core)

namespace PodManager.Valid

variable {settled : Bytes → Prop} {m : PodManager ρ} {pod : Kube.Pod} {podUID : Bytes}

theorem updateResource {old : Option (Option Kube.Pod)} (h : m.Valid nameOf settled)
    (hn : Named nameOf pod.uid pod) :
    { m with resPodRec := m.resPodRec.update pod.uid old (some (some pod)) }.Valid nameOf settled := by
  apply h.setResource
  case hp => exact fun hp _ => .inl hp.of_update
  case hc =>
    intro uid pod' ho
    cases Core.cache_update ho
    case inl ho => exact .inl ho
    case inr ho =>
      rw [ho.left, ← Option.some.inj (Option.some.inj ho.right)]
      exact .inr hn

theorem scheduleResource {job : Job Bytes} (h : m.Valid nameOf settled) (hs : settled job.key) :
    { m with resPodRec := (m.resPodRec.schedule job).fst }.Valid nameOf settled := by
  apply h.setResource
  case hc => exact .inl
  case hp =>
    intro w hp _
    cases hp.of_schedule
    case inl hp => exact .inl hp
    case inr hw => subst hw; exact .inr hs

theorem schedulePodJob {action : JobAction} {oldPod : Option Kube.Pod} (h : m.Valid nameOf settled)
    (hn : Named nameOf pod.uid pod) (hs : settled pod.uid) :
    (m.schedulePodJob action oldPod pod).fst.Valid nameOf settled :=
  (h.updateResource hn).scheduleResource hs

theorem lookup (h : m.Valid nameOf settled) (hn : Named nameOf pod.uid pod) :
    (m.lookup pod).Valid nameOf settled := by
  rw [PodManager.lookup]
  split
  case isTrue => exact h.deletePod
  case isFalse => exact h.cachePod hn

theorem deleteStale (h : m.Valid nameOf settled) (hs : settled podUID) :
    { m with toManager := m.deleteStale podUID }.Valid nameOf settled :=
  h.updateDevice.scheduleDevice fun _ => hs

end PodManager.Valid

namespace System

variable {s s' : System ρ} {k : Cluster ρ} {i : Nat} {pod oldPod : Kube.Pod} {a : Action} {as : List Action}
    {action : JobAction} {name : Bytes}

-- A pod object is created only when no deletion under its name is pending.
def Timely (nameOf : Bytes → Bytes) (s : System ρ) : Action → Prop
  | .create pod =>
    ∀ i job, (s.managers i).Pending job → job.action.Deletes → nameOf job.key = pod.name → job.key = pod.uid
  | .tenantPodUpdated _ pod => s.Settled nameOf pod.uid
  | .tenantPodDeleting pod => s.Settled nameOf pod.uid
  | .tenantPodDeleted pod => s.Settled nameOf pod.uid
  | .stale _ podUID => s.Settled nameOf podUID
  | _ => True

theorem valid_new {managers : Nat → Manager ρ} {hostIP : Nat → Bytes} :
    (new managers hostIP).Valid nameOf where
  pods := by simp [new]
  log := by simp [new, Right]
  managers i :=
    { cached := by simp [new, PodCache.getByID, PodCache.new]
      resource := by simp [new, Core.new, Reconcile.Cache.new]
      device := by simp [new, Core.new, Reconcile.Cache.new]
      deleting := fun hp => absurd hp (Core.not_pending rfl rfl rfl)
      removing := fun hp => absurd hp (Core.not_pending rfl rfl rfl) }

theorem Settled.create {uid : Bytes} (h : s.Settled nameOf uid) (hu : nameOf uid = pod.name → uid = pod.uid) :
    { s with pods := Function.update s.pods pod.name (some pod) }.Settled nameOf uid := by
  intro pod' hp
  by_cases hn : nameOf uid = pod.name
  case pos =>
    simp only [hn, Function.update_self, Option.some.injEq] at hp
    rw [← hp, hu hn]
  case neg =>
    simp only [Function.update_of_ne hn] at hp
    exact h pod' hp

namespace Valid

theorem create (h : s.Valid nameOf) (hn : Named nameOf pod.uid pod) (ht : s.Timely nameOf (.create pod)) :
    { s with pods := Function.update s.pods pod.name (some pod) }.Valid nameOf where
  pods := h.pods_update hn
  managers i :=
    { h.managers i with
      deleting := fun hp hd => ((h.managers i).deleting hp hd).create (ht i _ (.inl hp) hd)
      removing := fun hp hd => ((h.managers i).removing hp hd).create (ht i _ (.inr hp) hd) }
  log := h.log

theorem change (h : s.Valid nameOf) (hn : Named nameOf pod.uid pod)
    (hp : (s.pods pod.name).any (·.uid = pod.uid)) :
    { s with pods := Function.update s.pods pod.name (some pod) }.Valid nameOf := by
  obtain ⟨old, ho, hu⟩ : ∃ old, s.pods pod.name = some old ∧ old.uid = pod.uid := by
    simpa [Option.any_eq_true] using hp
  exact (Safe.replace (u := none) ⟨h, nofun⟩ hn ho hu).valid

theorem remove (h : s.Valid nameOf) : { s with pods := Function.update s.pods name none }.Valid nameOf := by
  refine (Safe.setPods (u := none) ⟨h, nofun⟩ ?hn ?hp h.log).valid
  case hn => exact fun hp => h.pods (pods_of_update_none hp)
  case hp => exact fun {_ pod} hp => ⟨pod, pods_of_update_none hp, rfl⟩

theorem schedulePodJob {oldPod : Option Kube.Pod} (h : s.Valid nameOf) (hn : Named nameOf pod.uid pod)
    (hs : s.Settled nameOf pod.uid) : (s.schedulePodJob i action oldPod pod).fst.Valid nameOf :=
  h.setManager ((h.managers i).schedulePodJob hn hs)

theorem scheduleOnNode {oldPod : Option Kube.Pod} (h : s.Valid nameOf) (hn : Named nameOf pod.uid pod)
    (hs : s.Settled nameOf pod.uid) : (s.scheduleOnNode action oldPod pod).fst.Valid nameOf := by
  rw [System.scheduleOnNode]
  split
  case h_1 => exact h
  case h_2 => exact h.schedulePodJob hn hs

theorem onTenantPodUpdated (h : s.Valid nameOf) (hn : Named nameOf pod.uid pod)
    (hs : s.Settled nameOf pod.uid) : (s.onTenantPodUpdated oldPod pod).fst.Valid nameOf := by
  rw [System.onTenantPodUpdated]
  split
  case isTrue => exact h
  case isFalse =>
    split
    case isTrue => exact h.scheduleOnNode hn hs
    case isFalse =>
      split
      case isTrue => exact h
      case isFalse =>
        split
        case h_1 => exact h
        case h_2 => exact h.schedulePodJob hn hs

theorem onTenantPodGone (h : s.Valid nameOf) (hn : Named nameOf pod.uid pod)
    (hs : s.Settled nameOf pod.uid) : (onTenantPodGone action s pod).fst.Valid nameOf := by
  rw [System.onTenantPodGone]
  split
  case isTrue => exact h
  case isFalse =>
    split
    case isTrue => exact h
    case isFalse => exact h.scheduleOnNode hn hs

theorem act (h : s.Valid nameOf) (hn : ∀ pod ∈ a.pods, pod.name = nameOf pod.uid)
    (ht : s.Timely nameOf a) (hs : s.act k a = some s') : s'.Valid nameOf := by
  have hn' {pod} (hp : pod ∈ a.pods) : Named nameOf pod.uid pod := ⟨rfl, hn pod hp⟩
  cases a <;> simp only [System.act] at hs
  case create pod =>
    split at hs <;> cases hs
    exact h.create (hn' (List.mem_singleton_self _)) ht
  case change pod =>
    split at hs <;> cases hs
    exact h.change (hn' (List.mem_singleton_self _)) ‹_›
  case remove name => cases hs; exact h.remove
  case edgeDevice name present => cases hs; exact { h with }
  case virtualNode name i => cases hs; exact { h with }
  case tenantPodUpdated oldPod newPod => cases hs; exact h.onTenantPodUpdated (hn' (by simp [Action.pods])) ht
  case tenantPodDeleting pod => cases hs; exact h.onTenantPodGone (hn' (by simp [Action.pods])) ht
  case tenantPodDeleted pod => cases hs; exact h.onTenantPodGone (hn' (by simp [Action.pods])) ht
  case lookup i pod =>
    cases hs
    exact h.setManager ((h.managers i).lookup (hn' (by simp [Action.pods])))
  case stale i podUID =>
    split at hs <;> cases hs
    exact h.setManager ((h.managers i).deleteStale ht)
  case moveResource i move =>
    obtain ⟨c, hc, rfl⟩ := Option.map_eq_some_iff.mp hs
    apply h.setManager
    apply (h.managers i).setResource
    case hc => exact fun ho => .inl (Core.cache_move hc ▸ ho)
    case hp => exact fun hp _ => .inl (hp.of_move hc)
  case moveDevice i move =>
    obtain ⟨c, hc, rfl⟩ := Option.map_eq_some_iff.mp hs
    apply h.setManager
    apply (h.managers i).setDevice
    case hc => exact fun ho => .inl (Core.cache_move hc ▸ ho)
    case hp => exact fun hp _ => .inl (hp.of_move hc)
  case handleResource i job a => exact h.handleResourceJob hs
  case handleDevice i job a => exact h.handleDeviceJob hs

theorem step (h : s.Valid nameOf) (ht : s.Timely nameOf a) (hs : s.step nameOf k a = some s') :
    s'.Valid nameOf := by
  rw [System.step] at hs
  split at hs
  case isTrue hn => exact h.act hn ht hs
  case isFalse => cases hs

end Valid

theorem deletions_right {managers : Nat → Manager ρ} {hostIP : Nat → Bytes}
    (e : Execution (System.step nameOf k) (new managers hostIP) as s)
    (ht : Along (System.step nameOf k) (Timely nameOf) (new managers hostIP) as) : Right s.log :=
  (e.preserves_along Valid.step valid_new ht).log

def replica (uid : Bytes) : Kube.Pod :=
  { samplePod with uid := uid, nodeName := [9] }

abbrev replicaStep : System Unit → Action → Option (System Unit) :=
  System.step (fun _ => [7]) (.answering none)

abbrev replicaNew : System Unit :=
  new (fun _ => .idle ()) fun _ => []

theorem deletions_right_replaced :
    let as : List Action :=
      [.edgeDevice [9] true, .virtualNode [9] (some 0), .create (replica [1]),
       .tenantPodUpdated (replica [1]) (replica [1]),
       .moveResource 0 .take, .handleResource 0 ⟨.update, [1]⟩ { backoff := 1 },
       .moveDevice 0 .take, .handleDevice 0 ⟨.add, [1]⟩ { backoff := 1 },
       .tenantPodDeleting (replica [1]),
       .moveResource 0 .take, .handleResource 0 ⟨.delete, [1]⟩ { backoff := 1 },
       .moveDevice 0 .take, .handleDevice 0 ⟨.delete, [1]⟩ { backoff := 1 },
       .moveDevice 0 .take, .handleDevice 0 ⟨.cleanup, [1]⟩ { backoff := 1 },
       .create (replica [2])]
    ∃ s, Execution replicaStep replicaNew as s ∧ s.log = [⟨[1], [7], some (replica [1])⟩] ∧ Right s.log := by
  intro as
  obtain ⟨s, e, hl⟩ : ∃ s, Execution replicaStep replicaNew as s ∧
      s.log = [⟨[1], [7], some (replica [1])⟩] :=
    ⟨_, .of_foldlM rfl, rfl⟩
  have hh {s : System Unit} {uid : Bytes} (h : (s.pods [7]).map (·.uid) = some uid) :
      s.Settled (fun _ => [7]) uid := by
    intro pod hp
    simpa [hp] using h
  have ht : Along replicaStep (Timely fun _ => [7]) replicaNew as := by
    refine .cons trivial rfl <| .cons trivial rfl <| .cons ?new rfl <| .cons (hh rfl) rfl <|
      .cons trivial rfl <| .cons trivial rfl <| .cons trivial rfl <| .cons trivial rfl <|
      .cons (hh rfl) rfl <| .cons trivial rfl <| .cons trivial rfl <| .cons trivial rfl <|
      .cons trivial rfl <| .cons trivial rfl <| .cons trivial rfl <| .cons ?gone rfl trivial
    -- Both replicas are created while there are no jobs at all.
    case new | gone =>
      intro i job hp
      cases i <;>
        exact absurd hp (not_or.mpr ⟨Core.not_pending rfl rfl rfl, Core.not_pending rfl rfl rfl⟩)
  exact ⟨s, e, hl, deletions_right e ht⟩

-- The first replica has never been admitted. It is gone when the event of its deletion arrives, and
-- its successor is deleted instead.
theorem not_right_replaced :
    let as : List Action :=
      [.edgeDevice [9] true, .virtualNode [9] (some 0), .create (replica [1]), .remove [7],
       .create (replica [2]), .tenantPodDeleted (replica [1]),
       .moveResource 0 .take, .handleResource 0 ⟨.cleanup, [1]⟩ { backoff := 1 },
       .moveResource 0 .take, .handleResource 0 ⟨.delete, [1]⟩ { backoff := 1 }]
    ∃ s, Execution replicaStep replicaNew as s ∧ s.pods [7] = none ∧ ¬Right s.log := by
  intro as
  refine ⟨_, .of_foldlM rfl, rfl, fun hr => ?_⟩
  have := hr ⟨[1], [7], some (replica [2])⟩ (List.mem_singleton_self _) (replica [2]) rfl
  exact absurd this (by decide)

end System
end Aranya.Pod
