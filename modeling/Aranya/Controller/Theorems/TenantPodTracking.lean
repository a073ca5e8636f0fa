import Aranya.Controller.TenantPodTracking
import Aranya.Lib.Execution
import Aranya.Pod.Samples

namespace Aranya.Pod.Tracking

open Std (ExtTreeSet)

variable {ρ : Type} {s s' : Tracking ρ} {event : Event ρ} {events : List (Event ρ)}
    {pod oldPod newPod : Kube.Pod} {name : Bytes} {err : Option Bytes} {names : ExtTreeSet Bytes}
    {inserts requests : Bool} {name' : Bytes}

def manages (edgeDevices : Bytes → Bool) (pod : Kube.Pod) : Bool :=
  !edgeDevices pod.name && edgeDevices pod.nodeName

def Managed (s : Tracking ρ) (name : Bytes) : Prop :=
  ∃ pod, s.existing name = some pod ∧ manages s.system.edgeDevices pod

def Tracks (s : Tracking ρ) : Prop :=
  ∀ name, name ∈ s.tenantPods ↔ s.Managed name

structure Handled (s s' : Tracking ρ) : Prop where
  tracks : s'.Tracks
  requested : s'.tenantPods ≠ s.tenantPods → s.ensureRequests < s'.ensureRequests

structure Effect (s : Tracking ρ) (name : Bytes) (pod : Option Kube.Pod) (inserts requests : Bool)
    (s' : Tracking ρ) : Prop where
  edgeDevices : s'.system.edgeDevices = s.system.edgeDevices
  existing : s'.existing = Function.update s.existing name pod
  tenantPods : s'.tenantPods = if inserts then s.tenantPods.insert name else s.tenantPods
  ensureRequests : s'.ensureRequests = if requests then s.ensureRequests + 1 else s.ensureRequests

section Effects

theorem edgeDevices_onTenantPodUpdated {s : System ρ} :
    (s.onTenantPodUpdated oldPod newPod).fst.edgeDevices = s.edgeDevices := by
  simp only [System.onTenantPodUpdated, System.scheduleOnNode, System.schedulePodJob, System.setManager]
  repeat' split
  all_goals rfl

theorem edgeDevices_onTenantPodGone {s : System ρ} {action : JobAction} :
    (System.onTenantPodGone action s pod).fst.edgeDevices = s.edgeDevices := by
  simp only [System.onTenantPodGone, System.scheduleOnNode, System.schedulePodJob, System.setManager]
  repeat' split
  all_goals rfl

theorem added_effect : Effect s pod.name (some pod) (manages s.system.edgeDevices pod)
    (manages s.system.edgeDevices pod) ((s.onTenantPodAdded err pod).fst.tell pod.name (some pod)) := by
  simp only [onTenantPodAdded, requestTenantPodRoleEnsure, addTenantPod]
  split
  case isTrue h => exact ⟨rfl, rfl, by simp [tell, manages, h], by simp [tell, manages, h]⟩
  split
  case isTrue h => exact ⟨rfl, rfl, by simp_all [tell, manages], by simp_all [tell, manages]⟩
  cases err
  all_goals exact ⟨rfl, rfl, by simp_all [tell, manages], by simp_all [tell, manages]⟩

theorem updated_effect : Effect s newPod.name (some newPod) (manages s.system.edgeDevices newPod) false
    ((s.onTenantPodUpdated oldPod newPod).fst.tell newPod.name (some newPod)) := by
  simp only [onTenantPodUpdated, addTenantPod]
  split
  all_goals exact ⟨edgeDevices_onTenantPodUpdated, rfl, by simp_all [tell, manages], rfl⟩

theorem deleting_effect : Effect s pod.name (some pod) false false
    ((s.onTenantPodDeleting pod).fst.tell pod.name (some pod)) :=
  ⟨edgeDevices_onTenantPodGone, rfl, rfl, rfl⟩

-- A set does not get smaller by inserting a name, so the role is never ensured.
theorem removeTenantPod_snd : (removeTenantPod names name).snd = false := by
  simp only [removeTenantPod, gt_iff_lt, decide_eq_false_iff_not, not_lt]
  exact ExtTreeSet.size_le_size_insert

theorem deleted_effect : Effect s pod.name none (manages s.system.edgeDevices pod) false
    ((s.onTenantPodDeleted err pod).fst.tell pod.name none) := by
  simp only [onTenantPodDeleted]
  split
  case isTrue h => exact ⟨rfl, rfl, by simp [tell, manages, h], rfl⟩
  split
  case isTrue h => exact ⟨rfl, rfl, by simp_all [tell, manages], rfl⟩
  rw [removeTenantPod_snd]
  exact ⟨edgeDevices_onTenantPodGone, rfl, by simp_all [tell, manages, removeTenantPod], rfl⟩

end Effects

theorem Effect.managed_iff {pod : Option Kube.Pod}
    (h : Effect s name pod inserts requests s') :
    s'.Managed name' ↔ if name' = name then ∃ p, pod = some p ∧ manages s.system.edgeDevices p
      else s.Managed name' := by
  simp only [Managed, h.existing, h.edgeDevices, Function.update_apply]
  split <;> rfl

theorem Effect.mem_tenantPods_iff {pod : Option Kube.Pod}
    (h : Effect s name pod inserts requests s') :
    name' ∈ s'.tenantPods ↔ name' ∈ s.tenantPods ∨ inserts ∧ name' = name := by
  rw [h.tenantPods]
  cases inserts
  case false => simp
  case true => simp [ExtTreeSet.mem_insert, or_comm, @eq_comm _ name']

theorem Effect.tracks_iff {pod : Option Kube.Pod} (ht : s.Tracks)
    (h : Effect s name pod inserts requests s') : s'.Tracks ↔
    ((s.Managed name ∨ inserts) ↔ ∃ p, pod = some p ∧ manages s.system.edgeDevices p) := by
  simp only [Tracks, h.managed_iff, h.mem_tenantPods_iff, ht _]
  constructor
  case mp =>
    intro hs
    have hn := hs name
    rwa [if_pos rfl, and_iff_left rfl] at hn
  case mpr =>
    intro hn name'
    split
    case isTrue he => rw [he, and_iff_left rfl, hn]
    case isFalse hne => simp [hne]

theorem Effect.requested_iff {pod : Option Kube.Pod} (ht : s.Tracks)
    (h : Effect s name pod inserts requests s') :
    (s'.tenantPods ≠ s.tenantPods → s.ensureRequests < s'.ensureRequests) ↔
    (inserts → s.Managed name ∨ requests) := by
  have hr : s.ensureRequests < s'.ensureRequests ↔ requests := by
    rw [h.ensureRequests]
    cases requests <;> simp
  have hc : s'.tenantPods = s.tenantPods ↔ (inserts → s.Managed name) := by
    rw [← ht, ExtTreeSet.ext_mem_iff]
    simp only [h.mem_tenantPods_iff]
    constructor
    case mp => exact fun hs hi => (hs name).mp (.inr ⟨hi, rfl⟩)
    case mpr =>
      refine fun hs name' => ⟨?_, .inl⟩
      rintro (hm | ⟨hi, rfl⟩)
      case inl => exact hm
      case inr => exact hs hi
  rw [ne_eq, hc, hr]
  tauto

theorem Effect.handled_iff {pod : Option Kube.Pod} (ht : s.Tracks)
    (h : Effect s name pod inserts requests s') : Handled s s' ↔
    ((s.Managed name ∨ inserts) ↔ ∃ p, pod = some p ∧ manages s.system.edgeDevices p) ∧
    (inserts → s.Managed name ∨ requests) := by
  rw [← h.tracks_iff ht, ← h.requested_iff ht]
  exact ⟨fun hh => ⟨hh.tracks, hh.requested⟩, fun hh => ⟨hh.left, hh.right⟩⟩

-- A managed pod stays managed, it is added before it is updated, and none is deleted.
def Orderly (s : Tracking ρ) : Event ρ → Prop
  | .added pod _ => s.Managed pod.name → manages s.system.edgeDevices pod
  | .updated _ newPod => s.Managed newPod.name ↔ manages s.system.edgeDevices newPod
  | .deleting pod => s.Managed pod.name ↔ manages s.system.edgeDevices pod
  | .deleted pod _ => ¬s.Managed pod.name ∧ ¬manages s.system.edgeDevices pod
  | .other _ => True

theorem step_handled_iff (ht : s.Tracks) (h : s.step event = some s') : Handled s s' ↔ s.Orderly event := by
  cases event <;> cases h
  case added pod err =>
    rw [added_effect.handled_iff ht]
    simp only [Orderly, Option.some.injEq, exists_eq_left']
    tauto
  case updated oldPod newPod =>
    rw [updated_effect.handled_iff ht]
    simp only [Orderly, Option.some.injEq, exists_eq_left', Bool.false_eq_true]
    tauto
  case deleting pod =>
    rw [deleting_effect.handled_iff ht]
    simp only [Orderly, Option.some.injEq, exists_eq_left', Bool.false_eq_true]
    tauto
  case deleted pod err =>
    rw [deleted_effect.handled_iff ht]
    simp only [Orderly, reduceCtorEq, false_and, exists_false, iff_false, not_or, Bool.false_eq_true]
    tauto
  case other system =>
    simp only [Orderly, iff_true]
    exact ⟨ht, fun hne => absurd rfl hne⟩

theorem handled_iff_orderly (ht : s.Tracks) (e : Execution step s events s') :
    (∀ pre event s₁ s₂, pre ++ [event] <+: events → Execution step s pre s₁ → s₁.step event = some s₂ →
      Handled s₁ s₂) ↔
    Along step Orderly s events :=
  e.steps_iff_along (fun ht ho hs => (step_handled_iff ht hs).mpr ho |>.tracks)
    (fun ht hs => step_handled_iff ht hs) ht

def sample : Tracking Unit where
  system :=
    { pods _ := none, edgeDevices := (· = [1]), virtualNodes _ := none,
      managers _ := PodManager.newManager [] [] none (), log := [] }
  tenantPods := ∅
  ensureRequests := 0
  existing _ := none

theorem sample_tracks : sample.Tracks := by
  intro name
  simp [sample, Managed]

theorem handled_iff_orderly_added :
    let events : List (Event Unit) := [.added (podOn [2] [1]) none, .updated (podOn [2] [1]) (podOn [2] [1]),
      .added (podOn [3] [4]) none]
    ∃ s, Execution step sample events s ∧ s.tenantPods.toList = [[2]] ∧
      ∀ pre event s₁ s₂, pre ++ [event] <+: events → Execution step sample pre s₁ →
        s₁.step event = some s₂ → Handled s₁ s₂ := by
  intro events
  obtain ⟨s, e, hp⟩ : ∃ s, Execution step sample events s ∧ s.tenantPods.toList = [[2]] :=
    ⟨_, .of_foldlM rfl, by decide +kernel⟩
  refine ⟨s, e, hp, (handled_iff_orderly sample_tracks e).mpr ?_⟩
  refine .cons (fun _ => rfl) rfl <| .cons ?updated rfl <| .cons ?added rfl trivial
  case updated => exact iff_of_true ⟨podOn [2] [1], rfl, rfl⟩ rfl
  case added =>
    rintro ⟨pod, hp, -⟩
    cases hp

-- The pod is deleted, and its name is still there.
theorem not_tracks_deleted :
    ∃ s, Execution step sample [.added (podOn [2] [1]) none, .deleted (podOn [2] [1]) none] s ∧
    s.existing [2] = none ∧ [2] ∈ s.tenantPods ∧ ¬s.Tracks := by
  refine ⟨_, .trans rfl (.single rfl), rfl, by decide, fun ht => ?_⟩
  obtain ⟨pod, hp, -⟩ := (ht [2]).mp (by decide)
  cases hp

end Aranya.Pod.Tracking
