import Aranya.Controller.VirtualPod
import Aranya.Pod.Samples

namespace Aranya.Pod

variable {o : PodOutcomes} {m m' : Manager (Nat × Nat)} {pod newPod po sent : Kube.Pod} {log : List Event}
    {fuel n i : Nat} {status : Kube.PodStatus}

def scripted (o : PodOutcomes) : Cluster (Nat × Nat) where
  getPod c _ := ((c.fst, c.snd + 1), o.lookups c.snd)
  updatePodStatus c _ := ((c.fst + 1, c.snd), o.updates c.fst)
  getNode c := (c, none)
  updateNodeStatus c n := (c, .ok n)
  getClaim c _ := (c, .error [])
  getVolume c _ := (c, .error [])
  parseCIDR _ := none

def Written (status : Kube.PodStatus) (log : List Event) : Prop :=
  ∃ pod, .podStatus pod ∈ log ∧ pod.status = status

theorem updates_scripted {r : Nat × Nat} {e : Option Kube.ApiError}
    (h : (scripted o).updatePodStatus m.cluster pod = (r, e)) :
    r.fst = m.cluster.fst + 1 ∧ o.updates m.cluster.fst = e :=
  ⟨congrArg (·.fst.fst) h.symm, congrArg Prod.snd h⟩

theorem getPod_scripted {name : Bytes} {x : Option Kube.Pod}
    (h : m.getPod (scripted o) name = (m', x)) : m'.cluster.fst = m.cluster.fst := by
  rw [Manager.getPod] at h
  split at h
  case h_1 hg => cases h; exact congrArg (·.fst.fst) hg.symm
  case h_2 hg => cases h; exact congrArg (·.fst.fst) hg.symm

theorem written_tryUpdateStatus
    (h : Manager.tryUpdateStatus (scripted o) n m pod = (m', newPod, log, false)) :
    Written pod.status log ↔ ∃ i < n, o.updates (m.cluster.fst + i) = none := by
  induction n generalizing m pod
  case zero => cases h; simp [Written]
  case succ n hi =>
    rw [Manager.tryUpdateStatus] at h
    rw [Nat.exists_lt_succ_left, Nat.add_zero]
    split at h
    case h_1 hu =>
      cases h
      simp [Written, (updates_scripted hu).right]
    case h_2 => cases h
    case h_3 e hu =>
      obtain ⟨hr, hu⟩ := updates_scripted hu
      -- Whether the pod is found or not, the next attempt sends the same status.
      have hs : ∀ {m₁ : Manager (Nat × Nat)} {pod₁ : Kube.Pod},
          Manager.tryUpdateStatus (scripted o) n m₁ pod₁ = (m', newPod, log, false) →
          m₁.cluster.fst = m.cluster.fst + 1 → pod₁.status = pod.status →
          (Written pod.status log ↔ ∃ i < n, o.updates (m.cluster.fst + (i + 1)) = none) := by
        intro m₁ pod₁ h hm hp
        rw [← hp, hi h, hm]
        simp only [Nat.add_assoc, Nat.add_comm 1]
      rw [or_iff_right (by simp [hu])]
      split at h
      case h_1 hg => exact hs h ((getPod_scripted hg).trans hr) rfl
      case h_2 hg => exact hs h ((getPod_scripted hg).trans hr) rfl

theorem written_updatePodStatus (hm : m.cluster.fst = 0)
    (h : m.updatePodStatus (scripted o) pod = (m', log, .ok newPod)) :
    Written pod.status log ↔ ∃ i < Manager.tryCount, o.updates i = none := by
  rw [Manager.updatePodStatus] at h
  split at h
  case h_1 => cases h
  case h_2 ht =>
    have hw := written_tryUpdateStatus ht
    simp only [hm, Nat.zero_add] at hw
    split at h
    case h_1 => cases h
    case h_2 => cases h; exact hw

theorem retryVirtualPod_updated (h : o.retryVirtualPod fuel (i + 1) = some (.updated sent)) :
    ∃ n, i ≤ n ∧ (∀ j, i < j → j ≤ n → o.updates j ≠ none) ∧ o.updates (n + 1) = none ∧
      o.lookups n = some sent := by
  induction fuel generalizing i
  case zero => cases h
  case succ fuel hi =>
    rw [PodOutcomes.retryVirtualPod, Nat.add_sub_cancel] at h
    split at h
    case h_1 => cases h
    case h_2 po hl =>
      split at h
      case h_1 hu =>
        cases h
        exact ⟨i, le_rfl, by omega, hu, hl⟩
      case h_2 => cases h
      case h_3 e hu =>
        obtain ⟨n, hn, hf, hs, hl⟩ := hi h
        refine ⟨n, by omega, fun j hj hjn => ?_, hs, hl⟩
        by_cases he : j = i + 1
        case pos => simp [he, hu]
        case neg => exact hf j (by omega) hjn

-- The first call of `UpdateStatus` that succeeds comes after `n + 1` others.
structure FirstSuccess (o : PodOutcomes) (n : Nat) : Prop where
  failed : ∀ i ≤ n, o.updates i ≠ none
  succeeded : o.updates (n + 1) = none

theorem FirstSuccess.unique {n₁ n₂ : Nat} (h₁ : FirstSuccess o n₁) (h₂ : FirstSuccess o n₂) : n₁ = n₂ := by
  by_contra hn
  cases Nat.lt_or_gt_of_ne hn
  case inl hl => exact h₂.failed (n₁ + 1) hl h₁.succeeded
  case inr hl => exact h₁.failed (n₂ + 1) hl h₂.succeeded

theorem updateVirtualPodStatus_updated (h : o.updateVirtualPodStatus fuel po = some (.updated sent)) :
    o.updates 0 = none ∧ sent = po ∨ ∃ n, FirstSuccess o n ∧ o.lookups n = some sent := by
  rw [PodOutcomes.updateVirtualPodStatus] at h
  split at h
  case h_1 hu => cases h; exact .inl ⟨hu, rfl⟩
  case h_2 hu =>
    obtain ⟨n, -, hf, hs, hl⟩ := retryVirtualPod_updated h
    refine .inr ⟨n, ⟨fun i hi => ?_, hs⟩, hl⟩
    cases i
    case zero => simp [hu]
    case succ i => exact hf _ (Nat.succ_pos i) hi

-- A status is written iff one of five attempts succeeds. For a virtual pod that exists, this is so iff the
-- first attempt succeeds, or the pod which is looked up before the first that does has the status already.
theorem status_written_iff (o : PodOutcomes) :
    (∀ (m m' : Manager (Nat × Nat)) pod log newPod, m.cluster = (0, 0) →
      m.updatePodStatus (scripted o) pod = (m', log, .ok newPod) →
      (Written pod.status log ↔ ∃ i < Manager.tryCount, o.updates i = none)) ∧
    ∀ fuel po sent, o.updateVirtualPodStatus fuel po = some (.updated sent) →
      (sent.status = po.status ↔
        o.updates 0 = none ∨ ∃ n p, FirstSuccess o n ∧ o.lookups n = some p ∧ p.status = po.status) := by
  constructor
  case left =>
    intro m m' pod log newPod hm h
    exact written_updatePodStatus (by rw [hm]) h
  case right =>
    intro fuel po sent h
    obtain ⟨hu, rfl⟩ | ⟨n, hf, hl⟩ := updateVirtualPodStatus_updated h
    case inl => simp [hu]
    case inr =>
      constructor
      case mp => exact fun hs => .inr ⟨n, sent, hf, hl, hs⟩
      case mpr =>
        rintro (hu | ⟨n', p, hf', hl', hs⟩)
        case inl => exact absurd hu (hf.failed 0 (Nat.zero_le n))
        case inr =>
          cases hf.unique hf'
          cases hl.symm.trans hl'
          exact hs

def phasePod (phase : Kube.PodPhase) : Kube.Pod :=
  { samplePod with status.phase := phase }

def conflicts (updates : Nat → Option Kube.ApiError) : PodOutcomes where
  updates := updates
  lookups := fun _ => some (phasePod .pending)

-- No attempt succeeds without an error, and after one conflict the virtual pod is sent as it was before.
theorem not_status_written :
    (∃ m' newPod, (Manager.idle (0, 0)).updatePodStatus
      (scripted (conflicts fun _ => some (.other (str "conflict")))) (phasePod .failed) =
      (m', [], .ok newPod)) ∧
    (conflicts fun i => if i = 0 then some (.other (str "conflict")) else none).updateVirtualPodStatus 1
      (phasePod .running) = some (.updated (phasePod .pending)) :=
  ⟨⟨_, _, rfl⟩, rfl⟩

end Aranya.Pod
