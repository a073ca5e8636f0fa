import Aranya.Lib.List
import Aranya.Pod.Status

namespace Aranya.Pod

variable {ps : Runtime.PodStatusMsg} {containers cs : List Kube.Container} {ctr : Kube.Container}
    {w : Kube.PodPhase}

def reported (ps : Runtime.PodStatusMsg) (ctr : Kube.Container) : Option Runtime.PodState :=
  ps.containers[ctr.name]?.join.map (·.getState)

def vote (ps : Runtime.PodStatusMsg) (ctr : Kube.Container) : Option Kube.PodPhase :=
  (reported ps ctr).bind containerPhase

theorem vote_eq : vote ps ctr = ps.containers[ctr.name]?.join.bind fun s => containerPhase s.getState := by
  rw [vote, reported, Option.bind_map]
  rfl

theorem vote_eq_some_iff :
    vote ps ctr = some w ↔ ∃ state, reported ps ctr = some state ∧ containerPhase state = some w :=
  Option.bind_eq_some_iff

theorem vote_cases (h : vote ps ctr = some w) :
    reported ps ctr = some .pending ∧ w = .pending ∨ reported ps ctr = some .succeeded ∧ w = .succeeded ∨
    reported ps ctr = some .failed ∧ w = .failed := by
  obtain ⟨state, hr, hp⟩ := vote_eq_some_iff.mp h
  cases state <;> simp_all [containerPhase]

def phase (containers : List Kube.Container) (ps : Runtime.PodStatusMsg) : Option Kube.PodPhase :=
  (resolveContainerStatus containers ps).map Prod.fst

def Present (containers : List Kube.Container) (ps : Runtime.PodStatusMsg) : Prop :=
  ∀ ctr ∈ containers, ps.containers[ctr.name]? ≠ some none

theorem Present.perm (h : Present containers ps) (hc : cs.Perm containers) : Present cs ps :=
  fun ctr hm => h ctr (hc.subset hm)

theorem resolveContainerStatus_isSome : (resolveContainerStatus containers ps).isSome ↔ Present containers ps := by
  simp [resolveContainerStatus, Present]

theorem mirrorStatus_isSome {parseCIDR : Bytes → Option IPFamily} {pod : Kube.Pod} {b : Bool} :
    (mirrorStatus parseCIDR pod ps b).isSome ↔ Present (if b then pod.initContainers else pod.containers) ps := by
  rw [mirrorStatus, Option.isSome_map]
  cases b
  case false => exact (congrArg (· = true) Option.isSome_map).to_iff.trans resolveContainerStatus_isSome
  case true => exact (congrArg (· = true) Option.isSome_map).to_iff.trans resolveContainerStatus_isSome

theorem phase_eq (h : Present containers ps) :
    phase containers ps = some ((containers.filterMap (vote ps)).getLastD .running) := by
  rw [← foldl_getD, phase, resolveContainerStatus, if_neg (by simpa [Present] using h)]
  simp only [vote_eq]
  rfl

theorem phase_concat (hs : Present (cs ++ [ctr]) ps) (h : vote ps ctr = some w) :
    phase (cs ++ [ctr]) ps = some w := by
  simp [phase_eq hs, h]

theorem phase_of_agree (hs : Present containers ps) (h : ∀ ctr ∈ containers, ∀ v, vote ps ctr = some v → v = w) :
    phase containers ps = some (if containers.filterMap (vote ps) = [] then .running else w) := by
  have hv : ∀ v ∈ containers.filterMap (vote ps), v = w := by
    intro v hv
    obtain ⟨ctr, hc, hv⟩ := List.mem_filterMap.mp hv
    exact h ctr hc v hv
  rw [phase_eq hs]
  split
  case isTrue hn => rw [hn]; rfl
  case isFalse hn =>
    rw [List.getLastD_eq_getLast?, List.getLast?_eq_some_getLast hn, Option.getD_some]
    exact congrArg some <| hv _ (List.getLast_mem hn)

structure PhaseSound (containers : List Kube.Container) (ps : Runtime.PodStatusMsg) : Prop where
  returned : (phase containers ps).isSome
  perm : ∀ cs, cs.Perm containers → phase cs ps = phase containers ps
  succeeded : phase containers ps = some .succeeded → ∀ ctr ∈ containers, reported ps ctr = some .succeeded
  exited : phase containers ps = some .succeeded ∨ phase containers ps = some .failed →
    ∀ ctr ∈ containers, reported ps ctr ≠ some .running ∧ reported ps ctr ≠ some .pending

theorem PhaseSound.present (h : PhaseSound containers ps) : Present containers ps :=
  resolveContainerStatus_isSome.mp <| Option.isSome_map.symm.trans h.returned

theorem PhaseSound.phase_eq (h : PhaseSound containers ps) (hc : ctr ∈ containers)
    (hv : vote ps ctr = some w) : phase containers ps = some w := by
  obtain ⟨before, after, rfl⟩ := List.append_of_mem hc
  have hp : (before ++ after ++ [ctr]).Perm (before ++ ctr :: after) := by
    rw [List.append_assoc]
    exact List.perm_append_singleton ctr after |>.append_left before
  rw [← h.perm _ hp, phase_concat (h.present.perm hp) hv]

theorem PhaseSound.of_agree (hc : Present containers ps)
    (h : ∀ ctr ∈ containers, ∀ v, vote ps ctr = some v → v = w)
    (hs : w = .succeeded → ∀ ctr ∈ containers, reported ps ctr = some .succeeded)
    (he : w = .succeeded ∨ w = .failed →
      ∀ ctr ∈ containers, reported ps ctr ≠ some .running ∧ reported ps ctr ≠ some .pending) :
    PhaseSound containers ps := by
  have hp := phase_of_agree hc h
  have hw {v : Kube.PodPhase} (hv : v ≠ .running) (hx : phase containers ps = some v) : w = v := by
    rw [hp, Option.some.injEq] at hx
    split at hx
    case isTrue => exact (hv hx.symm).elim
    case isFalse => exact hx
  constructor
  case returned => rw [hp]; rfl
  case perm =>
    intro cs hm
    have hn : cs.filterMap (vote ps) = [] ↔ containers.filterMap (vote ps) = [] := by
      have hf := hm.filterMap (vote ps)
      exact ⟨fun h => (h ▸ hf).nil_eq.symm, fun h => (h ▸ hf).eq_nil⟩
    rw [hp, phase_of_agree (hc.perm hm) fun ctr hc => h ctr (hm.subset hc)]
    simp only [hn]
  case succeeded =>
    intro hx
    exact hs (hw (by simp) hx)
  case exited =>
    intro hx
    exact he (hx.imp (hw (by simp)) (hw (by simp)))

theorem PhaseSound.of_not_exited (hp : Present containers ps)
    (h : ∀ ctr ∈ containers, reported ps ctr ≠ some .succeeded ∧ reported ps ctr ≠ some .failed) :
    PhaseSound containers ps := by
  refine .of_agree (w := .pending) hp (fun ctr hc v hv => ?_) (by simp) (by simp)
  have hr := h ctr hc
  have hv := vote_cases hv
  grind

theorem PhaseSound.of_succeeded (hp : Present containers ps)
    (h : ∀ ctr ∈ containers, reported ps ctr = some .succeeded) : PhaseSound containers ps := by
  refine .of_agree (w := .succeeded) hp (fun ctr hc v hv => ?agree) (fun _ => h) fun _ ctr hc => ?exited
  case agree =>
    have hr := h ctr hc
    have hv := vote_cases hv
    grind
  case exited => simp [h ctr hc]

theorem PhaseSound.of_not_left (hp : Present containers ps)
    (h : ∀ ctr ∈ containers, reported ps ctr ≠ some .succeeded ∧ reported ps ctr ≠ some .running ∧
      reported ps ctr ≠ some .pending) : PhaseSound containers ps := by
  refine .of_agree (w := .failed) hp (fun ctr hc v hv => ?_) (by simp) fun _ ctr hc => (h ctr hc).right
  have hr := h ctr hc
  have hv := vote_cases hv
  grind

-- This is so iff there is no entry without a value, and no container has exited, all have succeeded, or
-- none has succeeded and none is still running or pending.
theorem phase_sound_iff (containers : List Kube.Container) (ps : Runtime.PodStatusMsg) :
    PhaseSound containers ps ↔
    (∀ ctr ∈ containers, ps.containers[ctr.name]? ≠ some none) ∧
    ((∀ ctr ∈ containers, reported ps ctr ≠ some .succeeded ∧ reported ps ctr ≠ some .failed) ∨
     (∀ ctr ∈ containers, reported ps ctr = some .succeeded) ∨
     ∀ ctr ∈ containers, reported ps ctr ≠ some .succeeded ∧ reported ps ctr ≠ some .running ∧
       reported ps ctr ≠ some .pending) := by
  constructor
  case mp =>
    intro h
    refine ⟨h.present, ?_⟩
    by_cases hs : ∃ ctr ∈ containers, reported ps ctr = some .succeeded
    case pos =>
      obtain ⟨ctr, hc, hr⟩ := hs
      have hp := h.phase_eq hc (vote_eq_some_iff.mpr ⟨_, hr, rfl⟩)
      exact .inr <| .inl <| h.succeeded hp
    case neg =>
      have hs' : ∀ ctr ∈ containers, reported ps ctr ≠ some .succeeded := fun ctr hc hr => hs ⟨ctr, hc, hr⟩
      by_cases hf : ∃ ctr ∈ containers, reported ps ctr = some .failed
      case pos =>
        obtain ⟨ctr, hc, hr⟩ := hf
        have hp := h.phase_eq hc (vote_eq_some_iff.mpr ⟨_, hr, rfl⟩)
        exact .inr <| .inr fun ctr hc => ⟨hs' ctr hc, h.exited (.inr hp) ctr hc⟩
      case neg => exact .inl fun ctr hc => ⟨hs' ctr hc, fun hr => hf ⟨ctr, hc, hr⟩⟩
  case mpr =>
    rintro ⟨hp, h | h | h⟩
    case inl => exact .of_not_exited hp h
    case inr.inl => exact .of_succeeded hp h
    case inr.inr => exact .of_not_left hp h

def halfFailed : Runtime.PodStatusMsg where
  uid := [1]
  network := none
  containers := (∅ : Std.ExtTreeMap Bytes (Option Runtime.ContainerStatus))
    |>.insert [1] (some ⟨[1], [], 1, 1, 2, 1, [], []⟩)
    |>.insert [2] (some ⟨[2], [], 1, 1, 2, 0, [], []⟩)

def halfFailedContainers : List Kube.Container :=
  [{ name := [1], image := [1] }, { name := [2], image := [2] }]

-- The pod has succeeded, and in the other order it has failed.
theorem not_phaseSound_halfFailed :
    phase halfFailedContainers halfFailed = some .succeeded ∧
    phase halfFailedContainers.reverse halfFailed = some .failed ∧ ¬PhaseSound halfFailedContainers halfFailed := by
  have h₁ : phase halfFailedContainers halfFailed = some .succeeded := by decide
  have h₂ : phase halfFailedContainers.reverse halfFailed = some .failed := by decide
  refine ⟨h₁, h₂, fun h => ?_⟩
  have := h.perm _ (List.reverse_perm _)
  rw [h₁, h₂] at this
  cases this

end Aranya.Pod
