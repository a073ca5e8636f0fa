import Aranya.Controller.SysPod
import Aranya.Controller.Theorems.Roles
import Aranya.Lib.Except

namespace Aranya.EdgeDevice

variable {quote : Bytes → Bytes} {sysNS name : Bytes} {peripherals : List PeripheralSpec} {a : Answers}
    {pod old : Kube.Pod} {news olds : List Kube.Container}

def SameContainer (new old : Kube.Container) : Prop :=
  new.name = old.name ∧ new.image = old.image ∧ new.stdin = old.stdin ∧ new.tty = old.tty ∧
  new.command = old.command ∧ new.args = old.args

def AlikeContainer (new old : Kube.Container) : Prop :=
  new.name = old.name ∧ new.image = old.image ∧ new.stdin = old.stdin ∧ new.tty = old.tty ∧
  (new.command.length = old.command.length ∧ ∀ c ∈ old.command, c ∈ new.command) ∧
  (new.args.length = old.args.length ∧ ∀ c ∈ old.args, c ∈ new.args)

def Fresh (pod old : Kube.Pod) : Prop :=
  old.initContainers = [] ∧ List.Forall₂ SameContainer pod.containers old.containers

def Recreated (a : Answers) (pod : Kube.Pod) (e : Ensured Kube.Pod) : Prop :=
  .delete ∈ e.writes ∧
  ((a .delete).all (· = .notFound) → .create ∈ e.writes ∧ (a .create = none → e.stored = some pod ∧ e.err = none))

structure Refreshes (a : Answers) (generated : Except Bytes Kube.Pod) (old : Kube.Pod)
    (e : Ensured Kube.Pod) : Prop where
  stays : .delete ∉ e.writes → ∃ pod, generated = .ok pod ∧ Fresh pod old
  replaced : (¬∃ pod, generated = .ok pod ∧ Fresh pod old) → ∃ pod, generated = .ok pod ∧ Recreated a pod e

theorem checkVirtualPodUpToDate_iff : checkVirtualPodUpToDate pod old ↔
    pod.initContainers = [] ∧ List.Forall₂ AlikeContainer pod.containers old.containers := by
  simp [checkVirtualPodUpToDate, List.forall₂_iff_zip, upToDateContainer, upToDateList, AlikeContainer,
    containsAll_iff, and_assoc]

theorem virtualContainer_args {d : PeripheralSpec} {c : Kube.Container}
    (h : virtualContainer quote d = .ok c) : c.args = [] := by
  simp only [virtualContainer] at h
  split at h
  case isTrue => cases h
  case isFalse =>
    split at h
    case isTrue => cases h
    case isFalse => exact congrArg Kube.Container.args (Except.ok.inj h).symm

theorem newVirtualPod_spec (h : newVirtualPodForEdgeDevice quote sysNS name peripherals = .ok pod) :
    pod.initContainers = [] ∧ ∀ c ∈ pod.containers, c.args = [] := by
  obtain ⟨ctrs, hm, rfl⟩ := Except.map_eq_ok_iff.mp h
  refine ⟨rfl, fun c hc => ?_⟩
  obtain rfl | hc := List.mem_cons.mp hc
  case inl => rfl
  case inr =>
    obtain ⟨d, _, _, hd, rfl⟩ := (Except.exists_mem_mapM_iff hm).mp ⟨c, hc, rfl⟩
    exact virtualContainer_args hd

theorem sameContainers_iff (h : List.Forall₂ AlikeContainer news olds) (hn : ∀ c ∈ news, c.args = []) :
    List.Forall₂ SameContainer news olds ↔ List.Forall₂ (fun new old => new.command = old.command) news olds := by
  induction h
  case nil => simp
  case cons new old news olds ha _ hi =>
    obtain ⟨h₁, h₂, h₃, h₄, -, h₅, -⟩ := ha
    obtain ⟨hn, hs⟩ := List.forall_mem_cons.mp hn
    have hl : old.args = [] := List.length_eq_zero_iff.mp (by rw [← h₅, hn, List.length_nil])
    rw [List.forall₂_cons, List.forall₂_cons, hi hs]
    simp [SameContainer, h₁, h₂, h₃, h₄, hn, hl]

theorem recreated_of_not_upToDate (h : newVirtualPodForEdgeDevice quote sysNS name peripherals = .ok pod)
    (hu : ¬checkVirtualPodUpToDate pod old) :
    Recreated a pod (ensureVirtualPod quote sysNS name peripherals a (some old)) := by
  simp only [ensureVirtualPod, h, if_neg hu, Recreated]
  cases hd : a .delete
  case none =>
    simp only [createObject]
    cases a .create <;> simp
  case some e =>
    cases e
    case notFound =>
      simp only [createObject]
      cases a .create <;> simp
    case conflict => simp
    case other text => simp

-- A stored pod stays if each of its commands is among as many which are generated, whatever its init
-- containers are.
theorem ensureVirtualPod_refreshes_iff (quote : Bytes → Bytes) (sysNS name : Bytes)
    (peripherals : List PeripheralSpec) (a : Answers) (old : Kube.Pod) :
    let generated := newVirtualPodForEdgeDevice quote sysNS name peripherals
    Refreshes a generated old (ensureVirtualPod quote sysNS name peripherals a (some old)) ↔
      ∃ pod, generated = .ok pod ∧
        (List.Forall₂ AlikeContainer pod.containers old.containers → old.initContainers = [] ∧
          List.Forall₂ (fun new old => new.command = old.command) pod.containers old.containers) := by
  intro generated
  cases hg : newVirtualPodForEdgeDevice quote sysNS name peripherals
  case error e =>
    refine iff_of_false (fun h => ?_) (by simp [generated, hg])
    obtain ⟨pod, hp, -⟩ := h.stays (by simp [ensureVirtualPod, hg])
    cases hg.symm.trans hp
  case ok pod =>
    obtain ⟨hi, ha⟩ := newVirtualPod_spec hg
    have hx (P : Kube.Pod → Prop) : (∃ pod, generated = .ok pod ∧ P pod) ↔ P pod := by simp [generated, hg]
    rw [hx]
    by_cases hu : checkVirtualPodUpToDate pod old
    case pos =>
      have hc := (checkVirtualPodUpToDate_iff.mp hu).right
      have hf : Fresh pod old ↔ old.initContainers = [] ∧
          List.Forall₂ (fun new old => new.command = old.command) pod.containers old.containers := by
        rw [Fresh, sameContainers_iff hc ha]
      constructor
      case mp =>
        intro h _
        exact hf.mp <| (hx _).mp <| h.stays (by simp [ensureVirtualPod, hg, hu])
      case mpr =>
        intro h
        have hp := (hx (Fresh · old)).mpr <| hf.mpr (h hc)
        exact ⟨fun _ => hp, fun hn => absurd hp hn⟩
    case neg =>
      have hr := recreated_of_not_upToDate (a := a) hg hu
      refine iff_of_true ⟨fun hn => absurd hr.left hn, fun _ => (hx _).mpr hr⟩ fun hc => ?_
      exact absurd (checkVirtualPodUpToDate_iff.mpr ⟨hi, hc⟩) hu

-- Someone has added an init container.
theorem not_refreshes_init : ¬Refreshes (fun _ => none)
    (newVirtualPodForEdgeDevice id [] [] []) { virtualPod [] [] [] with initContainers := [hostContainer] }
    (ensureVirtualPod id [] [] [] (fun _ => none)
      (some { virtualPod [] [] [] with initContainers := [hostContainer] })) := by
  intro h
  obtain ⟨pod, -, hi, -⟩ := h.stays (by decide)
  cases hi

end Aranya.EdgeDevice
