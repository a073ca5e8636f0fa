import Aranya.Pod.Translate

namespace Aranya.Pod

variable {podSecOpts : Option Kube.PodSecurityContext} {ctrSecOpts : Option Kube.SecurityContext}
    {ctr : Kube.SecurityContext} {result : Runtime.ContainerSecuritySpec}

structure CommonSound (podSecOpts : Option Kube.PodSecurityContext)
    (ctrSecOpts : Option Kube.SecurityContext) (result : Runtime.ContainerSecuritySpec) : Prop where
  nonRoot : result.nonRoot =
    ((ctrSecOpts.bind (·.runAsNonRoot)).or (podSecOpts.bind (·.runAsNonRoot))).getD false
  user : result.user = ((ctrSecOpts.bind (·.runAsUser)).or (podSecOpts.bind (·.runAsUser))).getD (-1)
  group : result.group = ((ctrSecOpts.bind (·.runAsGroup)).or (podSecOpts.bind (·.runAsGroup))).getD (-1)
  selinux : result.selinuxOptions =
    ((ctrSecOpts.bind (·.seLinuxOptions)).or (podSecOpts.bind (·.seLinuxOptions))).map translateSELinuxOptions

structure OwnSound (ctr : Kube.SecurityContext) (result : Runtime.ContainerSecuritySpec) : Prop where
  capabilities : ∀ caps, ctr.capabilities = some caps →
    result.capsAdd = caps.add ∧ result.capsDrop = caps.drop
  readOnlyRootfs : ∀ b, ctr.readOnlyRootFilesystem = some b → result.readOnlyRootfs = b
  procMount : ∀ t, ctr.procMount = some t → result.procMountKind = procMountKind t
  privileged : ∀ b, ctr.privileged = some b → result.privileged = b

def MayEscalate (ctr : Kube.SecurityContext) : Prop :=
  ctr.privileged = some true ∨ ctr.allowPrivilegeEscalation = some true ∨
  ∃ caps, ctr.capabilities = some caps ∧ str "SYS_ADMIN" ∈ caps.add

structure SecuritySound (podSecOpts : Option Kube.PodSecurityContext)
    (ctrSecOpts : Option Kube.SecurityContext) (result : Runtime.ContainerSecuritySpec) : Prop where
  common : CommonSound podSecOpts ctrSecOpts result
  own : ∀ ctr, ctrSecOpts = some ctr → OwnSound ctr result
  escalates : result.allowNewPrivileges = true → ∃ ctr, ctrSecOpts = some ctr ∧ MayEscalate ctr

-- The settings of a container leave those alone which it has in common with the pod.
theorem CommonSound.applySecOpts (h : CommonSound podSecOpts ctrSecOpts result) :
    CommonSound podSecOpts ctrSecOpts (applySecOpts ctr result) := by
  simp only [Pod.applySecOpts]
  repeat' split
  all_goals exact ⟨h.nonRoot, h.user, h.group, h.selinux⟩

theorem OwnSound.applySecOpts (ha : result.capsAdd = []) (hd : result.capsDrop = []) :
    OwnSound ctr (applySecOpts ctr result) := by
  cases ctr
  constructor
  all_goals
    simp only [Pod.applySecOpts]
    intro x hx
    subst hx
    repeat' split
    all_goals simp_all

-- A container gets new privileges as soon as it says whether it is privileged.
theorem applySecOpts_escalates (h : result.allowNewPrivileges = false) :
    (applySecOpts ctr result).allowNewPrivileges = true ↔ ctr.privileged = some false ∨ MayEscalate ctr := by
  simp only [applySecOpts, MayEscalate]
  cases ctr.allowPrivilegeEscalation <;> cases ctr.privileged <;> cases ctr.readOnlyRootFilesystem <;>
    cases ctr.procMount <;> cases ctr.capabilities <;> simp [h] <;> grind

theorem SecuritySound.applySecOpts_iff (hs : CommonSound podSecOpts (some ctr) result)
    (hp : result.allowNewPrivileges = false) (ha : result.capsAdd = []) (hd : result.capsDrop = []) :
    SecuritySound podSecOpts (some ctr) (applySecOpts ctr result) ↔
    (ctr.privileged = some false → MayEscalate ctr) := by
  constructor
  case mp =>
    intro h hf
    obtain ⟨_, hx, he⟩ := h.escalates <| (applySecOpts_escalates hp).mpr (.inl hf)
    cases hx
    exact he
  case mpr =>
    intro h
    constructor
    case common => exact hs.applySecOpts
    case own => rintro _ ⟨⟩; exact .applySecOpts ha hd
    case escalates =>
      intro he
      exact ⟨ctr, rfl, ((applySecOpts_escalates hp).mp he).elim h id⟩

theorem resolveCommonSecOpts_sound (h : ¬(podSecOpts = none ∧ ctrSecOpts ≠ none)) :
    ∃ result, resolveCommonSecOpts podSecOpts ctrSecOpts = some result ∧
      CommonSound podSecOpts ctrSecOpts result ∧ result.allowNewPrivileges = false ∧
      result.capsAdd = [] ∧ result.capsDrop = [] := by
  have hc : ¬(podSecOpts.isNone ∧ ctrSecOpts.isSome) := by
    simpa [Option.isSome_iff_ne_none] using h
  exact ⟨_, if_neg hc, ⟨rfl, rfl, rfl, rfl⟩, rfl, rfl, rfl⟩

-- This is so iff the pod has a security context or the container has none, and a container that is
-- explicitly not privileged may get new privileges for another reason.
theorem security_sound_iff (podSecOpts : Option Kube.PodSecurityContext)
    (ctrSecOpts : Option Kube.SecurityContext) :
    (∃ result, translateContainerSecOpts podSecOpts ctrSecOpts = some result ∧
      SecuritySound podSecOpts ctrSecOpts result) ↔
    ¬(podSecOpts = none ∧ ctrSecOpts ≠ none) ∧
    ∀ ctr, ctrSecOpts = some ctr → ctr.privileged = some false → MayEscalate ctr := by
  by_cases hc : podSecOpts = none ∧ ctrSecOpts ≠ none
  case pos =>
    have hr : resolveCommonSecOpts podSecOpts ctrSecOpts = none :=
      if_pos (by simpa [Option.isSome_iff_ne_none] using hc)
    refine iff_of_false ?_ fun h => h.left hc
    simp [translateContainerSecOpts, hr]
  case neg =>
    obtain ⟨result, hr, hs, hp, ha, hd⟩ := resolveCommonSecOpts_sound hc
    simp only [translateContainerSecOpts, hr, hc, not_false_eq_true, true_and]
    cases ctrSecOpts
    case none => exact iff_of_true ⟨result, rfl, hs, by simp, by simp [hp]⟩ (by simp)
    case some ctr =>
      simp only [Option.some.injEq, forall_eq', exists_eq_left']
      exact SecuritySound.applySecOpts_iff hs hp ha hd

def hardened : Kube.SecurityContext where
  runAsUser := some 1000
  readOnlyRootFilesystem := some true

def unprivileged : Kube.SecurityContext where
  privileged := some false
  allowPrivilegeEscalation := some false

-- The settings of the container are lost if the pod has none, and it gets privileges that it has declined.
theorem not_securitySound_unprivileged :
    translateContainerSecOpts none (some hardened) = none ∧
    ∃ result, translateContainerSecOpts (some {}) (some unprivileged) = some result ∧
      ¬SecuritySound (some {}) (some unprivileged) result := by
  refine ⟨rfl, _, rfl, fun h => ?_⟩
  obtain ⟨_, hc, he⟩ := h.escalates rfl
  cases hc
  simp [MayEscalate, unprivileged] at he

end Aranya.Pod
