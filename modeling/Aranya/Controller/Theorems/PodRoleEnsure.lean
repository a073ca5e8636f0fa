import Aranya.Controller.Theorems.PodRoleCheck

namespace Aranya.EdgeDevice

open Std (ExtTreeMap ExtTreeSet)
open Apis (PodRolePermissions)
open Kube (PolicyRule Role)

variable {roleSpec : PodRolePermissions} {spec : Option PodRolePermissions} {pod : Target} {pods : List Target}
    {ns roleName name resource : Bytes} {verbs required names : List Bytes} {p : PolicyRule}
    {resolve : Bytes → Option (Option PodRolePermissions)}

theorem Walk.of_effective (hr : resource ∈ podResources)
    (h : ∀ name ∈ names, ∃ spec, resolve name = some spec ∧ (ownVerbs spec resource).getD required = verbs) :
    Walk resolve resource verbs required names ∧ Walk resolve resource verbs verbs names := by
  induction names
  case nil => exact ⟨trivial, trivial⟩
  case cons name names hi =>
    obtain ⟨⟨spec, hs, he⟩, h⟩ := List.forall_mem_cons.mp h
    have hf : Fits verbs verbs := ⟨rfl, fun _ hv => hv⟩
    have he' : (ownVerbs spec resource).getD verbs = verbs := by
      cases ho : ownVerbs spec resource
      case none => rfl
      case some v => rwa [ho] at he
    refine ⟨⟨spec, hs, hr, ?_⟩, ⟨spec, hs, hr, ?_⟩⟩
    case refine_1 => rw [he]; exact ⟨hf, (hi h).right⟩
    case refine_2 => rw [he']; exact ⟨hf, (hi h).right⟩

theorem RuleUpToDate.core (hr : resource ∈ podResources) (h : ∀ name ∈ names, ∃ spec, resolve name = some spec ∧
    requiredFor (overridePod roleSpec spec) resource = verbs) :
    RuleUpToDate resolve roleSpec resource (.core resource verbs names) where
  eq_core := rfl
  walk := by
    simp only [requiredFor_override] at h
    exact (Walk.of_effective hr h).left

structure PodRoles.Coherent (r : PodRoles) (roleName : Bytes) : Prop where
  nodup : r.required.Nodup
  resolve : ∀ name spec, r.resolve roleName name = some spec ↔
    ∃ pod ∈ r.targets roleName, pod.podName = name ∧ pod.permissions = spec
  required : ∀ name, name ∈ r.required ↔ ∃ pod ∈ r.targets roleName, pod.podName = name
  fallback : ∀ pod ∈ r.targets roleName, pod.fallback ≠ pod.podName → r.resolve roleName pod.fallback = none

def NoLog (roleSpec : PodRolePermissions) (pods : List Target) : Prop :=
  ∀ pod ∈ pods, allowed (overridePod roleSpec pod.permissions).allowLog = false

def NotReplaced (pods : List Target) : Prop :=
  ∀ pod ∈ pods, pod.fallback ≠ pod.podName →
    (settings pod.permissions).podVerbs ≠ [] ∧ (settings pod.permissions).statusVerbs ≠ []

theorem mem_newPodRole_rules : p ∈ (newPodRole ns roleName roleSpec pods).rules ↔
    (∃ pod ∈ pods, p ∈ ownRule resourcePods pod.podName (settings pod.permissions).podVerbs ++
      ownRule resourcePodsStatus pod.podName (settings pod.permissions).statusVerbs) ∨
    p ∈ sharedRules roleSpec (collect roleSpec pods) := by
  change p ∈ (collect roleSpec pods).policies ++ sharedRules roleSpec (collect roleSpec pods) ↔ _
  rw [List.mem_append, mem_collect_policies]

inductive Generated (roleSpec : PodRolePermissions) (pods : List Target) : PolicyRule → Prop
  | ownPodVerbs {pod : Target} : pod ∈ pods → (settings pod.permissions).podVerbs ≠ [] →
    Generated roleSpec pods (.core resourcePods (settings pod.permissions).podVerbs [pod.podName])
  | ownStatusVerbs {pod : Target} : pod ∈ pods → (settings pod.permissions).statusVerbs ≠ [] →
    Generated roleSpec pods (.core resourcePodsStatus (settings pod.permissions).statusVerbs [pod.podName])
  | podVerbs {names : List Bytes} :
    (∀ name ∈ names, ∃ pod ∈ pods, name = pod.fallback ∧ (settings pod.permissions).podVerbs = []) →
    Generated roleSpec pods (.core resourcePods roleSpec.podVerbs names)
  | statusVerbs {names : List Bytes} :
    (∀ name ∈ names, ∃ pod ∈ pods, name = pod.fallback ∧ (settings pod.permissions).statusVerbs = []) →
    Generated roleSpec pods (.core resourcePodsStatus roleSpec.statusVerbs names)
  | attach {names : List Bytes} :
    (∀ name ∈ names, ∃ pod ∈ pods, name = pod.podName ∧
      allowed (overridePod roleSpec pod.permissions).allowAttach) →
    Generated roleSpec pods (.core resourcePodsAttach [str "create"] names)
  | exec {names : List Bytes} :
    (∀ name ∈ names, ∃ pod ∈ pods, name = pod.podName ∧
      allowed (overridePod roleSpec pod.permissions).allowExec) →
    Generated roleSpec pods (.core resourcePodsExec [str "create"] names)
  | portForward {names : List Bytes} :
    (∀ name ∈ names, ∃ pod ∈ pods, name = pod.podName ∧
      allowed (overridePod roleSpec pod.permissions).allowPortForward) →
    Generated roleSpec pods (.core resourcePodsPortForward [str "create"] names)
  | log {names : List Bytes} : names ≠ [] →
    (∀ name ∈ names, ∃ pod ∈ pods, name = pod.podName ∧
      allowed (overridePod roleSpec pod.permissions).allowLog) →
    Generated roleSpec pods (.core resourcePodsLog [str "get"] names)

theorem Generated.of_mem (h : p ∈ (newPodRole ns roleName roleSpec pods).rules) : Generated roleSpec pods p := by
  rw [mem_newPodRole_rules] at h
  simp only [sharedRules, List.mem_append, mem_ownRule, mem_sharedRule] at h
  rcases h with ⟨pod, hm, ⟨hv, rfl⟩ | ⟨hv, rfl⟩⟩ |
    (((((⟨-, rfl⟩ | ⟨-, rfl⟩) | ⟨-, rfl⟩) | ⟨-, rfl⟩) | ⟨-, rfl⟩) | ⟨hne, rfl⟩)
  · exact .ownPodVerbs hm hv
  · exact .ownStatusVerbs hm hv
  · exact .podVerbs fun name hn => mem_podsWithDefaultPodVerbs.mp (ExtTreeSet.mem_toList.mp hn)
  · exact .statusVerbs fun name hn => mem_podsWithDefaultStatusVerbs.mp (ExtTreeSet.mem_toList.mp hn)
  · exact .attach fun name hn => mem_podsAllowAttach.mp (ExtTreeSet.mem_toList.mp hn)
  · exact .exec fun name hn => mem_podsAllowExec.mp (ExtTreeSet.mem_toList.mp hn)
  · exact .portForward fun name hn => mem_podsAllowPortForward.mp (ExtTreeSet.mem_toList.mp hn)
  · exact .log hne fun name hn => mem_podsAllowLog.mp (ExtTreeSet.mem_toList.mp hn)

theorem exists_of_shared {s : ExtTreeSet Bytes} (hn : name ∈ s)
    (hs : ∀ p ∈ sharedRule resource verbs s.toList, p ∈ sharedRules roleSpec (collect roleSpec pods)) :
    ∃ names, name ∈ names ∧ .core resource verbs names ∈ (newPodRole ns roleName roleSpec pods).rules := by
  have hn := ExtTreeSet.mem_toList.mpr hn
  exact ⟨_, hn, mem_newPodRole_rules.mpr (.inr (hs _ (mem_sharedRule.mpr ⟨List.ne_nil_of_mem hn, rfl⟩)))⟩

theorem exists_podVerbs (hm : pod ∈ pods) (hv : (settings pod.permissions).podVerbs = []) :
    ∃ names, pod.fallback ∈ names ∧
      .core resourcePods roleSpec.podVerbs names ∈ (newPodRole ns roleName roleSpec pods).rules :=
  exists_of_shared (s := (collect roleSpec pods).podsWithDefaultPodVerbs)
    (mem_podsWithDefaultPodVerbs.mpr ⟨pod, hm, rfl, hv⟩)
    fun _ hp => by simp [sharedRules, hp]

theorem exists_statusVerbs (hm : pod ∈ pods) (hv : (settings pod.permissions).statusVerbs = []) :
    ∃ names, pod.fallback ∈ names ∧
      .core resourcePodsStatus roleSpec.statusVerbs names ∈ (newPodRole ns roleName roleSpec pods).rules :=
  exists_of_shared (s := (collect roleSpec pods).podsWithDefaultStatusVerbs)
    (mem_podsWithDefaultStatusVerbs.mpr ⟨pod, hm, rfl, hv⟩)
    fun _ hp => by simp [sharedRules, hp]

theorem exists_log (hm : pod ∈ pods) (ha : allowed (overridePod roleSpec pod.permissions).allowLog) :
    ∃ names, pod.podName ∈ names ∧
      .core resourcePodsLog [str "get"] names ∈ (newPodRole ns roleName roleSpec pods).rules :=
  exists_of_shared (mem_podsAllowLog.mpr ⟨pod, hm, rfl, ha⟩) fun _ hp => by simp [sharedRules, hp]

theorem requiredFor_pods : requiredFor (overridePod roleSpec spec) resourcePods =
    overrideVerbs roleSpec.podVerbs (settings spec).podVerbs := by
  rw [overridePod_eq]
  rfl

theorem requiredFor_podsStatus : requiredFor (overridePod roleSpec spec) resourcePodsStatus =
    overrideVerbs roleSpec.statusVerbs (settings spec).statusVerbs := by
  rw [overridePod_eq]
  rfl

theorem NotReplaced.fallback (h : NotReplaced pods) (hm : pod ∈ pods)
    (hv : (settings pod.permissions).podVerbs = [] ∨ (settings pod.permissions).statusVerbs = []) :
    pod.fallback = pod.podName := by
  by_contra hne
  obtain ⟨hpv, hsv⟩ := h pod hm hne
  exact hv.elim hpv hsv

namespace PodRoles

variable {r : PodRoles} (hc : r.Coherent roleName)

include hc

theorem Coherent.upToDate (hr : resource ∈ podResources) (h : ∀ name ∈ names, ∃ pod ∈ r.targets roleName,
    name = pod.podName ∧ requiredFor (overridePod roleSpec pod.permissions) resource = verbs) :
    ∃ resource', RuleUpToDate (r.resolve roleName) roleSpec resource' (.core resource verbs names) := by
  refine ⟨resource, .core hr fun name hn => ?_⟩
  obtain ⟨pod, hm, rfl, he⟩ := h name hn
  exact ⟨pod.permissions, (hc.resolve _ _).mpr ⟨pod, hm, rfl, rfl⟩, he⟩

theorem upToDate_of_generated (hl : NoLog roleSpec (r.targets roleName)) (hr : NotReplaced (r.targets roleName))
    (h : Generated roleSpec (r.targets roleName) p) :
    ∃ resource, RuleUpToDate (r.resolve roleName) roleSpec resource p := by
  cases h
  case ownPodVerbs pod hm hv =>
    refine hc.upToDate (by decide) fun name hn => ⟨pod, hm, List.mem_singleton.mp hn, ?_⟩
    rw [requiredFor_pods, overrideVerbs, if_neg hv]
  case ownStatusVerbs pod hm hv =>
    refine hc.upToDate (by decide) fun name hn => ⟨pod, hm, List.mem_singleton.mp hn, ?_⟩
    rw [requiredFor_podsStatus, overrideVerbs, if_neg hv]
  case podVerbs names hs =>
    refine hc.upToDate (by decide) fun name hn => ?_
    obtain ⟨pod, hm, rfl, hv⟩ := hs name hn
    refine ⟨pod, hm, hr.fallback hm (.inl hv), ?_⟩
    rw [requiredFor_pods, overrideVerbs, if_pos hv]
  case statusVerbs names hs =>
    refine hc.upToDate (by decide) fun name hn => ?_
    obtain ⟨pod, hm, rfl, hv⟩ := hs name hn
    refine ⟨pod, hm, hr.fallback hm (.inr hv), ?_⟩
    rw [requiredFor_podsStatus, overrideVerbs, if_pos hv]
  case attach names hs | exec names hs | portForward names hs =>
    refine hc.upToDate (by decide) fun name hn => ?_
    obtain ⟨pod, hm, rfl, ha⟩ := hs name hn
    exact ⟨pod, hm, rfl, if_pos ha⟩
  case log names hne hs =>
    obtain ⟨name, hn⟩ := List.exists_mem_of_ne_nil names hne
    obtain ⟨pod, hm, rfl, ha⟩ := hs name hn
    rw [hl pod hm] at ha
    cases ha

theorem rules_upToDate_iff :
    (∀ p ∈ (newPodRole ns roleName roleSpec (r.targets roleName)).rules,
      ∃ resource, RuleUpToDate (r.resolve roleName) roleSpec resource p) ↔
    NoLog roleSpec (r.targets roleName) ∧ NotReplaced (r.targets roleName) := by
  constructor
  case mp =>
    intro h
    -- The name of an edge device in place of a pod is not accepted.
    have hf : ∀ pod ∈ r.targets roleName, pod.fallback ≠ pod.podName → ∀ {resource verbs names},
        .core resource verbs names ∈ (newPodRole ns roleName roleSpec (r.targets roleName)).rules →
        pod.fallback ∉ names := by
      intro pod hm hne resource verbs names hp hn
      obtain ⟨resource', hu⟩ := h _ hp
      obtain ⟨pre, post, hn⟩ := List.append_of_mem hn
      obtain ⟨spec, -, hs, -⟩ := hu.at_name hn
      cases (hc.fallback pod hm hne).symm.trans hs
    constructor
    case left =>
      intro pod hm
      refine Bool.eq_false_iff.mpr fun ha => ?_
      obtain ⟨names, hn, hp⟩ := exists_log hm ha
      obtain ⟨resource', hu⟩ := h _ hp
      have he : [str "get"] = [str "create"] := hu.verbs_of_log (List.singleton_inj.mp hu.resources).symm
        (List.cons_ne_nil _ _) (List.ne_nil_of_mem hn)
      revert he
      decide
    case right =>
      intro pod hm hne
      constructor
      case left =>
        intro hv
        obtain ⟨names, hn, hp⟩ := exists_podVerbs hm hv
        exact hf pod hm hne hp hn
      case right =>
        intro hv
        obtain ⟨names, hn, hp⟩ := exists_statusVerbs hm hv
        exact hf pod hm hne hp hn
  case mpr =>
    rintro ⟨hl, hr⟩ p hp
    exact upToDate_of_generated hc hl hr (.of_mem hp)

omit hc in
theorem names_iff (hr : NotReplaced pods) :
    (∃ p ∈ (newPodRole ns roleName roleSpec pods).rules, name ∈ p.resourceNames) ↔
    ∃ pod ∈ pods, pod.podName = name := by
  constructor
  case mp =>
    rintro ⟨p, hp, hn⟩
    cases Generated.of_mem hp
    case ownPodVerbs pod hm _ | ownStatusVerbs pod hm _ => exact ⟨pod, hm, (List.mem_singleton.mp hn).symm⟩
    case podVerbs hs =>
      obtain ⟨pod, hm, rfl, hv⟩ := hs name hn
      exact ⟨pod, hm, (hr.fallback hm (.inl hv)).symm⟩
    case statusVerbs hs =>
      obtain ⟨pod, hm, rfl, hv⟩ := hs name hn
      exact ⟨pod, hm, (hr.fallback hm (.inr hv)).symm⟩
    case attach hs | exec hs | portForward hs | log hs =>
      obtain ⟨pod, hm, rfl, -⟩ := hs name hn
      exact ⟨pod, hm, rfl⟩
  case mpr =>
    rintro ⟨pod, hm, rfl⟩
    by_cases hv : (settings pod.permissions).podVerbs = []
    case pos =>
      obtain ⟨names, hn, hp⟩ := exists_podVerbs hm hv
      exact ⟨_, hp, hr.fallback hm (.inl hv) ▸ hn⟩
    case neg =>
      have hp : .core resourcePods (settings pod.permissions).podVerbs [pod.podName] ∈
          (newPodRole ns roleName roleSpec pods).rules :=
        mem_newPodRole_rules.mpr (.inl ⟨pod, hm, List.mem_append_left _ (mem_ownRule.mpr ⟨hv, rfl⟩)⟩)
      exact ⟨_, hp, List.mem_singleton_self _⟩

theorem accepted_iff {role : Role} (h : r.roles[roleName]? = some roleSpec) (hn : role.name = roleName)
    (hr : role.rules = (newPodRole r.ns roleName roleSpec (r.targets roleName)).rules) :
    r.checkUpToDate role ↔ hasLabels role labelRoleValuePodRole r.ns ∧
      NoLog roleSpec (r.targets roleName) ∧ NotReplaced (r.targets roleName) := by
  subst hn
  rw [checkUpToDate_iff h hc.nodup, hr, rules_upToDate_iff hc]
  constructor
  case mp =>
    rintro ⟨hl, ha, -⟩
    exact ⟨hl, ha⟩
  case mpr =>
    rintro ⟨hl, ha⟩
    refine ⟨hl, ha, fun name => ?_⟩
    rw [names_iff ha.right, hc.required]

omit hc in
theorem newPodRole_hasLabels : hasLabels (newPodRole ns roleName roleSpec pods) labelRoleValuePodRole ns ↔
    ns = [] := by
  have hl : compare labelRole labelNamespace ≠ .eq := by decide
  simp [hasLabels, newPodRole, ExtTreeMap.getD_insert, hl]

omit hc in
theorem changedRole_hasLabels {old : Role} :
    hasLabels (changedRole (newPodRole ns roleName roleSpec pods) old) labelRoleValuePodRole ns ↔
    old.labels.getD labelNamespace [] = ns := by
  have hl : compare labelRole labelNamespace ≠ .eq := by decide
  simp [hasLabels, newPodRole, changedRole, ExtTreeMap.getD_union, ExtTreeMap.getD_insert, hl]

end PodRoles

def Settled (check : Role → Bool) (ensure : Answers → Option Role → Ensured Role) (stored : Option Role) : Prop :=
  ∃ role, stored = some role ∧ check role ∧ ∀ a, (ensure a stored).writes = []

-- The label is only there if it was there before, because it is not set, or if no label is required.
def Labelled (ns : Bytes) (a : Answers) (stored : Option Role) : Prop :=
  match stored with
  | none => ns = []
  | some old => if a .update = none then old.labels.getD labelNamespace [] = ns else ns = []

namespace PodRoles

variable {r : PodRoles} {a : Answers} {stored : Option Role}

theorem settled_iff (h : r.roles[roleName]? = some roleSpec) :
    Settled r.checkUpToDate (r.ensure roleName) stored ↔ ∃ role, stored = some role ∧ r.checkUpToDate role := by
  constructor
  case mp =>
    rintro ⟨role, hs, hu, -⟩
    exact ⟨role, hs, hu⟩
  case mpr =>
    rintro ⟨role, rfl, hu⟩
    exact ⟨role, rfl, hu, fun a => by simp [ensure, h, ensureObject, hu]⟩

theorem ensure_settled_iff (hc : r.Coherent roleName) (h : r.roles[roleName]? = some roleSpec)
    (hn : ∀ old, stored = some old → old.name = roleName) (he : (r.ensure roleName a stored).err = none) :
    Settled r.checkUpToDate (r.ensure roleName) (r.ensure roleName a stored).stored ↔
    (∃ old, stored = some old ∧ r.checkUpToDate old) ∨
    Labelled r.ns a stored ∧ NoLog roleSpec (r.targets roleName) ∧ NotReplaced (r.targets roleName) := by
  rw [settled_iff h]
  generalize hs : r.ensure roleName a stored = e at he ⊢
  simp only [ensure, h] at hs
  cases ensureObject_cases hs he
  case kept old ho hu => exact iff_of_true ⟨old, rfl, hu⟩ (.inl ⟨old, ho, hu⟩)
  case changed old ho hu ha =>
    subst ho
    have hk : ¬∃ old', some old = some old' ∧ r.checkUpToDate old' := by simp [hu]
    have hi : r.checkUpToDate (changedRole (newPodRole r.ns roleName roleSpec (r.targets roleName)) old) ↔ _ :=
      accepted_iff hc h (hn old rfl) rfl
    rw [changedRole_hasLabels] at hi
    rw [or_iff_right hk, Labelled, if_pos ha, ← hi]
    simp
  case created writes ho =>
    have hk : ¬∃ old, stored = some old ∧ r.checkUpToDate old := by
      rintro ⟨old, hs, hu⟩
      rw [(ho old hs).left] at hu
      cases hu
    have hl : Labelled r.ns a stored ↔ r.ns = [] := by
      cases stored
      case none => rfl
      case some old => rw [Labelled, if_neg (ho old rfl).right]
    have hi : r.checkUpToDate (newPodRole r.ns roleName roleSpec (r.targets roleName)) ↔ _ :=
      accepted_iff hc h rfl rfl
    rw [newPodRole_hasLabels] at hi
    rw [or_iff_right hk, hl, ← hi]
    simp

end PodRoles

namespace PodRoleController

variable {c : PodRoleController} {a : Answers} {stored : Option Role}

def ManagesTenantPod (c : PodRoleController) (name : Bytes) : Prop :=
  ∃ p ∈ c.tenantPodStore.list, p.name = name ∧ c.getEdgeDeviceObject p.name = none ∧
    ∃ ed, c.getEdgeDeviceObject p.nodeName = some ed

theorem tenantRoles_coherent (h : ∀ name, name ∈ c.tenantPods ↔ c.ManagesTenantPod name) :
    c.tenantRoles.Coherent roleName where
  nodup := nodup_getTenantPodNames
  resolve := by
    intro name spec
    simp only [tenantRoles, resolveTenant_eq_some_iff, mem_tenantTargets]
    constructor
    case mp =>
      rintro ⟨p, hm, hp, hn, ed, hed, hs⟩
      exact ⟨_, ⟨p, hm, hn, ed, hed, rfl⟩, hp, hs⟩
    case mpr =>
      rintro ⟨_, ⟨p, hm, hn, ed, hed, rfl⟩, hp, hs⟩
      exact ⟨p, hm, hp, hn, ed, hed, hs⟩
  required := by
    intro name
    simp only [tenantRoles, getTenantPodNames, ExtTreeSet.mem_toList, h, ManagesTenantPod, mem_tenantTargets]
    constructor
    case mp =>
      rintro ⟨p, hm, hp, hn, ed, hed⟩
      exact ⟨_, ⟨p, hm, hn, ed, hed, rfl⟩, hp⟩
    case mpr =>
      rintro ⟨_, ⟨p, hm, hn, ed, hed, rfl⟩, hp⟩
      exact ⟨p, hm, hp, hn, ed, hed⟩
  fallback := by
    intro pod hm hne
    obtain ⟨p, hm, hn, ed, hed, rfl⟩ := mem_tenantTargets.mp hm
    simp only [Target.fallback] at hne ⊢
    split at hne
    case isTrue => exact absurd rfl hne
    case isFalse hs =>
      have hed' : (c.getEdgeDeviceObject ed.name).isSome := by rw [getEdgeDeviceObject_name hed, hed]; rfl
      simp [tenantRoles, resolveTenant, hs, hed']

theorem virtualRoles_coherent (h : ∀ ed ∈ c.edgeDevices.list, ∃ p ∈ c.sysPodStore.list, p.name = ed.name) :
    c.virtualRoles.Coherent roleName where
  nodup := nodup_getVirtualPodNames
  resolve := by
    intro name spec
    simp only [virtualRoles, resolveVirtual, Option.bind_eq_bind, Option.bind_eq_some_iff, mem_virtualTargets]
    constructor
    case mp =>
      rintro ⟨ed, hed, hs⟩
      obtain ⟨hm, rfl⟩ := Apis.EdgeDevices.get_eq_some_iff.mp hed
      obtain ⟨p, hp, hn⟩ := h ed hm
      exact ⟨_, ⟨p, hp, ed, hn ▸ hed, rfl⟩, hn, Option.some.inj hs⟩
    case mpr =>
      rintro ⟨_, ⟨p, hp, ed, hed, rfl⟩, rfl, rfl⟩
      exact ⟨ed, hed, rfl⟩
  required := by
    intro name
    simp only [virtualRoles, getVirtualPodNames, ExtTreeSet.mem_toList, ExtTreeSet.mem_ofList,
      List.contains_iff_mem, List.mem_map, mem_virtualTargets]
    constructor
    case mp =>
      rintro ⟨ed, hm, rfl⟩
      obtain ⟨p, hp, hn⟩ := h ed hm
      exact ⟨_, ⟨p, hp, ed, hn ▸ Apis.EdgeDevices.get_name hm, rfl⟩, hn⟩
    case mpr =>
      rintro ⟨_, ⟨p, hp, ed, hed, rfl⟩, rfl⟩
      exact ⟨ed, Apis.EdgeDevices.get_eq_some_iff.mp hed⟩
  fallback := fun pod hm hne => absurd (virtualTargets_fallback hm) hne

theorem notReplaced_virtualTargets : NotReplaced (c.virtualTargets roleName) :=
  fun _ hm hne => absurd (virtualTargets_fallback hm) hne

theorem ensurePodRole_settled_iff
    (hv : ∀ ed ∈ c.edgeDevices.list, ∃ p ∈ c.sysPodStore.list, p.name = ed.name)
    (ht : ∀ name, name ∈ c.tenantPods ↔ c.ManagesTenantPod name)
    (hn : ∀ old, stored = some old → old.name = roleName) :
    (c.tenantPodRoles[roleName]? = some roleSpec → (c.ensureTenantPodRole roleName a stored).err = none →
      (Settled c.checkTenantPodRoleUpToDate (c.ensureTenantPodRole roleName)
          (c.ensureTenantPodRole roleName a stored).stored ↔
        (∃ old, stored = some old ∧ c.checkTenantPodRoleUpToDate old) ∨
        Labelled c.tenantNS a stored ∧ NoLog roleSpec (c.tenantTargets roleName) ∧
          NotReplaced (c.tenantTargets roleName))) ∧
    (c.vpRoles[roleName]? = some roleSpec → (c.ensureVirtualPodRole roleName a stored).err = none →
      (Settled c.checkVirtualPodRoleUpToDate (c.ensureVirtualPodRole roleName)
          (c.ensureVirtualPodRole roleName a stored).stored ↔
        (∃ old, stored = some old ∧ c.checkVirtualPodRoleUpToDate old) ∨
        Labelled c.sysNS a stored ∧ NoLog roleSpec (c.virtualTargets roleName))) := by
  constructor
  case left => exact fun h he => c.tenantRoles.ensure_settled_iff (tenantRoles_coherent ht) h hn he
  case right =>
    intro h he
    have hs := c.virtualRoles.ensure_settled_iff (virtualRoles_coherent hv) h hn he
    have hr : NotReplaced (c.virtualRoles.targets roleName) := notReplaced_virtualTargets
    rwa [and_iff_left hr] at hs

theorem sample_virtualPods : ∀ ed ∈ (sample ∅ getPods).edgeDevices.list,
    ∃ p ∈ (sample ∅ getPods).sysPodStore.list, p.name = ed.name := by
  intro ed hm
  cases List.mem_singleton.mp hm
  exact ⟨_, List.mem_singleton_self _, rfl⟩

theorem sample_tenantPods (name : Bytes) : name ∈ (sample ∅ getPods).tenantPods ↔
    (sample ∅ getPods).ManagesTenantPod name := by
  have hn : name ∈ (sample ∅ getPods).tenantPods ↔ [2] = name := by simp [sample, ExtTreeSet.mem_insert]
  rw [hn]
  constructor
  case mp =>
    rintro rfl
    exact ⟨_, List.mem_singleton_self _, rfl, rfl, _, rfl⟩
  case mpr =>
    rintro ⟨p, hm, rfl, -⟩
    cases List.mem_singleton.mp hm
    rfl

theorem ensurePodRole_settled_iff_labelled :
    Settled (sample ∅ getPods).checkTenantPodRoleUpToDate ((sample ∅ getPods).ensureTenantPodRole [7])
      ((sample ∅ getPods).ensureTenantPodRole [7] (fun _ => none) (some (roleWith (str "tenant") []))).stored ∧
    Settled (sample ∅ getPods).checkVirtualPodRoleUpToDate ((sample ∅ getPods).ensureVirtualPodRole [7])
      ((sample ∅ getPods).ensureVirtualPodRole [7] (fun _ => none) (some (roleWith (str "edge") []))).stored := by
  have hn : ∀ ns old, some (roleWith ns []) = some old → old.name = [7] := by
    rintro ns old ⟨⟩
    rfl
  constructor
  case left =>
    refine ((ensurePodRole_settled_iff sample_virtualPods sample_tenantPods (hn _)).left
      ExtTreeMap.getElem?_insert_self rfl).mpr (.inr ⟨?_, ?_, ?_⟩)
    case refine_1 => rw [Labelled, if_pos rfl]; decide
    all_goals
      intro pod hm
      cases List.mem_singleton.mp hm
    case refine_2 => rfl
    case refine_3 => exact fun hne => absurd rfl hne
  case right =>
    refine ((ensurePodRole_settled_iff sample_virtualPods sample_tenantPods (hn _)).right
      ExtTreeMap.getElem?_insert_self rfl).mpr (.inr ⟨?_, ?_⟩)
    case refine_1 => rw [Labelled, if_pos rfl]; decide
    case refine_2 =>
      intro pod hm
      cases List.mem_singleton.mp hm
      rfl

-- A role is created without the label for its namespace.
theorem not_settled_created :
    (∀ ed ∈ (sample ∅ getPods).edgeDevices.list, ∃ p ∈ (sample ∅ getPods).sysPodStore.list, p.name = ed.name) ∧
    (∀ name, name ∈ (sample ∅ getPods).tenantPods ↔ (sample ∅ getPods).ManagesTenantPod name) ∧
    ((sample ∅ getPods).ensureTenantPodRole [7] (fun _ => none) none).err = none ∧
    ¬Settled (sample ∅ getPods).checkTenantPodRoleUpToDate ((sample ∅ getPods).ensureTenantPodRole [7])
      ((sample ∅ getPods).ensureTenantPodRole [7] (fun _ => none) none).stored := by
  refine ⟨sample_virtualPods, sample_tenantPods, by decide, ?_⟩
  rintro ⟨role, hs, hc, -⟩
  cases hs
  revert hc
  decide

end PodRoleController
end Aranya.EdgeDevice
