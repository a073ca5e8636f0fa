import Aranya.Controller.PodRole
import Aranya.Controller.Theorems.Roles
import Aranya.Pod.Samples

namespace Aranya.EdgeDevice

open Std (ExtTreeMap ExtTreeSet)
open Apis (PodRolePermissions)
open Kube (PolicyRule Role grants matchesVerb)

variable {roleSpec perms : PodRolePermissions} {spec : Option PodRolePermissions} {pod : Target}
    {pods : List Target} {s : PodPolicies} {ns roleName name resource verb : Bytes} {p : PolicyRule}
    {allow : Bool} {flag default : Option Bool} {names : ExtTreeSet Bytes}

def verbsFor (perms : PodRolePermissions) (resource : Bytes) : List Bytes :=
  if resource = resourcePods then perms.podVerbs
  else if resource = resourcePodsStatus then perms.statusVerbs
  else if resource = resourcePodsLog ∧ allowed perms.allowLog then [str "get"]
  else if resource = resourcePodsExec ∧ allowed perms.allowExec then [str "create"]
  else if resource = resourcePodsAttach ∧ allowed perms.allowAttach then [str "create"]
  else if resource = resourcePodsPortForward ∧ allowed perms.allowPortForward then [str "create"]
  else []

inductive Effective (perms : PodRolePermissions) (verb : Bytes) : Bytes → Prop
  | podVerbs : matchesVerb perms.podVerbs verb → Effective perms verb resourcePods
  | statusVerbs : matchesVerb perms.statusVerbs verb → Effective perms verb resourcePodsStatus
  | log : allowed perms.allowLog → matchesVerb [str "get"] verb → Effective perms verb resourcePodsLog
  | exec : allowed perms.allowExec → matchesVerb [str "create"] verb →
    Effective perms verb resourcePodsExec
  | attach : allowed perms.allowAttach → matchesVerb [str "create"] verb →
    Effective perms verb resourcePodsAttach
  | portForward : allowed perms.allowPortForward → matchesVerb [str "create"] verb →
    Effective perms verb resourcePodsPortForward

theorem matchesVerb_verbsFor_iff :
    matchesVerb (verbsFor perms resource) verb ↔ Effective perms verb resource := by
  constructor
  case mp =>
    intro h
    simp only [verbsFor] at h
    split at h
    case isTrue hr => exact hr ▸ .podVerbs h
    split at h
    case isTrue hr => exact hr ▸ .statusVerbs h
    split at h
    case isTrue hr => exact hr.left ▸ .log hr.right h
    split at h
    case isTrue hr => exact hr.left ▸ .exec hr.right h
    split at h
    case isTrue hr => exact hr.left ▸ .attach hr.right h
    split at h
    case isTrue hr => exact hr.left ▸ .portForward hr.right h
    cases h
  case mpr =>
    intro h
    cases h
    case podVerbs h => exact h
    case statusVerbs h => exact h
    all_goals
      rename_i ha h
      simp only [verbsFor, ha, and_true]
      exact h

def settings (spec : Option PodRolePermissions) : PodRolePermissions :=
  spec.getD ⟨[], [], none, none, none, none⟩

theorem overridePod_eq : overridePod perms spec =
    { podVerbs := overrideVerbs perms.podVerbs (settings spec).podVerbs
      statusVerbs := overrideVerbs perms.statusVerbs (settings spec).statusVerbs
      allowExec := overrideFlag perms.allowExec (settings spec).allowExec
      allowAttach := overrideFlag perms.allowAttach (settings spec).allowAttach
      allowPortForward := overrideFlag perms.allowPortForward (settings spec).allowPortForward
      allowLog := overrideFlag perms.allowLog (settings spec).allowLog } := by
  cases spec <;> rfl

namespace Target

def fallback (pod : Target) : Bytes :=
  if pod.permissions.isNone then pod.podName else pod.edgeDevice

end Target

@[simp]
theorem insertIf_true : insertIf true name names = names.insert name :=
  rfl

@[simp]
theorem insertIf_false : insertIf false name names = names :=
  rfl

theorem mem_insertIf {name' : Bytes} : name ∈ insertIf allow name' names ↔
    name ∈ names ∨ name = name' ∧ allow := by
  cases allow
  case false => simp
  case true => simp [ExtTreeSet.mem_insert, or_comm, @eq_comm _ name]

theorem insertAllowed_eq :
    insertAllowed flag default name names = insertIf (allowed (overrideFlag default flag)) name names := by
  cases flag
  case none => rfl
  case some allow => cases allow <;> rfl

theorem addPodPolicies_eq : addPodPolicies roleSpec s pod =
    { policies := s.policies ++ (
        ownRule resourcePods pod.podName (settings pod.permissions).podVerbs ++
        ownRule resourcePodsStatus pod.podName (settings pod.permissions).statusVerbs)
      podsWithDefaultPodVerbs := insertIf ((settings pod.permissions).podVerbs = []) pod.fallback
        s.podsWithDefaultPodVerbs
      podsWithDefaultStatusVerbs := insertIf ((settings pod.permissions).statusVerbs = []) pod.fallback
        s.podsWithDefaultStatusVerbs
      podsAllowExec := insertIf (allowed (overridePod roleSpec pod.permissions).allowExec)
        pod.podName s.podsAllowExec
      podsAllowAttach := insertIf (allowed (overridePod roleSpec pod.permissions).allowAttach)
        pod.podName s.podsAllowAttach
      podsAllowPortForward := insertIf (allowed (overridePod roleSpec pod.permissions).allowPortForward)
        pod.podName s.podsAllowPortForward
      podsAllowLog := insertIf (allowed (overridePod roleSpec pod.permissions).allowLog)
        pod.podName s.podsAllowLog } := by
  obtain ⟨podName, edgeDevice, permissions⟩ := pod
  cases permissions
  case none => simp [addPodPolicies, settings, ownRule, Target.fallback, overridePod]
  case some perms =>
    simp only [addPodPolicies, insertAllowed_eq, overridePod, settings, Option.getD_some, Target.fallback]
    split <;> split <;> simp_all [ownRule]

def collect (roleSpec : PodRolePermissions) (pods : List Target) : PodPolicies :=
  pods.foldl (addPodPolicies roleSpec) .empty

theorem mem_collect_policies : p ∈ (collect roleSpec pods).policies ↔ ∃ pod ∈ pods,
    p ∈ ownRule resourcePods pod.podName (settings pod.permissions).podVerbs ++
      ownRule resourcePodsStatus pod.podName (settings pod.permissions).statusVerbs := by
  have h : ∀ s pod p, p ∈ (addPodPolicies roleSpec s pod).policies ↔ p ∈ s.policies ∨
      p ∈ ownRule resourcePods pod.podName (settings pod.permissions).podVerbs ++
        ownRule resourcePodsStatus pod.podName (settings pod.permissions).statusVerbs := by
    intro s pod p
    rw [addPodPolicies_eq, List.mem_append]
  exact (foldl_collects (fun s p => p ∈ PodPolicies.policies s) _ h).trans (or_iff_right List.not_mem_nil)

theorem mem_collect_set (g : PodPolicies → ExtTreeSet Bytes) {add : Target → Bool} {key : Target → Bytes}
    (he : g .empty = ∅)
    (h : ∀ s pod, g (addPodPolicies roleSpec s pod) = insertIf (add pod) (key pod) (g s)) :
    name ∈ g (collect roleSpec pods) ↔ ∃ pod ∈ pods, name = key pod ∧ add pod := by
  have hs : ∀ s pod name, name ∈ g (addPodPolicies roleSpec s pod) ↔
      name ∈ g s ∨ name = key pod ∧ add pod := by
    intro s pod name
    rw [h, mem_insertIf]
  have hn : name ∉ g .empty := he ▸ ExtTreeSet.not_mem_empty
  exact (foldl_collects (fun s name => name ∈ g s) _ hs).trans (or_iff_right hn)

theorem mem_podsWithDefaultPodVerbs : name ∈ (collect roleSpec pods).podsWithDefaultPodVerbs ↔
    ∃ pod ∈ pods, name = pod.fallback ∧ (settings pod.permissions).podVerbs = [] := by
  rw [mem_collect_set PodPolicies.podsWithDefaultPodVerbs rfl fun s pod => by rw [addPodPolicies_eq]]
  simp

theorem mem_podsWithDefaultStatusVerbs : name ∈ (collect roleSpec pods).podsWithDefaultStatusVerbs ↔
    ∃ pod ∈ pods, name = pod.fallback ∧ (settings pod.permissions).statusVerbs = [] := by
  rw [mem_collect_set PodPolicies.podsWithDefaultStatusVerbs rfl fun s pod => by rw [addPodPolicies_eq]]
  simp

theorem mem_podsAllowExec : name ∈ (collect roleSpec pods).podsAllowExec ↔
    ∃ pod ∈ pods, name = pod.podName ∧ allowed (overridePod roleSpec pod.permissions).allowExec :=
  mem_collect_set PodPolicies.podsAllowExec rfl fun s pod => by rw [addPodPolicies_eq]

theorem mem_podsAllowAttach : name ∈ (collect roleSpec pods).podsAllowAttach ↔
    ∃ pod ∈ pods, name = pod.podName ∧ allowed (overridePod roleSpec pod.permissions).allowAttach :=
  mem_collect_set PodPolicies.podsAllowAttach rfl fun s pod => by rw [addPodPolicies_eq]

theorem mem_podsAllowPortForward : name ∈ (collect roleSpec pods).podsAllowPortForward ↔
    ∃ pod ∈ pods, name = pod.podName ∧ allowed (overridePod roleSpec pod.permissions).allowPortForward :=
  mem_collect_set PodPolicies.podsAllowPortForward rfl fun s pod => by rw [addPodPolicies_eq]

theorem mem_podsAllowLog : name ∈ (collect roleSpec pods).podsAllowLog ↔
    ∃ pod ∈ pods, name = pod.podName ∧ allowed (overridePod roleSpec pod.permissions).allowLog :=
  mem_collect_set PodPolicies.podsAllowLog rfl fun s pod => by rw [addPodPolicies_eq]

theorem literal_pods : Kube.Literal resourcePods := by
  decide

theorem literal_podsStatus : Kube.Literal resourcePodsStatus := by
  decide

theorem literal_podsLog : Kube.Literal resourcePodsLog := by
  decide

theorem literal_podsExec : Kube.Literal resourcePodsExec := by
  decide

theorem literal_podsAttach : Kube.Literal resourcePodsAttach := by
  decide

theorem literal_podsPortForward : Kube.Literal resourcePodsPortForward := by
  decide

inductive Granted (roleSpec : PodRolePermissions) (pod : Target) (verb : Bytes) : Bytes → Bytes → Prop
  | ownPodVerbs : matchesVerb (settings pod.permissions).podVerbs verb →
    Granted roleSpec pod verb pod.podName resourcePods
  | podVerbs : (settings pod.permissions).podVerbs = [] → matchesVerb roleSpec.podVerbs verb →
    Granted roleSpec pod verb pod.fallback resourcePods
  | ownStatusVerbs : matchesVerb (settings pod.permissions).statusVerbs verb →
    Granted roleSpec pod verb pod.podName resourcePodsStatus
  | statusVerbs : (settings pod.permissions).statusVerbs = [] → matchesVerb roleSpec.statusVerbs verb →
    Granted roleSpec pod verb pod.fallback resourcePodsStatus
  | attach : allowed (overridePod roleSpec pod.permissions).allowAttach → matchesVerb [str "create"] verb →
    Granted roleSpec pod verb pod.podName resourcePodsAttach
  | exec : allowed (overridePod roleSpec pod.permissions).allowExec → matchesVerb [str "create"] verb →
    Granted roleSpec pod verb pod.podName resourcePodsExec
  | portForward : allowed (overridePod roleSpec pod.permissions).allowPortForward →
    matchesVerb [str "create"] verb → Granted roleSpec pod verb pod.podName resourcePodsPortForward
  | log : allowed (overridePod roleSpec pod.permissions).allowLog → matchesVerb [str "get"] verb →
    Granted roleSpec pod verb pod.podName resourcePodsLog

theorem grants_policies : grants (collect roleSpec pods).policies name resource verb ↔ ∃ pod ∈ pods,
    (resource = resourcePods ∧ matchesVerb (settings pod.permissions).podVerbs verb ∧ name = pod.podName ∨
     resource = resourcePodsStatus ∧ matchesVerb (settings pod.permissions).statusVerbs verb ∧
       name = pod.podName) := by
  simp only [← grants_ownRule literal_pods, ← grants_ownRule literal_podsStatus, ← Kube.grants_append,
    ← Kube.grants_flatMap]
  simp only [grants, mem_collect_policies, List.mem_flatMap]

theorem grants_newPodRole : grants (newPodRole ns roleName roleSpec pods).rules name resource verb ↔
    ∃ pod ∈ pods, Granted roleSpec pod verb name resource := by
  change grants ((collect roleSpec pods).policies ++ sharedRules roleSpec (collect roleSpec pods)) _ _ _ ↔ _
  simp only [sharedRules, Kube.grants_append, grants_policies, grants_sharedRule literal_pods,
    grants_sharedRule literal_podsStatus, grants_sharedRule literal_podsAttach,
    grants_sharedRule literal_podsExec, grants_sharedRule literal_podsPortForward,
    grants_sharedRule literal_podsLog, ExtTreeSet.mem_toList, mem_podsWithDefaultPodVerbs,
    mem_podsWithDefaultStatusVerbs, mem_podsAllowExec, mem_podsAllowAttach, mem_podsAllowPortForward,
    mem_podsAllowLog]
  constructor
  case mp =>
    rintro (⟨pod, hm, ⟨rfl, hv, rfl⟩ | ⟨rfl, hv, rfl⟩⟩ |
      (((((⟨rfl, hv, pod, hm, rfl, ho⟩ | ⟨rfl, hv, pod, hm, rfl, ho⟩) | ⟨rfl, hv, pod, hm, rfl, ho⟩) |
        ⟨rfl, hv, pod, hm, rfl, ho⟩) | ⟨rfl, hv, pod, hm, rfl, ho⟩) | ⟨rfl, hv, pod, hm, rfl, ho⟩))
    all_goals refine ⟨pod, hm, ?_⟩
    · exact .ownPodVerbs hv
    · exact .ownStatusVerbs hv
    · exact .podVerbs ho hv
    · exact .statusVerbs ho hv
    · exact .attach ho hv
    · exact .exec ho hv
    · exact .portForward ho hv
    · exact .log ho hv
  case mpr =>
    rintro ⟨pod, hm, hg⟩
    cases hg
    case ownPodVerbs hv => exact .inl ⟨pod, hm, .inl ⟨rfl, hv, rfl⟩⟩
    case ownStatusVerbs hv => exact .inl ⟨pod, hm, .inr ⟨rfl, hv, rfl⟩⟩
    case podVerbs ho hv => exact .inr (.inl (.inl (.inl (.inl (.inl ⟨rfl, hv, pod, hm, rfl, ho⟩)))))
    case statusVerbs ho hv => exact .inr (.inl (.inl (.inl (.inl (.inr ⟨rfl, hv, pod, hm, rfl, ho⟩)))))
    case attach ho hv => exact .inr (.inl (.inl (.inl (.inr ⟨rfl, hv, pod, hm, rfl, ho⟩))))
    case exec ho hv => exact .inr (.inl (.inl (.inr ⟨rfl, hv, pod, hm, rfl, ho⟩)))
    case portForward ho hv => exact .inr (.inl (.inr ⟨rfl, hv, pod, hm, rfl, ho⟩))
    case log ho hv => exact .inr (.inr ⟨rfl, hv, pod, hm, rfl, ho⟩)

theorem granted_iff
    (hp : (settings pod.permissions).podVerbs = [] → pod.fallback = pod.podName ∨ roleSpec.podVerbs = [])
    (hs : (settings pod.permissions).statusVerbs = [] →
      pod.fallback = pod.podName ∨ roleSpec.statusVerbs = []) :
    Granted roleSpec pod verb name resource ↔ name = pod.podName ∧
      matchesVerb (verbsFor (overridePod roleSpec pod.permissions) resource) verb := by
  rw [matchesVerb_verbsFor_iff]
  have hpv : (overridePod roleSpec pod.permissions).podVerbs =
      overrideVerbs roleSpec.podVerbs (settings pod.permissions).podVerbs := by rw [overridePod_eq]
  have hsv : (overridePod roleSpec pod.permissions).statusVerbs =
      overrideVerbs roleSpec.statusVerbs (settings pod.permissions).statusVerbs := by rw [overridePod_eq]
  constructor
  case mp =>
    intro hg
    cases hg
    case ownPodVerbs hv => exact ⟨rfl, .podVerbs (hpv ▸ matchesVerb_override.mpr (.inl hv))⟩
    case ownStatusVerbs hv => exact ⟨rfl, .statusVerbs (hsv ▸ matchesVerb_override.mpr (.inl hv))⟩
    case podVerbs ho hv =>
      have hne : roleSpec.podVerbs ≠ [] := fun he => by simp [he] at hv
      exact ⟨(hp ho).resolve_right hne, .podVerbs (hpv ▸ matchesVerb_override.mpr (.inr ⟨hv, ho⟩))⟩
    case statusVerbs ho hv =>
      have hne : roleSpec.statusVerbs ≠ [] := fun he => by simp [he] at hv
      exact ⟨(hs ho).resolve_right hne, .statusVerbs (hsv ▸ matchesVerb_override.mpr (.inr ⟨hv, ho⟩))⟩
    case attach ho hv => exact ⟨rfl, .attach ho hv⟩
    case exec ho hv => exact ⟨rfl, .exec ho hv⟩
    case portForward ho hv => exact ⟨rfl, .portForward ho hv⟩
    case log ho hv => exact ⟨rfl, .log ho hv⟩
  case mpr =>
    rintro ⟨rfl, he⟩
    cases he
    case podVerbs hv =>
      rcases matchesVerb_override.mp (hpv ▸ hv) with hv | ⟨hv, ho⟩
      case inl => exact .ownPodVerbs hv
      case inr =>
        have hne : roleSpec.podVerbs ≠ [] := fun he => by simp [he] at hv
        exact (hp ho).resolve_right hne ▸ .podVerbs ho hv
    case statusVerbs hv =>
      rcases matchesVerb_override.mp (hsv ▸ hv) with hv | ⟨hv, ho⟩
      case inl => exact .ownStatusVerbs hv
      case inr =>
        have hne : roleSpec.statusVerbs ≠ [] := fun he => by simp [he] at hv
        exact (hs ho).resolve_right hne ▸ .statusVerbs ho hv
    case attach ho hv => exact .attach ho hv
    case exec ho hv => exact .exec ho hv
    case portForward ho hv => exact .portForward ho hv
    case log ho hv => exact .log ho hv

def Target.Harmless (roleSpec : PodRolePermissions) (pod : Target) : Prop :=
  ((settings pod.permissions).podVerbs = [] → pod.fallback = pod.podName ∨ roleSpec.podVerbs = []) ∧
  ((settings pod.permissions).statusVerbs = [] → pod.fallback = pod.podName ∨ roleSpec.statusVerbs = [])

theorem grants_newPodRole_exact (h : ∀ pod ∈ pods, pod.Harmless roleSpec) :
    grants (newPodRole ns roleName roleSpec pods).rules name resource verb ↔
    ∃ pod ∈ pods, name = pod.podName ∧
      matchesVerb (verbsFor (overridePod roleSpec pod.permissions) resource) verb := by
  rw [grants_newPodRole]
  constructor
  case mp =>
    rintro ⟨pod, hm, hg⟩
    exact ⟨pod, hm, (granted_iff (h pod hm).left (h pod hm).right).mp hg⟩
  case mpr =>
    rintro ⟨pod, hm, hg⟩
    exact ⟨pod, hm, (granted_iff (h pod hm).left (h pod hm).right).mpr hg⟩

namespace PodRoleController

variable {c : PodRoleController} {ed : Apis.EdgeDevice}

theorem getEdgeDeviceObject_name {c : Controller} (h : c.getEdgeDeviceObject name = some ed) : ed.name = name :=
  (Apis.EdgeDevices.get_eq_some_iff.mp h).right

theorem mem_virtualTargets : pod ∈ c.virtualTargets roleName ↔ ∃ p ∈ c.sysPodStore.list, ∃ ed,
    c.getEdgeDeviceObject p.name = some ed ∧
    ⟨p.name, ed.name, ed.spec.pod.virtualPodRolePermissions[roleName]?⟩ = pod := by
  simp [virtualTargets, List.mem_filterMap]

theorem mem_tenantTargets : pod ∈ c.tenantTargets roleName ↔ ∃ p ∈ c.tenantPodStore.list,
    c.getEdgeDeviceObject p.name = none ∧ ∃ ed, c.getEdgeDeviceObject p.nodeName = some ed ∧
    ⟨p.name, ed.name, ed.spec.pod.rolePermissions[roleName]?⟩ = pod := by
  simp [tenantTargets, List.mem_filterMap]

def VirtualPodCan (c : PodRoleController) (roleName : Bytes) (roleSpec : PodRolePermissions)
    (name resource verb : Bytes) : Prop :=
  ∃ p ∈ c.sysPodStore.list, p.name = name ∧ ∃ ed, c.getEdgeDeviceObject p.name = some ed ∧
    matchesVerb (verbsFor (overridePod roleSpec ed.spec.pod.virtualPodRolePermissions[roleName]?) resource) verb

def TenantPodCan (c : PodRoleController) (roleName : Bytes) (roleSpec : PodRolePermissions)
    (name resource verb : Bytes) : Prop :=
  ∃ p ∈ c.tenantPodStore.list, p.name = name ∧ c.getEdgeDeviceObject p.name = none ∧
    ∃ ed, c.getEdgeDeviceObject p.nodeName = some ed ∧
      matchesVerb (verbsFor (overridePod roleSpec ed.spec.pod.rolePermissions[roleName]?) resource) verb

theorem virtualTargets_fallback (h : pod ∈ c.virtualTargets roleName) : pod.fallback = pod.podName := by
  obtain ⟨p, -, ed, hed, rfl⟩ := mem_virtualTargets.mp h
  simp [Target.fallback, getEdgeDeviceObject_name hed]

theorem newVirtualPodRole_exact :
    grants (c.newVirtualPodRole roleName roleSpec).rules name resource verb ↔
    c.VirtualPodCan roleName roleSpec name resource verb := by
  have h : ∀ pod ∈ c.virtualTargets roleName, pod.Harmless roleSpec := fun pod hm =>
    ⟨fun _ => .inl (virtualTargets_fallback hm), fun _ => .inl (virtualTargets_fallback hm)⟩
  rw [newVirtualPodRole, grants_newPodRole_exact h]
  constructor
  case mp =>
    rintro ⟨pod, hm, hn, hv⟩
    obtain ⟨p, hp, ed, hed, rfl⟩ := mem_virtualTargets.mp hm
    exact ⟨p, hp, hn.symm, ed, hed, hv⟩
  case mpr =>
    rintro ⟨p, hp, hn, ed, hed, hv⟩
    exact ⟨_, mem_virtualTargets.mpr ⟨p, hp, ed, hed, rfl⟩, hn.symm, hv⟩

def NoWrongName (c : PodRoleController) (roleName : Bytes) (roleSpec : PodRolePermissions) : Prop :=
  ∀ p ∈ c.tenantPodStore.list, c.getEdgeDeviceObject p.name = none →
    ∀ ed, c.getEdgeDeviceObject p.nodeName = some ed →
      ∀ perms, ed.spec.pod.rolePermissions[roleName]? = some perms →
        (perms.podVerbs = [] → roleSpec.podVerbs = []) ∧ (perms.statusVerbs = [] → roleSpec.statusVerbs = [])

theorem NoWrongName.harmless (h : c.NoWrongName roleName roleSpec) (hm : pod ∈ c.tenantTargets roleName) :
    pod.Harmless roleSpec := by
  obtain ⟨p, hp, hn, ed, hed, rfl⟩ := mem_tenantTargets.mp hm
  cases hs : ed.spec.pod.rolePermissions[roleName]?
  case none => exact ⟨fun _ => .inl rfl, fun _ => .inl rfl⟩
  case some perms =>
    obtain ⟨hpv, hsv⟩ := h p hp hn ed hed perms hs
    exact ⟨fun ho => .inr (hpv ho), fun ho => .inr (hsv ho)⟩

theorem not_tenantPodCan (h : c.getEdgeDeviceObject name = some ed) :
    ¬c.TenantPodCan roleName roleSpec name resource verb := by
  rintro ⟨p, -, rfl, hn, -⟩
  rw [h] at hn
  cases hn

theorem newTenantPodRole_exact_iff :
    (∀ name resource verb,
      grants (c.newTenantPodRoleForAllEdgeDevices roleName roleSpec).rules name resource verb ↔
      c.TenantPodCan roleName roleSpec name resource verb) ↔
    c.NoWrongName roleName roleSpec := by
  constructor
  case mp =>
    intro h p hp hn ed hed perms hs
    have hm : ⟨p.name, ed.name, some perms⟩ ∈ c.tenantTargets roleName :=
      mem_tenantTargets.mpr ⟨p, hp, hn, ed, hed, by rw [hs]⟩
    have hed' : c.getEdgeDeviceObject ed.name = some ed := by rwa [getEdgeDeviceObject_name hed]
    -- Otherwise the name of the edge device gets the first of the default verbs.
    constructor
    case left =>
      intro ho
      refine List.eq_nil_iff_forall_not_mem.mpr fun verb hv => ?_
      have hg : Granted roleSpec ⟨p.name, ed.name, some perms⟩ verb ed.name resourcePods :=
        .podVerbs ho (Kube.matchesVerb_of_mem hv)
      exact not_tenantPodCan hed' ((h _ _ _).mp (grants_newPodRole.mpr ⟨_, hm, hg⟩))
    case right =>
      intro ho
      refine List.eq_nil_iff_forall_not_mem.mpr fun verb hv => ?_
      have hg : Granted roleSpec ⟨p.name, ed.name, some perms⟩ verb ed.name resourcePodsStatus :=
        .statusVerbs ho (Kube.matchesVerb_of_mem hv)
      exact not_tenantPodCan hed' ((h _ _ _).mp (grants_newPodRole.mpr ⟨_, hm, hg⟩))
  case mpr =>
    intro h name resource verb
    rw [newTenantPodRoleForAllEdgeDevices, grants_newPodRole_exact fun pod => h.harmless]
    constructor
    case mp =>
      rintro ⟨pod, hm, hn, hv⟩
      obtain ⟨p, hp, hno, ed, hed, rfl⟩ := mem_tenantTargets.mp hm
      exact ⟨p, hp, hn.symm, hno, ed, hed, hv⟩
    case mpr =>
      rintro ⟨p, hp, hn, hno, ed, hed, hv⟩
      exact ⟨_, mem_tenantTargets.mpr ⟨p, hp, hno, ed, hed, rfl⟩, hn.symm, hv⟩

def sample (rolePermissions : ExtTreeMap Bytes PodRolePermissions) (roleSpec : PodRolePermissions) :
    PodRoleController where
  sysNS := str "edge"
  hostname := str "host"
  hostNodeAddresses := []
  vnConfig := .zero
  edgeDevices :=
    ⟨[⟨[1], str "edge", [], { Apis.EdgeDeviceSpec.zero with pod.rolePermissions := rolePermissions }, [], []⟩],
     by simp, by simp⟩
  virtualNodes _ := true
  tenantNS := str "tenant"
  tenantPodRoles := (∅ : ExtTreeMap Bytes PodRolePermissions).insert [7] roleSpec
  vpRoles := (∅ : ExtTreeMap Bytes PodRolePermissions).insert [7] roleSpec
  tenantPodStore := ⟨[podOn [2] [1]], by simp⟩
  sysPodStore := ⟨[podOn [1] [9]], by simp⟩
  tenantPods := (∅ : ExtTreeSet Bytes).insert [2]

-- The edge device only sets the verbs for the status. Its name gets the verb for pods, and the pod does not.
theorem not_exact_edgeDevice : ∃ rolePermissions, ∃ roleSpec : PodRolePermissions,
    grants ((sample rolePermissions roleSpec).newTenantPodRoleForAllEdgeDevices [7] roleSpec).rules [1]
      resourcePods (str "get") ∧
    ¬(sample rolePermissions roleSpec).TenantPodCan [7] roleSpec [1] resourcePods (str "get") ∧
    ¬grants ((sample rolePermissions roleSpec).newTenantPodRoleForAllEdgeDevices [7] roleSpec).rules [2]
      resourcePods (str "get") ∧
    (sample rolePermissions roleSpec).TenantPodCan [7] roleSpec [2] resourcePods (str "get") := by
  let perms : PodRolePermissions := ⟨[], [str "get"], none, none, none, none⟩
  refine ⟨(∅ : ExtTreeMap Bytes PodRolePermissions).insert [7] perms, ⟨[str "get"], [], none, none, none, none⟩,
    ?_, ?_, ?_, ?_⟩
  case refine_1 => exact ⟨.core resourcePods [str "get"] [[1]], by decide, by decide⟩
  case refine_2 => exact not_tenantPodCan rfl
  case refine_3 => rintro ⟨p, hp, ha⟩; revert ha; revert p; decide
  case refine_4 => exact ⟨_, List.mem_singleton_self _, rfl, rfl, _, rfl, by decide⟩

end PodRoleController
end Aranya.EdgeDevice
