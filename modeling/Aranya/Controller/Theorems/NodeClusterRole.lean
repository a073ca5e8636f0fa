import Aranya.Controller.Theorems.Roles

namespace Aranya.EdgeDevice

open Std (ExtTreeMap)
open Apis (NodeClusterRolePermissions)
open Kube (PolicyRule Role grants matchesVerb)

namespace ClusterRoleController

variable {c : ClusterRoleController} {crName : Bytes} {crSpec perms : NodeClusterRolePermissions}
    {eds : List Apis.EdgeDevice} {ed : Apis.EdgeDevice} {s : NodePolicies}
    {name resource resource' verb : Bytes} {verbs names : List Bytes} {p : PolicyRule}
    {nodeNames nodeNames' : Finset Bytes}

def effective (crName : Bytes) (crSpec : NodeClusterRolePermissions) (ed : Apis.EdgeDevice) :
    NodeClusterRolePermissions :=
  overrideNode crSpec ed.spec.node.clusterRolePermissions[crName]?

def Skipped (crName : Bytes) (ed : Apis.EdgeDevice) : Prop :=
  ed.spec.node.clusterRolePermissions ≠ ∅ ∧ ed.spec.node.clusterRolePermissions[crName]? = none

def own (crName : Bytes) (ed : Apis.EdgeDevice) : NodeClusterRolePermissions :=
  ed.spec.node.clusterRolePermissions[crName]?.getD ⟨[], []⟩

theorem effective_eq : effective crName crSpec ed =
    ⟨overrideVerbs crSpec.nodeVerbs (own crName ed).nodeVerbs,
     overrideVerbs crSpec.statusVerbs (own crName ed).statusVerbs⟩ := by
  simp only [effective, own, overrideNode]
  split
  case h_1 hs => rw [hs]; rfl
  case h_2 hs => rw [hs]; rfl

def ownPolicies (crName : Bytes) (ed : Apis.EdgeDevice) : NodePolicies :=
  addNodePolicies crName ⟨[], [], []⟩ ed

theorem addNodePolicies_eq : addNodePolicies crName s ed =
    ⟨s.policies ++ (ownPolicies crName ed).policies,
     s.nodeWithDefaultNodeVerbs ++ (ownPolicies crName ed).nodeWithDefaultNodeVerbs,
     s.nodeWithDefaultStatusVerbs ++ (ownPolicies crName ed).nodeWithDefaultStatusVerbs⟩ := by
  simp only [ownPolicies, addNodePolicies]
  split
  case isTrue => simp
  case isFalse =>
    split
    case h_1 => simp
    case h_2 => split <;> split <;> simp

theorem foldl_addNodePolicies : eds.foldl (addNodePolicies crName) s =
    ⟨s.policies ++ eds.flatMap fun ed => (ownPolicies crName ed).policies,
     s.nodeWithDefaultNodeVerbs ++ eds.flatMap fun ed => (ownPolicies crName ed).nodeWithDefaultNodeVerbs,
     s.nodeWithDefaultStatusVerbs ++
       eds.flatMap fun ed => (ownPolicies crName ed).nodeWithDefaultStatusVerbs⟩ := by
  induction eds generalizing s
  case nil => simp
  case cons ed eds hi => simp [hi, addNodePolicies_eq]

def defaultName (ed : Apis.EdgeDevice) (verbs : List Bytes) : List Bytes :=
  if verbs = [] then [ed.name] else []

theorem ownPolicies_of_skipped (h : Skipped crName ed) : ownPolicies crName ed = ⟨[], [], []⟩ := by
  have he : ed.spec.node.clusterRolePermissions.isEmpty = false := by
    rw [Bool.eq_false_iff, ne_eq, ExtTreeMap.isEmpty_iff]
    exact h.left
  simp [ownPolicies, addNodePolicies, he, h.right]

theorem ownPolicies_of_not_skipped (h : ¬Skipped crName ed) : ownPolicies crName ed =
    ⟨ownRule resourceNodes ed.name (own crName ed).nodeVerbs ++
       ownRule resourceNodesStatus ed.name (own crName ed).statusVerbs,
     defaultName ed (own crName ed).nodeVerbs, defaultName ed (own crName ed).statusVerbs⟩ := by
  simp only [ownPolicies, addNodePolicies, own]
  split
  case isTrue he =>
    rw [ExtTreeMap.isEmpty_iff.mp he]
    simp [ownRule, defaultName]
  case isFalse he =>
    split
    case h_1 hn => exact absurd ⟨mt ExtTreeMap.isEmpty_iff.mpr he, hn⟩ h
    case h_2 perms hs =>
      rw [hs, Option.getD_some]
      simp only [ownRule, defaultName]
      split <;> split <;> simp_all

theorem literal_nodes : Kube.Literal resourceNodes := by
  decide

theorem literal_nodesStatus : Kube.Literal resourceNodesStatus := by
  decide

theorem mem_defaultName : name ∈ defaultName ed verbs ↔ verbs = [] ∧ name = ed.name := by
  simp only [defaultName]
  split <;> simp_all

def verbsFor (perms : NodeClusterRolePermissions) (resource : Bytes) : List Bytes :=
  (nodeVerbs perms resource).getD []

theorem resourceNodes_ne : resourceNodes ≠ resourceNodesStatus := by
  decide

theorem matchesVerb_verbsFor : matchesVerb (verbsFor perms resource) verb ↔
    resource = resourceNodes ∧ matchesVerb perms.nodeVerbs verb ∨
    resource = resourceNodesStatus ∧ matchesVerb perms.statusVerbs verb := by
  simp only [verbsFor, nodeVerbs]
  split
  case isTrue h => simp [h, resourceNodes_ne]
  case isFalse h => split <;> simp_all

theorem verbsFor_effective : verbsFor (effective crName crSpec ed) resource =
    overrideVerbs (verbsFor crSpec resource) (verbsFor (own crName ed) resource) := by
  simp only [effective_eq, verbsFor, nodeVerbs]
  split
  case isTrue => rfl
  case isFalse => split <;> rfl

theorem grants_ownPolicies : grants (ownPolicies crName ed).policies name resource verb ↔
    ¬Skipped crName ed ∧ name = ed.name ∧ matchesVerb (verbsFor (own crName ed) resource) verb := by
  by_cases h : Skipped crName ed
  case pos => simp [ownPolicies_of_skipped h, h, grants]
  case neg =>
    rw [ownPolicies_of_not_skipped h, Kube.grants_append, grants_ownRule literal_nodes,
      grants_ownRule literal_nodesStatus, matchesVerb_verbsFor]
    tauto

theorem mem_nodeWithDefaultVerbs :
    (name ∈ (ownPolicies crName ed).nodeWithDefaultNodeVerbs ↔
      ¬Skipped crName ed ∧ name = ed.name ∧ verbsFor (own crName ed) resourceNodes = []) ∧
    (name ∈ (ownPolicies crName ed).nodeWithDefaultStatusVerbs ↔
      ¬Skipped crName ed ∧ name = ed.name ∧ verbsFor (own crName ed) resourceNodesStatus = []) := by
  by_cases h : Skipped crName ed
  case pos => simp [ownPolicies_of_skipped h, h]
  case neg =>
    rw [ownPolicies_of_not_skipped h, mem_defaultName, mem_defaultName]
    simp [h, verbsFor, nodeVerbs, resourceNodes_ne.symm, and_comm]

theorem grants_newNodeClusterRole :
    grants (c.newNodeClusterRoleForAllEdgeDevices crName crSpec).rules name resource verb ↔
    ∃ ed ∈ c.edgeDevices.list, ¬Skipped crName ed ∧ name = ed.name ∧
      matchesVerb (verbsFor (effective crName crSpec ed) resource) verb := by
  simp only [newNodeClusterRoleForAllEdgeDevices, foldl_addNodePolicies, List.nil_append,
    Kube.grants_append, Kube.grants_flatMap, grants_ownPolicies, grants_sharedRule literal_nodes,
    grants_sharedRule literal_nodesStatus, List.mem_flatMap, mem_nodeWithDefaultVerbs,
    verbsFor_effective, matchesVerb_override]
  constructor
  case mp =>
    rintro ((⟨ed, hm, hs, hn, hv⟩ | ⟨hr, hv, ed, hm, hs, hn, ho⟩) | ⟨hr, hv, ed, hm, hs, hn, ho⟩)
    case inl.inl => exact ⟨ed, hm, hs, hn, .inl hv⟩
    case inl.inr => exact ⟨ed, hm, hs, hn, .inr ⟨matchesVerb_verbsFor.mpr (.inl ⟨hr, hv⟩), hr ▸ ho⟩⟩
    case inr => exact ⟨ed, hm, hs, hn, .inr ⟨matchesVerb_verbsFor.mpr (.inr ⟨hr, hv⟩), hr ▸ ho⟩⟩
  case mpr =>
    rintro ⟨ed, hm, hs, hn, hv | ⟨hv, ho⟩⟩
    case inl => exact .inl (.inl ⟨ed, hm, hs, hn, hv⟩)
    case inr =>
      cases matchesVerb_verbsFor.mp hv
      case inl hv => exact .inl (.inr ⟨hv.left, hv.right, ed, hm, hs, hn, hv.left ▸ ho⟩)
      case inr hv => exact .inr ⟨hv.left, hv.right, ed, hm, hs, hn, hv.left ▸ ho⟩

theorem grants_newNodeClusterRole_name (h : ed ∈ c.edgeDevices.list) :
    grants (c.newNodeClusterRoleForAllEdgeDevices crName crSpec).rules ed.name resource verb ↔
    ¬Skipped crName ed ∧ matchesVerb (verbsFor (effective crName crSpec ed) resource) verb := by
  rw [grants_newNodeClusterRole]
  constructor
  case mp =>
    rintro ⟨ed', hm, hs, hn, hv⟩
    cases List.inj_on_of_nodup_map c.edgeDevices.nodup h hm hn
    exact ⟨hs, hv⟩
  case mpr =>
    rintro ⟨hs, hv⟩
    exact ⟨ed, h, hs, rfl, hv⟩

theorem nodeVerbs_eq_some_iff : nodeVerbs perms resource = some verbs ↔
    (resource = resourceNodes ∨ resource = resourceNodesStatus) ∧ verbs = verbsFor perms resource := by
  simp only [verbsFor, nodeVerbs]
  split
  case isTrue hr => simp [hr, eq_comm]
  case isFalse hr => split <;> simp_all [eq_comm]

theorem expectedPermissions_singleton (h : ed ∈ c.edgeDevices.list) :
    c.expectedPermissions crName crSpec [ed.name] = some (effective crName crSpec ed) := by
  simp only [expectedPermissions, Controller.getEdgeDeviceObject, Apis.EdgeDevices.get_name h]
  rfl

theorem expectedPermissions_of_length_ne (h : names.length ≠ 1) :
    c.expectedPermissions crName crSpec names = some crSpec := by
  simp only [expectedPermissions]
  split
  case h_1 => exact absurd rfl h
  case h_2 => rfl

theorem expectedPermissions_default (crSpec : NodeClusterRolePermissions) (h : ed ∈ c.edgeDevices.list)
    (hn : ed.name ∈ names) (ho : verbsFor (own crName ed) resource = []) :
    ∃ perms, c.expectedPermissions crName crSpec names = some perms ∧
      verbsFor perms resource = verbsFor (effective crName crSpec ed) resource := by
  by_cases hl : names.length = 1
  case pos =>
    obtain ⟨name, rfl⟩ := List.length_eq_one_iff.mp hl
    cases List.mem_singleton.mp hn
    exact ⟨_, expectedPermissions_singleton h, rfl⟩
  case neg =>
    refine ⟨_, expectedPermissions_of_length_ne hl, ?_⟩
    simp [verbsFor_effective, overrideVerbs, ho]

structure RuleUpToDate (c : ClusterRoleController) (crName : Bytes) (crSpec : NodeClusterRolePermissions)
    (resource : Bytes) (p : PolicyRule) : Prop where
  named : p.resourceNames ≠ []
  eq_core : p = .core resource p.verbs p.resourceNames
  known : resource = resourceNodes ∨ resource = resourceNodesStatus
  verbs : ∃ perms, c.expectedPermissions crName crSpec p.resourceNames = some perms ∧
    ∀ verb ∈ verbsFor perms resource, verb ∈ p.verbs

theorem checkNodeRule_eq_some_iff :
    c.checkNodeRule crName crSpec nodeNames p = some nodeNames' ↔
    (∃ resource, RuleUpToDate c crName crSpec resource p) ∧
    p.resourceNames.foldl (fun names name => insert name names) nodeNames = nodeNames' := by
  obtain ⟨groups, resources, verbs, names⟩ := p
  simp only [checkNodeRule]
  split
  case h_1 name names resource =>
    simp only [Option.bind_eq_bind, Option.bind_eq_some_iff, nodeVerbs_eq_some_iff]
    constructor
    case mp =>
      rintro ⟨perms, hp, required, ⟨hr, rfl⟩, h⟩
      split at h
      case isTrue hc =>
        exact ⟨⟨resource, List.cons_ne_nil _ _, rfl, hr, perms, hp, containsAll_iff.mp hc⟩, Option.some.inj h⟩
      case isFalse => cases h
    case mpr =>
      rintro ⟨⟨resource', hu⟩, h⟩
      cases hu.eq_core
      obtain ⟨perms, hp, hv⟩ := hu.verbs
      refine ⟨perms, hp, _, ⟨hu.known, rfl⟩, ?_⟩
      rw [if_pos (containsAll_iff.mpr hv), ← h]
      rfl
  case h_2 hn =>
    constructor
    case mp => intro h; cases h
    case mpr =>
      rintro ⟨⟨resource, hu⟩, h⟩
      cases hu.eq_core
      obtain ⟨name, names', rfl⟩ := List.exists_cons_of_ne_nil hu.named
      exact absurd rfl (hn name names' resource rfl rfl)

theorem foldlM_checkNodeRule {rules : List PolicyRule} :
    rules.foldlM (c.checkNodeRule crName crSpec) nodeNames = some nodeNames' ↔
    (∀ p ∈ rules, ∃ resource, RuleUpToDate c crName crSpec resource p) ∧
    ∀ name, name ∈ nodeNames' ↔ name ∈ nodeNames ∨ ∃ p ∈ rules, name ∈ p.resourceNames := by
  induction rules generalizing nodeNames
  case nil =>
    simp [Finset.ext_iff, eq_comm]
  case cons p rules hi =>
    simp only [List.foldlM_cons, Option.bind_eq_bind, Option.bind_eq_some_iff, checkNodeRule_eq_some_iff,
      List.forall_mem_cons, hi]
    constructor
    case mp =>
      rintro ⟨_, ⟨hp, rfl⟩, hr, hm⟩
      refine ⟨⟨hp, hr⟩, ?_⟩
      simp [hm, mem_foldl_insert, or_assoc]
    case mpr =>
      rintro ⟨⟨hp, hr⟩, hm⟩
      refine ⟨_, ⟨hp, rfl⟩, hr, ?_⟩
      simp [hm, mem_foldl_insert, or_assoc]

theorem checkNodeClusterRoleUpToDate_iff {obj : Role} (h : c.nodeClusterRoles[obj.name]? = some crSpec) :
    c.checkNodeClusterRoleUpToDate obj ↔ hasLabels obj labelRoleValueNodeClusterRole c.sysNS ∧
      (∀ p ∈ obj.rules, ∃ resource, RuleUpToDate c obj.name crSpec resource p) ∧
      ∀ name, (∃ p ∈ obj.rules, name ∈ p.resourceNames) ↔ ∃ ed ∈ c.edgeDevices.list, ed.name = name := by
  simp only [checkNodeClusterRoleUpToDate, h]
  by_cases hl : hasLabels obj labelRoleValueNodeClusterRole c.sysNS
  case neg => simp [hl]
  case pos =>
    simp only [hl, Bool.not_true, Bool.false_eq_true, if_false, true_and]
    split
    case h_1 hf =>
      simp only [Bool.false_eq_true, false_iff]
      rintro ⟨hr, hn⟩
      have hs : ∀ name, name ∈ (obj.rules.flatMap PolicyRule.resourceNames).toFinset ↔
          name ∈ (∅ : Finset Bytes) ∨ ∃ p ∈ obj.rules, name ∈ p.resourceNames := by simp
      cases hf.symm.trans (foldlM_checkNodeRule.mpr ⟨hr, hs⟩)
    case h_2 nodeNames hf =>
      obtain ⟨hr, hn⟩ := foldlM_checkNodeRule.mp hf
      rw [Bool.and_eq_true, decide_eq_true_iff, decide_eq_true_iff, card_eq_and_erase_iff c.edgeDevices.nodup]
      simp only [hn, Finset.notMem_empty, false_or, List.mem_map]
      exact (and_iff_right hr).symm

theorem mem_policies : p ∈ (ownPolicies crName ed).policies ↔ ¬Skipped crName ed ∧
    ∃ resource, (resource = resourceNodes ∨ resource = resourceNodesStatus) ∧
      verbsFor (own crName ed) resource ≠ [] ∧
      p = .core resource (verbsFor (own crName ed) resource) [ed.name] := by
  by_cases h : Skipped crName ed
  case pos => simp [ownPolicies_of_skipped h, h]
  case neg =>
    rw [ownPolicies_of_not_skipped h, List.mem_append, mem_ownRule, mem_ownRule]
    simp [h, or_and_right, exists_or, verbsFor, nodeVerbs, resourceNodes_ne.symm]

theorem RuleUpToDate.core_default {resource : Bytes} {names : List Bytes}
    (hr : resource = resourceNodes ∨ resource = resourceNodesStatus) (hne : names ≠ [])
    (h : ∀ name ∈ names, ∃ ed ∈ c.edgeDevices.list, name = ed.name ∧ verbsFor (own crName ed) resource = []) :
    RuleUpToDate c crName crSpec resource (.core resource (verbsFor crSpec resource) names) where
  named := hne
  eq_core := rfl
  known := hr
  verbs := by
    obtain ⟨name, hn⟩ := List.exists_mem_of_ne_nil names hne
    obtain ⟨ed, hm, rfl, ho⟩ := h name hn
    obtain ⟨perms, hp, he⟩ := expectedPermissions_default crSpec hm hn ho
    refine ⟨perms, hp, ?_⟩
    rw [he, verbsFor_effective, ho]
    exact fun _ hv => hv

theorem RuleUpToDate.core_own (hr : resource = resourceNodes ∨ resource = resourceNodesStatus)
    (hm : ed ∈ c.edgeDevices.list) (ho : verbsFor (own crName ed) resource ≠ []) :
    RuleUpToDate c crName crSpec resource
      (.core resource (verbsFor (own crName ed) resource) [ed.name]) where
  named := List.cons_ne_nil _ _
  eq_core := rfl
  known := hr
  verbs := by
    refine ⟨_, expectedPermissions_singleton hm, ?_⟩
    rw [verbsFor_effective, overrideVerbs, if_neg ho]
    exact fun _ hv => hv

theorem newNodeClusterRole_upToDate :
    ∀ p ∈ (c.newNodeClusterRoleForAllEdgeDevices crName crSpec).rules,
      ∃ resource, RuleUpToDate c crName crSpec resource p := by
  simp only [newNodeClusterRoleForAllEdgeDevices, foldl_addNodePolicies, List.nil_append, List.mem_append,
    List.mem_flatMap, mem_sharedRule, mem_policies]
  rintro p ((⟨ed, hm, hs, resource, hr, ho, rfl⟩ | ⟨hne, rfl⟩) | ⟨hne, rfl⟩)
  case inl.inl => exact ⟨resource, .core_own hr hm ho⟩
  case inl.inr =>
    refine ⟨resourceNodes, .core_default (.inl rfl) hne ?_⟩
    intro name hn
    obtain ⟨ed, hm, hn⟩ := List.mem_flatMap.mp hn
    exact ⟨ed, hm, (mem_nodeWithDefaultVerbs.left.mp hn).right⟩
  case inr =>
    refine ⟨resourceNodesStatus, .core_default (.inr rfl) hne ?_⟩
    intro name hn
    obtain ⟨ed, hm, hn⟩ := List.mem_flatMap.mp hn
    exact ⟨ed, hm, (mem_nodeWithDefaultVerbs.right.mp hn).right⟩

theorem newNodeClusterRole_names :
    (∃ p ∈ (c.newNodeClusterRoleForAllEdgeDevices crName crSpec).rules, name ∈ p.resourceNames) ↔
    ∃ ed ∈ c.edgeDevices.list, ¬Skipped crName ed ∧ name = ed.name := by
  simp only [newNodeClusterRoleForAllEdgeDevices, foldl_addNodePolicies, List.nil_append, List.mem_append,
    List.mem_flatMap, mem_sharedRule, mem_policies]
  constructor
  case mp =>
    rintro ⟨p, ((⟨ed, hm, hs, resource, hr, ho, rfl⟩ | ⟨hne, rfl⟩) | ⟨hne, rfl⟩), hn⟩
    case inl.inl => exact ⟨ed, hm, hs, List.mem_singleton.mp hn⟩
    case inl.inr =>
      obtain ⟨ed, hm, hn⟩ := List.mem_flatMap.mp hn
      obtain ⟨hs, hn, -⟩ := mem_nodeWithDefaultVerbs.left.mp hn
      exact ⟨ed, hm, hs, hn⟩
    case inr =>
      obtain ⟨ed, hm, hn⟩ := List.mem_flatMap.mp hn
      obtain ⟨hs, hn, -⟩ := mem_nodeWithDefaultVerbs.right.mp hn
      exact ⟨ed, hm, hs, hn⟩
  case mpr =>
    rintro ⟨ed, hm, hs, rfl⟩
    by_cases ho : verbsFor (own crName ed) resourceNodes = []
    case pos =>
      have hd := mem_nodeWithDefaultVerbs.left.mpr ⟨hs, rfl, ho⟩
      have hn : ed.name ∈ c.edgeDevices.list.flatMap
          fun ed => (ownPolicies crName ed).nodeWithDefaultNodeVerbs := List.mem_flatMap.mpr ⟨ed, hm, hd⟩
      exact ⟨_, .inl (.inr ⟨List.ne_nil_of_mem hn, rfl⟩), hn⟩
    case neg =>
      exact ⟨_, .inl (.inl ⟨ed, hm, hs, _, .inl rfl, ho, rfl⟩), List.mem_singleton_self _⟩

theorem newNodeClusterRole_hasLabels :
    hasLabels (c.newNodeClusterRoleForAllEdgeDevices crName crSpec) labelRoleValueNodeClusterRole c.sysNS := by
  have hc : compare labelNamespace labelRole ≠ .eq := by decide
  simp [hasLabels, newNodeClusterRoleForAllEdgeDevices, ExtTreeMap.getD_insert, hc]

def Exact (c : ClusterRoleController) (crName : Bytes) (crSpec : NodeClusterRolePermissions)
    (rules : List PolicyRule) : Prop :=
  ∀ ed ∈ c.edgeDevices.list, ∀ verb,
    (grants rules ed.name resourceNodes verb ↔
      matchesVerb (effective crName crSpec ed).nodeVerbs verb) ∧
    (grants rules ed.name resourceNodesStatus verb ↔
      matchesVerb (effective crName crSpec ed).statusVerbs verb)

theorem newNodeClusterRole_fixpoint_iff (h : c.nodeClusterRoles[crName]? = some crSpec) :
    c.checkNodeClusterRoleUpToDate (c.newNodeClusterRoleForAllEdgeDevices crName crSpec) ∧
      Exact c crName crSpec (c.newNodeClusterRoleForAllEdgeDevices crName crSpec).rules ↔
    ∀ ed ∈ c.edgeDevices.list, ¬Skipped crName ed := by
  rw [checkNodeClusterRoleUpToDate_iff h]
  constructor
  case mp =>
    rintro ⟨⟨-, -, hn⟩, -⟩ ed hm
    obtain ⟨ed', hm', hs, he⟩ := newNodeClusterRole_names.mp ((hn ed.name).mpr ⟨ed, hm, rfl⟩)
    rw [List.inj_on_of_nodup_map c.edgeDevices.nodup hm hm' he]
    exact hs
  case mpr =>
    intro hs
    refine ⟨⟨newNodeClusterRole_hasLabels, newNodeClusterRole_upToDate, ?_⟩, ?_⟩
    case refine_1 =>
      intro name
      rw [newNodeClusterRole_names]
      constructor
      case mp =>
        rintro ⟨ed, hm, -, hn⟩
        exact ⟨ed, hm, hn.symm⟩
      case mpr =>
        rintro ⟨ed, hm, hn⟩
        exact ⟨ed, hm, hs ed hm, hn.symm⟩
    case refine_2 =>
      intro ed hm verb
      rw [grants_newNodeClusterRole_name hm, grants_newNodeClusterRole_name hm]
      exact ⟨and_iff_right (hs ed hm), and_iff_right (hs ed hm)⟩

def sample (permissions : ExtTreeMap Bytes NodeClusterRolePermissions) : ClusterRoleController where
  sysNS := str "edge"
  hostname := str "host"
  hostNodeAddresses := []
  vnConfig := .zero
  edgeDevices :=
    ⟨[⟨[1], str "edge", [], { Apis.EdgeDeviceSpec.zero with node.clusterRolePermissions := permissions }, [], []⟩],
     by simp, by simp⟩
  virtualNodes _ := false
  nodeClusterRoles := (∅ : ExtTreeMap Bytes NodeClusterRolePermissions).insert [7] ⟨[str "get"], []⟩

theorem newNodeClusterRole_fixpoint_iff_empty :
    (sample ∅).checkNodeClusterRoleUpToDate
      ((sample ∅).newNodeClusterRoleForAllEdgeDevices [7] ⟨[str "get"], []⟩) ∧
    Exact (sample ∅) [7] ⟨[str "get"], []⟩
      ((sample ∅).newNodeClusterRoleForAllEdgeDevices [7] ⟨[str "get"], []⟩).rules := by
  apply (newNodeClusterRole_fixpoint_iff ExtTreeMap.getElem?_insert_self).mpr
  rintro ed hm ⟨hp, -⟩
  cases List.mem_singleton.mp hm
  exact hp rfl

-- The edge device has permissions for another role, so it is in no rule of the generated one.
theorem not_upToDate_skipped : ∃ permissions, (sample permissions).checkNodeClusterRoleUpToDate
    ((sample permissions).newNodeClusterRoleForAllEdgeDevices [7] ⟨[str "get"], []⟩) = false := by
  refine ⟨(∅ : ExtTreeMap Bytes NodeClusterRolePermissions).insert [8] ⟨[], []⟩, ?_⟩
  decide

def Names (rules : List PolicyRule) (name resource : Bytes) (p : PolicyRule) : Prop :=
  p ∈ rules ∧ p.resources = [resource] ∧ name ∈ p.resourceNames

-- The verbs which the rules for a resource have for a name.
def verbsOf (rules : List PolicyRule) (name resource : Bytes) : List Bytes :=
  (rules.filter fun p => p.resources = [resource] ∧ name ∈ p.resourceNames).flatMap PolicyRule.verbs

-- The check has looked at the verbs of an edge device if it does not set them or is alone in a rule.
def Checked (crName : Bytes) (rules : List PolicyRule) (ed : Apis.EdgeDevice) (resource : Bytes) : Prop :=
  verbsFor (own crName ed) resource = [] ∨
  ∃ p, Names rules ed.name resource p ∧ p.resourceNames = [ed.name]

-- What the check leaves open: the names of skipped edge devices, how many distinct verbs there are, and the
-- verbs of edge devices which set them but are only in rules with several names.
structure Tight (crName : Bytes) (crSpec : NodeClusterRolePermissions) (rules : List PolicyRule)
    (ed : Apis.EdgeDevice) (resource : Bytes) : Prop where
  skipped : Skipped crName ed → verbsOf rules ed.name resource = []
  distinct : ¬Skipped crName ed → Checked crName rules ed resource →
    str "*" ∈ verbsFor (effective crName crSpec ed) resource ∧ verbsOf rules ed.name resource ≠ [] ∨
    (verbsOf rules ed.name resource).toFinset.card =
      (verbsFor (effective crName crSpec ed) resource).toFinset.card
  shared : ¬Skipped crName ed → ¬Checked crName rules ed resource →
    if str "*" ∈ verbsFor (own crName ed) resource then str "*" ∈ verbsOf rules ed.name resource
    else (verbsOf rules ed.name resource).toFinset = (verbsFor (own crName ed) resource).toFinset

theorem matchesVerb_verbsOf {rules : List PolicyRule} : matchesVerb (verbsOf rules name resource) verb ↔
    ∃ p, Names rules name resource p ∧ matchesVerb p.verbs verb := by
  simp only [verbsOf, Kube.matchesVerb_iff, List.mem_flatMap, List.mem_filter, decide_eq_true_iff, Names]
  simp only [← exists_or, ← and_or_left]

theorem RuleUpToDate.literal (h : RuleUpToDate c crName crSpec resource p) : Kube.Literal resource := by
  cases h.known
  case inl hr => exact hr ▸ literal_nodes
  case inr hr => exact hr ▸ literal_nodesStatus

theorem RuleUpToDate.allows_iff (h : RuleUpToDate c crName crSpec resource p) :
    p.allows name resource' verb ↔ p.resources = [resource'] ∧ name ∈ p.resourceNames ∧
      matchesVerb p.verbs verb := by
  have hr : p.resources = [resource] := by rw [h.eq_core]; rfl
  rw [h.eq_core, h.literal.allows_iff, ← h.eq_core, hr, or_iff_right h.named, List.singleton_inj,
    @eq_comm _ resource']
  tauto

section Accepted

variable {obj : Role} (h : c.nodeClusterRoles[obj.name]? = some crSpec) (hc : c.checkNodeClusterRoleUpToDate obj)

include h hc

theorem grants_of_accepted : grants obj.rules name resource verb ↔
    ∃ p, Names obj.rules name resource p ∧ matchesVerb p.verbs verb := by
  obtain ⟨-, hr, -⟩ := (checkNodeClusterRoleUpToDate_iff h).mp hc
  constructor
  case mp =>
    rintro ⟨p, hp, ha⟩
    obtain ⟨resource', hu⟩ := hr p hp
    obtain ⟨hr', hn, hv⟩ := hu.allows_iff.mp ha
    exact ⟨p, ⟨hp, hr', hn⟩, hv⟩
  case mpr =>
    rintro ⟨p, ⟨hp, hr', hn⟩, hv⟩
    obtain ⟨resource', hu⟩ := hr p hp
    exact ⟨p, hp, hu.allows_iff.mpr ⟨hr', hn, hv⟩⟩

theorem exists_of_grants (hg : grants obj.rules name resource verb) :
    ∃ ed ∈ c.edgeDevices.list, ed.name = name := by
  obtain ⟨-, -, hn⟩ := (checkNodeClusterRoleUpToDate_iff h).mp hc
  obtain ⟨p, ⟨hp, -, hm⟩, -⟩ := (grants_of_accepted h hc).mp hg
  exact (hn name).mp ⟨p, hp, hm⟩

theorem mem_verbs_of_names {p : PolicyRule} (hm : ed ∈ c.edgeDevices.list)
    (hp : Names obj.rules ed.name resource p)
    (ho : verbsFor (own obj.name ed) resource = [] ∨ p.resourceNames = [ed.name]) :
    ∀ verb ∈ verbsFor (effective obj.name crSpec ed) resource, verb ∈ p.verbs := by
  obtain ⟨-, hr, -⟩ := (checkNodeClusterRoleUpToDate_iff h).mp hc
  obtain ⟨resource', hu⟩ := hr p hp.left
  obtain ⟨perms, he, hv⟩ := hu.verbs
  have hr' : resource' = resource := by
    have hs := hp.right.left
    rw [hu.eq_core] at hs
    exact List.singleton_inj.mp hs
  subst hr'
  cases ho
  case inl ho =>
    obtain ⟨perms', he', hs⟩ := expectedPermissions_default crSpec hm hp.right.right ho
    cases he.symm.trans he'
    exact hs ▸ hv
  case inr ho =>
    rw [ho, expectedPermissions_singleton hm] at he
    cases he
    exact hv

theorem mem_verbsOf_of_checked (hm : ed ∈ c.edgeDevices.list) (hk : Checked obj.name obj.rules ed resource)
    (hn : verbsOf obj.rules ed.name resource ≠ [] ∨ verbsFor (own obj.name ed) resource ≠ []) :
    ∀ verb ∈ verbsFor (effective obj.name crSpec ed) resource, verb ∈ verbsOf obj.rules ed.name resource := by
  obtain ⟨p, hp, ho⟩ : ∃ p, Names obj.rules ed.name resource p ∧
      (verbsFor (own obj.name ed) resource = [] ∨ p.resourceNames = [ed.name]) := by
    rcases hk with ho | ⟨p, hp, ha⟩
    case inr => exact ⟨p, hp, .inr ha⟩
    case inl =>
      obtain ⟨verb, hv⟩ := List.exists_mem_of_ne_nil _ <| hn.resolve_right (not_not.mpr ho)
      obtain ⟨p, hp, -⟩ := matchesVerb_verbsOf.mp (Kube.matchesVerb_of_mem hv)
      exact ⟨p, hp, .inl ho⟩
  intro verb hv
  have hv := mem_verbs_of_names h hc hm hp ho verb hv
  exact List.mem_flatMap.mpr ⟨p, List.mem_filter.mpr ⟨hp.left, decide_eq_true hp.right⟩, hv⟩

theorem tight_iff (hm : ed ∈ c.edgeDevices.list) :
    (∀ verb, grants obj.rules ed.name resource verb ↔
      grants (c.newNodeClusterRoleForAllEdgeDevices obj.name crSpec).rules ed.name resource verb) ↔
    Tight obj.name crSpec obj.rules ed resource := by
  simp only [grants_newNodeClusterRole_name hm, grants_of_accepted h hc, ← matchesVerb_verbsOf]
  by_cases hs : Skipped obj.name ed
  case pos =>
    simp only [hs, not_true_eq_false, false_and, iff_false]
    constructor
    case mp =>
      intro hv
      refine ⟨fun _ => List.eq_nil_iff_forall_not_mem.mpr fun verb hm => ?_, (absurd hs ·), (absurd hs ·)⟩
      exact hv verb (Kube.matchesVerb_of_mem hm)
    case mpr => exact fun ht verb => by simp [ht.skipped hs]
  case neg =>
    simp only [hs, not_false_eq_true, true_and]
    by_cases hk : Checked obj.name obj.rules ed resource
    case neg =>
      have he : verbsFor (effective obj.name crSpec ed) resource = verbsFor (own obj.name ed) resource := by
        rw [verbsFor_effective, overrideVerbs, if_neg fun ho => hk (.inl ho)]
      rw [he, Kube.matchesVerb_congr_iff]
      exact ⟨fun hv => ⟨(absurd · hs), fun _ => (absurd · hk), fun _ _ => hv⟩, fun ht => ht.shared hs hk⟩
    case pos =>
      have ht : Tight obj.name crSpec obj.rules ed resource ↔ _ :=
        ⟨fun ht => ht.distinct hs hk, fun hv => ⟨(absurd · hs), fun _ _ => hv, fun _ => (absurd hk ·)⟩⟩
      rw [ht]
      -- Unless there is no rule at all, it has the verbs that are expected.
      by_cases hn : verbsOf obj.rules ed.name resource ≠ [] ∨ verbsFor (own obj.name ed) resource ≠ []
      case pos =>
        have hv := mem_verbsOf_of_checked h hc hm hk hn
        rw [Kube.matchesVerb_congr_iff_card hv]
        exact or_congr_left ⟨fun hs => ⟨hs, List.ne_nil_of_mem (hv _ hs)⟩, And.left⟩
      case neg =>
        obtain ⟨hn, -⟩ := not_or.mp hn
        rw [not_not.mp hn]
        simp only [Kube.matchesVerb_congr_iff, List.not_mem_nil, List.toFinset_nil, Finset.card_empty, ne_eq,
          not_true_eq_false, and_false, false_or, @eq_comm _ 0, @eq_comm _ ∅, Finset.card_eq_zero]
        split
        case isTrue hs => exact iff_of_false id fun he => by simp [List.toFinset_eq_empty_iff _ |>.mp he] at hs
        case isFalse => exact Iff.rfl

theorem checkNodeClusterRole_sound_iff :
    (∀ name resource verb, grants obj.rules name resource verb ↔
      grants (c.newNodeClusterRoleForAllEdgeDevices obj.name crSpec).rules name resource verb) ↔
    ∀ ed ∈ c.edgeDevices.list, ∀ resource, Tight obj.name crSpec obj.rules ed resource := by
  constructor
  case mp => exact fun hg ed hm resource => (tight_iff h hc hm).mp (hg ed.name resource)
  case mpr =>
    intro ht name resource verb
    by_cases he : ∃ ed ∈ c.edgeDevices.list, ed.name = name
    case pos =>
      obtain ⟨ed, hm, rfl⟩ := he
      exact (tight_iff h hc hm).mpr (ht ed hm resource) verb
    case neg =>
      refine iff_of_false (fun hg => he (exists_of_grants h hc hg)) fun hg => he ?_
      obtain ⟨ed, hm, -, hn, -⟩ := grants_newNodeClusterRole.mp hg
      exact ⟨ed, hm, hn.symm⟩

end Accepted

def roleWith (verbs : List Bytes) : Role where
  name := [7]
  ns := []
  labels := (∅ : Kube.Labels).insert labelRole labelRoleValueNodeClusterRole
    |>.insert labelNamespace (str "edge")
  rules := [.core resourceNodes verbs [[1]]]

theorem checkNodeClusterRole_sound_iff_get :
    (sample ∅).checkNodeClusterRoleUpToDate (roleWith [str "get"]) ∧
    ∀ name resource verb, grants (roleWith [str "get"]).rules name resource verb ↔
      grants ((sample ∅).newNodeClusterRoleForAllEdgeDevices [7] ⟨[str "get"], []⟩).rules
        name resource verb := by
  have hc : (sample ∅).checkNodeClusterRoleUpToDate (roleWith [str "get"]) := by decide
  refine ⟨hc, (checkNodeClusterRole_sound_iff ExtTreeMap.getElem?_insert_self hc).mpr fun ed hm resource => ?_⟩
  cases List.mem_singleton.mp hm
  have hv (perms : NodeClusterRolePermissions) (hp : perms.statusVerbs = []) (hr : resource ≠ resourceNodes) :
      verbsFor perms resource = [] := by
    simp only [verbsFor, nodeVerbs, hr, if_false, hp]
    split <;> rfl
  by_cases hr : resource = resourceNodes
  case pos =>
    subst hr
    exact ⟨fun hs => absurd rfl hs.left, fun _ _ => .inr (by decide), fun _ hk => absurd (.inl rfl) hk⟩
  case neg =>
    refine ⟨fun hs => absurd rfl hs.left, fun _ _ => .inr ?_, fun _ hk => absurd (.inl (hv _ rfl hr)) hk⟩
    rw [hv _ rfl hr]
    simp [verbsOf, roleWith, PolicyRule.core, Ne.symm hr]

-- Nodes can be deleted, too, and the role is accepted.
theorem not_sound_delete : (sample ∅).checkNodeClusterRoleUpToDate (roleWith [str "get", str "delete"]) ∧
    grants (roleWith [str "get", str "delete"]).rules [1] resourceNodes (str "delete") ∧
    ¬grants ((sample ∅).newNodeClusterRoleForAllEdgeDevices [7] ⟨[str "get"], []⟩).rules [1] resourceNodes
      (str "delete") := by
  refine ⟨by decide, ⟨_, List.mem_singleton_self _, by decide⟩, ?_⟩
  rw [grants_newNodeClusterRole]
  rintro ⟨ed, hm, -, -, hv⟩
  cases List.mem_singleton.mp hm
  revert hv
  decide

end ClusterRoleController
end Aranya.EdgeDevice
