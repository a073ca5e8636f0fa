import Aranya.Controller.Theorems.PodRole
import Mathlib.Data.Fintype.EquivFin

namespace Aranya.EdgeDevice

open Std (ExtTreeMap ExtTreeSet)
open Apis (PodRolePermissions)
open Kube (PolicyRule Role grants matchesVerb)

variable {crSpec perms : PodRolePermissions} {spec : Option PodRolePermissions} {name resource verb : Bytes}
    {verbs required names pre post : List Bytes} {p : PolicyRule}
    {resolve : Bytes → Option (Option PodRolePermissions)} {podNames podNames' : ExtTreeSet Bytes}
    {r : PodRoles}

def requiredFor (perms : PodRolePermissions) (resource : Bytes) : List Bytes :=
  (requiredVerbs perms resource).getD []

def podResources : List Bytes :=
  [resourcePods, resourcePodsStatus, resourcePodsLog, resourcePodsExec, resourcePodsAttach,
   resourcePodsPortForward]

def createIf (allow : Bool) : List Bytes :=
  if allow then [str "create"] else []

def ownVerbs (spec : Option PodRolePermissions) (resource : Bytes) : Option (List Bytes) :=
  let setVerbs (verbs : List Bytes) := if verbs = [] then none else some verbs
  if resource = resourcePods then setVerbs (settings spec).podVerbs
  else if resource = resourcePodsStatus then setVerbs (settings spec).statusVerbs
  else if resource = resourcePodsLog then (settings spec).allowLog.map createIf
  else if resource = resourcePodsExec then (settings spec).allowExec.map createIf
  else if resource = resourcePodsAttach then (settings spec).allowAttach.map createIf
  else if resource = resourcePodsPortForward then (settings spec).allowPortForward.map createIf
  else none

theorem requiredVerbs_eq_some_iff : requiredVerbs perms resource = some required ↔
    resource ∈ podResources ∧ requiredFor perms resource = required := by
  simp only [requiredFor, requiredVerbs, podResources, List.mem_cons, List.not_mem_nil, or_false]
  repeat' split
  all_goals simp_all

theorem createIf_override {default flag : Option Bool} :
    (if allowed (overrideFlag default flag) then [str "create"] else []) =
    (flag.map createIf).getD (if allowed default then [str "create"] else []) := by
  cases flag
  case none => rfl
  case some allow => cases allow <;> rfl

theorem overrideVerbs_eq_getD {default : List Bytes} :
    overrideVerbs default verbs = (if verbs = [] then none else some verbs).getD default := by
  simp only [overrideVerbs]
  split <;> rfl

theorem requiredFor_override : requiredFor (overridePod perms spec) resource =
    (ownVerbs spec resource).getD (requiredFor perms resource) := by
  simp only [overridePod_eq, requiredFor, requiredVerbs, ownVerbs]
  split
  case isTrue => exact overrideVerbs_eq_getD
  split
  case isTrue => exact overrideVerbs_eq_getD
  split
  case isTrue => exact createIf_override
  split
  case isTrue => exact createIf_override
  split
  case isTrue => exact createIf_override
  split
  case isTrue => exact createIf_override
  rfl

theorem verbsFor_eq_requiredFor (hr : resource ∈ podResources) (h : resource ≠ resourcePodsLog) :
    verbsFor perms resource = requiredFor perms resource := by
  simp only [podResources, List.mem_cons, List.not_mem_nil, or_false] at hr
  rcases hr with rfl | rfl | rfl | rfl | rfl | rfl
  case inr.inr.inl => exact absurd rfl h
  all_goals simp +decide [verbsFor, requiredFor, requiredVerbs]

theorem literal_of_mem (h : resource ∈ podResources) : Kube.Literal resource := by
  simp only [podResources, List.mem_cons, List.not_mem_nil, or_false] at h
  rcases h with rfl | rfl | rfl | rfl | rfl | rfl
  all_goals decide

def Fits (verbs required : List Bytes) : Prop :=
  verbs.length = required.length ∧ ∀ verb ∈ required, verb ∈ verbs

def Walk (resolve : Bytes → Option (Option PodRolePermissions)) (resource : Bytes) (verbs : List Bytes) :
    List Bytes → List Bytes → Prop
  | _, [] => True
  | required, name :: names => ∃ spec, resolve name = some spec ∧ resource ∈ podResources ∧
    Fits verbs ((ownVerbs spec resource).getD required) ∧
    Walk resolve resource verbs ((ownVerbs spec resource).getD required) names

theorem checkPodName_eq_some_iff {s s' : PodRolePermissions × ExtTreeSet Bytes} :
    checkPodName resolve resource verbs s name = some s' ↔ ∃ spec, resolve name = some spec ∧
      resource ∈ podResources ∧ Fits verbs ((ownVerbs spec resource).getD (requiredFor s.fst resource)) ∧
      s' = (overridePod s.fst spec, s.snd.insert name) := by
  simp only [checkPodName, Option.bind_eq_bind, Option.bind_eq_some_iff, requiredVerbs_eq_some_iff,
    requiredFor_override]
  constructor
  case mp =>
    rintro ⟨spec, hs, required, ⟨hr, rfl⟩, h⟩
    split at h
    case isTrue => cases h
    split at h
    case isTrue => cases h
    case isFalse hl hc =>
      rw [Bool.not_eq_true', Bool.not_eq_false, containsAll_iff] at hc
      exact ⟨spec, hs, hr, ⟨not_not.mp hl, hc⟩, (Option.some.inj h).symm⟩
  case mpr =>
    rintro ⟨spec, hs, hr, hf, rfl⟩
    refine ⟨spec, hs, _, ⟨hr, rfl⟩, ?_⟩
    rw [if_neg (not_not.mpr hf.left), containsAll_iff.mpr hf.right]
    rfl

theorem foldlM_checkPodName {perms : PodRolePermissions} :
    ((names.foldlM (checkPodName resolve resource verbs) (perms, podNames)).map Prod.snd = some podNames') ↔
    Walk resolve resource verbs (requiredFor perms resource) names ∧
    names.foldl ExtTreeSet.insert podNames = podNames' := by
  induction names generalizing perms podNames
  case nil => simp [Walk]
  case cons name names hi =>
    simp only [List.foldlM_cons, Option.bind_eq_bind, Walk, List.foldl_cons, Option.map_bind,
      Option.bind_eq_some_iff, checkPodName_eq_some_iff, Function.comp_apply]
    constructor
    case mp =>
      rintro ⟨_, ⟨spec, hs, hr, hf, rfl⟩, h⟩
      rw [hi, requiredFor_override] at h
      exact ⟨⟨spec, hs, hr, hf, h.left⟩, h.right⟩
    case mpr =>
      rintro ⟨⟨spec, hs, hr, hf, hw⟩, h⟩
      refine ⟨_, ⟨spec, hs, hr, hf, rfl⟩, ?_⟩
      rw [hi, requiredFor_override]
      exact ⟨hw, h⟩

structure RuleUpToDate (resolve : Bytes → Option (Option PodRolePermissions)) (crSpec : PodRolePermissions)
    (resource : Bytes) (p : PolicyRule) : Prop where
  eq_core : p = .core resource p.verbs p.resourceNames
  walk : Walk resolve resource p.verbs (requiredFor crSpec resource) p.resourceNames

theorem checkPodRule_eq_some_iff : checkPodRule resolve crSpec podNames p = some podNames' ↔
    (∃ resource, RuleUpToDate resolve crSpec resource p) ∧
    p.resourceNames.foldl ExtTreeSet.insert podNames = podNames' := by
  obtain ⟨groups, resources, verbs, names⟩ := p
  simp only [checkPodRule]
  split
  case h_1 resource =>
    rw [foldlM_checkPodName]
    constructor
    case mp =>
      rintro ⟨hw, h⟩
      exact ⟨⟨resource, rfl, hw⟩, h⟩
    case mpr =>
      rintro ⟨⟨resource', hu⟩, h⟩
      cases hu.eq_core
      exact ⟨hu.walk, h⟩
  case h_2 hn =>
    constructor
    case mp =>
      intro h
      cases h
    case mpr =>
      rintro ⟨⟨resource, hu⟩, -⟩
      cases hu.eq_core
      exact absurd rfl (hn resource rfl)

theorem mem_foldl_insert_names : name ∈ names.foldl ExtTreeSet.insert podNames ↔
    name ∈ podNames ∨ name ∈ names := by
  have h : ∀ (s : ExtTreeSet Bytes) (name' name : Bytes), name ∈ s.insert name' ↔ name ∈ s ∨ name = name' := by
    intro s name' name
    rw [← insertIf_true, mem_insertIf]
    simp
  exact (foldl_collects (fun s name => name ∈ s) _ h).trans (by simp)

theorem foldlM_checkPodRule {rules : List PolicyRule} :
    rules.foldlM (checkPodRule resolve crSpec) podNames = some podNames' ↔
    (∀ p ∈ rules, ∃ resource, RuleUpToDate resolve crSpec resource p) ∧
    (rules.flatMap PolicyRule.resourceNames).foldl ExtTreeSet.insert podNames = podNames' := by
  induction rules generalizing podNames
  case nil => simp
  case cons p rules hi =>
    simp only [List.foldlM_cons, Option.bind_eq_bind, Option.bind_eq_some_iff, checkPodRule_eq_some_iff,
      List.forall_mem_cons, hi, List.flatMap_cons, List.foldl_append]
    constructor
    case mp =>
      rintro ⟨_, ⟨hp, rfl⟩, hr, h⟩
      exact ⟨⟨hp, hr⟩, h⟩
    case mpr =>
      rintro ⟨⟨hp, hr⟩, h⟩
      exact ⟨_, ⟨hp, rfl⟩, hr, h⟩

theorem nodup_toList : podNames.toList.Nodup := by
  refine podNames.distinct_toList.imp fun hne he => ?_
  subst he
  exact hne Std.ReflCmp.compare_self

theorem size_eq_and_contains_iff (h : names.Nodup) :
    (podNames.size = names.length && names.all podNames.contains) ↔ ∀ name, name ∈ podNames ↔ name ∈ names := by
  simp only [Bool.and_eq_true, decide_eq_true_iff, List.all_eq_true, ExtTreeSet.contains_iff_mem]
  rw [← ExtTreeSet.length_toList]
  simp only [← ExtTreeSet.mem_toList]
  constructor
  case mp =>
    rintro ⟨hl, hs⟩ name
    exact ((List.subperm_of_subset h hs).perm_of_length_le hl.le).symm.mem_iff
  case mpr =>
    intro hm
    have hp := (List.perm_ext_iff_of_nodup nodup_toList h).mpr hm
    exact ⟨hp.length_eq, fun name => (hm name).mpr⟩

theorem PodRoles.checkUpToDate_iff {obj : Role} (h : r.roles[obj.name]? = some crSpec)
    (hd : r.required.Nodup) :
    r.checkUpToDate obj ↔ hasLabels obj labelRoleValuePodRole r.ns ∧
      (∀ p ∈ obj.rules, ∃ resource, RuleUpToDate (r.resolve obj.name) crSpec resource p) ∧
      ∀ name, (∃ p ∈ obj.rules, name ∈ p.resourceNames) ↔ name ∈ r.required := by
  simp only [checkUpToDate, h]
  by_cases hl : hasLabels obj labelRoleValuePodRole r.ns
  case neg => simp [hl]
  case pos =>
    simp only [hl, Bool.not_true, Bool.false_eq_true, if_false, true_and]
    split
    case h_1 hf =>
      simp only [Bool.false_eq_true, false_iff]
      rintro ⟨hr, -⟩
      cases hf.symm.trans (foldlM_checkPodRule.mpr ⟨hr, rfl⟩)
    case h_2 podNames hf =>
      obtain ⟨hr, rfl⟩ := foldlM_checkPodRule.mp hf
      rw [size_eq_and_contains_iff hd]
      simp only [mem_foldl_insert_names, ExtTreeSet.not_mem_empty, false_or, List.mem_flatMap]
      exact (and_iff_right hr).symm

theorem Walk.split (h : Walk resolve resource verbs required (pre ++ name :: post)) :
    ∃ spec required', resolve name = some spec ∧ resource ∈ podResources ∧
      Fits verbs ((ownVerbs spec resource).getD required') ∧
      ((∀ name ∈ pre, ∀ spec, resolve name = some spec → ownVerbs spec resource = none) →
        required' = required) := by
  induction pre generalizing required
  case nil =>
    obtain ⟨spec, hs, hr, hf, -⟩ := h
    exact ⟨spec, required, hs, hr, hf, fun _ => rfl⟩
  case cons name' pre hi =>
    obtain ⟨spec', hs', -, -, hw⟩ := h
    obtain ⟨spec, required', hs, hr, hf, he⟩ := hi hw
    refine ⟨spec, required', hs, hr, hf, fun hp => ?_⟩
    obtain ⟨hp', hp⟩ := List.forall_mem_cons.mp hp
    rw [he hp, hp' spec' hs']
    rfl

theorem Fits.matches_iff (h : Fits verbs required) : (∀ verb ∈ verbs, matchesVerb required verb) ↔
    str "*" ∈ required ∨ verbs.toFinset.card = required.toFinset.card := by
  have hs : required.toFinset ⊆ verbs.toFinset := fun verb hv =>
    List.mem_toFinset.mpr (h.right verb (List.mem_toFinset.mp hv))
  by_cases hw : str "*" ∈ required
  case pos => simp [matchesVerb, hw]
  case neg =>
    simp only [matchesVerb, Bool.or_eq_true, List.contains_iff_mem, hw, false_or]
    constructor
    case mp =>
      intro hv
      have hs' : verbs.toFinset ⊆ required.toFinset := fun verb hm =>
        List.mem_toFinset.mpr (hv verb (List.mem_toFinset.mp hm))
      rw [hs'.antisymm hs]
    case mpr =>
      intro hc verb hv
      have he := Finset.eq_of_subset_of_card_le hs hc.le
      exact List.mem_toFinset.mp (he ▸ List.mem_toFinset.mpr hv)

def Can (resolve : Bytes → Option (Option PodRolePermissions)) (crSpec : PodRolePermissions)
    (name resource verb : Bytes) : Prop :=
  ∃ spec, resolve name = some spec ∧ matchesVerb (verbsFor (overridePod crSpec spec) resource) verb

-- The verbs for a name which does not set any are those of the last one before it that does.
def Inherits (resolve : Bytes → Option (Option PodRolePermissions)) (resource : Bytes) (pre : List Bytes)
    (spec : Option PodRolePermissions) (verbs : List Bytes) : Prop :=
  ownVerbs spec resource = none ∧ ∃ pre₁ name pre₂ spec', pre = pre₁ ++ name :: pre₂ ∧
    resolve name = some spec' ∧ ownVerbs spec' resource = some verbs ∧
    ∀ name ∈ pre₂, ∀ spec, resolve name = some spec → ownVerbs spec resource = none

structure Tight (resolve : Bytes → Option (Option PodRolePermissions)) (crSpec : PodRolePermissions)
    (p : PolicyRule) : Prop where
  named : p.resourceNames ≠ []
  notLog : p.resources ≠ [resourcePodsLog]
  default : ∀ resource pre name post spec verbs, p.resources = [resource] →
    p.resourceNames = pre ++ name :: post → resolve name = some spec → Inherits resolve resource pre spec verbs →
    ∀ verb ∈ verbs, matchesVerb (requiredFor crSpec resource) verb
  distinct : ∀ resource pre name post spec, p.resources = [resource] → p.resourceNames = pre ++ name :: post →
    resolve name = some spec → (∀ verbs, ¬Inherits resolve resource pre spec verbs) →
    str "*" ∈ requiredFor (overridePod crSpec spec) resource ∨
    p.verbs.toFinset.card = (requiredFor (overridePod crSpec spec) resource).toFinset.card

theorem Effective.of_log (h : Effective perms verb resourcePodsLog) : matchesVerb [str "get"] verb := by
  generalize hr : resourcePodsLog = resource at h
  cases h
  case log hv => exact hv
  all_goals exact absurd hr (by decide)

namespace RuleUpToDate

variable (h : RuleUpToDate resolve crSpec resource p)

include h

theorem resources : p.resources = [resource] := by
  rw [h.eq_core]
  rfl

theorem allows_self (hv : verb ∈ p.verbs) (hn : p.resourceNames = [] ∨ name ∈ p.resourceNames) :
    p.allows name resource verb := by
  rw [h.eq_core]
  simp only [PolicyRule.allows, PolicyRule.core, Kube.matchesVerb_of_mem hv, Kube.matchesResource_self,
    Kube.matchesName, Bool.true_and, Bool.and_eq_true, Bool.or_eq_true, List.isEmpty_iff, List.contains_iff_mem]
  exact ⟨⟨.inr (List.mem_singleton_self _), trivial⟩, hn⟩

theorem at_name (hn : p.resourceNames = pre ++ name :: post) : ∃ spec required, resolve name = some spec ∧
    resource ∈ podResources ∧ Fits p.verbs ((ownVerbs spec resource).getD required) ∧
    ((∀ verbs, ¬Inherits resolve resource pre spec verbs) →
      (ownVerbs spec resource).getD required = requiredFor (overridePod crSpec spec) resource) := by
  obtain ⟨spec, required, hs, hr, hf, he⟩ := (hn ▸ h.walk).split
  refine ⟨spec, required, hs, hr, hf, fun hi => ?_⟩
  rw [requiredFor_override]
  cases ho : ownVerbs spec resource
  case some verbs => rfl
  case none =>
    rw [he]
    intro name' hm spec' hs'
    by_contra hne
    obtain ⟨pre₁, name, pre₂, hp, ⟨spec'', hs, hv⟩, hl⟩ :=
      exists_last_of_mem (P := fun name => ∃ spec, resolve name = some spec ∧ ownVerbs spec resource ≠ none)
        ⟨name', hm, spec', hs', hne⟩
    obtain ⟨verbs, hv⟩ := Option.ne_none_iff_exists'.mp hv
    refine hi verbs ⟨ho, pre₁, name, pre₂, spec'', hp, hs, hv, fun name hm spec hs => ?_⟩
    by_contra hne
    exact hl name hm ⟨spec, hs, hne⟩

theorem matches_iff (hn : p.resourceNames = pre ++ name :: post) (hs : resolve name = some spec)
    (hi : ∀ verbs, ¬Inherits resolve resource pre spec verbs) :
    (∀ verb ∈ p.verbs, matchesVerb (requiredFor (overridePod crSpec spec) resource) verb) ↔
    str "*" ∈ requiredFor (overridePod crSpec spec) resource ∨
    p.verbs.toFinset.card = (requiredFor (overridePod crSpec spec) resource).toFinset.card := by
  obtain ⟨spec', required, hs', -, hf, he⟩ := h.at_name hn
  cases hs.symm.trans hs'
  exact (he hi ▸ hf).matches_iff

-- The name from which the verbs are inherited is one which does not inherit any itself.
theorem inherited (hn : p.resourceNames = pre ++ name :: post) (hi : Inherits resolve resource pre spec verbs) :
    Fits p.verbs verbs ∧ requiredFor (overridePod crSpec spec) resource = requiredFor crSpec resource ∧
    ∃ pre₁ name' post₁ spec', p.resourceNames = pre₁ ++ name' :: post₁ ∧ resolve name' = some spec' ∧
      (∀ verbs, ¬Inherits resolve resource pre₁ spec' verbs) ∧
      requiredFor (overridePod crSpec spec') resource = verbs := by
  obtain ⟨ho, pre₁, name', pre₂, spec', rfl, hs, hv, -⟩ := hi
  have hn' : p.resourceNames = pre₁ ++ name' :: (pre₂ ++ name :: post) := by simp [hn]
  obtain ⟨spec'', required, hs', -, hf, -⟩ := h.at_name hn'
  cases hs.symm.trans hs'
  rw [hv] at hf
  refine ⟨hf, by rw [requiredFor_override, ho]; rfl, pre₁, name', _, spec', hn', hs, ?_, ?_⟩
  case refine_1 => exact fun _ hi => by simp [hi.left] at hv
  case refine_2 => rw [requiredFor_override, hv]; rfl

theorem verbs_of_log (hl : resource = resourcePodsLog) (hv : p.verbs ≠ []) (hn : p.resourceNames ≠ []) :
    p.verbs = [str "create"] := by
  obtain ⟨name, names, hn⟩ := List.exists_cons_of_ne_nil hn
  obtain ⟨spec, required, -, -, hf, he⟩ := h.at_name (hn.trans (List.nil_append _).symm)
  rw [he (by simp [Inherits]), hl] at hf
  change Fits p.verbs (if allowed _ then [str "create"] else []) at hf
  split at hf
  case isTrue =>
    obtain ⟨verb, hs⟩ := List.length_eq_one_iff.mp hf.left
    have hm := hf.right _ (List.mem_singleton_self _)
    rw [hs, List.mem_singleton] at hm
    rw [hs, hm]
  case isFalse => exact absurd (List.length_eq_zero_iff.mp hf.left) hv

theorem tight_of_can (hv : p.verbs ≠ []) (hx : ∃ name, resolve name = none)
    (hc : ∀ name verb, p.allows name resource verb → Can resolve crSpec name resource verb) :
    Tight resolve crSpec p := by
  obtain ⟨verb, hm⟩ := List.exists_mem_of_ne_nil _ hv
  have hn : p.resourceNames ≠ [] := by
    intro hn
    obtain ⟨name, hx⟩ := hx
    obtain ⟨spec, hs, -⟩ := hc name verb (h.allows_self hm (.inl hn))
    cases hx.symm.trans hs
  have hl : resource ≠ resourcePodsLog := by
    intro hl
    obtain ⟨name, hn'⟩ := List.exists_mem_of_ne_nil _ hn
    have hm : str "create" ∈ p.verbs := by simp [h.verbs_of_log hl hv hn]
    obtain ⟨spec, -, hv⟩ := hc name _ (h.allows_self hm (.inr hn'))
    rw [hl, matchesVerb_verbsFor_iff] at hv
    have hv := hv.of_log
    revert hv
    decide
  have hm : ∀ {pre name post spec}, p.resourceNames = pre ++ name :: post → resolve name = some spec →
      ∀ verb ∈ p.verbs, matchesVerb (requiredFor (overridePod crSpec spec) resource) verb := by
    intro pre name post spec hn hs verb hv
    obtain ⟨spec', hs', hv⟩ := hc name verb (h.allows_self hv (.inr (by simp [hn])))
    cases hs.symm.trans hs'
    obtain ⟨-, -, -, hr, -⟩ := h.at_name hn
    rwa [verbsFor_eq_requiredFor hr hl] at hv
  refine ⟨hn, ?_, ?_, ?_⟩
  case refine_1 => rwa [h.resources, ne_eq, List.singleton_inj]
  case refine_2 =>
    intro resource' pre name post spec verbs hr hn hs hi verb hv
    cases List.singleton_inj.mp (h.resources.symm.trans hr)
    obtain ⟨hf, he, -⟩ := h.inherited hn hi
    exact he ▸ hm hn hs verb (hf.right verb hv)
  case refine_3 =>
    intro resource' pre name post spec hr hn hs hi
    cases List.singleton_inj.mp (h.resources.symm.trans hr)
    exact (h.matches_iff hn hs hi).mp (hm hn hs)

theorem can_of_tight {resource' : Bytes} (ht : Tight resolve crSpec p) (ha : p.allows name resource' verb) :
    Can resolve crSpec name resource' verb := by
  obtain ⟨first, names, hf⟩ := List.exists_cons_of_ne_nil ht.named
  obtain ⟨-, -, -, hr, -⟩ := h.at_name (hf.trans (List.nil_append _).symm)
  rw [h.eq_core, (literal_of_mem hr).allows_iff] at ha
  obtain ⟨rfl, hv, hn⟩ := ha
  obtain ⟨pre, post, hn⟩ := List.append_of_mem (hn.resolve_left ht.named)
  obtain ⟨spec, -, hs, -⟩ := h.at_name hn
  obtain ⟨verb', hm, hi⟩ := Kube.exists_mem_of_matchesVerb hv
  have hl : resource' ≠ resourcePodsLog := fun he => ht.notLog (he ▸ h.resources)
  refine ⟨spec, hs, ?_⟩
  rw [verbsFor_eq_requiredFor hr hl]
  by_cases hv : ∃ verbs, Inherits resolve resource' pre spec verbs
  case neg =>
    have hv := not_exists.mp hv
    exact hi _ ((h.matches_iff hn hs hv).mpr (ht.distinct _ _ _ _ _ h.resources hn hs hv) verb' hm)
  case pos =>
    obtain ⟨verbs, hv⟩ := hv
    obtain ⟨-, he, pre₁, name', post₁, spec', hn', hs', hv', hr'⟩ := h.inherited hn hv
    have hd := (h.matches_iff hn' hs' hv').mpr (ht.distinct _ _ _ _ _ h.resources hn' hs' hv') verb' hm
    obtain ⟨verb'', hm', hi'⟩ := Kube.exists_mem_of_matchesVerb (hr' ▸ hd)
    exact hi _ (he ▸ hi' _ (ht.default _ _ _ _ _ _ h.resources hn hs hv _ hm'))

end RuleUpToDate

theorem PodRoles.sound_iff {obj : Role} (h : r.roles[obj.name]? = some crSpec)
    (hd : r.required.Nodup) (hx : ∃ name, r.resolve obj.name name = none) (hc : r.checkUpToDate obj) :
    (∀ name resource verb, grants obj.rules name resource verb →
      Can (r.resolve obj.name) crSpec name resource verb) ↔
    ∀ p ∈ obj.rules, p.verbs ≠ [] → Tight (r.resolve obj.name) crSpec p := by
  obtain ⟨-, hr, -⟩ := (checkUpToDate_iff h hd).mp hc
  constructor
  case mp =>
    intro hg p hp hv
    obtain ⟨resource, hu⟩ := hr p hp
    exact hu.tight_of_can hv hx fun name verb ha => hg name resource verb ⟨p, hp, ha⟩
  case mpr =>
    rintro ht name resource verb ⟨p, hp, ha⟩
    obtain ⟨resource', hu⟩ := hr p hp
    refine hu.can_of_tight (ht p hp fun hv => ?_) ha
    simp [PolicyRule.allows, hv] at ha

namespace PodRoleController

variable {c : PodRoleController} {obj : Role} {roleName : Bytes}

theorem exists_find?_eq_none {α : Type} (l : List α) (f : α → Bytes) : ∃ name, l.find? (f · = name) = none := by
  obtain ⟨name, hn⟩ := Infinite.exists_notMem_finset (l.map f).toFinset
  refine ⟨name, List.find?_eq_none.mpr fun a hm => ?_⟩
  simp only [decide_eq_true_iff]
  rintro rfl
  exact hn (by simpa using ⟨a, hm, rfl⟩)

theorem exists_resolveTenant_none : ∃ name, c.resolveTenant roleName name = none := by
  obtain ⟨name, hn⟩ := exists_find?_eq_none c.tenantPodStore.list Kube.Pod.name
  have hg : c.getTenantPodObject name = none := hn
  exact ⟨name, by simp [resolveTenant, hg]⟩

theorem exists_resolveVirtual_none : ∃ name, c.resolveVirtual roleName name = none := by
  obtain ⟨name, hn⟩ := exists_find?_eq_none c.edgeDevices.list Apis.EdgeDevice.name
  have hg : c.getEdgeDeviceObject name = none := hn
  exact ⟨name, by simp [resolveVirtual, hg]⟩

def EdgeDeviceCan (c : PodRoleController) (roleName : Bytes) (roleSpec : PodRolePermissions)
    (name resource verb : Bytes) : Prop :=
  ∃ ed, c.getEdgeDeviceObject name = some ed ∧
    matchesVerb (verbsFor (overridePod roleSpec ed.spec.pod.virtualPodRolePermissions[roleName]?) resource) verb

theorem can_resolveVirtual_iff : Can (c.resolveVirtual roleName) crSpec name resource verb ↔
    c.EdgeDeviceCan roleName crSpec name resource verb := by
  simp [Can, EdgeDeviceCan, resolveVirtual, Option.bind_eq_some_iff]

theorem resolveTenant_eq_some_iff : c.resolveTenant roleName name = some spec ↔
    ∃ p ∈ c.tenantPodStore.list, p.name = name ∧ c.getEdgeDeviceObject p.name = none ∧
      ∃ ed, c.getEdgeDeviceObject p.nodeName = some ed ∧ ed.spec.pod.rolePermissions[roleName]? = spec := by
  simp only [resolveTenant, getTenantPodObject, Pods.get]
  split
  case isTrue h =>
    simp only [reduceCtorEq, false_iff]
    rintro ⟨p, -, rfl, hn, -⟩
    rw [hn] at h
    cases h
  case isFalse h =>
    have hn : c.getEdgeDeviceObject name = none := Option.not_isSome_iff_eq_none.mp h
    simp only [Option.bind_eq_bind, Option.bind_eq_some_iff, find?_key_eq_some_iff c.tenantPodStore.nodup]
    constructor
    case mp =>
      rintro ⟨p, ⟨hm, rfl⟩, ed, hed, hs⟩
      exact ⟨p, hm, rfl, hn, ed, hed, Option.some.inj hs⟩
    case mpr =>
      rintro ⟨p, hm, rfl, -, ed, hed, rfl⟩
      exact ⟨p, ⟨hm, rfl⟩, ed, hed, rfl⟩

theorem can_resolveTenant_iff : Can (c.resolveTenant roleName) crSpec name resource verb ↔
    c.TenantPodCan roleName crSpec name resource verb := by
  simp only [Can, TenantPodCan, resolveTenant_eq_some_iff]
  constructor
  case mp =>
    rintro ⟨_, ⟨p, hm, hp, hn, ed, hed, rfl⟩, hv⟩
    exact ⟨p, hm, hp, hn, ed, hed, hv⟩
  case mpr =>
    rintro ⟨p, hm, hp, hn, ed, hed, hv⟩
    exact ⟨_, ⟨p, hm, hp, hn, ed, hed, rfl⟩, hv⟩

theorem nodup_getTenantPodNames : c.getTenantPodNames.Nodup :=
  nodup_toList

theorem nodup_getVirtualPodNames : c.getVirtualPodNames.Nodup :=
  nodup_toList

theorem checkPodRole_sound_iff :
    (c.tenantPodRoles[obj.name]? = some crSpec → c.checkTenantPodRoleUpToDate obj →
      ((∀ name resource verb, grants obj.rules name resource verb →
          c.TenantPodCan obj.name crSpec name resource verb) ↔
       ∀ p ∈ obj.rules, p.verbs ≠ [] → Tight (c.resolveTenant obj.name) crSpec p)) ∧
    (c.vpRoles[obj.name]? = some crSpec → c.checkVirtualPodRoleUpToDate obj →
      ((∀ name resource verb, grants obj.rules name resource verb →
          c.EdgeDeviceCan obj.name crSpec name resource verb) ↔
       ∀ p ∈ obj.rules, p.verbs ≠ [] → Tight (c.resolveVirtual obj.name) crSpec p)) := by
  simp only [← can_resolveTenant_iff, ← can_resolveVirtual_iff]
  exact ⟨fun h => c.tenantRoles.sound_iff h nodup_getTenantPodNames exists_resolveTenant_none,
    fun h => c.virtualRoles.sound_iff h nodup_getVirtualPodNames exists_resolveVirtual_none⟩

def roleWith (ns : Bytes) (rules : List PolicyRule) : Role where
  name := [7]
  ns := ns
  labels := (∅ : Kube.Labels).insert labelRole labelRoleValuePodRole |>.insert labelNamespace ns
  rules := rules

def getPods : PodRolePermissions :=
  ⟨[str "get"], [], none, none, none, none⟩

theorem tight_getPods {resolve : Bytes → Option (Option PodRolePermissions)} (h : resolve name = some none) :
    Tight resolve getPods (.core resourcePods [str "get"] [name]) where
  named := List.cons_ne_nil _ _
  notLog := by simp +decide [PolicyRule.core]
  default := by
    rintro resource pre name' post spec verbs hr hn hs ⟨-, _, _, _, _, hp, -⟩
    cases pre
    case nil => simp at hp
    case cons a b => cases b <;> cases hn
  distinct := by
    rintro resource pre name' post spec hr hn hs -
    cases pre
    case nil =>
      cases hr
      cases hn
      cases h.symm.trans hs
      exact .inr rfl
    case cons a b => cases b <;> cases hn

theorem checkPodRole_sound_iff_getPods :
    (∃ obj, (sample ∅ getPods).checkTenantPodRoleUpToDate obj ∧ ∀ name resource verb,
      grants obj.rules name resource verb → (sample ∅ getPods).TenantPodCan obj.name getPods name resource verb) ∧
    ∃ obj, (sample ∅ getPods).checkVirtualPodRoleUpToDate obj ∧ ∀ name resource verb,
      grants obj.rules name resource verb →
      (sample ∅ getPods).EdgeDeviceCan obj.name getPods name resource verb := by
  constructor
  case left =>
    have hc : (sample ∅ getPods).checkTenantPodRoleUpToDate
        (roleWith (str "tenant") [.core resourcePods [str "get"] [[2]]]) := by decide
    refine ⟨_, hc, (checkPodRole_sound_iff.left ExtTreeMap.getElem?_insert_self hc).mpr ?_⟩
    intro p hp _
    cases List.mem_singleton.mp hp
    exact tight_getPods rfl
  case right =>
    have hc : (sample ∅ getPods).checkVirtualPodRoleUpToDate
        (roleWith (str "edge") [.core resourcePods [str "get"] [[1]]]) := by decide
    refine ⟨_, hc, (checkPodRole_sound_iff.right ExtTreeMap.getElem?_insert_self hc).mpr ?_⟩
    intro p hp _
    cases List.mem_singleton.mp hp
    exact tight_getPods rfl

-- Another rule without names is about all objects of any resource, and the role is accepted.
theorem not_sound_unnamed : ∃ obj, (sample ∅ getPods).checkTenantPodRoleUpToDate obj ∧
    grants obj.rules [9] (str "secrets") (str "get") ∧
    ¬(sample ∅ getPods).TenantPodCan obj.name getPods [9] (str "secrets") (str "get") := by
  refine ⟨roleWith (str "tenant") [.core resourcePods [str "get"] [[2]], .core (str "secrets") [str "get"] []],
    by decide, ⟨.core (str "secrets") [str "get"] [], by simp [roleWith], by decide⟩, ?_⟩
  rintro ⟨p, hm, hn, -⟩
  cases List.mem_singleton.mp hm
  cases hn

end PodRoleController
end Aranya.EdgeDevice
