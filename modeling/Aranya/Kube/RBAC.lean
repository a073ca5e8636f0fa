import Mathlib.Data.Finset.Card
import Aranya.Kube.Objects

namespace Aranya.Kube

structure PolicyRule where
  apiGroups : List Bytes
  resources : List Bytes
  verbs : List Bytes
  resourceNames : List Bytes
  deriving DecidableEq, Repr

-- Roles and cluster roles, where the latter have no namespace.
structure Role where
  name : Bytes
  ns : Bytes
  labels : Labels
  rules : List PolicyRule

def matchesVerb (verbs : List Bytes) (verb : Bytes) : Bool :=
  verbs.contains (str "*") || verbs.contains verb

-- The part of a resource after the slash, which is empty if there is none.
def subresource (resource : Bytes) : Bytes :=
  (resource.dropWhile (· ≠ 47)).drop 1

def matchesResource (resources : List Bytes) (resource : Bytes) : Bool :=
  resources.any fun r =>
    r = str "*" || r = resource || subresource resource ≠ [] && r = str "*/" ++ subresource resource

def matchesName (resourceNames : List Bytes) (name : Bytes) : Bool :=
  resourceNames.isEmpty || resourceNames.contains name

def PolicyRule.allows (p : PolicyRule) (name resource verb : Bytes) : Bool :=
  matchesVerb p.verbs verb && (p.apiGroups.contains (str "*") || p.apiGroups.contains []) &&
    matchesResource p.resources resource && matchesName p.resourceNames name

def grants (rules : List PolicyRule) (name resource verb : Bytes) : Prop :=
  ∃ p ∈ rules, p.allows name resource verb

def PolicyRule.core (resource : Bytes) (verbs resourceNames : List Bytes) : PolicyRule where
  apiGroups := [[]]
  resources := [resource]
  verbs := verbs
  resourceNames := resourceNames

variable {verbs names : List Bytes} {name resource resource' verb : Bytes} {rules rules' : List PolicyRule}
    {p : PolicyRule}

theorem matchesVerb_of_mem (h : verb ∈ verbs) : matchesVerb verbs verb := by
  simp [matchesVerb, h]

@[simp]
theorem matchesVerb_nil : matchesVerb [] verb = false :=
  rfl

theorem matchesVerb_iff : matchesVerb verbs verb ↔ str "*" ∈ verbs ∨ verb ∈ verbs := by
  simp [matchesVerb]

theorem matchesVerb_congr_iff {verbs' : List Bytes} :
    (∀ verb, matchesVerb verbs verb ↔ matchesVerb verbs' verb) ↔
    if str "*" ∈ verbs' then str "*" ∈ verbs else verbs.toFinset = verbs'.toFinset := by
  simp only [matchesVerb_iff]
  split
  case isTrue h =>
    simp only [h, true_or, iff_true]
    exact ⟨fun hv => or_self_iff.mp (hv _), fun hv _ => .inl hv⟩
  case isFalse h =>
    simp only [h, false_or, Finset.ext_iff, List.mem_toFinset]
    constructor
    case mp =>
      intro hv verb
      have hs : str "*" ∉ verbs := fun hs => h <| (hv _).mp (.inl hs)
      simpa [hs] using hv verb
    case mpr =>
      intro hv verb
      simp [hv, h]

-- If all verbs of one list are in the other one, it is enough to count them.
theorem matchesVerb_congr_iff_card {verbs' : List Bytes} (h : ∀ verb ∈ verbs', verb ∈ verbs) :
    (∀ verb, matchesVerb verbs verb ↔ matchesVerb verbs' verb) ↔
    str "*" ∈ verbs' ∨ verbs.toFinset.card = verbs'.toFinset.card := by
  rw [matchesVerb_congr_iff]
  split
  case isTrue hs => exact iff_of_true (h _ hs) (.inl hs)
  case isFalse hs =>
    have hsub : verbs'.toFinset ⊆ verbs.toFinset := fun v hv =>
      List.mem_toFinset.mpr <| h v (List.mem_toFinset.mp hv)
    rw [or_iff_right hs]
    exact ⟨congrArg _, fun hc => (Finset.eq_of_subset_of_card_le hsub hc.le).symm⟩

theorem exists_mem_of_matchesVerb (h : matchesVerb verbs verb) :
    ∃ verb' ∈ verbs, ∀ verbs', matchesVerb verbs' verb' → matchesVerb verbs' verb := by
  rw [matchesVerb, Bool.or_eq_true, List.contains_iff_mem, List.contains_iff_mem] at h
  cases h
  case inl h =>
    refine ⟨_, h, fun verbs' ha => ?_⟩
    simp only [matchesVerb, Bool.or_eq_true, or_self] at ha ⊢
    exact .inl ha
  case inr h => exact ⟨verb, h, fun _ hv => hv⟩

theorem matchesResource_self : matchesResource [resource] resource := by
  simp [matchesResource]

def Literal (resource : Bytes) : Prop :=
  resource.head? ≠ some 42

instance : Decidable (Literal resource) :=
  inferInstanceAs (Decidable (_ ≠ _))

theorem Literal.matchesResource_iff (h : Literal resource) :
    matchesResource [resource] resource' ↔ resource' = resource := by
  have h₁ : resource ≠ str "*" := by
    rintro rfl
    exact h rfl
  have h₂ : resource ≠ str "*/" ++ subresource resource' := by
    intro he
    rw [he] at h
    exact h rfl
  rw [@eq_comm _ resource']
  simp [matchesResource, h₁, h₂]

theorem Literal.allows_iff (h : Literal resource) :
    (PolicyRule.core resource verbs names).allows name resource' verb ↔
    resource' = resource ∧ matchesVerb verbs verb ∧ (names = [] ∨ name ∈ names) := by
  simp only [PolicyRule.allows, PolicyRule.core, matchesName, Bool.and_eq_true, Bool.or_eq_true,
    h.matchesResource_iff, List.isEmpty_iff, List.contains_iff_mem, List.mem_singleton, or_true, and_true]
  tauto

theorem grants_append : grants (rules ++ rules') name resource verb ↔
    grants rules name resource verb ∨ grants rules' name resource verb := by
  simp [grants, or_and_right, exists_or]

theorem grants_singleton : grants [p] name resource verb ↔ p.allows name resource verb := by
  simp [grants]

theorem grants_flatMap {α : Type*} {as : List α} {f : α → List PolicyRule} :
    grants (as.flatMap f) name resource verb ↔ ∃ a ∈ as, grants (f a) name resource verb := by
  simp only [grants, List.mem_flatMap]
  tauto

end Aranya.Kube
