import Aranya.Controller.Roles

namespace Aranya.EdgeDevice

open Kube (PolicyRule grants matchesVerb)

theorem mem_foldl_erase {α : Type*} [DecidableEq α] {s : Finset α} {xs : List α} {x : α} :
    x ∈ xs.foldl Finset.erase s ↔ x ∈ s ∧ x ∉ xs := by
  induction xs generalizing s
  case nil => simp
  case cons y ys hi =>
    rw [List.foldl_cons, hi, Finset.mem_erase, List.mem_cons, not_or]
    tauto

theorem mem_foldl_insert {α : Type*} [DecidableEq α] {s : Finset α} {xs : List α} {x : α} :
    x ∈ xs.foldl (fun s x => insert x s) s ↔ x ∈ s ∨ x ∈ xs := by
  have h : ∀ (s : Finset α) y x, x ∈ insert y s ↔ x ∈ s ∨ x = y := by simp [or_comm]
  simp [foldl_collects (fun s x => x ∈ s) (fun y x => x = y) h]

theorem foldl_erase_eq_empty {α : Type*} [DecidableEq α] {s : Finset α} {xs : List α} :
    xs.foldl Finset.erase s = ∅ ↔ ∀ x ∈ s, x ∈ xs := by
  simp [Finset.eq_empty_iff_forall_notMem, mem_foldl_erase]

theorem card_eq_and_erase_iff {α : Type*} [DecidableEq α] {s : Finset α} {xs : List α} (h : xs.Nodup) :
    xs.length = s.card ∧ xs.foldl Finset.erase s = ∅ ↔ ∀ x, x ∈ s ↔ x ∈ xs := by
  rw [foldl_erase_eq_empty, ← List.toFinset_card_of_nodup h]
  constructor
  case mp =>
    rintro ⟨hc, hs⟩ x
    have he := Finset.eq_of_subset_of_card_le (fun x hx => List.mem_toFinset.mpr (hs x hx)) hc.le
    rw [he, List.mem_toFinset]
  case mpr =>
    intro hx
    have he : s = xs.toFinset := Finset.ext fun x => by rw [hx, List.mem_toFinset]
    exact ⟨by rw [he], fun x => (hx x).mp⟩

theorem containsAll_iff {real expected : List Bytes} :
    containsAll real expected ↔ ∀ verb ∈ expected, verb ∈ real := by
  simp [containsAll, foldl_erase_eq_empty]

variable {name name' resource resource' verb : Bytes} {default verbs names : List Bytes} {p : PolicyRule}

theorem matchesVerb_override : matchesVerb (overrideVerbs default verbs) verb ↔
    matchesVerb verbs verb ∨ matchesVerb default verb ∧ verbs = [] := by
  simp only [overrideVerbs]
  split <;> simp_all

def ownRule (resource name : Bytes) (verbs : List Bytes) : List PolicyRule :=
  if verbs = [] then [] else [.core resource verbs [name]]

theorem mem_ownRule : p ∈ ownRule resource name verbs ↔ verbs ≠ [] ∧ p = .core resource verbs [name] := by
  simp only [ownRule]
  split <;> simp_all

theorem grants_ownRule (hl : Kube.Literal resource) :
    grants (ownRule resource name verbs) name' resource' verb ↔
    resource' = resource ∧ matchesVerb verbs verb ∧ name' = name := by
  simp only [ownRule]
  split
  case isTrue hv => simp [hv, grants]
  case isFalse => simp [Kube.grants_singleton, hl.allows_iff]

theorem mem_sharedRule :
    p ∈ sharedRule resource verbs names ↔ names ≠ [] ∧ p = .core resource verbs names := by
  simp only [sharedRule]
  split <;> simp_all

theorem grants_sharedRule (hl : Kube.Literal resource) :
    grants (sharedRule resource verbs names) name resource' verb ↔
    resource' = resource ∧ matchesVerb verbs verb ∧ name ∈ names := by
  simp only [sharedRule]
  split
  case isTrue hn => simp [hn, grants]
  case isFalse hn => simp [Kube.grants_singleton, hl.allows_iff, hn]

end Aranya.EdgeDevice
