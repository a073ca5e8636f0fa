import Aranya.Controller.NodeStatus
import Aranya.Lib.TreeMap

namespace Aranya.EdgeDevice

open Std (ExtTreeMap)

variable {o o' : Nat → Visits} {nodeLabels nodeAnnotations extLabels extAnnotations : Kube.Labels}
    {info : Kube.NodeSystemInfo} {e : Bytes × Bytes} {k v : Bytes}

def leftToSet (old new : Option Bytes) : Option Bytes :=
  old.elim new fun v => if new.getD [] = v then none else new

def systemValue (old ext : Option Bytes) (v : Bytes) : Option Bytes :=
  if ext = none ∧ old = some v then none else some v

theorem leftToSet_or (old new : Option Bytes) : (leftToSet old new).or old = new.or old := by
  cases old <;> cases new <;> simp only [leftToSet, Option.elim]
  case some.some v w =>
    by_cases h : w = v <;> simp [h]
  all_goals simp

theorem leftToSet_again (old new : Option Bytes) : leftToSet (new.or old) new = none := by
  cases new
  case none => cases old <;> simp [leftToSet]
  case some w => simp [leftToSet]

theorem leftToSet_cases (old new : Option Bytes) : leftToSet old new = new ∨ leftToSet old new = none := by
  cases old
  case none => exact .inl rfl
  case some v =>
    simp only [leftToSet, Option.elim]
    split <;> simp

theorem systemValue_or (old ext : Option Bytes) (v : Bytes) : (systemValue old ext v).or old = some v := by
  rw [systemValue]
  split
  case isTrue h => simp [h.right]
  case isFalse h => rfl

theorem getElem?_setSystemLabel :
    (setSystemLabel nodeLabels extLabels e)[k]? =
      if e.fst = k then systemValue nodeLabels[k]? extLabels[k]? e.snd else extLabels[k]? := by
  obtain ⟨k', v⟩ := e
  by_cases hk : k' = k
  case neg =>
    simp only [setSystemLabel, hk, if_false]
    split <;> split <;> simp [ExtTreeMap.getElem?_insert, hk]
  case pos =>
    subst hk
    simp only [setSystemLabel, systemValue, if_true]
    by_cases hn : nodeLabels[k']? = some v <;> by_cases he : k' ∈ extLabels <;> simp [hn, he]

theorem getElem?_removeAlreadySet :
    (removeAlreadySet extLabels e)[k]? =
      if e.fst = k then (if extLabels[k]?.getD [] = e.snd then none else extLabels[k]?) else extLabels[k]? := by
  rw [removeAlreadySet, ExtTreeMap.getD_eq_getD_getElem?]
  by_cases hk : e.fst = k
  case neg => split <;> simp [ExtTreeMap.getElem?_erase, hk]
  case pos =>
    subst hk
    simp only [if_true]
    split <;> simp

theorem getElem?_foldl_removeAlreadySet (v : Visits) :
    ((v.entries nodeLabels).foldl removeAlreadySet extLabels)[k]? = leftToSet nodeLabels[k]? extLabels[k]? :=
  getElem?_foldl_entries (g := fun _ v x => if x.getD [] = v then none else x)
    (fun _ _ _ => getElem?_removeAlreadySet) (v.perm nodeLabels)

def wantedLabel (info : Kube.NodeSystemInfo) (nodeLabels extLabels : Kube.Labels) (k : Bytes) : Option Bytes :=
  (systemLabels info)[k]?.elim extLabels[k]? (systemValue nodeLabels[k]? extLabels[k]?)

theorem getElem?_setLabels :
    (getNodeLabelsAndAnnotationsToSet o nodeLabels nodeAnnotations info extLabels extAnnotations).fst[k]? =
      leftToSet nodeLabels[k]? (wantedLabel info nodeLabels extLabels k) := by
  rw [getNodeLabelsAndAnnotationsToSet, getElem?_foldl_removeAlreadySet,
    getElem?_foldl_entries (g := fun k v x => systemValue nodeLabels[k]? x v)
      (fun _ _ _ => getElem?_setSystemLabel) ((o 0).perm (systemLabels info))]
  rfl

theorem getElem?_setAnnotations :
    (getNodeLabelsAndAnnotationsToSet o nodeLabels nodeAnnotations info extLabels extAnnotations).snd[k]? =
      leftToSet nodeAnnotations[k]? extAnnotations[k]? :=
  getElem?_foldl_removeAlreadySet (o 2)

theorem getElem?_labels_set :
    (nodeLabels ∪ (getNodeLabelsAndAnnotationsToSet o nodeLabels nodeAnnotations info extLabels
      extAnnotations).fst)[k]? = ((systemLabels info)[k]?.or extLabels[k]?).or nodeLabels[k]? := by
  rw [ExtTreeMap.getElem?_union, getElem?_setLabels, leftToSet_or, wantedLabel]
  cases (systemLabels info)[k]?
  case none => rfl
  case some v => exact systemValue_or _ _ _

theorem getElem?_annotations_set :
    (nodeAnnotations ∪ (getNodeLabelsAndAnnotationsToSet o nodeLabels nodeAnnotations info extLabels
      extAnnotations).snd)[k]? = extAnnotations[k]?.or nodeAnnotations[k]? := by
  rw [ExtTreeMap.getElem?_union, getElem?_setAnnotations, leftToSet_or]

-- The maps of the device may have lost entries.
theorem nothing_to_set {labels annotations extLabels' extAnnotations' : Kube.Labels}
    (hl : ∀ k : Bytes, labels[k]? = ((systemLabels info)[k]?.or extLabels[k]?).or nodeLabels[k]?)
    (ha : ∀ k : Bytes, annotations[k]? = extAnnotations[k]?.or nodeAnnotations[k]?)
    (hl' : ∀ k : Bytes, k ∉ systemLabels info → extLabels'[k]? = extLabels[k]? ∨ extLabels'[k]? = none)
    (ha' : ∀ k : Bytes, extAnnotations'[k]? = extAnnotations[k]? ∨ extAnnotations'[k]? = none) :
    getNodeLabelsAndAnnotationsToSet o labels annotations info extLabels' extAnnotations' = (∅, ∅) := by
  have hn (old : Option Bytes) : leftToSet old none = none := by cases old <;> simp [leftToSet]
  refine Prod.ext (ExtTreeMap.ext_getElem? fun {k} => ?_) (ExtTreeMap.ext_getElem? fun {k} => ?_)
  case refine_1 =>
    rw [getElem?_setLabels, hl k, wantedLabel, hl k, ExtTreeMap.getElem?_empty]
    cases hs : (systemLabels info)[k]?
    case some v =>
      simp only [Option.or, Option.elim, systemValue]
      split <;> simp [leftToSet]
    case none =>
      obtain he | he := hl' k (by simpa using hs)
      case inl => simp [he, leftToSet_again]
      case inr => simp [he, hn]
  case refine_2 =>
    rw [getElem?_setAnnotations, ha k, ExtTreeMap.getElem?_empty]
    obtain he | he := ha' k
    case inl => simp [he, leftToSet_again]
    case inr => simp [he, hn]

-- Then nothing is left to be set, not even by the maps which the first call has edited in place.
theorem systemLabels_win (o o' : Nat → Visits) (nodeLabels nodeAnnotations : Kube.Labels)
    (info : Kube.NodeSystemInfo) (extLabels extAnnotations : Kube.Labels) :
    let set := getNodeLabelsAndAnnotationsToSet o nodeLabels nodeAnnotations info extLabels extAnnotations
    let labels := nodeLabels ∪ set.fst
    let annotations := nodeAnnotations ∪ set.snd
    (∀ k v : Bytes, (systemLabels info)[k]? = some v → labels[k]? = some v) ∧
    (∀ k v : Bytes, k ∉ systemLabels info → extLabels[k]? = some v → labels[k]? = some v) ∧
    (∀ k v : Bytes, extAnnotations[k]? = some v → annotations[k]? = some v) ∧
    (∀ k : Bytes, k ∉ systemLabels info → k ∉ extLabels → labels[k]? = nodeLabels[k]?) ∧
    (∀ k : Bytes, k ∉ extAnnotations → annotations[k]? = nodeAnnotations[k]?) ∧
    getNodeLabelsAndAnnotationsToSet o' labels annotations info extLabels extAnnotations = (∅, ∅) ∧
    getNodeLabelsAndAnnotationsToSet o' labels annotations info set.fst set.snd = (∅, ∅) := by
  intro set labels annotations
  have hl (k : Bytes) : labels[k]? = ((systemLabels info)[k]?.or extLabels[k]?).or nodeLabels[k]? :=
    getElem?_labels_set
  have ha (k : Bytes) : annotations[k]? = extAnnotations[k]?.or nodeAnnotations[k]? :=
    getElem?_annotations_set
  refine ⟨?_, ?_, ?_, ?_, ?_, ?_, ?_⟩
  case refine_1 =>
    intro k v hk
    simp [hl, hk]
  case refine_2 =>
    intro k v hs hk
    simp [hl, hk, hs]
  case refine_3 =>
    intro k v hk
    simp [ha, hk]
  case refine_4 =>
    intro k hs hk
    simp [hl, hk, hs]
  case refine_5 =>
    intro k hk
    simp [ha, hk]
  case refine_6 => exact nothing_to_set hl ha (fun _ _ => .inl rfl) (fun _ => .inl rfl)
  case refine_7 =>
    refine nothing_to_set hl ha (fun k hs => ?_) (fun k => ?_)
    case refine_1 =>
      have hw : wantedLabel info nodeLabels extLabels k = extLabels[k]? := by simp [wantedLabel, hs]
      rw [getElem?_setLabels, hw]
      exact leftToSet_cases _ _
    case refine_2 =>
      rw [getElem?_setAnnotations]
      exact leftToSet_cases _ _

end Aranya.EdgeDevice
