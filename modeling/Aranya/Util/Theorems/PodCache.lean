import Aranya.Lib.Execution
import Aranya.Util.PodCache

namespace Aranya

open Std (ExtTreeMap)

def Kube.Pod.key (pod : Kube.Pod) : Bytes × Bytes :=
  (pod.ns, pod.name)

namespace PodCache

variable {c : PodCache} {pod : Kube.Pod} {uid podUID : Bytes} {key : Bytes × Bytes}

theorem nameIndex_update :
    (c.update pod).nameIndex key = if pod.key = key then some pod else c.nameIndex key := by
  simp [update, Function.update_apply, Kube.Pod.key, eq_comm]

theorem nameIndex_delete_some (h : c.getByID podUID = some pod) :
    (c.delete podUID).nameIndex key = if pod.key = key then none else c.nameIndex key := by
  rw [getByID] at h
  simp [delete, h, Function.update_apply, Kube.Pod.key, eq_comm]

theorem nameIndex_delete_none (h : c.getByID podUID = none) : (c.delete podUID).nameIndex = c.nameIndex := by
  rw [getByID] at h
  simp [delete, h]

theorem getElem?_foldl_erase {m : ExtTreeMap Bytes Kube.Pod} {uids : List Bytes} :
    (uids.foldl (·.erase ·) m)[uid]? = if uid ∈ uids then none else m[uid]? := by
  induction uids generalizing m
  case nil => simp
  case cons u uids hi =>
    rw [List.foldl_cons, hi, ExtTreeMap.getElem?_erase]
    by_cases hu : u = uid
    case pos => simp [hu]
    case neg => simp [hu, Ne.symm hu]

theorem getByID_cleanup : c.cleanup.getByID uid = none := by
  rw [getByID, cleanup, getElem?_foldl_erase, ite_eq_left_iff]
  intro hu
  by_contra hp
  obtain ⟨pod, hp⟩ := Option.ne_none_iff_exists'.mp hp
  exact hu <| List.mem_map.mpr ⟨_, ExtTreeMap.mem_toList_iff_getElem?_eq_some.mpr hp, rfl⟩

theorem foldl_update_none {pods : List (Bytes × Kube.Pod)} {index : Bytes × Bytes → Option Kube.Pod} :
    pods.foldl (fun index p => Function.update index (p.snd.ns, p.snd.name) none) index key = none ↔
    index key = none ∨ ∃ uid pod, (uid, pod) ∈ pods ∧ pod.key = key := by
  induction pods generalizing index
  case nil => simp
  case cons p pods hi =>
    rw [List.foldl_cons, hi, Function.update_apply, ← Kube.Pod.key]
    by_cases hk : p.snd.key = key
    case pos =>
      rw [if_pos hk.symm]
      exact iff_of_true (.inl rfl) <| .inr ⟨p.fst, p.snd, List.mem_cons_self, hk⟩
    case neg =>
      rw [if_neg (Ne.symm hk)]
      apply or_congr_right
      constructor
      case mp =>
        rintro ⟨uid, pod, hp, hk'⟩
        exact ⟨uid, pod, List.mem_cons_of_mem _ hp, hk'⟩
      case mpr =>
        rintro ⟨uid, pod, hp, hk'⟩
        cases List.mem_cons.mp hp
        case inl he => exact absurd (he ▸ hk') hk
        case inr hp => exact ⟨uid, pod, hp, hk'⟩

theorem nameIndex_cleanup :
    c.cleanup.nameIndex key = none ↔
    c.nameIndex key = none ∨ ∃ uid pod, c.getByID uid = some pod ∧ pod.key = key := by
  simp only [cleanup, foldl_update_none, ExtTreeMap.mem_toList_iff_getElem?_eq_some, getByID]

def Action.live (pods : List Kube.Pod) : Action → List Kube.Pod
  | .update pod => pod :: pods
  | .delete podUID => pods.filter (·.uid ≠ podUID)
  | .markDeletedInRemote _ _ => pods
  | .cleanup => []

def lastOfUID (pods : List Kube.Pod) (uid : Bytes) : Option Kube.Pod :=
  pods.find? (·.uid = uid)

def lastOfKey (pods : List Kube.Pod) (key : Bytes × Bytes) : Option Kube.Pod :=
  pods.find? (·.key = key)

structure Traced where
  cache : PodCache
  live : List Kube.Pod

namespace Traced

def new : Traced where
  cache := .new
  live := []

def act (s : Traced) (a : Action) : Traced where
  cache := s.cache.act a
  live := a.live s.live

def step (s : Traced) (a : Action) : Option Traced :=
  some (s.act a)

structure Coherent (s : Traced) : Prop where
  byName : ∀ ns name, s.cache.getByName ns name = lastOfKey s.live (ns, name)
  byID : ∀ uid, s.cache.getByID uid = lastOfUID s.live uid
  marked : ∀ uid, s.cache.isDeletedInRemote uid → (s.cache.getByID uid).isSome

-- A pod is deleted when no other one has been cached under its name, and it has not been the last one under
-- another name. Only cached pods are marked, and the cache is cleared when no pods are marked or renamed.
def Orderly (s : Traced) : Action → Prop
  | .update _ => True
  | .delete podUID =>
    ∀ pod, lastOfUID s.live podUID = some pod →
      (∀ pod' ∈ s.live, pod'.key = pod.key → pod'.uid = podUID) ∧
      ∀ pod', lastOfKey s.live pod'.key = some pod' → pod'.uid = podUID → pod'.key = pod.key
  | .markDeletedInRemote podUID deleted => deleted → (lastOfUID s.live podUID).isSome
  | .cleanup =>
    s.cache.remoteDeleted = ∅ ∧
    ∀ pod ∈ s.live, ∃ pod', lastOfUID s.live pod'.uid = some pod' ∧ pod'.key = pod.key

variable {s s' : Traced} {pods : List Kube.Pod} {a : Action} {as : List Action}

theorem lastOfUID_filter :
    lastOfUID (pods.filter (·.uid ≠ podUID)) uid = if podUID = uid then none else lastOfUID pods uid := by
  induction pods
  case nil => simp [lastOfUID]
  case cons pod pods hi => grind [lastOfUID]

theorem lastOfKey_filter_eq_none :
    lastOfKey (pods.filter (·.uid ≠ podUID)) key = none ↔ ∀ pod ∈ pods, pod.key = key → pod.uid = podUID := by
  simp only [lastOfKey, List.find?_eq_none, List.mem_filter, decide_eq_true_eq]
  exact ⟨fun h pod hp hk => by_contra fun hu => h pod ⟨hp, hu⟩ hk, fun h pod hp hk => hp.right (h pod hp.left hk)⟩

theorem lastOfKey_filter_eq_iff :
    lastOfKey (pods.filter (·.uid ≠ podUID)) key = lastOfKey pods key ↔
    ∀ pod, lastOfKey pods key = some pod → pod.uid ≠ podUID := by
  constructor
  case mp =>
    intro h pod hp
    have hm := List.mem_of_find?_eq_some (h.trans hp)
    exact of_decide_eq_true (List.mem_filter.mp hm).right
  case mpr =>
    intro h
    induction pods
    case nil => rfl
    case cons pod pods hi => grind [lastOfKey]

theorem Coherent.new : Traced.new.Coherent where
  byName _ _ := rfl
  byID uid := by simp [Traced.new, getByID, PodCache.new, lastOfUID]
  marked uid := by simp [Traced.new, isDeletedInRemote, PodCache.new]

theorem Coherent.nameIndex (h : s.Coherent) : s.cache.nameIndex key = lastOfKey s.live key :=
  h.byName key.fst key.snd

theorem Coherent.update (h : s.Coherent) : (s.act (.update pod)).Coherent where
  byName ns name := by
    show (s.cache.update pod).nameIndex _ = lastOfKey (pod :: s.live) _
    grind [nameIndex_update, h.nameIndex, lastOfKey]
  byID uid := by
    show (s.cache.update pod).getByID _ = lastOfUID (pod :: s.live) _
    grind [getByID_update, h.byID, lastOfUID]
  marked uid hu := by
    show ((s.cache.update pod).getByID uid).isSome
    rw [getByID_update]
    split
    case isTrue => rfl
    case isFalse => exact h.marked uid hu

theorem Coherent.delete_iff (h : s.Coherent) :
    (s.act (.delete podUID)).Coherent ↔
    ∀ key, (s.cache.delete podUID).nameIndex key = lastOfKey (s.live.filter (·.uid ≠ podUID)) key := by
  constructor
  case mp => exact fun hd key => hd.nameIndex
  case mpr =>
    intro hn
    have hi uid : (s.cache.delete podUID).getByID uid = lastOfUID (s.live.filter (·.uid ≠ podUID)) uid := by
      rw [getByID_delete, lastOfUID_filter, h.byID]
    refine ⟨fun ns name => hn (ns, name), hi, ?marked⟩
    case marked =>
      intro uid hm
      show ((s.cache.delete podUID).getByID uid).isSome
      obtain ⟨hu, hm⟩ := Finset.mem_erase.mp (of_decide_eq_true hm)
      rw [getByID_delete, if_neg hu.symm]
      exact h.marked uid (decide_eq_true hm)

theorem Coherent.delete_orderly (h : s.Coherent) :
    (s.act (.delete podUID)).Coherent ↔ s.Orderly (.delete podUID) := by
  rw [h.delete_iff]
  cases hp : lastOfUID s.live podUID
  case none =>
    -- No update is dropped.
    have hl pod (hm : pod ∈ s.live) : pod.uid ≠ podUID := by
      simpa using List.find?_eq_none.mp hp pod hm
    apply iff_of_true
    case ha =>
      intro key
      rw [nameIndex_delete_none ((h.byID _).trans hp), h.nameIndex, eq_comm, lastOfKey_filter_eq_iff]
      exact fun pod hk => hl pod (List.mem_of_find?_eq_some hk)
    case hb => simp [Orderly, hp]
  case some pod =>
    simp only [nameIndex_delete_some ((h.byID _).trans hp), h.nameIndex, Orderly, hp]
    constructor
    case mp =>
      rintro hn _ ⟨⟩
      constructor
      case left =>
        rw [← lastOfKey_filter_eq_none, ← hn, if_pos rfl]
      case right =>
        intro pod' hk hu
        by_contra hne
        refine lastOfKey_filter_eq_iff.mp ?_ pod' hk hu
        rw [← hn, if_neg (Ne.symm hne)]
    case mpr =>
      intro ho key
      obtain ⟨h₁, h₂⟩ := ho pod rfl
      split
      case isTrue hk => exact (lastOfKey_filter_eq_none.mpr (hk ▸ h₁)).symm
      case isFalse hk =>
        refine (lastOfKey_filter_eq_iff.mpr fun pod' hk' hu => hk ?_).symm
        obtain rfl : pod'.key = key := by simpa using List.find?_some hk'
        exact (h₂ pod' hk' hu).symm

theorem Coherent.mark_orderly {deleted : Bool} (h : s.Coherent) :
    (s.act (.markDeletedInRemote podUID deleted)).Coherent ↔
    s.Orderly (.markDeletedInRemote podUID deleted) := by
  have hs (hm : ∀ uid, (s.cache.markDeletedInRemote podUID deleted).isDeletedInRemote uid →
      (s.cache.getByID uid).isSome) : (s.act (.markDeletedInRemote podUID deleted)).Coherent :=
    ⟨h.byName, h.byID, hm⟩
  cases deleted
  case false =>
    apply iff_of_true
    case ha => exact hs fun uid hm => h.marked uid <| decide_eq_true <|
      Finset.mem_of_mem_erase (of_decide_eq_true hm)
    case hb => exact nofun
  case true =>
    simp only [Orderly, ← h.byID, forall_const]
    constructor
    case mp => exact fun hc => hc.marked podUID (decide_eq_true (Finset.mem_insert_self ..))
    case mpr =>
      refine fun hp => hs fun uid hm => ?_
      cases Finset.mem_insert.mp (of_decide_eq_true hm)
      case inl hu => exact hu ▸ hp
      case inr hm => exact h.marked uid (decide_eq_true hm)

theorem Coherent.cleanup_orderly (h : s.Coherent) : (s.act .cleanup).Coherent ↔ s.Orderly .cleanup := by
  constructor
  case mp =>
    intro hc
    constructor
    case left =>
      refine Finset.eq_empty_of_forall_notMem fun uid hm => ?_
      have hs : (s.cache.cleanup.getByID uid).isSome := hc.marked uid (decide_eq_true hm)
      simp [getByID_cleanup] at hs
    case right =>
      intro pod hp
      have hn : s.cache.cleanup.nameIndex pod.key = none := hc.nameIndex
      rw [nameIndex_cleanup, h.nameIndex] at hn
      cases hn
      case inl hn => exact absurd (decide_eq_true rfl) (List.find?_eq_none.mp hn pod hp)
      case inr hn =>
        obtain ⟨uid, pod', hu, hk⟩ := hn
        rw [h.byID] at hu
        obtain rfl : pod'.uid = uid := by simpa using List.find?_some hu
        exact ⟨pod', hu, hk⟩
  case mpr =>
    rintro ⟨hm, hl⟩
    refine ⟨fun ns name => ?byName, fun _ => getByID_cleanup, ?marked⟩
    case byName =>
      refine nameIndex_cleanup.mpr ?_
      cases hk : lastOfKey s.live (ns, name)
      case none => exact .inl (h.nameIndex.trans hk)
      case some pod =>
        obtain ⟨pod', hu, hk'⟩ := hl pod (List.mem_of_find?_eq_some hk)
        exact .inr ⟨pod'.uid, pod', (h.byID _).trans hu, hk'.trans (by simpa using List.find?_some hk)⟩
    case marked =>
      intro uid hu
      replace hu : uid ∈ s.cache.remoteDeleted := of_decide_eq_true hu
      simp [hm] at hu

theorem Coherent.act_iff (h : s.Coherent) : (s.act a).Coherent ↔ s.Orderly a := by
  cases a
  case update pod => exact iff_of_true h.update trivial
  case delete podUID => exact h.delete_orderly
  case markDeletedInRemote podUID deleted => exact h.mark_orderly
  case cleanup => exact h.cleanup_orderly

def Spares (podUID : Bytes) (c c' : PodCache) : Prop :=
  ∀ uid ≠ podUID, (c.getByID uid).isSome →
    c'.getByID uid = c.getByID uid ∧
    ∀ ns name pod, c.getByName ns name = some pod → pod.uid = uid → c'.getByName ns name = some pod

theorem Coherent.spares (h : s.Coherent) (h' : (s.act (.delete podUID)).Coherent) :
    Spares podUID s.cache (s.act (.delete podUID)).cache := by
  intro uid hu _
  constructor
  case left =>
    show (s.cache.delete podUID).getByID uid = _
    rw [getByID_delete, if_neg hu.symm]
  case right =>
    intro ns name pod hn hp
    rw [h.byName] at hn
    rw [h'.byName, ← hn]
    refine lastOfKey_filter_eq_iff.mpr fun pod' hn' => ?_
    cases hn.symm.trans hn'
    exact hp ▸ hu

theorem exists_execution (s : Traced) (as : List Action) : ∃ s', Execution step s as s' := by
  induction as generalizing s
  case nil => exact ⟨s, .refl⟩
  case cons a as hi =>
    obtain ⟨s', e⟩ := hi (s.act a)
    exact ⟨s', .trans rfl e⟩

-- The cache always returns what it is meant to and keeps no mark for longer than the pod, and no deletion
-- affects other pods, iff all steps of a run are orderly.
theorem coherent_iff_orderly (as : List Action) :
    ((∀ pre s, pre <+: as → Execution step new pre s → s.Coherent) ∧
     ∀ pre podUID s s', pre ++ [.delete podUID] <+: as → Execution step new pre s →
      s.step (.delete podUID) = some s' → Spares podUID s.cache s'.cache) ↔
    Along step Orderly new as := by
  obtain ⟨s, e⟩ := exists_execution new as
  have hc : (∀ pre s, pre <+: as → Execution step new pre s → s.Coherent) ↔ Along step Orderly new as := by
    refine e.always_iff_along id ?hj ?hp Coherent.new
    case hj => rintro s a _ h ho ⟨⟩; exact h.act_iff.mpr ho
    case hp => rintro s a _ h ⟨⟩ hc; exact h.act_iff.mp hc
  constructor
  case mp => exact fun h => hc.mp h.left
  case mpr =>
    refine fun ho => ⟨hc.mpr ho, ?_⟩
    intro pre podUID s s' hp e hs
    cases hs
    have hp' := (List.prefix_append pre _).trans hp
    exact (hc.mpr ho pre s hp' e).spares (hc.mpr ho _ _ hp (e.append (.single rfl)))

def recreated (uid : Bytes) : Kube.Pod where
  ns := [0]
  name := [7]
  uid := uid

-- A pod is created again under the same name before its predecessor is deleted.
theorem not_coherent_recreated :
    ∃ s, Execution step new [.update (recreated [1]), .update (recreated [2]), .delete [1]] s ∧
      s.cache.getByID [2] = some (recreated [2]) ∧ s.cache.getByName [0] [7] = none ∧ ¬s.Coherent := by
  refine ⟨_, .of_foldlM rfl, rfl, rfl, fun h => ?_⟩
  have := h.byName [0] [7]
  cases this

end Traced
end PodCache
end Aranya
