import Aranya.Lib.List
import Mathlib.Data.List.Perm.Basic

namespace Aranya

open Std (ExtTreeMap LawfulEqCmp TransCmp)

def store {α β : Type*} {cmp : α → α → Ordering} [TransCmp cmp] (m : ExtTreeMap α β cmp)
    (entries : List (α × β)) : ExtTreeMap α β cmp :=
  entries.foldl (fun m e => m.insert e.fst e.snd) m

variable {α β : Type*} {cmp : α → α → Ordering} [TransCmp cmp] [LawfulEqCmp cmp] {m : ExtTreeMap α β cmp}
    {k : α} {v : β} {l : List (α × β)}

theorem getElem?_insert_of_ne {k' : α} (h : k ≠ k') : (m.insert k v)[k']? = m[k']? := by
  rw [ExtTreeMap.getElem?_insert, if_neg fun he => h (LawfulEqCmp.eq_of_compare he)]

theorem getElem?_store [DecidableEq α] :
    (store m l)[k]? = ((l.filter (·.fst = k)).getLast?.map Prod.snd).or m[k]? := by
  induction l generalizing m
  case nil => simp [store]
  case cons e l hi =>
    rw [store, List.foldl_cons, ← store, hi, ExtTreeMap.getElem?_insert, List.filter_cons]
    by_cases hk : e.fst = k
    case pos =>
      subst hk
      simp only [Std.ReflCmp.compare_self, decide_true, if_true, List.getLast?_cons]
      cases (l.filter (·.fst = e.fst)).getLast?
      case none => rfl
      case some e' => rfl
    case neg => simp [hk]

theorem mem_store : k ∈ store m l ↔ k ∈ m ∨ ∃ v, (k, v) ∈ l := by
  have hs (m : ExtTreeMap α β cmp) (e : α × β) (k : α) :
      k ∈ m.insert e.fst e.snd ↔ k ∈ m ∨ e.fst = k := by
    simp [ExtTreeMap.mem_insert, or_comm]
  rw [store, foldl_collects (fun m k => k ∈ m) (fun e k => e.fst = k) hs]
  simp

theorem mem_of_getElem?_store [DecidableEq α] (h : (store (∅ : ExtTreeMap α β cmp) l)[k]? = some v) :
    (k, v) ∈ l := by
  rw [getElem?_store, ExtTreeMap.getElem?_empty, Option.or_none] at h
  obtain ⟨e, he, rfl⟩ := Option.map_eq_some_iff.mp h
  obtain ⟨hm, hk⟩ := List.mem_filter.mp (List.mem_of_getLast? he)
  have hk : e.fst = k := by simpa using hk
  exact hk ▸ hm

theorem getElem?_store_of_mem [DecidableEq α] (hn : (l.map Prod.fst).Nodup) (h : (k, v) ∈ l) :
    (store m l)[k]? = some v := by
  have hm : (k, v) ∈ l.filter (·.fst = k) := List.mem_filter.mpr ⟨h, decide_eq_true rfl⟩
  obtain ⟨e, he⟩ := getLast?_of_mem hm
  obtain ⟨hl, hk⟩ := List.mem_filter.mp (List.mem_of_getLast? he)
  have hv : e = (k, v) := List.inj_on_of_nodup_map hn hl h (by simpa using hk)
  rw [getElem?_store, he, hv]
  rfl

theorem getElem?_store_of_iff [DecidableEq α] {f : Option β} (hn : (l.map Prod.fst).Nodup)
    (h : ∀ v, (k, v) ∈ l ↔ f = some v) : (store m l)[k]? = f.or m[k]? := by
  cases f
  case some v => rw [getElem?_store_of_mem hn <| (h v).mpr rfl, Option.some_or]
  case none =>
    have hf : l.filter (·.fst = k) = [] := by
      refine List.filter_eq_nil_iff.mpr fun e he hk => ?_
      have hk : e.fst = k := by simpa using hk
      cases (h e.snd).mp (hk ▸ he)
    rw [getElem?_store, hf]
    rfl

omit [LawfulEqCmp cmp] in
theorem nodup_toList_fst : (m.toList.map Prod.fst).Nodup := by
  rw [ExtTreeMap.map_fst_toList_eq_keys]
  exact ExtTreeMap.nodup_keys

section Entries

variable {γ : Type*} [DecidableEq α] {m' : ExtTreeMap α γ cmp} {g : α → β → Option γ → Option γ}
    {f : ExtTreeMap α γ cmp → α × β → ExtTreeMap α γ cmp}
    (hf : ∀ m' e k, (f m' e)[k]? = if e.fst = k then g k e.snd m'[k]? else m'[k]?)

include hf

omit [LawfulEqCmp cmp] in
theorem getElem?_foldl_of_ne (h : ∀ e ∈ l, e.fst ≠ k) : (l.foldl f m')[k]? = m'[k]? := by
  induction l generalizing m'
  case nil => rfl
  case cons e l hi =>
    obtain ⟨he, hl⟩ := List.forall_mem_cons.mp h
    rw [List.foldl_cons, hi hl, hf, if_neg he]

theorem getElem?_foldl_entries (hp : l.Perm m.toList) :
    (l.foldl f m')[k]? = m[k]?.elim m'[k]? (g k · m'[k]?) := by
  have hn : (l.map Prod.fst).Nodup := (hp.map Prod.fst).nodup_iff.mpr nodup_toList_fst
  have hm (v : β) : (k, v) ∈ l ↔ m[k]? = some v :=
    hp.mem_iff.trans ExtTreeMap.mem_toList_iff_getElem?_eq_some
  cases hk : m[k]?
  case none =>
    refine getElem?_foldl_of_ne hf fun e he h => ?_
    have hv := (hm e.snd).mp (h ▸ he)
    cases hk.symm.trans hv
  case some v =>
    obtain ⟨pre, post, rfl⟩ := List.append_of_mem <| (hm v).mpr hk
    obtain ⟨h₁, h₂⟩ := List.forall_mem_append.mp fun e he => ne_key_of_nodup hn he
    rw [List.foldl_append, List.foldl_cons, getElem?_foldl_of_ne hf h₂, hf, if_pos rfl,
      getElem?_foldl_of_ne hf h₁]
    rfl

end Entries

theorem store_perm [DecidableEq α] {l' : List (α × β)} (hp : l.Perm l') (hn : (l.map Prod.fst).Nodup) :
    store m l = store m l' := by
  have hn' : (l'.map Prod.fst).Nodup := hp.map Prod.fst |>.nodup_iff.mp hn
  refine ExtTreeMap.ext_getElem? fun {k} => ?_
  have he (v : β) : (k, v) ∈ l' ↔ (store (∅ : ExtTreeMap α β cmp) l')[k]? = some v :=
    ⟨getElem?_store_of_mem hn', mem_of_getElem?_store⟩
  have hl := getElem?_store_of_iff (m := m) hn fun v => hp.mem_iff.trans (he v)
  exact hl.trans (getElem?_store_of_iff hn' he).symm

omit [LawfulEqCmp cmp] in
theorem values_eq : m.values = m.toList.map Prod.snd := by
  have hf : m.values = m.foldr (fun _ v vs => v :: vs) [] := by
    obtain ⟨m⟩ := m
    induction m using Std.ExtDTreeMap.inductionOn
    rfl
  rw [hf, ExtTreeMap.foldr_eq_foldr_toList]
  induction m.toList
  case nil => rfl
  case cons e l hi => rw [List.foldr_cons, hi, List.map_cons]

theorem mem_values_iff : v ∈ m.values ↔ ∃ k : α, m[k]? = some v := by
  simp only [values_eq, List.mem_map, Prod.exists, exists_eq_right, ExtTreeMap.mem_toList_iff_getElem?_eq_some]

theorem nodup_toList_map : m.toList.Nodup := by
  refine m.distinct_keys_toList.imp fun hne he => ?_
  subst he
  exact hne Std.ReflCmp.compare_self

theorem toList_perm_cons_erase (h : m[k]? = some v) : m.toList.Perm ((k, v) :: (m.erase k).toList) := by
  have hn : ((k, v) :: (m.erase k).toList).Nodup := by
    refine List.nodup_cons.mpr ⟨?_, nodup_toList_map⟩
    simp [ExtTreeMap.mem_toList_iff_getElem?_eq_some]
  refine (List.perm_ext_iff_of_nodup nodup_toList_map hn).mpr fun ⟨k', v'⟩ => ?_
  simp only [List.mem_cons, ExtTreeMap.mem_toList_iff_getElem?_eq_some, ExtTreeMap.getElem?_erase, Prod.mk.injEq]
  by_cases hk : k = k'
  case pos =>
    subst hk
    simp [h, eq_comm]
  case neg => simp [hk, Ne.symm hk]

theorem toList_ofList_perm (h : (l.map Prod.fst).Nodup) : (ExtTreeMap.ofList l cmp).toList.Perm l := by
  have hd : l.Pairwise fun a b => ¬cmp a.fst b.fst = .eq := by
    refine (List.pairwise_map.mp h).imp fun hne he => ?_
    exact hne (LawfulEqCmp.eq_of_compare he)
  have hs : l ⊆ (ExtTreeMap.ofList l cmp).toList := fun ⟨k, v⟩ hm =>
    ExtTreeMap.mem_toList_iff_getElem?_eq_some.mpr <|
    ExtTreeMap.getElem?_ofList_of_mem Std.ReflCmp.compare_self hd hm
  have hl : (ExtTreeMap.ofList l cmp).toList.length ≤ l.length := by
    rw [ExtTreeMap.length_toList]
    exact ExtTreeMap.size_ofList_le
  exact ((List.subperm_of_subset h.of_map hs).perm_of_length_le hl).symm

end Aranya
