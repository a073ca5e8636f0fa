import Aranya.Lib.Except
import Aranya.Lib.TreeMap

namespace Aranya

open Std (ExtTreeMap LawfulEqCmp TransCmp)

universe u v w

variable {α β γ : Type*}

def lastOf (layers : List (α → Option β)) (a : α) : Option β :=
  layers.reverse.findSome? (· a)

def layersOf (layer : (α → Option β) → γ → α → Option β) :
    List (α → Option β) → List γ → List (α → Option β)
  | _, [] => []
  | before, c :: cs =>
    layer (lastOf before) c :: layersOf layer (before ++ [layer (lastOf before) c]) cs

def entryLayer [DecidableEq α] (entry : α × β) (a : α) : Option β :=
  if a = entry.fst then some entry.snd else none

variable {layers₁ layers₂ before : List (α → Option β)} {layer : α → Option β} {a : α}

@[simp]
theorem lastOf_append : lastOf (layers₁ ++ layers₂) a = (lastOf layers₂ a).or (lastOf layers₁ a) := by
  rw [lastOf, List.reverse_append, List.findSome?_append]
  rfl

@[simp]
theorem lastOf_singleton : lastOf [layer] a = layer a := by
  simp [lastOf]

theorem layersOf_const {layer : γ → α → Option β} {cs : List γ} :
    layersOf (fun _ => layer) before cs = cs.map layer := by
  induction cs generalizing before
  case nil => rfl
  case cons c cs hi => rw [layersOf, hi, List.map_cons]

section TreeMap

variable {cmp : α → α → Ordering} [TransCmp cmp] [LawfulEqCmp cmp] [DecidableEq α] {m : ExtTreeMap α β cmp}

theorem getElem?_store_layers {l : List (α × β)} : (store m l)[a]? = (lastOf (l.map entryLayer) a).or m[a]? := by
  induction l generalizing m
  case nil => rfl
  case cons e l hi =>
    rw [store, List.foldl_cons, ← store, hi, List.map_cons, ← List.singleton_append, lastOf_append,
      lastOf_singleton, Option.or_assoc, ExtTreeMap.getElem?_insert]
    by_cases he : a = e.fst
    case pos => simp [entryLayer, he]
    case neg => simp [entryLayer, he, Ne.symm he]

end TreeMap

section Loop

variable {ε : Type u} {α β : Type v} {γ : Type v} {cmp : α → α → Ordering} [TransCmp cmp]
    {step : ExtTreeMap α β cmp → γ → Except ε (ExtTreeMap α β cmp)} {m m' : ExtTreeMap α β cmp} {cs : List γ}

theorem getElem?_foldlM_layers (layer : (α → Option β) → γ → α → Option β) {before : List (α → Option β)}
    (hs : ∀ {m c m'}, step m c = .ok m' → ∀ a : α, m'[a]? = (layer (m[·]?) c a).or m[a]?)
    (h : cs.foldlM step m = .ok m') (hb : ∀ a : α, m[a]? = lastOf before a) (a : α) :
    m'[a]? = lastOf (before ++ layersOf layer before cs) a := by
  induction cs generalizing m before
  case nil =>
    cases h
    rw [layersOf, List.append_nil, hb]
  case cons c cs hi =>
    obtain ⟨m₁, h₁, h₂⟩ := Except.bind_eq_ok_iff.mp h
    have hl : (m[·]?) = lastOf before := funext hb
    have hb₁ : ∀ a : α, m₁[a]? = lastOf (before ++ [layer (lastOf before) c]) a := by
      intro a
      rw [hs h₁, hl, hb, lastOf_append, lastOf_singleton]
    rw [hi h₂ hb₁, layersOf, List.append_assoc, List.singleton_append]

end Loop
end Aranya
