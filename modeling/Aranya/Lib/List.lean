import Mathlib.Data.List.Nodup

namespace Aranya

variable {σ α β κ : Type*} {as : List α} {f : α → Option β}

theorem find?_key_eq_some_iff [DecidableEq κ] {key : α → κ} {k : κ} {a : α}
    (h : (as.map key).Nodup) : as.find? (key · = k) = some a ↔ a ∈ as ∧ key a = k := by
  constructor
  case mp =>
    intro hf
    exact ⟨List.mem_of_find?_eq_some hf, by simpa using List.find?_some hf⟩
  case mpr =>
    rintro ⟨hm, rfl⟩
    obtain ⟨a', hf⟩ : ∃ a', as.find? (key · = key a) = some a' :=
      Option.isSome_iff_exists.mp (List.find?_isSome.mpr ⟨a, hm, decide_eq_true rfl⟩)
    have hk : key a' = key a := by simpa using List.find?_some hf
    rw [hf, List.inj_on_of_nodup_map h (List.mem_of_find?_eq_some hf) hm hk]

theorem foldl_collects {step : σ → α → σ} (Has : σ → β → Prop) (Adds : α → β → Prop)
    (h : ∀ s a b, Has (step s a) b ↔ Has s b ∨ Adds a b) {s : σ} {b : β} :
    Has (as.foldl step s) b ↔ Has s b ∨ ∃ a ∈ as, Adds a b := by
  induction as generalizing s
  case nil => simp
  case cons a as hi => simp [hi, h, or_assoc]

theorem foldl_getD {b : β} : as.foldl (fun b a => (f a).getD b) b = (as.filterMap f).getLastD b := by
  induction as generalizing b
  case nil => rfl
  case cons a as hi =>
    rw [List.foldl_cons, hi, List.filterMap_cons]
    cases f a
    case none => rfl
    case some c => rw [Option.getD_some, List.getLastD_cons]

theorem forall₂_iff_forall {R T : α → β → Prop} {U : α → Prop} {bs : List β}
    (h : List.Forall₂ R as bs) (hi : ∀ {a b}, R a b → (T a b ↔ U a)) :
    List.Forall₂ T as bs ↔ ∀ a ∈ as, U a := by
  induction h
  case nil => simp
  case cons a b _ _ hr _ ih => simp only [List.forall₂_cons, List.forall_mem_cons, ih, hi hr]

def upTo (p : α → Bool) (as : List α) : List α :=
  as.take (as.findIdx p + 1)

section UpTo

variable {p : α → Bool} {a : α} {bs : List α}

theorem upTo_cons : upTo p (a :: as) = a :: if p a then [] else upTo p as := by
  rw [upTo, List.findIdx_cons, List.take_succ_cons]
  cases h : p a
  case false => rfl
  case true => rfl

theorem upTo_of_any_eq_false (h : as.any p = false) : upTo p as = as := by
  induction as
  case nil => rfl
  case cons a as hi =>
    rw [List.any_cons, Bool.or_eq_false_iff] at h
    rw [upTo_cons, h.left, hi h.right]
    rfl

theorem upTo_append : upTo p (as ++ bs) = if as.any p then upTo p as else as ++ upTo p bs := by
  induction as
  case nil => rfl
  case cons a as hi =>
    rw [List.cons_append, upTo_cons, upTo_cons, hi, List.any_cons]
    cases p a
    case true => rfl
    case false => cases as.any p <;> rfl

theorem mem_of_mem_upTo (h : a ∈ upTo p as) : a ∈ as :=
  List.mem_of_mem_take h

end UpTo

theorem mapM_isSome : (as.mapM f).isSome ↔ ∀ a ∈ as, (f a).isSome := by
  induction as
  case nil => simp
  case cons a as hi =>
    rw [List.mapM_cons, List.forall_mem_cons, ← hi]
    cases f a
    case none => simp
    case some b => cases as.mapM f <;> simp

theorem getLast?_of_mem {a : α} (h : a ∈ as) : ∃ b, as.getLast? = some b :=
  ⟨_, List.getLast?_eq_some_getLast (List.ne_nil_of_mem h)⟩

theorem exists_last_of_mem {P : α → Prop} (h : ∃ a ∈ as, P a) :
    ∃ pre a post, as = pre ++ a :: post ∧ P a ∧ ∀ b ∈ post, ¬P b := by
  induction as
  case nil => simp at h
  case cons a as hi =>
    by_cases ha : ∃ b ∈ as, P b
    case pos =>
      obtain ⟨pre, b, post, rfl, hb, hp⟩ := hi ha
      exact ⟨a :: pre, b, post, rfl, hb, hp⟩
    case neg =>
      simp only [not_exists, not_and] at ha
      exact ⟨[], a, as, rfl, (List.exists_mem_cons_iff ..).mp h |>.resolve_right (by simpa using ha), ha⟩

theorem filter_append_eq_right {p : α → Bool} {as bs : List α} (ha : ∀ a ∈ as, ¬p a) (hb : ∀ b ∈ bs, p b) :
    (as ++ bs).filter p = bs := by
  rw [List.filter_append, List.filter_eq_nil_iff.mpr ha, List.filter_eq_self.mpr hb, List.nil_append]

theorem map_fst_filter_zipIdx {p : α → Bool} (as : List α) {k : Nat} :
    ((as.zipIdx k).filter (p ·.fst)).map Prod.fst = as.filter p := by
  conv_rhs => rw [← List.zipIdx_map_fst k as, List.filter_map]
  rfl

theorem mapM_zipIdx {p : α → Bool} (get : Nat → Option β) {bs : List β} {k : Nat}
    (hl : as.length ≤ bs.length) (h : ∀ j, get (k + j) = bs[j]?) :
    ((as.zipIdx k).filter (p ·.fst)).mapM (get ·.snd) =
    some (((as.zip bs).filter (p ·.fst)).map Prod.snd) := by
  induction as generalizing bs k
  case nil => rfl
  case cons a as hi =>
    obtain ⟨b, bs, rfl⟩ := List.exists_cons_of_length_pos (Nat.lt_of_lt_of_le (Nat.succ_pos _) hl)
    have hk : get k = some b := h 0
    have hi := @hi bs (k + 1) (Nat.le_of_succ_le_succ hl) fun j => by
      rw [Nat.add_assoc, Nat.add_comm 1, h, List.getElem?_cons_succ]
    rw [List.zipIdx_cons, List.zip_cons_cons, List.filter_cons, List.filter_cons]
    cases p a
    case false => exact hi
    case true => simp [hk, hi]

theorem getElem?_concat_eq_some_iff {a b : α} {i : Nat} :
    (as ++ [a])[i]? = some b ↔ as[i]? = some b ∨ i = as.length ∧ b = a := by
  rw [List.getElem?_append]
  split
  case isTrue h => simp [Nat.ne_of_lt h]
  case isFalse h =>
    have hn : as[i]? = none := List.getElem?_eq_none (Nat.le_of_not_lt h)
    have hi : i - as.length = 0 ↔ i = as.length := by omega
    simp [hn, List.getElem?_singleton, hi, eq_comm]

theorem ne_key_of_nodup {α β : Type*} {f : α → β} {x y : α} {pre post : List α}
    (hn : ((pre ++ x :: post).map f).Nodup) (h : y ∈ pre ++ post) : f y ≠ f x := by
  rw [List.map_append, List.map_cons, List.nodup_middle, ← List.map_append] at hn
  intro he
  exact (List.nodup_cons.mp hn).left <| he ▸ List.mem_map_of_mem h

end Aranya
