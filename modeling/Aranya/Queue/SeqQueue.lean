import Aranya.Lib.Gap
import Aranya.Proto.Wire

namespace Aranya

open Std (ExtTreeMap)

-- Data chunks are brought into the order of their sequence numbers and handed over to a callback, of which
-- `handleData` is what it captures. The functions return these chunks.
structure SeqQueue (δ η : Type*) where
  next : Nat
  max : Nat
  handleData : η
  m : ExtTreeMap Nat δ

namespace SeqQueue

variable {δ η : Type*}

def new (handleData : η) : SeqQueue δ η where
  next := 0
  max := maxUint64
  handleData := handleData
  m := ∅

-- Each round takes a cached chunk out of `m`, so the size of `m` bounds the number of rounds.
def popFollowing : Nat → Nat → ExtTreeMap Nat δ → Nat × ExtTreeMap Nat δ × List δ
  | 0, seq, m => (seq, m, [])
  | n + 1, seq, m =>
    match m[seq]? with
    | none => (seq, m, [])
    | some v =>
      let (seq', m', vs) := popFollowing n ((seq + 1) % 2 ^ 64) (m.erase seq)
      (seq', m', v :: vs)

def handleExpectedNext (q : SeqQueue δ η) (seq max : Nat) (data : δ) : SeqQueue δ η × List δ × Bool :=
  let (seq', m', vs) := popFollowing q.m.size ((seq + 1) % 2 ^ 64) q.m
  ({ q with next := seq', m := m' }, data :: vs, max < seq')

def offer (q : SeqQueue δ η) (seq : Nat) (data : δ) : SeqQueue δ η × List δ × Bool :=
  if q.max < q.next then
    (q, [], true)
  else if seq < q.next then
    (q, [], false)
  else if q.max < seq then
    (q, [], false)
  else if seq = q.next then
    q.handleExpectedNext q.next q.max data
  else
    ({ q with m := q.m.insert seq data }, [], false)

def setMaxSeq (q : SeqQueue δ η) (maxSeq : Nat) : SeqQueue δ η × Bool :=
  if maxSeq < q.next then
    ({ q with max := q.next }, true)
  else
    ({ q with max := maxSeq }, false)

def Holds (q : SeqQueue δ η) (P : δ → Prop) : Prop :=
  ∀ (k : Nat) (d : δ), q.m[k]? = some d → P d

section Holds

variable {P : δ → Prop} {q : SeqQueue δ η}

theorem Holds.new {x : η} : (new x : SeqQueue δ η).Holds P := by
  intro k d h
  simp [SeqQueue.new] at h

theorem Holds.setMaxSeq {k} (h : q.Holds P) : (q.setMaxSeq k).fst.Holds P := by
  simp only [SeqQueue.setMaxSeq]
  split <;> exact h

theorem popFollowing_holds (fuel seq) {m : ExtTreeMap Nat δ}
    (h : ∀ (k : Nat) (d : δ), m[k]? = some d → P d) :
    (∀ (k : Nat) (d : δ), (popFollowing fuel seq m).snd.fst[k]? = some d → P d) ∧
    (∀ d ∈ (popFollowing fuel seq m).snd.snd, P d) := by
  induction fuel generalizing seq m
  case zero => exact ⟨h, by simp [popFollowing]⟩
  case succ fuel hi =>
    simp only [popFollowing]
    split
    case h_1 => exact ⟨h, by simp⟩
    case h_2 v hv =>
      have he : ∀ (k : Nat) (d : δ), (m.erase seq)[k]? = some d → P d := by
        intro k d hd
        rw [ExtTreeMap.getElem?_erase] at hd
        split at hd
        case isTrue => cases hd
        case isFalse => exact h k d hd
      have ⟨h₁, h₂⟩ := hi ((seq + 1) % 2 ^ 64) he
      exact ⟨h₁, List.forall_mem_cons.mpr ⟨h seq v hv, h₂⟩⟩

theorem Holds.offer {k d} (h : q.Holds P) (hd : P d) :
    (q.offer k d).fst.Holds P ∧ ∀ x ∈ (q.offer k d).snd.fst, P x := by
  have hn : ∀ x ∈ ([] : List δ), P x := by simp
  simp only [SeqQueue.offer]
  split; exact ⟨h, hn⟩
  split; exact ⟨h, hn⟩
  split; exact ⟨h, hn⟩
  split
  case isTrue =>
    have ⟨h₁, h₂⟩ := popFollowing_holds q.m.size ((q.next + 1) % 2 ^ 64) h
    exact ⟨h₁, List.forall_mem_cons.mpr ⟨hd, h₂⟩⟩
  case isFalse =>
    refine ⟨fun j x hx => ?_, hn⟩
    rw [ExtTreeMap.getElem?_insert] at hx
    split at hx
    case isTrue => cases hx; exact hd
    case isFalse => exact h j x hx

end Holds

variable {chunk : ℕ → δ} {n : ℕ} {R : Finset ℕ} {q : SeqQueue δ η}

-- The run of chunks which `popFollowing` takes out ends at the first one that is not cached.
theorem popFollowing_run {fuel} (seq) {m : ExtTreeMap Nat δ} (hf : m.size ≤ fuel)
    (hm : ∀ {k v}, m[k]? = some v → v = chunk k ∧ k < maxUint64) :
    ∃ t m', popFollowing fuel seq m = (seq + t, m', (List.range' seq t).map chunk) ∧
      (∀ k, m'[k]? = if seq ≤ k ∧ k < seq + t then none else m[k]?) ∧
      (∀ k, seq ≤ k → k < seq + t → m[k]?.isSome) ∧ m[seq + t]? = none := by
  induction fuel generalizing seq m
  case zero =>
    have he : m = ∅ := ExtTreeMap.eq_empty_iff_size_eq_zero.mpr (by omega)
    refine ⟨0, m, by simp [popFollowing], fun k => ?_, fun k h₁ h₂ => ?_, by simp [he]⟩
    case refine_1 => rw [if_neg (by omega)]
    case refine_2 => omega
  case succ fuel hi =>
    cases hs : m[seq]?
    case none =>
      refine ⟨0, m, by simp [popFollowing, hs], fun k => ?_, fun k h₁ h₂ => ?_, hs⟩
      case refine_1 => rw [if_neg (by omega)]
      case refine_2 => omega
    case some v =>
      have ⟨hv, hk⟩ := hm hs
      have hw : (seq + 1) % 2 ^ 64 = seq + 1 := Nat.mod_eq_of_lt (by simp [maxUint64] at hk; omega)
      have he : ∀ {k v}, (m.erase seq)[k]? = some v → v = chunk k ∧ k < maxUint64 := by
        intro k v h
        rw [ExtTreeMap.getElem?_erase] at h
        split at h
        case isTrue => cases h
        case isFalse => exact hm h
      have hc : m.contains seq := by grind
      have hz : (m.erase seq).size ≤ fuel := by
        rw [ExtTreeMap.size_erase, if_pos hc]
        omega
      have ⟨t, m', h₁, h₂, h₃, h₄⟩ := hi (seq + 1) hz he
      refine ⟨t + 1, m', ?_, fun k => ?_, fun k hl hu => ?_, ?_⟩
      case refine_1 =>
        simp only [popFollowing, hs, hw, h₁, List.range'_succ, List.map_cons, hv]
        rw [Nat.add_assoc, Nat.add_comm 1 t]
      case refine_2 =>
        rw [h₂, ExtTreeMap.getElem?_erase]
        simp only [Nat.compare_eq_eq]
        by_cases hk : seq = k
        case pos => subst hk; simp
        case neg => grind
      case refine_3 =>
        by_cases hk : seq = k
        case pos => simp [← hk, hs]
        case neg =>
          have := h₃ k (by omega) (by omega)
          grind
      case refine_4 =>
        have h₅ : seq + 1 + t = seq + (t + 1) := by omega
        rw [← h₅]
        grind

-- The chunks in `R` have been offered: all before the first gap have been handed over, and those behind it
-- are cached.
structure Caches (q : SeqQueue δ η) (chunk : ℕ → δ) (n : ℕ) (R : Finset ℕ) : Prop where
  next : q.next = gap R
  max : q.max = if n - 1 ∈ R then n - 1 else maxUint64
  m : ∀ k, q.m[k]? = if k ∈ R ∧ gap R < k then some (chunk k) else none
  bound : ∀ k ∈ R, k < n

namespace Caches

theorem new (x : η) : Caches (new x : SeqQueue δ η) chunk n ∅ where
  next := by simp [SeqQueue.new]
  max := by simp [SeqQueue.new]
  m := by simp [SeqQueue.new]
  bound := by simp

theorem bound_insert {i} (c : Caches q chunk n R) (h : i < n) : ∀ k ∈ insert i R, k < n := by
  intro k hk
  cases Finset.mem_insert.mp hk
  case inl h' => exact h' ▸ h
  case inr h' => exact c.bound k h'

-- It cannot come too late, because a queue with a gap has not yet handed over the last chunk.
theorem setMaxSeq {i} (c : Caches q chunk n R) (hg : gap R < n) :
    (if i = n - 1 then (q.setMaxSeq i).fst else q) =
    { q with max := if n - 1 ∈ insert i R then n - 1 else maxUint64 } := by
  by_cases hi : i = n - 1
  case pos =>
    have hl : ¬(n - 1 < q.next) := by have := c.next; omega
    simp [hi, SeqQueue.setMaxSeq, hl]
  case neg =>
    have hm : n - 1 ∈ insert i R ↔ n - 1 ∈ R := by simp [Ne.symm hi]
    simp only [hi, if_false, hm, ← c.max]

theorem offer_of_gt {i} (c : Caches q chunk n R) (hi : gap R < i) (hn : i < n) {x : ℕ}
    (hx : x = if n - 1 ∈ insert i R then n - 1 else maxUint64) :
    Caches { q with max := x, m := q.m.insert i (chunk i) } chunk n (insert i R) where
  next := by simp [c.next, gap_insert_of_ne hi.ne']
  max := hx
  bound := c.bound_insert hn
  m k := by
    simp only [gap_insert_of_ne hi.ne', ExtTreeMap.getElem?_insert, c.m, Nat.compare_eq_eq]
    by_cases hk : i = k
    case pos => simp [← hk, hi]
    case neg => simp [hk, Ne.symm hk]

-- The chunk that fills the gap is handed over together with the cached chunks which follow it.
theorem handleExpectedNext (c : Caches q chunk n R) (hg : gap R < n) (hn : n ≤ maxUint64) {x : ℕ}
    (hx : x = if n - 1 ∈ insert (gap R) R then n - 1 else maxUint64) :
    let R' := insert (gap R) R
    ∃ q', ({ q with max := x }).handleExpectedNext (gap R) x (chunk (gap R)) =
        (q', (List.range' (gap R) (gap R' - gap R)).map chunk, decide (gap R' = n)) ∧
      Caches q' chunk n R' := by
  intro R'
  have hw : (gap R + 1) % 2 ^ 64 = gap R + 1 := Nat.mod_eq_of_lt (by simp [maxUint64] at hn; omega)
  have hm : ∀ {k v}, q.m[k]? = some v → v = chunk k ∧ k < maxUint64 := by
    intro k v h
    rw [c.m] at h
    split at h
    case isTrue hk => exact ⟨by cases h; rfl, Nat.lt_of_lt_of_le (c.bound k hk.left) hn⟩
    case isFalse => cases h
  have ⟨t, m', h₁, h₂, h₃, h₄⟩ := popFollowing_run (gap R + 1) (Nat.le_refl q.m.size) hm
  have hr : ∀ k, q.m[k]?.isSome → k ∈ R := by
    intro k h
    rw [c.m] at h
    by_contra hc
    simp [hc] at h
  have he : gap R + 1 + t ∉ R := by
    intro hc
    rw [c.m, if_pos ⟨hc, by omega⟩] at h₄
    cases h₄
  have ht : gap R' = gap R + 1 + t :=
    gap_insert_gap (fun j hl hu => hr j <| h₃ j hl hu) (by omega) he
  refine ⟨{ q with next := gap R', max := x, m := m' }, ?_, ?_⟩
  case refine_1 =>
    have hl : gap R' - gap R = t + 1 := by omega
    have hc : decide (x < gap R') = decide (gap R' = n) := by
      have hb : gap R' ≤ n := gap_le_of_forall_lt <| c.bound_insert hg
      rw [hx]
      split
      case isTrue => simp; omega
      case isFalse h =>
        have : gap R' ≤ n - 1 := gap_le_of_notMem h
        simp; omega
    simp only [SeqQueue.handleExpectedNext, hw, h₁, hl, List.range'_succ, List.map_cons, ← ht, hc]
  case refine_2 =>
    refine ⟨rfl, hx, fun k => ?_, c.bound_insert hg⟩
    rw [h₂, c.m, ht]
    by_cases hk : k ∈ R
    case pos =>
      have : k ≠ gap R + 1 + t := fun hc => he (hc ▸ hk)
      simp only [hk, true_and, R', Finset.mem_insert, or_true]
      rcases Nat.lt_or_ge (gap R) k with hl | hl <;>
        rcases Nat.lt_or_ge (gap R + 1 + t) k with hu | hu
      case inl.inl => rw [if_neg (by omega), if_pos hl, if_pos hu]
      case inl.inr => rw [if_pos (by omega), if_neg (by omega)]
      case inr.inl => omega
      case inr.inr => rw [if_neg (by omega), if_neg (by omega), if_neg (by omega)]
    case neg =>
      have : k ∈ R' → k = gap R := by simp [R', hk]
      simp only [hk, false_and, if_false, ite_self]
      exact (if_neg fun hc => by have := this hc.left; omega).symm

theorem offer {i} (c : Caches q chunk n R) (hg : gap R < n) (hi : i < n) (hn : n ≤ maxUint64) :
    let R' := insert i R
    ∃ q', (if i = n - 1 then (q.setMaxSeq i).fst else q).offer i (chunk i) =
        (q', (List.range' (gap R) (gap R' - gap R)).map chunk, decide (gap R' = n)) ∧
      Caches q' chunk n R' := by
  intro R'
  rw [c.setMaxSeq hg]
  generalize hx : (if n - 1 ∈ insert i R then n - 1 else maxUint64) = x
  have hb : n - 1 ≤ x := by
    rw [← hx]
    split <;> omega
  have h₁ : ¬(x < gap R) := by omega
  have h₂ : ¬(x < i) := by omega
  simp only [SeqQueue.offer, c.next, if_neg h₁, if_neg h₂]
  rcases Nat.lt_trichotomy i (gap R) with h | h | h
  case inl =>
    -- The chunk has been handed over before, and is dropped.
    have hr : R' = R := Finset.insert_eq_self.mpr (mem_of_lt_gap h)
    refine ⟨{ q with max := x }, by simp [h, hr, hg.ne, c.next], ?_⟩
    rw [hr]
    exact ⟨c.next, by rw [← hx, ← hr]; simp [R'], c.m, c.bound⟩
  case inr.inl =>
    subst h
    have ⟨q', h₃, h₄⟩ := c.handleExpectedNext hg hn hx.symm
    exact ⟨q', by simpa [c.next] using h₃, h₄⟩
  case inr.inr =>
    refine ⟨_, ?_, c.offer_of_gt h hi hx.symm⟩
    have h₃ : ¬(i < gap R) := by omega
    simp [h₃, h.ne', R', gap_insert_of_ne h.ne', hg.ne, c.next]

end Caches
end SeqQueue
end Aranya
