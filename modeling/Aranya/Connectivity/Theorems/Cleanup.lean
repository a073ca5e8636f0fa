import Aranya.Connectivity.Theorems.SessionManager

namespace Aranya.SessionManager

open Std (ExtTreeMap)

variable {τ : Type*} {f : TimedSessionFuncs τ} {m m' : SessionManager τ} {s : Session} {i c now : Nat}
    {msg : Msg}

theorem cleanup_stream (hs : m.sessions[i]? = some s) (hn : s.isStream = true) :
    (m.cleanup f now).sessions[i]? = if i = 0 then none else some s := by
  have hu : ¬m.Unary i := by
    intro ⟨t, ht, hn'⟩
    cases hs ▸ ht
    simp [hn] at hn'
  have hm : i ∈ m.allSid ↔ i = 0 := by
    rw [mem_allSid_iff]
    exact ⟨fun h => (h.resolve_left hu).left, fun h => .inr ⟨h, i, s, hs, hn⟩⟩
  simp only [cleanup, getElem?_foldl_erase, hm, hs]

structure CleansUp (m m' : SessionManager τ) : Prop where
  registered : ∀ (i : Nat) (s : Session),
    m'.sessions[i]? = some s ↔ m.sessions[i]? = some s ∧ s.isStream = true
  closed : ∀ c, (m'.world.msgChs.chan c).closed = true ↔
    (m.world.msgChs.chan c).closed = true ∨
    ∃ (i : Nat) (s : Session), m.sessions[i]? = some s ∧ s.isStream = false ∧ s.msgCh = some c
  opened : ∀ (i : Nat) (s : Session), m.sessions[i]? = some s → s.isStream = true →
    ∃ c, s.msgCh = some c ∧ m'.world.msgChs.chan c = m.world.msgChs.chan c ∧
      (m'.world.msgChs.chan c).closed = false

theorem Valid.cleansUp_iff (v : m.Valid) :
    m.CleansUp (m.cleanup f now) ↔ ∀ s, m.sessions[0]? = some s → s.isStream = false := by
  constructor
  case mp =>
    intro h s hs
    by_contra hn
    have hn : s.isStream = true := by simpa using hn
    have hs' := (h.registered 0 s).mpr ⟨hs, hn⟩
    cases (cleanup_stream hs hn).symm.trans hs'
  case mpr =>
    intro h
    constructor
    case closed => exact fun c => cleanup_closed_iff v
    case registered =>
      refine fun i s => ⟨cleanup_getElem?, fun ⟨hs, hn⟩ => ?_⟩
      have hi : i ≠ 0 := by
        rintro rfl
        simp [h s hs] at hn
      rw [cleanup_stream hs hn, if_neg hi]
    case opened =>
      intro i s hs hn
      have ⟨c, hc, _, ho, _⟩ := (v.session hs).msgCh
      have hw : m.world.Spares (m.cleanup f now).world s := cleanup_spares v hs hn
      have he := hw.msgChs hc
      exact ⟨c, hc, he, he ▸ Chan.not_closed_iff.mpr ho⟩

-- No message for a registered session is dropped. `Cleanup` is exact iff no stream has the id `0`.
theorem cleanup_exact_iff (h : m.Reached f) (now : Nat) :
    (m.CleansUp (m.cleanup f now) ↔ ∀ s, m.sessions[0]? = some s → s.isStream = false) ∧
    (∀ (i : Nat) (s : Session), m.sessions[i]? = some s → s.isStream = false → s.epoch = m.epoch) ∧
    (∀ (msg : Msg) m' b, msg.sid ∈ m.sessions → m.dispatch f msg = .ok (m', b) → b = true) := by
  have v := h.valid
  refine ⟨v.cleansUp_iff, fun i s hs => (v.session hs).epoch, fun msg m' b hm hd => ?_⟩
  rcases dispatch_cases v hd with ⟨hn, _⟩ | ⟨_, _, _, _, _, _, _, _, hb, _⟩
  case inl => exact absurd hm (notMem_of_getElem? hn)
  case inr => exact hb

theorem cleanup_exact_iff_one :
    let m := (new 0 .empty ()).added .ignore 0 1 true false
    (m.CleansUp (m.cleanup .ignore 7) ↔ ∀ s, m.sessions[0]? = some s → s.isStream = false) ∧
    (∀ (i : Nat) (s : Session), m.sessions[i]? = some s → s.isStream = false → s.epoch = m.epoch) ∧
    (∀ (msg : Msg) m' b, msg.sid ∈ m.sessions → m.dispatch .ignore msg = .ok (m', b) → b = true) :=
  have e : Execution (step .ignore) (new 0 .empty ()) [.call (.add 0 true false)] _ :=
    .trans rfl .refl
  cleanup_exact_iff ⟨0, .empty, (), e.reachable⟩ 7

-- One nanosecond before the epoch the clock reads `2 ^ 64 - 1`, so the first id is `0`.
theorem not_cleansUp_zero :
    let m := (new (2 ^ 64 - 1) .empty ()).added .ignore 0 0 true false
    m.Reached .ignore ∧ (∃ s, m.sessions[0]? = some s ∧ s.isStream = true) ∧
    (m.cleanup .ignore 7).sessions[0]? = none ∧ ¬m.CleansUp (m.cleanup .ignore 7) := by
  intro m
  have e : Execution (step .ignore) (new (2 ^ 64 - 1) .empty ()) [.call (.add 0 true false)] m :=
    .trans rfl .refl
  refine ⟨⟨_, _, _, e.reachable⟩, ⟨_, rfl, rfl⟩, rfl, fun h => ?_⟩
  have h := (h.registered 0 _).mpr ⟨rfl, rfl⟩
  cases h

end Aranya.SessionManager
