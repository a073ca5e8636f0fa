import Mathlib.Data.List.Forall2

namespace Aranya.Except

universe u v

variable {ε : Type u} {α β σ : Type v} {x : Except ε α} {f : α → Except ε β} {g : σ → α → Except ε σ} {a : α}
    {b : β} {as : List α} {bs : List β} {e : ε}

theorem bind_eq_ok_iff : x >>= f = .ok b ↔ ∃ a, x = .ok a ∧ f a = .ok b := by
  cases x
  case error e => exact ⟨nofun, fun ⟨_, h, _⟩ => nomatch h⟩
  case ok a => exact ⟨fun h => ⟨a, rfl, h⟩, fun ⟨_, h₁, h₂⟩ => by cases h₁; exact h₂⟩

theorem bind_eq_error_iff : x >>= f = .error e ↔ x = .error e ∨ ∃ a, x = .ok a ∧ f a = .error e := by
  cases x
  case error e' => simp [bind, Except.bind]
  case ok a => simp [bind, Except.bind]

theorem foldlM_eq_error {s : σ} (h : as.foldlM g s = .error e) : ∃ a ∈ as, ∃ t, g t a = .error e := by
  induction as generalizing s
  case nil => cases h
  case cons a as hi =>
    cases bind_eq_error_iff.mp h
    case inl h => exact ⟨a, List.mem_cons_self, s, h⟩
    case inr h =>
      obtain ⟨t, _, h⟩ := h
      obtain ⟨b, hb, h⟩ := hi h
      exact ⟨b, List.mem_cons_of_mem a hb, h⟩

theorem foldlM_fails_iff {Fails : α → Prop}
    (hf : ∀ s a, (∃ e, g s a = .error e) ↔ Fails a) (as : List α) (s : σ) :
    (∃ e, as.foldlM g s = .error e) ↔ ∃ a ∈ as, Fails a := by
  constructor
  case mp =>
    rintro ⟨e, h⟩
    obtain ⟨a, ha, t, h⟩ := foldlM_eq_error h
    exact ⟨a, ha, (hf t a).mp ⟨e, h⟩⟩
  case mpr =>
    rintro ⟨a, ha, h⟩
    induction as generalizing s
    case nil => cases ha
    case cons a' as hi =>
      cases hs : g s a'
      case error e => exact ⟨e, bind_eq_error_iff.mpr <| .inl hs⟩
      case ok s' =>
        cases List.mem_cons.mp ha
        case inl ha =>
          obtain ⟨e, he⟩ := (hf s a').mpr (ha ▸ h)
          cases hs.symm.trans he
        case inr ha =>
          obtain ⟨e, he⟩ := hi s' ha
          exact ⟨e, bind_eq_error_iff.mpr <| .inr ⟨s', hs, he⟩⟩

theorem foldlM_eq_ok_iff {f : σ → α → σ} {Accepts : α → Prop}
    (hg : ∀ s a s', g s a = .ok s' ↔ Accepts a ∧ s' = f s a) {s s' : σ} :
    as.foldlM g s = .ok s' ↔ (∀ a ∈ as, Accepts a) ∧ s' = as.foldl f s := by
  induction as generalizing s
  case nil => simp [pure, Except.pure, eq_comm]
  case cons a as hi => simp [bind_eq_ok_iff, hg, hi, and_assoc]

theorem mapM_eq_error (h : as.mapM f = .error e) : ∃ a ∈ as, f a = .error e := by
  induction as
  case nil => cases h
  case cons a as hi =>
    rw [List.mapM_cons] at h
    cases bind_eq_error_iff.mp h
    case inl h => exact ⟨a, List.mem_cons_self, h⟩
    case inr h =>
      obtain ⟨b, _, h⟩ := h
      cases bind_eq_error_iff.mp h
      case inl h =>
        obtain ⟨a', ha, h⟩ := hi h
        exact ⟨a', List.mem_cons_of_mem a ha, h⟩
      case inr h =>
        obtain ⟨_, _, h⟩ := h
        cases h

theorem mapM_eq_ok_iff : as.mapM f = .ok bs ↔ List.Forall₂ (fun a b => f a = .ok b) as bs := by
  induction as generalizing bs
  case nil =>
    rw [List.mapM_nil, List.forall₂_nil_left_iff]
    exact ⟨fun h => (Except.ok.inj h).symm, fun h => h ▸ rfl⟩
  case cons a as hi =>
    simp only [List.mapM_cons, bind_eq_ok_iff, hi, List.forall₂_cons_left_iff]
    constructor
    case mp =>
      rintro ⟨b, hb, bs', hbs, h⟩
      cases h
      exact ⟨b, bs', hb, hbs, rfl⟩
    case mpr =>
      rintro ⟨b, bs', hb, hbs, rfl⟩
      exact ⟨b, hb, bs', hbs, rfl⟩

theorem exists_mem_mapM_iff {Q : β → Prop} (h : as.mapM f = .ok bs) :
    (∃ b ∈ bs, Q b) ↔ ∃ a ∈ as, ∃ b, f a = .ok b ∧ Q b := by
  induction mapM_eq_ok_iff.mp h
  case nil => simp
  case cons ha ht hi => simp [ha, hi (mapM_eq_ok_iff.mpr ht)]

theorem exists_eq_ok_of_mapM (h : as.mapM f = .ok bs) (ha : a ∈ as) : ∃ b, f a = .ok b := by
  induction mapM_eq_ok_iff.mp h
  case nil => cases ha
  case cons hb ht hi =>
    rcases List.mem_cons.mp ha with rfl | ha
    case inl => exact ⟨_, hb⟩
    case inr => exact hi (mapM_eq_ok_iff.mpr ht) ha

theorem map_eq_ok_iff {g : α → β} : x.map g = .ok b ↔ ∃ a, x = .ok a ∧ g a = b := by
  cases x
  case error e => simp [Except.map]
  case ok a => simp [Except.map]

theorem map_eq_error_iff {g : α → β} : x.map g = .error e ↔ x = .error e := by
  cases x
  case error e' => simp [Except.map]
  case ok a => simp [Except.map]

theorem toOption_eq_some_iff : x.toOption = some a ↔ x = .ok a := by
  cases x
  case error e => exact ⟨nofun, nofun⟩
  case ok a' => simp [Except.toOption]

-- Programs whose errors are results, and which can fail in another way as well.
section Nested

variable {δ ε α β σ : Type} {x : ExceptT ε (Except δ) α} {f : α → ExceptT ε (Except δ) β} {d : δ}

theorem run_bind_eq_ok_iff {b : β} :
    (x >>= f).run = .ok (.ok b) ↔ ∃ a, x.run = .ok (.ok a) ∧ (f a).run = .ok (.ok b) := by
  rw [ExceptT.run_bind]
  cases hx : x.run
  case error d => simp [bind, Except.bind]
  case ok r => cases r <;> simp [bind, Except.bind, pure, Except.pure]

theorem run_bind_eq_error_iff :
    (x >>= f).run = .error d ↔ x.run = .error d ∨ ∃ a, x.run = .ok (.ok a) ∧ (f a).run = .error d := by
  rw [ExceptT.run_bind]
  cases hx : x.run
  case error d => simp [bind, Except.bind]
  case ok r => cases r <;> simp [bind, Except.bind, pure, Except.pure]

theorem foldlM_run_eq_error_iff {step : σ → α → ExceptT ε (Except δ) σ} {Accepts Fails : α → Prop}
    (ha : ∀ s a, (∃ s', (step s a).run = .ok (.ok s')) ↔ Accepts a)
    (hf : ∀ s a, (∃ d, (step s a).run = .error d) ↔ Fails a) (as : List α) (s : σ) :
    (∃ d, (as.foldlM step s).run = .error d) ↔
      ∃ pre a post, as = pre ++ a :: post ∧ (∀ b ∈ pre, Accepts b) ∧ Fails a := by
  induction as generalizing s
  case nil =>
    constructor
    case mp => rintro ⟨d, h⟩; cases h
    case mpr => rintro ⟨pre, a, post, h, _⟩; simp at h
  case cons a as hi =>
    constructor
    case mp =>
      rintro ⟨d, h⟩
      rw [List.foldlM_cons] at h
      cases run_bind_eq_error_iff.mp h
      case inl h => exact ⟨[], a, as, rfl, by simp, (hf s a).mp ⟨d, h⟩⟩
      case inr h =>
        obtain ⟨s', hs, h⟩ := h
        obtain ⟨pre, a', post, rfl, hp, ha'⟩ := (hi s').mp ⟨d, h⟩
        refine ⟨a :: pre, a', post, rfl, ?_, ha'⟩
        exact List.forall_mem_cons.mpr ⟨(ha s a).mp ⟨s', hs⟩, hp⟩
    case mpr =>
      rintro ⟨pre, a', post, h, hp, ha'⟩
      rw [List.foldlM_cons]
      cases pre
      case nil =>
        cases h
        obtain ⟨d, hd⟩ := (hf s a).mpr ha'
        exact ⟨d, run_bind_eq_error_iff.mpr <| .inl hd⟩
      case cons c pre =>
        cases h
        have ⟨hc, hp⟩ := List.forall_mem_cons.mp hp
        obtain ⟨s', hs⟩ := (ha s a).mpr hc
        obtain ⟨d, hd⟩ := (hi s').mpr ⟨pre, a', post, rfl, hp, ha'⟩
        exact ⟨d, run_bind_eq_error_iff.mpr <| .inr ⟨s', hs, hd⟩⟩

end Nested
end Aranya.Except
