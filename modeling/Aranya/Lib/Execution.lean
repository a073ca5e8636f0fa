import Mathlib.Data.List.Induction

namespace Aranya

variable {σ α : Type*}

-- The result `none` means that the action is not enabled: it cannot start, or it starts and never finishes.
inductive Execution (step : σ → α → Option σ) : σ → List α → σ → Prop
  | refl {s} : Execution step s [] s
  | trans {s₁ a s₂ as s₃} :
    (step s₁ a = some s₂) → (Execution step s₂ as s₃) → Execution step s₁ (a :: as) s₃

def Reachable (step : σ → α → Option σ) (s₁ s₂ : σ) : Prop :=
  ∃ as, Execution step s₁ as s₂

-- Every action of the given list meets `P` in the state in which it is taken.
def Along (step : σ → α → Option σ) (P : σ → α → Prop) : σ → List α → Prop
  | _, [] => True
  | s, a :: as => P s a ∧ ∀ s', step s a = some s' → Along step P s' as

variable {step : σ → α → Option σ} {s s₁ s₂ s₃ : σ} {a : α} {as as₁ as₂ : List α}

theorem Along.cons {P : σ → α → Prop} (hp : P s₁ a) (hs : step s₁ a = some s₂)
    (h : Along step P s₂ as) : Along step P s₁ (a :: as) := by
  refine ⟨hp, fun s' hs' => ?_⟩
  cases hs.symm.trans hs'
  exact h

theorem Along.of_forall {P : σ → α → Prop} (h : ∀ s a, P s a) : Along step P s as := by
  induction as generalizing s
  case nil => trivial
  case cons a as hi => exact ⟨h s a, fun _ _ => hi⟩

instance Along.decidable {P : σ → α → Prop} [∀ s a, Decidable (P s a)] :
    ∀ s as, Decidable (Along step P s as)
  | _, [] => isTrue trivial
  | s, a :: as =>
    match h : step s a with
    | none => decidable_of_iff (P s a) (by simp [Along, h])
    | some s' =>
      have := Along.decidable (P := P) s' as
      decidable_of_iff (P s a ∧ Along step P s' as) (by simp [Along, h])

namespace Execution

theorem of_foldlM (h : as.foldlM step s₁ = some s₂) : Execution step s₁ as s₂ := by
  induction as generalizing s₁
  case nil =>
    cases h
    exact refl
  case cons a as hi =>
    rw [List.foldlM_cons, Option.bind_eq_bind, Option.bind_eq_some_iff] at h
    obtain ⟨s, hs, h⟩ := h
    exact trans hs (hi h)

theorem exists_of_any {p : σ → Bool} (h : (as.foldlM step s₁).any p) :
    ∃ s₂, Execution step s₁ as s₂ ∧ p s₂ := by
  obtain ⟨s₂, hs, hp⟩ := Option.any_eq_true _ _ |>.mp h
  exact ⟨s₂, of_foldlM hs, hp⟩

theorem single (h : step s₁ a = some s₂) : Execution step s₁ [a] s₂ :=
  trans h refl

theorem append (e₁ : Execution step s₁ as₁ s₂) (e₂ : Execution step s₂ as₂ s₃) :
    Execution step s₁ (as₁ ++ as₂) s₃ := by
  induction e₁
  case refl => exact e₂
  case trans h _ hi => exact trans h (hi e₂)

theorem of_concat (e : Execution step s₁ (as ++ [a]) s₃) :
    ∃ s₂, Execution step s₁ as s₂ ∧ step s₂ a = some s₃ := by
  induction as generalizing s₁
  case nil =>
    cases e
    case trans hs e =>
      cases e
      exact ⟨s₁, refl, hs⟩
  case cons b as hi =>
    cases e
    case trans hs e =>
      obtain ⟨s₂, e', h⟩ := hi e
      exact ⟨s₂, trans hs e', h⟩

theorem reachable (e : Execution step s₁ as s₂) : Reachable step s₁ s₂ :=
  ⟨as, e⟩

-- The rule by which every safety property of the development is derived from a step lemma.
theorem preserves {I : σ → Prop} (hs : ∀ {s a s'}, I s → step s a = some s' → I s')
    (e : Execution step s₁ as s₂) (h : I s₁) : I s₂ := by
  induction e
  case refl => exact h
  case trans h' _ hi => exact hi (hs h h')

variable {P : σ → α → Prop} {I : List α → σ → Prop}

theorem preserves_along {I : σ → Prop}
    (hs : ∀ {s a s'}, I s → P s a → step s a = some s' → I s')
    (e : Execution step s₁ as s₂) (h : I s₁) (hp : Along step P s₁ as) : I s₂ := by
  induction e
  case refl => exact h
  case trans h' _ hi => exact hi (hs h hp.left h') (hp.right _ h')

theorem preserves_history
    (hs : ∀ {pre s a s'}, I pre s → P s a → step s a = some s' → I (pre ++ [a]) s')
    (e : Execution step s₁ as s₂) (h : I [] s₁) (hp : Along step P s₁ as) : I as s₂ := by
  suffices hg : ∀ {pre}, I pre s₁ → I (pre ++ as) s₂ from hg h
  clear h
  induction e
  case refl => simp
  case trans h' _ hi =>
    intro pre h
    have := hi (hp.right _ h') (hs h hp.left h')
    simpa using this

-- When a step out of an invariant has a property iff it keeps to a guard, by which it preserves the
-- invariant, then this is so for all steps of an execution.
theorem steps_iff_along {R : σ → α → σ → Prop} {J : σ → Prop}
    (hj : ∀ {s a s'}, J s → P s a → step s a = some s' → J s')
    (hr : ∀ {s a s'}, J s → step s a = some s' → (R s a s' ↔ P s a))
    (e : Execution step s₁ as s₂) (h : J s₁) :
    (∀ pre a s s', pre ++ [a] <+: as → Execution step s₁ pre s → step s a = some s' → R s a s') ↔
    Along step P s₁ as := by
  induction e
  case refl => simp [Along]
  case trans h' e hi =>
    constructor
    case mp =>
      intro ha
      have hp := hr h h' |>.mp <| ha [] _ _ _ (List.cons_prefix_cons.mpr ⟨rfl, List.nil_prefix⟩) refl h'
      refine ⟨hp, fun s' hs' => ?_⟩
      cases h' ▸ hs'
      exact hi (hj h hp h') |>.mp fun pre b s s' hp e' =>
        ha (_ :: pre) b s s' (List.cons_prefix_cons.mpr ⟨rfl, hp⟩) (trans h' e')
    case mpr =>
      intro ha pre b s s' hp e' hs
      cases e'
      case refl =>
        have ⟨h₁, _⟩ := List.cons_prefix_cons.mp hp
        subst h₁
        exact hr h hs |>.mpr ha.left
      case trans hs' e' =>
        have ⟨h₁, h₂⟩ := List.cons_prefix_cons.mp hp
        subst h₁
        cases h' ▸ hs'
        exact hi (hj h ha.left h') |>.mpr (ha.right _ h') _ _ _ _ h₂ e' hs

theorem always_iff_along {I J : σ → Prop} (hi : ∀ {s}, J s → I s)
    (hj : ∀ {s a s'}, J s → P s a → step s a = some s' → J s')
    (hp : ∀ {s a s'}, J s → step s a = some s' → I s' → P s a)
    (e : Execution step s₁ as s₂) (h : J s₁) :
    (∀ pre s, pre <+: as → Execution step s₁ pre s → I s) ↔ Along step P s₁ as := by
  rw [← e.steps_iff_along (R := fun _ _ s' => I s') hj (fun h hs => ⟨hp h hs, fun ha => hi (hj h ha hs)⟩) h]
  constructor
  case mp =>
    intro ha pre a s s' hp e' hs
    exact ha _ _ hp (e'.append (single hs))
  case mpr =>
    intro ha pre s hp e'
    cases pre using List.reverseRecOn
    case nil =>
      cases e'
      exact hi h
    case append_singleton pre a =>
      obtain ⟨s', e', hs⟩ := e'.of_concat
      exact ha _ _ _ _ hp e' hs

-- The rule for total correctness: when every action can be taken in every state that its history allows,
-- then all of them can be taken.
theorem progress
    (hs : ∀ {pre a s}, pre ++ [a] <+: as → I pre s → ∃ s', step s a = some s' ∧ I (pre ++ [a]) s')
    (h : I [] s₁) : ∃ s₂, Execution step s₁ as s₂ ∧ I as s₂ := by
  induction as using List.reverseRecOn
  case nil => exact ⟨s₁, refl, h⟩
  case append_singleton as a hi =>
    have ⟨s, e, h₁⟩ := hi fun hp => hs (hp.trans <| List.prefix_append ..)
    have ⟨s', h₂, h₃⟩ := hs List.prefix_rfl h₁
    exact ⟨s', e.append (single h₂), h₃⟩

theorem map {β : Type*} {g : β → α} {bs : List β} (e : Execution (fun s b => step s (g b)) s₁ bs s₂) :
    Execution step s₁ (bs.map g) s₂ := by
  induction e
  case refl => exact refl
  case trans h _ hi => exact trans h hi

end Execution

namespace Reachable

theorem refl : Reachable step s s :=
  ⟨[], .refl⟩

theorem trans (h₁ : Reachable step s₁ s₂) (h₂ : Reachable step s₂ s₃) : Reachable step s₁ s₃ :=
  have ⟨_, e₁⟩ := h₁
  have ⟨_, e₂⟩ := h₂
  (e₁.append e₂).reachable

theorem preserves {I : σ → Prop} (hs : ∀ {s a s'}, I s → step s a = some s' → I s')
    (h : Reachable step s₁ s₂) (hi : I s₁) : I s₂ :=
  have ⟨_, e⟩ := h
  e.preserves hs hi

end Reachable
end Aranya
