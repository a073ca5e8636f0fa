import Mathlib.Data.List.Induction

namespace Aranya

variable {σ α β : Type*}

-- A loop over a list. The body tells whether to leave the loop, which skips the rest of the list.
def loop (body : σ → α → σ × Bool) : σ → List α → σ × Bool
  | s, [] => (s, false)
  | s, a :: as =>
    match body s a with
    | (s, true) => (s, true)
    | (s, false) => loop body s as

-- The loop reaches the entry `a` of a list, before the entries `post`, in the state `t`.
def Reaches (body : σ → α → σ × Bool) (s : σ) (as : List α) (a : α) (post : List α) (t : σ) : Prop :=
  ∃ pre, as = pre ++ a :: post ∧ loop body s pre = (t, false)

variable {body : σ → α → σ × Bool} {s s' t : σ} {a b : α} {as as₁ as₂ post : List α} {exit : Bool}
    {I : σ → Prop} {bs : List β}

theorem loop_of_exit (h : body s a = (t, true)) : loop body s (a :: as) = (t, true) := by
  simp [loop, h]

theorem loop_of_continue (h : body s a = (t, false)) : loop body s (a :: as) = loop body t as := by
  simp [loop, h]

theorem loop_singleton : loop body s [a] = body s a := by
  cases h : body s a
  case mk t exit =>
    cases exit
    case true => exact loop_of_exit h
    case false => exact loop_of_continue h

theorem loop_append_of_exit (h : loop body s as₁ = (t, true)) : loop body s (as₁ ++ as₂) = (t, true) := by
  induction as₁ generalizing s
  case nil => simp [loop] at h
  case cons a as hi =>
    cases hb : body s a
    case mk s' exit =>
      cases exit
      case true => exact loop_of_exit hb ▸ (loop_of_exit hb ▸ h)
      case false =>
        rw [List.cons_append, loop_of_continue hb]
        exact hi (loop_of_continue hb ▸ h)

theorem loop_append_of_continue (h : loop body s as₁ = (t, false)) :
    loop body s (as₁ ++ as₂) = loop body t as₂ := by
  induction as₁ generalizing s
  case nil =>
    cases h
    rfl
  case cons a as hi =>
    cases hb : body s a
    case mk s' exit =>
      cases exit
      case true => simp [loop_of_exit hb] at h
      case false =>
        rw [List.cons_append, loop_of_continue hb]
        exact hi (loop_of_continue hb ▸ h)

theorem loop_loop {entries : β → List α} :
    loop (fun s b => loop body s (entries b)) s bs = loop body s (bs.flatMap entries) := by
  induction bs generalizing s
  case nil => rfl
  case cons b bs hi =>
    rw [List.flatMap_cons]
    cases h : loop body s (entries b)
    case mk t exit =>
      cases exit
      case true => rw [loop_append_of_exit h]; exact loop_of_exit h
      case false => rw [loop_append_of_continue h, ← hi]; exact loop_of_continue h

theorem loop_map {g : β → α} : loop body s (bs.map g) = loop (fun s b => body s (g b)) s bs := by
  induction bs generalizing s
  case nil => rfl
  case cons b bs hi => simp only [List.map_cons, loop, hi]

namespace Reaches

theorem head : Reaches body s (a :: as) a as s :=
  ⟨[], rfl, rfl⟩

theorem cons (hb : body s b = (s', false)) (h : Reaches body s' as a post t) :
    Reaches body s (b :: as) a post t := by
  obtain ⟨pre, hp, hl⟩ := h
  exact ⟨b :: pre, by rw [hp, List.cons_append], by rw [loop_of_continue hb, hl]⟩

theorem cons_cases (h : Reaches body s (b :: as) a post t) :
    (a = b ∧ post = as ∧ t = s) ∨ ∃ s', body s b = (s', false) ∧ Reaches body s' as a post t := by
  obtain ⟨pre, hp, hl⟩ := h
  cases pre
  case nil =>
    cases hp
    cases hl
    exact .inl ⟨rfl, rfl, rfl⟩
  case cons c pre =>
    cases hp
    cases hb : body s b
    case mk s' exit =>
      cases exit
      case true => simp [loop_of_exit hb] at hl
      case false => exact .inr ⟨s', rfl, pre, rfl, loop_of_continue hb ▸ hl⟩

theorem of_continue {pre : List α} (hp : as = pre ++ a :: post)
    (h : ∀ b post' t, Reaches body s as b post' t → a ∈ post' → (body t b).snd = false) :
    ∃ t, loop body s pre = (t, false) := by
  subst hp
  induction pre generalizing s
  case nil => exact ⟨s, rfl⟩
  case cons b pre hi =>
    have hb : body s b = ((body s b).fst, false) := by
      rw [← h b _ s .head (by simp)]
    obtain ⟨t, ht⟩ := hi fun c post' t hr => h c post' t (hr.cons hb)
    exact ⟨t, loop_of_continue hb ▸ ht⟩

theorem loop_of_exit (h : Reaches body s as a post t) (hb : body t a = (s', true)) :
    loop body s as = (s', true) := by
  obtain ⟨pre, hp, hl⟩ := h
  rw [hp, loop_append_of_continue hl, Aranya.loop_of_exit hb]

end Reaches

theorem loop_preserves_reached (h : I s)
    (hs : ∀ {a post t}, Reaches body s as a post t → I t → I (body t a).fst) : I (loop body s as).fst := by
  induction as generalizing s
  case nil => exact h
  case cons a as hi =>
    have ht := hs .head h
    cases hb : body s a
    case mk t exit =>
      rw [hb] at ht
      cases exit
      case true => rw [loop_of_exit hb]; exact ht
      case false => rw [loop_of_continue hb]; exact hi ht fun hr => hs (hr.cons hb)

theorem loop_preserves (h : I s) (hs : ∀ {t a}, I t → I (body t a).fst) : I (loop body s as).fst :=
  loop_preserves_reached h fun _ => hs

theorem forall_mem_of_continue {Q : α → Prop} (hq : ∀ {s a t}, body s a = (t, false) → Q a)
    (h : loop body s as = (t, false)) : ∀ a ∈ as, Q a := by
  induction as generalizing s
  case nil => exact fun _ ha => nomatch ha
  case cons a as hi =>
    cases hb : body s a
    case mk s' exit =>
      cases exit
      case true => rw [loop_of_exit hb] at h; cases h
      case false =>
        rw [loop_of_continue hb] at h
        exact List.forall_mem_cons.mpr ⟨hq hb, hi h⟩

theorem loop_related {τ : Type*} {body' : τ → α → τ × Bool} {R : σ → τ → Prop} {t : τ} (h : R s t)
    (hb : ∀ {s t} a, R s t → R (body s a).fst (body' t a).fst ∧ (body s a).snd = (body' t a).snd) :
    R (loop body s as).fst (loop body' t as).fst := by
  induction as generalizing s t
  case nil => exact h
  case cons a as hi =>
    have hb := hb a h
    cases hs : body s a
    case mk s₁ exit =>
      cases ht : body' t a
      case mk t₁ exit' =>
        rw [hs, ht] at hb
        obtain ⟨hr, rfl⟩ := hb
        cases exit
        case true => rwa [loop_of_exit hs, loop_of_exit ht]
        case false => rw [loop_of_continue hs, loop_of_continue ht]; exact hi hr

theorem loop_accumulates {I P : σ → Prop} {A : σ → α → Prop} (h : I s)
    (hi : ∀ {t a t'}, I t → body t a = (t', false) → I t')
    (hp : ∀ {t a}, I t → (P (body t a).fst ↔ P t ∨ A t a)) :
    P (loop body s as).fst ↔ P s ∨ ∃ a post t, Reaches body s as a post t ∧ A t a := by
  induction as generalizing s
  case nil =>
    have hn : ¬∃ a post t, Reaches body s [] a post t ∧ A t a := by
      rintro ⟨a, post, t, ⟨pre, hp, _⟩, _⟩
      simp at hp
    simp only [loop, hn, or_false]
  case cons b bs hr =>
    have hc : (∃ a post t, Reaches body s (b :: bs) a post t ∧ A t a) ↔
        A s b ∨ ∃ s', body s b = (s', false) ∧ ∃ a post t, Reaches body s' bs a post t ∧ A t a := by
      constructor
      case mp =>
        rintro ⟨a, post, t, hr, ha⟩
        obtain ⟨h₁, _, h₂⟩ | ⟨s', h₁, h₂⟩ := hr.cons_cases
        case inl => exact .inl (h₁ ▸ h₂ ▸ ha)
        case inr => exact .inr ⟨s', h₁, a, post, t, h₂, ha⟩
      case mpr =>
        rintro (ha | ⟨s', hb, a, post, t, hr, ha⟩)
        case inl => exact ⟨b, bs, s, .head, ha⟩
        case inr => exact ⟨a, post, t, hr.cons hb, ha⟩
    have hs := hp (a := b) h
    rw [hc]
    cases hb : body s b
    case mk t exit =>
      rw [hb] at hs
      cases exit
      case true => simp [loop_of_exit hb, hs]
      case false => simp [loop_of_continue hb, hr (hi h hb), hs, or_assoc]

end Aranya
