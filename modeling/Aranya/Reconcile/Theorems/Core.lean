import Aranya.Reconcile.Core

namespace Aranya

variable {κ ω : Type*} [DecidableEq κ]

@[grind]
def JobAction.Deletes (action : JobAction) : Prop :=
  action = .delete ∨ action = .cleanup

theorem JobQueue.mem_offer {q : JobQueue κ} {job w : Job κ} (h : job ∈ (q.offer w).fst.queue) :
    job ∈ q.queue ∨ job = w := by
  have he {action : JobAction} : job ∈ (q.delete action w.key).queue → job ∈ q.queue :=
    List.mem_of_mem_erase
  have ha {q' : JobQueue κ} (h : job ∈ (q'.add w).queue) : job ∈ q'.queue ∨ job = w := by
    simpa [JobQueue.add] using h
  simp only [offer] at h
  repeat' split at h
  all_goals first
    | exact .inl h
    | exact ha h
    | exact .inl (he h)
    | exact (ha h).imp he id

namespace Reconcile
namespace Core

variable {c c' : Core κ ω} {job w : Job κ} {key key' : κ} {o : ω} {result : Option Result} {backoff : Nat}
    {old latest : Option ω} {P : κ → Prop} {m : Move κ}

def Pending (c : Core κ ω) (job : Job κ) : Prop :=
  job ∈ c.jobQ.queue ∨ (job, ()) ∈ c.scheduleQ.data ∨ job ∈ c.working

omit [DecidableEq κ] in
theorem not_pending (hq : c.jobQ.queue = []) (hs : c.scheduleQ.data = []) (hw : c.working = []) :
    ¬c.Pending job := by
  simp [Pending, hq, hs, hw]

theorem Pending.of_offer (h : { c with jobQ := (c.jobQ.offer w).fst }.Pending job) :
    c.Pending job ∨ job = w := by
  rcases h with h | h | h
  case inl => exact (JobQueue.mem_offer h).imp .inl id
  case inr.inl => exact .inl (.inr (.inl h))
  case inr.inr => exact .inl (.inr (.inr h))

omit [DecidableEq κ] in
theorem Pending.of_delay (h : { c with scheduleQ := c.scheduleQ.offerWithDelay w () }.Pending job) :
    c.Pending job ∨ job = w := by
  rcases h with h | h | h
  case inl => exact .inl (.inl h)
  case inr.inl =>
    cases List.mem_cons.mp h
    case inl hw => exact .inr (Prod.mk.inj hw).left
    case inr hq => exact .inl (.inr (.inl hq))
  case inr.inr => exact .inl (.inr (.inr h))

theorem Pending.of_schedule (h : (c.schedule w).fst.Pending job) : c.Pending job ∨ job = w :=
  Pending.of_offer (c := c) h

theorem Pending.of_update (h : (c.update key old latest).Pending job) : c.Pending job :=
  h

theorem cache_update (h : (c.update key old latest).cache key' = some o) :
    c.cache key' = some o ∨ key' = key ∧ latest = some o := by
  cases latest
  case none =>
    simp only [update, Cache.update] at h
    split at h
    case isTrue => exact .inl h
    case isFalse => split at h <;> exact .inl h
  case some latest =>
    by_cases hk : key' = key
    case pos =>
      subst hk
      simp only [update, Cache.update, Function.update_self] at h
      exact .inr ⟨rfl, h⟩
    case neg =>
      simp only [update, Cache.update, Function.update_of_ne hk] at h
      split at h
      case isTrue => exact .inl h
      case isFalse => split at h <;> exact .inl h

theorem Pending.of_take (h : c.take = some c') (hp : c'.Pending job) : c.Pending job := by
  simp only [take, JobQueue.acquire] at h
  cases hq : c.jobQ.queue
  case nil => simp [hq] at h
  case cons w ws =>
    simp only [hq, Option.map_some, Option.some.injEq] at h
    subst h
    rcases hp with hp | hp | hp
    case inl => exact .inl (List.mem_of_mem_erase hp)
    case inr.inl => exact .inr (.inl hp)
    case inr.inr =>
      cases List.mem_cons.mp hp
      case inl hw => exact .inl (by simp [hq, hw])
      case inr hw => exact .inr (.inr hw)

theorem Pending.of_expire {k : Nat} (h : c.expire k = some c') (hp : c'.Pending job) : c.Pending job := by
  obtain ⟨⟨w, u, q⟩, hx, rfl⟩ := Option.map_eq_some_iff.mp h
  obtain ⟨hk, rfl⟩ := TimeoutQueue.expire_eq_some hx
  rcases hp with hp | hp | hp
  case inl =>
    cases JobQueue.mem_offer hp
    case inl hq => exact .inl hq
    case inr hw => exact .inr (.inl (hw ▸ List.mem_of_getElem? hk))
  case inr.inl => exact .inr (.inl (List.mem_of_mem_eraseIdx hp))
  case inr.inr => exact .inr (.inr hp)

theorem Pending.of_erase (hp : { c with working := c.working.erase w }.Pending job) : c.Pending job := by
  rcases hp with hp | hp | hp
  case inl => exact .inl hp
  case inr.inl => exact .inr (.inl hp)
  case inr.inr => exact .inr (.inr (List.mem_of_mem_erase hp))

theorem Pending.of_drop (h : c.drop w = some c') (hp : c'.Pending job) : c.Pending job := by
  simp only [drop] at h
  split at h
  case isTrue => cases h; exact hp.of_erase
  case isFalse => cases h

theorem Pending.of_move (h : c.move m = some c') (hp : c'.Pending job) : c.Pending job := by
  cases m
  case take => exact of_take h hp
  case expire k => exact of_expire h hp
  case drop w => exact of_drop h hp

theorem cache_move (h : c.move m = some c') : c'.cache = c.cache := by
  cases m
  case take =>
    obtain ⟨_, _, rfl⟩ := Option.map_eq_some_iff.mp h
    rfl
  case expire k =>
    obtain ⟨_, _, rfl⟩ := Option.map_eq_some_iff.mp h
    rfl
  case drop w =>
    simp only [move, drop] at h
    split at h
    case isTrue => cases h; rfl
    case isFalse => cases h

theorem Pending.of_handleResult {r : Result}
    (h : (c.handleResult w r backoff).Pending job) :
    c.Pending job ∨ job.key = w.key ∧ (job.action = w.action ∨ job.action = r.nextAction) := by
  have hn : (r.next w.action backoff).fst = w.action ∨ (r.next w.action backoff).fst = r.nextAction := by
    by_cases he : r.err = none
    case pos => exact .inr (by simp [Result.next, he])
    case neg => exact .inl (by simp [Result.next, he])
  suffices hs : c.Pending job ∨ job = ⟨(r.next w.action backoff).fst, w.key⟩ by
    cases hs
    case inl hp => exact .inl hp
    case inr hj => subst hj; exact .inr ⟨rfl, hn⟩
  simp only [handleResult] at h
  split at h
  case isTrue => exact .inl h.of_erase
  case isFalse =>
    split at h
    case isTrue => exact h.of_delay.imp_left .of_erase
    case isFalse => exact h.of_offer.imp_left .of_erase

theorem cache_handleResult {r : Result}
    (h : (c.handleResult w r backoff).cache key = some o) : c.cache key = some o := by
  simp only [handleResult] at h
  repeat' split at h
  all_goals exact h

theorem Pending.of_settle (h : (c.settle w result).Pending job) : c.Pending job := by
  simp only [settle] at h
  repeat' split at h
  all_goals exact h

theorem cache_settle (h : (c.settle w result).cache key = some o) : c.cache key = some o := by
  simp only [settle] at h
  split at h
  case h_1 => split at h <;> exact h
  case h_2 =>
    split at h
    case isTrue =>
      by_cases hk : key = w.key
      case pos => simp [hk, Cache.delete] at h
      case neg => simpa [hk, Cache.delete] using h
    case isFalse => exact h
  case h_3 => exact h

theorem Pending.of_finish
    (h : (c.finish w result backoff).Pending job) :
    c.Pending job ∨ job.key = w.key ∧
      (job.action = w.action ∨ ∃ r, result = some r ∧ job.action = r.nextAction) := by
  cases result
  case none => exact .inl (of_settle (of_erase (c := c.settle w none) h))
  case some r =>
    cases of_handleResult h
    case inl hp => exact .inl hp.of_settle
    case inr hk => exact .inr ⟨hk.left, hk.right.imp_right fun ha => ⟨r, rfl, ha⟩⟩

theorem Pending.of_finish_deletes
    (h : (c.finish w result backoff).Pending job) (hd : job.action.Deletes)
    (hw : w.action.Deletes → P w.key)
    (hr : ∀ r, result = some r → r.nextAction.Deletes → P w.key) : c.Pending job ∨ P job.key := by
  cases h.of_finish
  case inl hp => exact .inl hp
  case inr hk =>
    rw [hk.left]
    cases hk.right
    case inl ha => exact .inr (hw (ha ▸ hd))
    case inr ha =>
      obtain ⟨r, hr', ha⟩ := ha
      exact .inr (hr r hr' (ha ▸ hd))

theorem Pending.of_notFound_deletes
    (h : (c.handleResult w resultCacheNotFound backoff).Pending job) (hd : job.action.Deletes)
    (hw : w.action.Deletes → P w.key) : c.Pending job ∨ P job.key := by
  cases h.of_handleResult
  case inl hp => exact .inl hp
  case inr hk =>
    rw [hk.left]
    cases hk.right
    case inl ha => exact .inr (hw (ha ▸ hd))
    case inr ha => simp [JobAction.Deletes, ha, resultCacheNotFound] at hd

theorem cache_finish (h : (c.finish w result backoff).cache key = some o) : c.cache key = some o := by
  cases result
  case none => exact cache_settle h
  case some r => exact cache_settle (cache_handleResult h)

omit [DecidableEq κ] in
theorem objects_current {previous : ω} (h : c.objects key = some (previous, o)) : c.cache key = some o := by
  simp only [objects] at h
  split at h
  case h_1 hc => cases h; exact (Prod.mk.inj hc).right
  case h_2 => cases h

end Core
end Reconcile
end Aranya
