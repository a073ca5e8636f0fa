import Aranya.Lib.Execution
import Aranya.Reconcile.Reconciler

namespace Aranya.Reconcile

namespace SignalledQueue

variable {κ : Type*} {q : SignalledQueue κ} {w : Option Nat} {jobQ : JobQueue κ} {paused : Bool}

-- The channel is closed unless there is nothing to wait for, and `w` is the one that somebody waits for.
structure Sound (q : SignalledQueue κ) (w : Option Nat) : Prop where
  once : q.chans.ClosedOnce
  fresh : q.hasJob < q.chans.next
  closed : q.chanClosed = (q.chans.chan q.hasJob).closed
  idle : q.chanClosed = false → q.queue = [] ∧ q.paused = false
  waiting : ∀ c ∈ w, c < q.chans.next ∧ ((q.chans.chan c).closed = false → c = q.hasJob)

namespace Sound

theorem unwatched (h : q.Sound w) : q.Sound none :=
  { h with waiting := by simp }

theorem keep (h : q.Sound w) (hc : q.chanClosed = false → jobQ.queue = [] ∧ paused = false) :
    { q with toJobQueue := jobQ, paused := paused }.Sound w :=
  { h with idle := hc }

theorem close (h : q.Sound w) (hc : q.chanClosed = false) :
    { q.close with toJobQueue := jobQ, paused := paused }.Sound w where
  once := h.once.close (h.closed ▸ hc)
  fresh := h.fresh
  closed := by simp [SignalledQueue.close]
  idle h := by cases h
  waiting c hw := by
    refine ⟨(h.waiting c hw).left, fun ho => (h.waiting c hw).right ?_⟩
    by_contra hn
    simp [SignalledQueue.close, Chans.closed_close_of_closed (by simpa using hn)] at ho

theorem renew (h : q.Sound w) (hw : q.chanClosed = true ∨ w = none) (hq : q.queue = []) :
    { q.renew with paused := false }.Sound w where
  once := h.once.make
  fresh := Nat.lt_succ_self _
  closed := by simp [SignalledQueue.renew]
  idle _ := ⟨hq, rfl⟩
  waiting c hc := by
    obtain ⟨hl, ho⟩ := h.waiting c hc
    refine ⟨Nat.lt_succ_of_lt hl, fun hn => ?_⟩
    simp only [SignalledQueue.renew, Chans.chan_make_of_lt hl] at hn
    rw [ho hn, ← h.closed] at hn
    simp_all

theorem resume (h : q.Sound w) : q.resume.Sound w := by
  rw [SignalledQueue.resume]
  split
  case isTrue hc => exact h.renew (.inl hc.left) hc.right
  case isFalse hc => exact h.keep fun hn => ⟨(h.idle hn).left, rfl⟩

theorem wake (h : q.Sound w) : q.wake.Sound w := by
  rw [SignalledQueue.wake]
  split
  case isTrue => exact h
  case isFalse hc => exact h.close (by simpa using hc)

theorem pause (h : q.Sound w) (hc : q.chanClosed = true) : q.pause.Sound w :=
  h.keep (by simp [hc])

variable [DecidableEq κ]

theorem offer (h : q.Sound w) (job : Job κ) : (q.offer job).Sound w := by
  have ho (hq : q.queue = []) (he : (q.toJobQueue.offer job).snd ≠ none) :
      (q.toJobQueue.offer job).fst.queue = [] := by
    obtain ⟨action, key⟩ := job
    cases action <;> simp_all [JobQueue.offer, JobQueue.has]
  simp only [SignalledQueue.offer]
  split
  case isTrue hc => exact h.close (h.closed.trans hc.right)
  case isFalse hc =>
    refine h.keep fun hn => ?_
    have := h.closed
    exact ⟨ho (h.idle hn).left (by simp_all), (h.idle hn).right⟩

theorem remove (h : q.Sound w) (job : Job κ) : (q.remove job).Sound w :=
  h.keep fun hc => ⟨by simp [JobQueue.delete, h.idle hc], (h.idle hc).right⟩

theorem acquire (h : q.Sound none) : q.acquire.fst.Sound none := by
  have hk : { q with toJobQueue := (q.toJobQueue.acquire.map Prod.snd).getD q.toJobQueue }.Sound none :=
    h.keep fun hc => ⟨by simp [JobQueue.acquire, h.idle hc], (h.idle hc).right⟩
  rw [SignalledQueue.acquire]
  split
  case isTrue hc => exact hc.right ▸ hk.renew (.inr rfl) hc.left
  case isFalse => exact hk

end Sound
end SignalledQueue

namespace Reconciler

variable {κ : Type*} {s s' : Reconciler κ} {a : Action κ} {n : Nat}

-- As long as `jobCh` is open, no worker has left.
structure Counted (s : Reconciler κ) : Prop where
  paused : s.caller = .idle ∨ s.caller = .waiting → s.jobQ.paused = true
  pausing : s.caller = .pausing → s.jobQ.chanClosed = true
  idle : s.caller = .idle → s.idle = 0 ∧ s.handling = [] ∧ s.acquirer = .left ∧
    (s.stopped = true → s.workers = 0 ∨ s.closed = true)
  closed : s.closed = true → s.acquirer = .left
  busy : s.caller ≠ .idle → s.closed = false → s.workers ≠ 0 → s.idle + s.handling.length = s.workers
  unlimited : s.workers = 0 → s.idle = 0

theorem Counted.new : (new n : Reconciler κ).Counted := by
  constructor <;> simp [Reconciler.new, SignalledQueue.new]

variable [DecidableEq κ]

-- The channel that a call of `Acquire` waits for.
def chan (s : Reconciler κ) : Option Nat :=
  match s.acquirer with
  | .waiting c => some c
  | _ => none

theorem sound_acquire (h : s.jobQ.Sound s.chan) (hs : s.acquire = some s') : s'.jobQ.Sound s'.chan := by
  simp only [Reconciler.acquire] at hs
  split at hs
  case h_1 => cases hs; exact { h with waiting := by simp [chan, h.fresh] }
  case h_2 => split at hs <;> cases hs; exact h.unwatched
  case h_3 => cases hs; cases hp : s.jobQ.paused <;> simpa [chan, hp] using h.unwatched
  case h_4 => split at hs <;> cases hs; exact h.unwatched.acquire
  case h_5 =>
    split at hs
    case isTrue => cases hs; exact h.unwatched
    case isFalse => split at hs <;> cases hs; exact h.unwatched
  case h_6 => cases hs; cases hp : s.stopped <;> simpa [chan, hp] using h.unwatched
  case h_7 => cases hs

theorem sound_step (hc : s.Counted) (h : s.jobQ.Sound s.chan) (hs : s.step a = some s') :
    s'.jobQ.Sound s'.chan := by
  cases a <;> simp only [Reconciler.step] at hs
  case offer w => split at hs <;> cases hs; exact h.offer w
  case remove w => split at hs <;> cases hs; exact h.remove w
  case reconcile => split at hs <;> cases hs; exact h.unwatched.resume
  case pause =>
    split at hs
    case h_1 => split at hs <;> cases hs; exact h.wake
    case h_2 hp => cases hs; exact h.pause (hc.pausing hp)
    case h_3 => cases hs
  case acquire => exact sound_acquire h hs
  all_goals split at hs <;> cases hs; exact h

theorem Counted.acquire (h : s.Counted) (hs : s.acquire = some s') : s'.Counted := by
  have hl (hi : s.caller = .idle) : s.acquirer = .left := (h.idle hi).2.2.1
  have hc : s.closed = true → s.acquirer = .left := h.closed
  have hq : s.jobQ.acquire.fst.paused = s.jobQ.paused := by
    simp only [SignalledQueue.acquire]
    split <;> rfl
  simp only [Reconciler.acquire] at hs
  split at hs
  case h_2 => split at hs <;> cases hs; exact { h with idle := by simp_all, closed := by simp_all }
  case h_4 =>
    split at hs <;> cases hs
    constructor <;> simp_all [h.paused, h.busy, h.unlimited]
  case h_5 =>
    split at hs
    case isTrue => cases hs; exact { h with idle := by simp_all, closed := by simp_all, busy := by simp_all }
    case isFalse => split at hs <;> cases hs; exact { h with idle := by simp_all, closed := by simp_all }
  case h_6 => cases hs; exact { h with idle := by simp_all, closed := by simp_all, busy := by simp_all [h.busy] }
  case h_7 => cases hs
  all_goals cases hs; exact { h with idle := by simp_all, closed := by simp_all }

theorem Counted.pause (h : s.Counted) (hs : s.step .pause = some s') : s'.Counted := by
  simp only [Reconciler.step] at hs
  split at hs
  case h_1 hr =>
    split at hs <;> cases hs
    have hc : s.jobQ.wake.chanClosed = true := by
      simp only [SignalledQueue.wake]
      split <;> simp_all [SignalledQueue.close]
    exact { h with paused := by simp, pausing _ := hc, idle := by simp, busy _ := h.busy (by simp [hr]) }
  case h_2 hr =>
    cases hs
    exact { h with paused _ := rfl, pausing := by simp, idle := by simp, busy _ := h.busy (by simp [hr]) }
  case h_3 => cases hs

theorem Counted.step (h : s.Counted) (hs : s.step a = some s') : s'.Counted := by
  cases a
  case pause => exact h.pause hs
  case acquire => exact h.acquire hs
  all_goals simp only [Reconciler.step] at hs; split at hs <;> cases hs
  case offer.isFalse w hn =>
    have hq : (s.jobQ.offer w).paused = s.jobQ.paused := by
      simp only [SignalledQueue.offer]
      split <;> rfl
    exact { h with paused hp := hq.trans (h.paused hp), pausing hp := absurd hp hn }
  case remove.isFalse => exact { h with }
  case reconcile.isTrue hi => constructor <;> simp [h.idle hi]
  case stop.isTrue hr => exact { h with idle := by simp [hr] }
  case h_1 hi _ =>
    refine { h with idle hc := ?_, busy hc ho hw := ?_, unlimited hw := ?_ }
    case refine_1 => cases hi.symm.trans (h.idle hc).left
    case refine_2 =>
      have := h.busy hc ho hw
      simp only [List.length_cons]
      omega
    case refine_3 => cases hi.symm.trans (h.unlimited hw)
  case finish.isTrue hj =>
    refine { h with idle hc := ?_, busy hc ho hw := ?_, unlimited hw := if_pos hw }
    case refine_1 => simp [h.idle hc] at hj
    case refine_2 =>
      have := h.busy hc ho hw
      have := List.length_pos_of_mem hj
      simp only [List.length_erase_of_mem hj, if_neg hw]
      omega
  case exit.isTrue hc =>
    refine
      { h with idle hi := absurd (h.idle hi).left (Nat.ne_of_gt hc.left), busy := by simp [hc], unlimited hw := ?_ }
    simp [h.unlimited hw]
  case done.isTrue hd =>
    obtain ⟨hw, ha, hi, hh⟩ := hd
    have hb := h.busy (by simp [hw])
    have hr : s.workers = 0 ∨ s.closed = true := by
      by_contra hn
      simp_all
    exact
      { h with
        paused _ := h.paused (.inr hw), pausing := by simp, idle _ := ⟨hi, hh, ha, fun _ => hr⟩, busy := by simp }

theorem reachable_sound (h : Reachable step (new n) s) : s.Counted ∧ s.jobQ.Sound s.chan := by
  refine h.preserves (I := fun s => s.Counted ∧ s.jobQ.Sound s.chan) ?_ ⟨.new, ?_⟩
  case refine_1 => exact fun ⟨hc, h⟩ hs => ⟨hc.step hs, sound_step hc h hs⟩
  case refine_2 =>
    refine ⟨Chans.ClosedOnce.close ?_ rfl, Nat.zero_lt_one, rfl, by simp [new, SignalledQueue.new],
      by simp [new, chan]⟩
    exact Chans.ClosedOnce.make fun _ => Nat.zero_le 1

theorem acquire_of_waiting {c} (h : s.jobQ.Sound s.chan) (hc : s.acquirer = .waiting c)
    (hq : s.jobQ.queue ≠ [] ∨ s.jobQ.paused = true) : ∃ s', s.step .acquire = some s' := by
  have ⟨_, hw⟩ := h.waiting c (by simp [chan, hc])
  cases ho : (s.jobQ.chans.chan c).closed
  case true => exact ⟨{ s with acquirer := .received }, by simp [step, acquire, hc, ho]⟩
  case false =>
    -- an open channel is the current one, so there is neither a job nor a pause
    have := h.idle (by rw [h.closed, ← hw ho, ho])
    simp_all

-- While there is a job, or when the queue is paused, a call of `Acquire` goes on.
theorem acquire_wakes (h : Reachable step (new n) s) :
    s.jobQ.chans.ClosedOnce ∧ ∀ c, s.acquirer = .waiting c → s.jobQ.queue ≠ [] ∨ s.jobQ.paused = true →
      ∃ s', s.step .acquire = some s' :=
  ⟨(reachable_sound h).right.once, fun _ => acquire_of_waiting (reachable_sound h).right⟩

-- A job is offered while a call of `Acquire` waits.
theorem acquire_wakes_offered : ∃ s s' : Reconciler Unit, Reachable step (new 1) s ∧ s.acquirer = .waiting 1 ∧
    s.jobQ.queue ≠ [] ∧ s.step .acquire = some s' := by
  let run : List (Action Unit) := [.reconcile, .acquire, .offer ⟨.add, ()⟩]
  have h : ∃ s : Reconciler Unit, run.foldlM step (new 1) = some s ∧ s.acquirer = .waiting 1 ∧ s.jobQ.queue ≠ [] :=
    ⟨_, rfl, rfl, by decide⟩
  obtain ⟨s, h, ha, hq⟩ := h
  have hr := Execution.of_foldlM h |>.reachable
  have ⟨s', hs⟩ := (acquire_wakes hr).right 1 ha (.inl hq)
  exact ⟨s, s', hr, ha, hq, hs⟩

-- None of the goroutines of a call of `Reconcile` can go on.
structure Quiescent (s : Reconciler κ) : Prop where
  pause : s.step .pause = none
  acquire : s.step .acquire = none
  take : s.step .take = none
  finish : ∀ job, s.step (.finish job) = none
  exit : s.step .exit = none
  done : s.step .done = none

-- When the queue is found to be paused, the channel `jobCh` is not closed, and the workers wait forever.
theorem returns_iff (h : Reachable step (new n) s) (hs : s.stopped = true) (hq : s.Quiescent) :
    s.caller = .idle ↔ s.workers = 0 ∨ s.closed = true := by
  have ⟨hc, hv⟩ := reachable_sound h
  refine ⟨fun hi => (hc.idle hi).2.2.2 hs, fun hw => ?_⟩
  cases hm : s.caller
  case idle => rfl
  case running => simpa [step, hm, hs] using hq.pause
  case pausing => simpa [step, hm] using hq.pause
  case waiting =>
    have ha : s.acquirer = .left := by
      have hn := hq.acquire
      cases ha : s.acquirer
      case left => rfl
      case waiting c =>
        have ⟨_, hs⟩ := acquire_of_waiting hv ha (.inr <| hc.paused (.inr hm))
        cases hn.symm.trans hs
      case acquired job => grind [step, acquire, hc.closed]
      all_goals simp [step, acquire, ha, hm] at hn
    have hh : s.handling = [] := by
      cases hh : s.handling
      case nil => rfl
      case cons job _ => simpa [step, hh] using hq.finish job
    have hi : s.idle = 0 := by
      cases hi : s.idle
      case zero => rfl
      case succ k =>
        cases hj : s.jobCh
        case nil =>
          have hw := hw.resolve_left fun h => by cases hi.symm.trans (hc.unlimited h)
          simpa [step, hi, hj, hw] using hq.exit
        case cons job jobs => simpa [step, hi, hj] using hq.take
    simpa [step, hm, ha, hh, hi] using hq.done

-- The worker of a call that is stopped while it waits for a job.
theorem not_returns_paused : ∃ s : Reconciler Unit,
    Reachable step (new 1) s ∧ s.stopped = true ∧ s.Quiescent ∧ s.caller ≠ .idle := by
  let run : List (Action Unit) := [.reconcile, .acquire, .stop, .pause, .pause, .acquire, .acquire]
  have h : ∃ s : Reconciler Unit, run.foldlM step (new 1) = some s ∧ s.stopped = true ∧ s.Quiescent ∧
      ¬(s.workers = 0 ∨ s.closed = true) :=
    ⟨_, rfl, rfl, ⟨rfl, rfl, rfl, fun _ => rfl, rfl, rfl⟩, by decide⟩
  obtain ⟨s, h, hs, hq, hw⟩ := h
  have hr := Execution.of_foldlM h |>.reachable
  exact ⟨s, hr, hs, hq, mt (returns_iff hr hs hq).mp hw⟩

end Reconciler
end Aranya.Reconcile
