import Aranya.Lib.Chan
import Aranya.Queue.JobQueue

namespace Aranya.Reconcile

-- A job queue with the channel `hasJob`, which is closed to tell that there are jobs.
structure SignalledQueue (κ : Type*) extends JobQueue κ where
  chans : Chans Unit
  hasJob : Nat
  chanClosed : Bool
  paused : Bool

namespace SignalledQueue

variable {κ : Type*} [DecidableEq κ]

def new : SignalledQueue κ where
  toJobQueue := .new
  chans := (Chans.empty.make 0).close 0
  hasJob := 0
  chanClosed := true
  paused := true

def renew (q : SignalledQueue κ) : SignalledQueue κ :=
  { q with chans := q.chans.make 0, hasJob := q.chans.next, chanClosed := false }

def close (q : SignalledQueue κ) : SignalledQueue κ :=
  { q with chans := q.chans.close q.hasJob, chanClosed := true }

def offer (q : SignalledQueue κ) (w : Job κ) : SignalledQueue κ :=
  let (jobQ, err) := q.toJobQueue.offer w
  let q := { q with toJobQueue := jobQ }
  if err = none ∧ (q.chans.chan q.hasJob).closed = false then q.close else q

def remove (q : SignalledQueue κ) (w : Job κ) : SignalledQueue κ :=
  { q with toJobQueue := q.delete w.action w.key }

-- The part of `Acquire` that holds the lock. Without a job the result is an invalid one.
def acquire (q : SignalledQueue κ) : SignalledQueue κ × Option (Job κ) :=
  let next := q.toJobQueue.acquire
  let q := { q with toJobQueue := (next.map Prod.snd).getD q.toJobQueue }
  (if q.queue = [] ∧ q.paused = false then q.renew else q, next.map Prod.fst)

def resume (q : SignalledQueue κ) : SignalledQueue κ :=
  { if q.chanClosed ∧ q.queue = [] then q.renew else q with paused := false }

-- The first half of `Pause`: `Acquire` looks at `paused` without the lock, so it may go on before the second half.
def wake (q : SignalledQueue κ) : SignalledQueue κ :=
  if q.chanClosed then q else q.close

def pause (q : SignalledQueue κ) : SignalledQueue κ :=
  { q with paused := true }

end SignalledQueue

-- Where the goroutine is that acquires jobs: before a call of `Acquire` or in it, about to hand over the job or
-- to look whether it has to stop.
inductive Acquirer (κ : Type*)
  | ready
  | waiting (c : Nat)
  | received
  | unpaused
  | acquired (job : Option (Job κ))
  | delivered
  | left
  deriving DecidableEq

-- A caller that is pausing holds the lock of the queue.
inductive Caller
  | idle
  | running
  | pausing
  | waiting
  deriving DecidableEq

-- `Reconcile` is called again and again. Its workers are idle while they wait for the channel `jobCh`.
structure Reconciler (κ : Type*) where
  jobQ : SignalledQueue κ
  workers : Nat
  caller : Caller
  stopped : Bool
  acquirer : Acquirer κ
  jobCh : List (Option (Job κ))
  closed : Bool
  idle : Nat
  handling : List (Option (Job κ))

namespace Reconciler

variable {κ : Type*} [DecidableEq κ]

def new (workers : Nat) : Reconciler κ where
  jobQ := .new
  workers := workers
  caller := .idle
  stopped := false
  acquirer := .left
  jobCh := []
  closed := false
  idle := 0
  handling := []

inductive Action (κ : Type*)
  | offer (w : Job κ)
  | remove (w : Job κ)
  | reconcile
  | stop
  | pause
  | acquire
  | take
  | finish (job : Option (Job κ))
  | exit
  | done

def acquire (s : Reconciler κ) : Option (Reconciler κ) :=
  match s.acquirer with
  | .ready => some { s with acquirer := .waiting s.jobQ.hasJob }
  | .waiting c => if (s.jobQ.chans.chan c).closed then some { s with acquirer := .received } else none
  | .received => some { s with acquirer := if s.jobQ.paused then .left else .unpaused }
  | .unpaused =>
    if s.caller = .pausing then
      none
    else
      some { s with jobQ := s.jobQ.acquire.fst, acquirer := .acquired s.jobQ.acquire.snd }
  | .acquired job =>
    if s.workers = 0 then
      some { s with handling := job :: s.handling, acquirer := .ready }
    else if s.jobCh.length < s.workers then
      some { s with jobCh := s.jobCh ++ [job], acquirer := .delivered }
    else
      none
  | .delivered => some { s with closed := s.stopped, acquirer := if s.stopped then .left else .ready }
  | .left => none

def step (s : Reconciler κ) : Action κ → Option (Reconciler κ)
  | .offer w => if s.caller = .pausing then none else some { s with jobQ := s.jobQ.offer w }
  | .remove w => if s.caller = .pausing then none else some { s with jobQ := s.jobQ.remove w }
  | .reconcile =>
    if s.caller = .idle then
      some { s with
        jobQ := s.jobQ.resume
        caller := .running
        stopped := false
        acquirer := .ready
        jobCh := []
        closed := false
        idle := s.workers }
    else
      none
  | .stop => if s.caller = .running then some { s with stopped := true } else none
  | .pause =>
    match s.caller with
    | .running => if s.stopped then some { s with jobQ := s.jobQ.wake, caller := .pausing } else none
    | .pausing => some { s with jobQ := s.jobQ.pause, caller := .waiting }
    | _ => none
  | .acquire => s.acquire
  | .take =>
    match s.idle, s.jobCh with
    | n + 1, job :: jobs => some { s with idle := n, jobCh := jobs, handling := job :: s.handling }
    | _, _ => none
  | .finish job =>
    if job ∈ s.handling then
      some { s with handling := s.handling.erase job, idle := if s.workers = 0 then 0 else s.idle + 1 }
    else
      none
  | .exit => if 0 < s.idle ∧ s.closed ∧ s.jobCh = [] then some { s with idle := s.idle - 1 } else none
  | .done =>
    if s.caller = .waiting ∧ s.acquirer = .left ∧ s.idle = 0 ∧ s.handling = [] then
      some { s with caller := .idle }
    else
      none

end Reconciler

end Aranya.Reconcile
