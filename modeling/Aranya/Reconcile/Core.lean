import Aranya.Proto.Wire
import Aranya.Queue.JobQueue
import Aranya.Queue.TimeoutQueue

namespace Aranya.Reconcile

structure Cache (κ ω : Type*) where
  frozenOldCacheKeys : Finset κ
  cache : κ → Option ω
  oldCache : κ → Option ω

namespace Cache

variable {κ ω : Type*} [DecidableEq κ]

def new : Cache κ ω where
  frozenOldCacheKeys := ∅
  cache _ := none
  oldCache _ := none

def freeze (r : Cache κ ω) (key : κ) (freeze : Bool) : Cache κ ω :=
  { r with
    frozenOldCacheKeys :=
      if freeze then insert key r.frozenOldCacheKeys else r.frozenOldCacheKeys.erase key }

def update (r : Cache κ ω) (key : κ) (old latest : Option ω) : Cache κ ω :=
  let r :=
    if key ∈ r.frozenOldCacheKeys then
      r
    else
      match old <|> r.cache key with
      | some o => { r with oldCache := Function.update r.oldCache key (some o) }
      | none => r
  match latest with
  | none => r
  | some latest =>
    { r with
      cache := Function.update r.cache key (some latest)
      -- The old object is set to the latest one if there is none, even if it is frozen.
      oldCache := Function.update r.oldCache key (r.oldCache key <|> some latest) }

def delete (r : Cache κ ω) (key : κ) : Cache κ ω where
  frozenOldCacheKeys := r.frozenOldCacheKeys.erase key
  cache := Function.update r.cache key none
  oldCache := Function.update r.oldCache key none

def get (r : Cache κ ω) (key : κ) : Option ω × Option ω :=
  (r.oldCache key, r.cache key)

end Cache

-- What a handler returns if it does not return `nil`. The delay is `0` if the handler does not ask for
-- one.
structure Result where
  nextAction : JobAction := .invalid
  scheduleAfter : Nat := 0
  err : Option Bytes := none
  deriving DecidableEq, Repr

def resultCacheNotFound : Result where
  err := some (str "cache not found")

-- After an error it is the same action once more, with the delay `backoff` unless the handler has asked for
-- another one.
def Result.next (result : Result) (action : JobAction) (backoff : Nat) : JobAction × Nat :=
  if result.err = none then (result.nextAction, result.scheduleAfter)
  else (action, if result.scheduleAfter = 0 then backoff else result.scheduleAfter)

-- The jobs in `working` are in the hands of workers.
structure Core (κ ω : Type*) extends Cache κ ω where
  jobQ : JobQueue κ
  scheduleQ : TimeoutQueue (Job κ) Unit
  working : List (Job κ)

namespace Core

variable {κ ω : Type*} [DecidableEq κ]

def new : Core κ ω where
  toCache := .new
  jobQ := .new
  scheduleQ := .new
  working := []

def update (c : Core κ ω) (key : κ) (old latest : Option ω) : Core κ ω :=
  { c with toCache := c.toCache.update key old latest }

def schedule (c : Core κ ω) (job : Job κ) : Core κ ω × Option JobError :=
  let (jobQ, err) := c.jobQ.offer job
  ({ c with jobQ := jobQ }, if err = some .duplicated then none else err)

def take (c : Core κ ω) : Option (Core κ ω) :=
  c.jobQ.acquire.map fun (job, jobQ) => { c with jobQ := jobQ, working := job :: c.working }

def expire (c : Core κ ω) (k : Nat) : Option (Core κ ω) :=
  (c.scheduleQ.expire k).map fun (job, _, scheduleQ) =>
    { c with scheduleQ := scheduleQ, jobQ := (c.jobQ.offer job).fst }

-- A worker does nothing if another one works on the same job.
def drop (c : Core κ ω) (job : Job κ) : Option (Core κ ω) :=
  if 1 < c.working.count job then some { c with working := c.working.erase job } else none

inductive Move (κ : Type*)
  | take
  | expire (k : Nat)
  | drop (job : Job κ)

def move (c : Core κ ω) : Move κ → Option (Core κ ω)
  | .take => c.take
  | .expire k => c.expire k
  | .drop job => c.drop job

def objects (c : Core κ ω) (key : κ) : Option (ω × ω) :=
  match c.get key with
  | (some previous, some current) => some (previous, current)
  | _ => none

def settle (c : Core κ ω) (job : Job κ) (result : Option Result) : Core κ ω :=
  match job.action with
  | .update => if result.all (·.err = none) then { c with toCache := c.freeze job.key false } else c
  | .cleanup =>
    if result.all (·.nextAction = .invalid) ∧ c.jobQ.find job.key = none then
      { c with toCache := c.delete job.key }
    else
      c
  | _ => c

def handleResult (c : Core κ ω) (job : Job κ) (result : Result) (backoff : Nat) : Core κ ω :=
  let c := { c with working := c.working.erase job }
  let (action, delay) := result.next job.action backoff
  if action = .invalid then
    c
  else if 0 < delay then
    { c with scheduleQ := c.scheduleQ.offerWithDelay ⟨action, job.key⟩ () }
  else
    { c with jobQ := (c.jobQ.offer ⟨action, job.key⟩).fst }

def finish (c : Core κ ω) (job : Job κ) (result : Option Result) (backoff : Nat) : Core κ ω :=
  let c := c.settle job result
  match result with
  | none => { c with working := c.working.erase job }
  | some r => c.handleResult job r backoff

end Core
end Aranya.Reconcile
