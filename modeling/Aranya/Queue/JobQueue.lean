import Mathlib.Data.List.Basic

namespace Aranya

inductive JobAction
  | invalid
  | add
  | update
  | delete
  | cleanup
  deriving DecidableEq, Repr

structure Job (κ : Type*) where
  action : JobAction
  key : κ
  deriving DecidableEq, Repr

inductive JobError
  | duplicated
  | conflict
  | counteract
  | invalid
  deriving DecidableEq, Repr

-- The index of the queue tells where each job is, so a job is in the index iff it is in the queue.
structure JobQueue (κ : Type*) where
  queue : List (Job κ)

namespace JobQueue

variable {κ : Type*} [DecidableEq κ]

def new : JobQueue κ where
  queue := []

def has (q : JobQueue κ) (action : JobAction) (key : κ) : Bool :=
  ⟨action, key⟩ ∈ q.queue

def add (q : JobQueue κ) (w : Job κ) : JobQueue κ where
  queue := q.queue ++ [w]

def delete (q : JobQueue κ) (action : JobAction) (key : κ) : JobQueue κ where
  queue := q.queue.erase ⟨action, key⟩

def find (q : JobQueue κ) (key : κ) : Option (Job κ) :=
  [JobAction.add, .update, .delete, .cleanup].findSome? fun action =>
    if q.has action key then some ⟨action, key⟩ else none

def acquire (q : JobQueue κ) : Option (Job κ × JobQueue κ) :=
  match q.queue with
  | [] => none
  | w :: _ => some (w, q.delete w.action w.key)

-- The error tells that the job has not been added. A deletion that counteracts a creation still changes the
-- queue.
def offer (q : JobQueue κ) (w : Job κ) : JobQueue κ × Option JobError :=
  if w.action = .invalid then
    (q, some .invalid)
  else if w ∈ q.queue then
    (q, some .duplicated)
  else
    match w.action with
    | .invalid => (q, some .invalid)
    | .add => if q.has .update w.key then (q, some .conflict) else (q.add w, none)
    | .update =>
      if q.has .add w.key ∨ q.has .delete w.key then (q, some .conflict) else (q.add w, none)
    | .delete =>
      if q.has .add w.key then
        (q.delete .add w.key, some .counteract)
      else if q.has .update w.key then
        ((q.delete .update w.key).add w, none)
      else
        (q.add w, none)
    | .cleanup => (q.add w, none)

variable {q : JobQueue κ} {key : κ}

-- If it has been scheduled before, this does not matter.
theorem has_delete_offer :
    (q.offer ⟨.delete, key⟩).fst.has .delete key ↔ (q.has .add key = true → q.has .delete key = true) := by
  by_cases hd : (⟨.delete, key⟩ : Job κ) ∈ q.queue
  case pos => simp [offer, has, hd]
  case neg =>
    by_cases ha : (⟨.add, key⟩ : Job κ) ∈ q.queue
    case pos =>
      have : (⟨.delete, key⟩ : Job κ) ∉ q.queue.erase ⟨.add, key⟩ := fun h => hd (List.mem_of_mem_erase h)
      simp [offer, has, delete, hd, ha, this]
    case neg =>
      by_cases hu : (⟨.update, key⟩ : Job κ) ∈ q.queue
      case pos => simp [offer, has, delete, add, hd, ha, hu]
      case neg => simp [offer, has, add, hd, ha, hu]

end JobQueue
end Aranya
