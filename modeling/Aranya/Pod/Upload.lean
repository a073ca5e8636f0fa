import Aranya.Connectivity.Manager

namespace Aranya.Pod

def maxBufSize : Nat :=
  1 * 1024 * 1024

def nextSeq (p : Nat) : Nat × Nat :=
  let p := (p + 1) % 2 ^ 64
  (p, (p + (2 ^ 64 - 1)) % 2 ^ 64)

inductive ReadError
  | eof
  | other (text : Bytes)
  deriving DecidableEq, Repr

-- One reads the standard input of a terminal (that is not a tty), the other one the data stream of a
-- port-forward.
inductive Routine
  | terminal
  | portForward
  deriving DecidableEq, Repr

inductive Upload.Phase
  | waiting
  | reading
  | posting (data : Bytes)
  | closing
  | ending
  | returned
  deriving DecidableEq, Repr

structure Upload where
  routine : Routine
  sid : Nat
  seq : Nat
  written : List Bytes
  phase : Upload.Phase
  deriving DecidableEq, Repr

namespace Upload

def new (routine : Routine) (sid : Nat) : Upload where
  routine := routine
  sid := sid
  seq := 0
  written := []
  phase := .waiting

-- The terminal only logs its errors.
def writeErr (u : Upload) (err : Bytes) : Upload :=
  match u.routine with
  | .terminal => u
  | .portForward => { u with written := u.written ++ [err] }

def readFailed (u : Upload) : Option ReadError → Upload
  | some (.other text) => u.writeErr (str "read: " ++ text)
  | _ => u

def read (u : Upload) (data : Bytes) (err : Option ReadError) : Upload :=
  { u.readFailed err with phase := if err.isSome ∧ data = [] then .closing else .posting data }

def posted (u : Upload) : Option Bytes → Upload
  | none => { u with phase := .reading }
  | some err => { u.writeErr (str "post: " ++ err) with phase := .closing }

def closed (u : Upload) : Upload :=
  match u.routine with
  | .terminal => { u with phase := .returned }
  | .portForward => { u with phase := .ending }

end Upload

-- All that is sent on behalf of the data is recorded.
structure Uploading (τ ρ : Type*) where
  mgr : BaseManager τ
  net : ρ
  sent : List Bytes
  upload : Upload

namespace Uploading

variable {τ ρ : Type*} (f : TimedSessionFuncs τ)
    (sendData : ρ → (data : Bytes) → (ensure : Bool) → ρ × Option Bytes)

def start (mgr : BaseManager τ) (net : ρ) (routine : Routine) (sid : Nat) : Uploading τ ρ where
  mgr := mgr
  net := net
  sent := []
  upload := .new routine sid

def record (r : ρ × List Bytes) (data : Bytes) (ensure : Bool) : (ρ × List Bytes) × Option Bytes :=
  match sendData r.fst data ensure with
  | (net, none) => ((net, r.snd ++ [data]), none)
  | (net, some err) => ((net, r.snd), some err)

def bufSize (s : Uploading τ ρ) : Nat :=
  if maxBufSize < s.mgr.maxDataSize then maxBufSize else s.mgr.maxDataSize

def post (s : Uploading τ ρ) (complete : Bool) (data : Bytes) : Except Fault (Uploading τ ρ × Option Bytes) :=
  let (seq, cur) := nextSeq s.upload.seq
  match s.mgr.postData f (record sendData) (s.net, s.sent) s.upload.sid .dataUpstream cur complete data with
  | .error e => .error e
  | .ok (mgr, r, ⟨_, _, _, err⟩) =>
    .ok ({ mgr := mgr, net := r.fst, sent := r.snd, upload := { s.upload with seq := seq } }, err)

inductive Action (τ ρ : Type*)
  | ready
  | canceled
  | read (data : Bytes) (err : Option ReadError)
  | post
  | close
  | finish
  | other (mgr : BaseManager τ) (net : ρ)

-- A reader never returns more data than there is room for.
def step (s : Uploading τ ρ) : Action τ ρ → Option (Uploading τ ρ)
  | .ready =>
    if s.upload.phase = .waiting then some { s with upload := { s.upload with phase := .reading } }
    else none
  | .canceled =>
    if s.upload.phase = .waiting then some { s with upload := { s.upload with phase := .closing } }
    else none
  | .read data err =>
    if s.upload.phase = .reading ∧ data.length ≤ s.bufSize then
      some { s with upload := s.upload.read data err }
    else
      none
  | .post =>
    match s.upload.phase with
    | .posting data =>
      match s.post f sendData false data with
      | .error _ => none
      | .ok (s, err) => some { s with upload := s.upload.posted err }
    | _ => none
  | .close =>
    if s.upload.phase = .closing then
      match s.post f sendData true [] with
      | .error _ => none
      | .ok (s, _) => some { s with upload := s.upload.closed }
    else
      none
  | .finish =>
    if s.upload.phase = .ending then
      match s.mgr.postCmd f sendData s.net s.upload.sid .sessionClose
          (BaseManager.sessionCloseCmd s.upload.sid) with
      | .error _ => none
      | .ok (mgr, net, _) =>
        some { s with mgr := mgr, net := net, upload := { s.upload with phase := .returned } }
    else
      none
  | .other mgr net =>
    -- the size is fixed when the manager is created
    if mgr.maxDataSize = s.mgr.maxDataSize then some { s with mgr := mgr, net := net } else none

end Uploading
end Aranya.Pod
