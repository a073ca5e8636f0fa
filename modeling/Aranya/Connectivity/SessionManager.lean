import Aranya.Lib.Execution
import Aranya.Connectivity.Session

namespace Aranya

open Std (ExtTreeMap)

-- What the closures capture.
inductive SessionTimeoutHandle
  | session (sid : Nat)
  | streamCreation (ret : Nat)
  deriving DecidableEq, Repr

-- `τ` is the state of the timers.
structure TimedSessionFuncs (τ : Type*) where
  addTimedSession : (sid : Nat) → SessionTimeoutHandle → τ → τ
  delTimedSession : (sid : Nat) → τ → τ
  getTimedSessions : τ → List Nat
  addTimedStreamCreation : (sid : Nat) → SessionTimeoutHandle → τ → τ

def TimedSessionFuncs.ignore : TimedSessionFuncs Unit where
  addTimedSession _ _ := id
  delTimedSession _ := id
  getTimedSessions _ := []
  addTimedStreamCreation _ _ := id

structure SessionManager (τ : Type*) where
  sessions : ExtTreeMap Nat Session
  sid : Nat
  epoch : Nat
  world : World
  timed : τ

namespace SessionManager

variable {τ : Type*} (f : TimedSessionFuncs τ)

def new (now : Nat) (world : World) (timed : τ) : SessionManager τ where
  sessions := ∅
  sid := now
  epoch := now
  world := world
  timed := timed

-- The loop ends at the first unused id. When it has tried as many ids as there are sessions in vain, it
-- never ends.
def nextSid (m : SessionManager τ) : Option Nat :=
  go m.sessions.size ((m.sid + 1) % 2 ^ 64)
where
  go : Nat → Nat → Option Nat
    | 0, sid => if sid ∈ m.sessions then none else some sid
    | n + 1, sid => if sid ∈ m.sessions then go n ((sid + 1) % 2 ^ 64) else some sid

def setStream (m : SessionManager τ) (sid : Nat) (dataOut errOut : Option WriterRef)
    (canWrite : Option Nat) : SessionManager τ × Option Nat :=
  match m.sessions[sid]? with
  | none => (m, none)
  | some s =>
    let ret := m.world.signals.next
    let world := { m.world with signals := m.world.signals.make 0 }
    match s.setStream dataOut errOut ret canWrite with
    | none => ({ m with world := world }, none)
    | some s =>
      ({ m with
        sessions := m.sessions.insert sid s
        world := world
        timed := f.addTimedStreamCreation sid (.streamCreation ret) m.timed }, some ret)

def add (m : SessionManager τ) (sid : Nat) (stream keepPacket : Bool) :
    Except Fault (SessionManager τ × Nat × Option Nat) :=
  match m.sessions[sid]? with
  | some s => .ok (m, sid, s.msgCh)
  | none =>
    let ch := m.world.msgChs.next
    match m.nextSid with
    | none => .error .blocked
    | some realSid =>
      .ok ({ m with
        sessions := m.sessions.insert realSid (.new m.epoch ch stream keepPacket)
        sid := realSid
        world := { m.world with msgChs := m.world.msgChs.make 1 }
        timed := if stream then m.timed else f.addTimedSession realSid (.session sid) m.timed },
       realSid, ch)

def delete (m : SessionManager τ) (sid : Nat) : SessionManager τ :=
  match m.sessions[sid]? with
  | none => m
  | some s =>
    { m with
      sessions := m.sessions.erase sid
      world := (s.close m.world).snd
      timed := f.delTimedSession sid m.timed }

def dispatch (m : SessionManager τ) (msg : Msg) : Except Fault (SessionManager τ × Bool) :=
  match m.sessions[msg.sid]? with
  | none => .ok (m, false)
  | some s =>
    -- only deliver messages of this epoch, unless it is a stream
    if s.epoch ≠ m.epoch ∧ !s.isStream then
      .ok (m.delete f msg.sid, false)
    else
      match s.deliverMsg m.world msg with
      | .error e => .error e
      | .ok (s, w, delivered, complete) =>
        let m := { m with sessions := m.sessions.insert msg.sid s, world := w }
        .ok (if complete then m.delete f msg.sid else m, delivered)

def closeNonStream (m : SessionManager τ) (e : Nat × Session) : SessionManager τ :=
  if e.snd.isStream then
    m
  else
    { m with
      world := (e.snd.close m.world).snd
      timed := f.delTimedSession e.fst m.timed }

-- Padded with zeros, as unused elements of the slice are not cut off.
def allSid (m : SessionManager τ) : List Nat :=
  let sids := (m.sessions.toList.filter (!·.snd.isStream)).map Prod.fst
  sids ++ List.replicate (m.sessions.size - sids.length) 0

def cleanup (m : SessionManager τ) (now : Nat) : SessionManager τ :=
  let closed := m.sessions.toList.foldl (closeNonStream f) m
  { closed with
    sessions := m.allSid.foldl (·.erase ·) m.sessions
    epoch := now
    -- the session id must never decrease
    sid := if m.sid < now then now else m.sid }

def timeoutMsg (sid : Nat) : Msg :=
  Session.errorMsg sid .timeout (str "timeout")

def handleTimeout (m : SessionManager τ) : SessionTimeoutHandle → Except Fault (SessionManager τ)
  | .session sid =>
    match m.dispatch f (timeoutMsg sid) with
    | .error e => .error e
    | .ok (m, _) => .ok (m.delete f sid)
  | .streamCreation ret =>
    if (m.world.signals.chan ret).closed then .ok m
    else .ok { m with world := { m.world with signals := m.world.signals.close ret } }

inductive Call
  | add (sid : Nat) (stream keepPacket : Bool)
  | setStream (sid : Nat) (dataOut errOut : Option WriterRef) (canWrite : Option Nat)
  | dispatch (msg : Msg)
  | delete (sid : Nat)
  | cleanup (now : Nat)
  | recv (ch : Nat)
  | signal (canWrite : Nat)

def call (m : SessionManager τ) : Call → Except Fault (SessionManager τ)
  | .add sid stream keepPacket => (m.add f sid stream keepPacket).map Prod.fst
  | .setStream sid dataOut errOut canWrite => .ok (m.setStream f sid dataOut errOut canWrite).fst
  | .dispatch msg => (m.dispatch f msg).map Prod.fst
  | .delete sid => .ok (m.delete f sid)
  | .cleanup now => .ok (m.cleanup f now)
  | .recv ch =>
    match (m.world.msgChs.chan ch).recv with
    | none => .error .blocked
    | some c => .ok { m with world := { m.world with msgChs := m.world.msgChs.set ch c } }
  | .signal g =>
    .ok { m with world := { m.world with canWrite := Function.update m.world.canWrite g true } }

inductive Action
  | call (c : Call)
  | timeout (h : SessionTimeoutHandle)

def step (m : SessionManager τ) : Action → Option (SessionManager τ)
  | .call c => (m.call f c).toOption
  | .timeout h => (m.handleTimeout f h).toOption

def Reached (m : SessionManager τ) : Prop :=
  ∃ now world timed, Reachable (step f) (new now world timed) m

end SessionManager
end Aranya
