import Aranya.Lib.Execution
import Aranya.Proto.Wire

namespace Aranya.AMQP

structure ConnectAnswers where
  dial : Option Bytes
  channel : Option Bytes
  exchangeDeclare : Option Bytes
  deriving DecidableEq, Repr

structure QueueAnswers where
  queueDeclare : Option Bytes
  queueBind : Option Bytes
  consume : Option Bytes
  deriving DecidableEq, Repr

-- A reconnect routine waits until the connection is lost, or then for its timer, or it has returned.
inductive Routine
  | watching
  | waiting (err : Bytes) (wait : Nat)
  | returned
  deriving DecidableEq, Repr

-- `receivers` and `rejections` count what the routines have done.
structure Client where
  subTopic : Bytes
  subWillTopic : Bytes
  session : Option Nat
  connBackoff : Nat
  disconnected : Bool
  stopped : Bool
  routines : List Routine
  receivers : Nat
  rejections : Nat
  deriving DecidableEq, Repr

namespace Client

def new (subTopic subWillTopic : Bytes) : Client where
  subTopic := subTopic
  subWillTopic := subWillTopic
  session := none
  connBackoff := 0
  disconnected := false
  stopped := false
  routines := []
  receivers := 0
  rejections := 0

def connect (c : Client) (a : ConnectAnswers) : Client × Option Bytes :=
  match a.dial with
  | some err => (c, some err)
  | none =>
    match a.channel with
    | some err => (c, some (str "failed to create channel: " ++ err))
    | none =>
      match a.exchangeDeclare with
      | some err => (c, some (str "failed to declare exchange: " ++ err))
      | none =>
        ({ c with session := some c.routines.length, routines := c.routines ++ [.watching] }, none)

def doSubscribe (c : Client) (topic : Bytes) (a : QueueAnswers) : Option Bytes :=
  match c.session with
  | none => some (str "no channel available to subscribe [" ++ topic ++ str "]")
  | some _ =>
    match a.queueDeclare with
    | some err => some (str "failed to declare queue: " ++ err)
    | none =>
      match a.queueBind with
      | some err => some (str "failed to bind queue: " ++ err)
      | none => a.consume.map (str "failed to consume messages: " ++ ·)

def subscribe (c : Client) (msg will : QueueAnswers) : Client × Option Bytes :=
  match c.doSubscribe c.subTopic msg with
  | some err => (c, some err)
  | none =>
    match c.doSubscribe c.subWillTopic will with
    | some err => (c, some err)
    | none => ({ c with receivers := c.receivers + 1 }, none)

variable (delay : Nat → Nat)

def nextBackoff (c : Client) : Client × Nat :=
  ({ c with connBackoff := c.connBackoff + 1 }, delay c.connBackoff)

def setRoutine (c : Client) (i : Nat) (r : Routine) : Client :=
  { c with routines := c.routines.set i r }

def loop (err : Option Bytes) (wait : Nat) : Routine :=
  match err with
  | none => .returned
  | some err => .waiting err wait

def errClosed : Bytes :=
  str "Exception (504) Reason: \"channel/connection is not open\""

-- There is no error if the connection is closed normally.
def onClosed (c : Client) (i : Nat) (e : Option Bytes) : Client :=
  if e = none ∧ c.disconnected then
    c.setRoutine i .returned
  else
    let (c, wait) := c.nextBackoff delay
    c.setRoutine i (loop (some (e.getD errClosed)) wait)

def reconnect (c : Client) (i : Nat) (a : ConnectAnswers) (msg will : QueueAnswers) : Client :=
  match c.connect a with
  | (c, some err) =>
    let (c, wait) := c.nextBackoff delay
    c.setRoutine i (loop (some err) wait)
  | (c, none) =>
    let c := { c with connBackoff := 0 }
    match c.subscribe msg will with
    | (c, some _) =>
      let (c, wait) := c.nextBackoff delay
      -- The error of `Subscribe` is a new variable, and not the one that is checked by the loop. The
      -- latter is the result of `Connect`.
      c.setRoutine i (loop none wait)
    | (c, none) => { c with rejections := c.rejections + 1 }.setRoutine i .returned

inductive Action
  | connect (a : ConnectAnswers)
  | subscribe (msg will : QueueAnswers)
  | disconnect
  | stop
  | exit (i : Nat)
  | closed (i : Nat) (e : Option Bytes)
  | expired (i : Nat) (a : ConnectAnswers) (msg will : QueueAnswers)

def step (c : Client) : Action → Option Client
  | .connect a => some (c.connect a).fst
  | .subscribe msg will => some (c.subscribe msg will).fst
  | .disconnect => some { c with disconnected := true }
  | .stop => some { c with stopped := true }
  | .exit i => if c.stopped then some (c.setRoutine i .returned) else none
  | .closed i e =>
    if c.routines[i]? = some .watching then some (c.onClosed delay i e) else none
  | .expired i a msg will =>
    match c.routines[i]? with
    | some (.waiting _ _) => some (c.reconnect delay i a msg will)
    | _ => none

end Client
end Aranya.AMQP
