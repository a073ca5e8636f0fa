import Aranya.Lib.Execution
import Aranya.Proto.Wire

namespace Aranya.MQTT

inductive Err
  | canceled
  | deadlineExceeded
  | managerClosed
  | alreadySubscribing
  | text (t : Bytes)
  | wrap (t : Bytes) (err : Err)
  deriving DecidableEq, Repr

def Err.is : Err → Err → Bool
  | .wrap t err, target => .wrap t err == target || err.is target
  | err, target => err == target

-- Nothing is stored. The runtime panics at the second close, and at every send after the first one.
structure ErrCh where
  closes : Nat
  lateSends : Nat
  deriving DecidableEq, Repr

namespace ErrCh

def new : ErrCh :=
  ⟨0, 0⟩

def closed (ch : ErrCh) : Bool :=
  ch.closes != 0

def close (ch : ErrCh) : ErrCh :=
  { ch with closes := ch.closes + 1 }

def sendLate (ch : ErrCh) : ErrCh :=
  { ch with lateSends := ch.lateSends + 1 }

end ErrCh

inductive Callback
  | handleNet (err : Option Err)
  | handleConn (code : UInt8) (err : Option Err)
  | handleSub (err : Option Err)
  deriving DecidableEq, Repr

inductive SubscribePc
  | loadClosed
  | swapSubscribing
  | select
  | storeSubscribing (err : Option Err)
  | storeStarted (err : Option Err)
  deriving DecidableEq, Repr

-- Where a routine is: before each access to a flag or a channel.
inductive Pc
  | connectServer
  | selectConn
  | loadClosed
  | loadSubscribing (err : Err)
  | loadStarted (err : Err)
  | swapStarted (err : Err)
  | isStarted
  | sendSub (err : Err)
  | closeSub
  | sendConn (err : Err)
  | closeConn
  | notifySub (err : Option Err)
  | subscribe (pc : SubscribePc)
  | sleep
  | returned
  deriving DecidableEq, Repr

structure Routine where
  callback : Option Callback
  pc : Pc
  deriving DecidableEq, Repr

structure Client where
  subscribing : Bool
  started : Bool
  closed : Bool
  stopped : Bool
  connErrCh : ErrCh
  subErrCh : ErrCh
  routines : List Routine
  deriving DecidableEq, Repr

namespace Callback

def codeSuccess : UInt8 :=
  0

def enter : Callback → Pc
  | handleSub err => .notifySub err
  | _ => .loadClosed

def dispatch : Callback → Pc
  | handleNet none => .returned
  | handleNet (some err) => .loadSubscribing err
  | handleConn _ (some err) => .swapStarted err
  | handleConn code none =>
    if code ≠ codeSuccess then
      .swapStarted (.text (str ("rejected by mqtt broker, code: " ++ toString code.toNat)))
    else
      .isStarted
  | handleSub err => .notifySub err

end Callback

namespace Client

def new : Client where
  subscribing := false
  started := false
  closed := false
  stopped := false
  connErrCh := .new
  subErrCh := .new
  routines := [⟨none, .connectServer⟩]

def goto (c : Client) (i : Nat) (r : Routine) (pc : Pc) : Client :=
  { c with routines := c.routines.set i { r with pc := pc } }

def invoke (c : Client) (cb : Callback) : Client :=
  { c with routines := c.routines ++ [⟨some cb, cb.enter⟩] }

def disconnect (c : Client) : Client :=
  { c with closed := true }

def connected (c : Client) (i : Nat) (r : Routine) : Option Err → Client
  | none => c.goto i r (.subscribe .loadClosed)
  | some _ => c.disconnect.goto i r .returned

def subscribed (c : Client) (i : Nat) (r : Routine) : Option Err → Client
  | none => c.goto i r .returned
  | some err =>
    match r.callback with
    | none => c.disconnect.goto i r .returned
    | some _ =>
      if err == .alreadySubscribing || err.is .canceled || err.is .deadlineExceeded || err.is .managerClosed then
        c.goto i r .returned
      else
        c.goto i r .sleep

def failedToSubscribe (err : Err) : Err :=
  .wrap (str "failed to subscribe topics: ") err

def subscribe (c : Client) (i : Nat) (r : Routine) : SubscribePc → Option Client
  | .loadClosed =>
    if c.closed then
      some (c.subscribed i r (some .managerClosed))
    else
      some (c.goto i r (.subscribe .swapSubscribing))
  | .swapSubscribing =>
    if c.subscribing then
      some (c.subscribed i r (some .alreadySubscribing))
    else
      some ({ c with subscribing := true }.goto i r (.subscribe .select))
  | .select => none
  | .storeSubscribing err => some ({ c with subscribing := false }.goto i r (.subscribe (.storeStarted err)))
  | .storeStarted err => some ({ c with started := true }.subscribed i r err)

-- Routines that wait in a `select` statement do not go on in this way.
def proceed (c : Client) (i : Nat) (r : Routine) : Option Client :=
  match r.pc with
  | .loadClosed =>
    match r.callback with
    | some cb => some (c.goto i r (if c.closed then .returned else cb.dispatch))
    | none => none
  | .loadSubscribing err => some (c.goto i r (if c.subscribing then .loadStarted err else .swapStarted err))
  | .loadStarted err => some (c.goto i r (if c.started then .swapStarted err else .sendSub err))
  | .swapStarted err =>
    if c.started then
      some (c.goto i r .returned)
    else
      some ({ c with started := true }.goto i r (.sendConn err))
  | .isStarted => some (c.goto i r (if c.started then .subscribe .loadClosed else .closeConn))
  | .closeSub => some ({ c with subErrCh := c.subErrCh.close }.goto i r .returned)
  | .closeConn => some ({ c with connErrCh := c.connErrCh.close }.goto i r .returned)
  | .subscribe pc => c.subscribe i r pc
  | .sleep => some (c.goto i r (.subscribe .loadClosed))
  | _ => none

def quit (c : Client) (i : Nat) (r : Routine) : Option Client :=
  match r.pc with
  | .selectConn => some (c.connected i r (some .canceled))
  | .subscribe .select => some (c.goto i r (.subscribe (.storeSubscribing (some .canceled))))
  | .sendSub _ => some (c.goto i r .returned)
  | .sendConn _ => some (c.goto i r .returned)
  | .notifySub _ => some (c.goto i r .returned)
  | _ => none

def pass (c : Client) (i j : Nat) (r₁ r₂ : Routine) : Option Client :=
  match r₁.pc, r₂.pc with
  | .sendConn err, .selectConn =>
    if c.connErrCh.closed then none else some ((c.goto i r₁ .closeConn).connected j r₂ (some err))
  | .sendSub err, .subscribe .select =>
    if c.subErrCh.closed then
      none
    else
      some ((c.goto i r₁ .closeSub).goto j r₂ (.subscribe (.storeSubscribing (some (failedToSubscribe err)))))
  | .notifySub err, .subscribe .select =>
    if c.subErrCh.closed then
      none
    else
      some ((c.goto i r₁ .returned).goto j r₂ (.subscribe (.storeSubscribing (err.map failedToSubscribe))))
  | _, _ => none

def receive (c : Client) (i : Nat) (r : Routine) : Option Client :=
  match r.pc with
  | .selectConn => if c.connErrCh.closed then some (c.connected i r none) else none
  | .subscribe .select =>
    if c.subErrCh.closed then some (c.goto i r (.subscribe (.storeSubscribing none))) else none
  | _ => none

-- The routine may have been waiting for a receiver when the channel was closed.
def sendLate (c : Client) (i : Nat) (r : Routine) : Option Client :=
  match r.pc with
  | .sendConn _ =>
    if c.connErrCh.closed then
      some ({ c with connErrCh := c.connErrCh.sendLate }.goto i r .returned)
    else
      none
  | .sendSub _ | .notifySub _ =>
    if c.subErrCh.closed then some ({ c with subErrCh := c.subErrCh.sendLate }.goto i r .returned) else none
  | _ => none

inductive Action
  | connectServer (i : Nat) (err : Option Err)
  | callback (cb : Callback)
  | proceed (i : Nat)
  | quit (i : Nat)
  | pass (i j : Nat)
  | receive (i : Nat)
  | sendLate (i : Nat)
  | disconnect
  | stop
  deriving DecidableEq, Repr

def step (c : Client) : Action → Option Client
  | .connectServer i err =>
    c.routines[i]?.bind fun r =>
      if r.pc = .connectServer then
        match err with
        | some err => some (c.connected i r (some err))
        | none => some (c.goto i r .selectConn)
      else
        none
  | .callback cb => some (c.invoke cb)
  | .proceed i => c.routines[i]?.bind (c.proceed i)
  | .quit i => if c.stopped then c.routines[i]?.bind (c.quit i) else none
  | .pass i j => c.routines[i]?.bind fun r₁ => c.routines[j]?.bind fun r₂ => c.pass i j r₁ r₂
  | .receive i => c.routines[i]?.bind (c.receive i)
  | .sendLate i => c.routines[i]?.bind (c.sendLate i)
  | .disconnect => some c.disconnect
  | .stop => some { c with stopped := true }

end Client
end Aranya.MQTT
