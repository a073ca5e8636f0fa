import Aranya.Connectivity.SessionManager
import Aranya.Queue.TimeoutQueue

namespace Aranya

structure SessionTimeoutKey where
  name : Bytes
  sid : Nat
  deriving DecidableEq, Repr

inductive TimeoutKey
  | session (key : SessionTimeoutKey)
  | uint64 (sid : Nat)
  deriving DecidableEq, Repr

structure SessionTimeoutValue where
  name : Bytes
  handleSessionTimeout : SessionTimeoutHandle
  deriving DecidableEq, Repr

structure EdgeDeviceController where
  timedSessions : List SessionTimeoutKey
  timedSessionsTQ : TimeoutQueue TimeoutKey SessionTimeoutValue

namespace EdgeDeviceController

def new : EdgeDeviceController where
  timedSessions := []
  timedSessionsTQ := .new

def prepareConnectivityOptions (name : Bytes) : TimedSessionFuncs EdgeDeviceController where
  addTimedStreamCreation sid onCreationTimeout c :=
    { c with
      timedSessionsTQ := c.timedSessionsTQ.offerWithDelay (.session ⟨name, sid⟩) ⟨name, onCreationTimeout⟩ }
  addTimedSession sid onSessionTimeout c :=
    { timedSessionsTQ := c.timedSessionsTQ.offerWithDelay (.session ⟨name, sid⟩) ⟨name, onSessionTimeout⟩
      timedSessions := c.timedSessions.insert ⟨name, sid⟩ }
  delTimedSession sid c :=
    { timedSessionsTQ := c.timedSessionsTQ.remove (.uint64 sid)
      timedSessions := c.timedSessions.erase ⟨name, sid⟩ }
  getTimedSessions c :=
    c.timedSessions.filterMap fun key => if key.name = name then some key.sid else none

end EdgeDeviceController

structure Controller where
  managers : Bytes → SessionManager Unit
  edgeDevice : EdgeDeviceController

namespace Controller

open EdgeDeviceController (prepareConnectivityOptions)

def new (now : Bytes → Nat) (world : Bytes → World) : Controller where
  managers name := .new (now name) (world name) ()
  edgeDevice := .new

def load (c : Controller) (name : Bytes) : SessionManager EdgeDeviceController :=
  { c.managers name with timed := c.edgeDevice }

def store (c : Controller) (name : Bytes) (m : SessionManager EdgeDeviceController) : Controller where
  managers := Function.update c.managers name { m with timed := () }
  edgeDevice := m.timed

def handleTimeout (c : Controller) (key : TimeoutKey) (val : SessionTimeoutValue) : Except Fault Controller :=
  match (c.load val.name).handleTimeout (prepareConnectivityOptions val.name)
      val.handleSessionTimeout with
  | .error f => .error f
  | .ok m =>
    let c := c.store val.name m
    match key with
    | .uint64 _ => .error .typeAssertion
    | .session key =>
      .ok { c with edgeDevice := { c.edgeDevice with
        timedSessions := c.edgeDevice.timedSessions.erase key } }

inductive Action
  | call (name : Bytes) (c : SessionManager.Call)
  | expire (k : Nat)

def step (c : Controller) : Action → Option Controller
  | .call name op =>
    ((c.load name).call (prepareConnectivityOptions name) op).toOption.map (c.store name)
  | .expire k =>
    match c.edgeDevice.timedSessionsTQ.expire k with
    | none => none
    | some (key, val, q) =>
      ({ c with edgeDevice := { c.edgeDevice with timedSessionsTQ := q } }.handleTimeout key val).toOption

end Controller
end Aranya
