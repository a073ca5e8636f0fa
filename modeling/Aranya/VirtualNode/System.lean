import Aranya.Connectivity.GRPC
import Aranya.VirtualNode.RemoteActions

namespace Aranya

-- The initial checks of a device take some time, during which all the others go on.
inductive Handler
  | idle
  | initializing (deviceId : Bytes)
  deriving DecidableEq, Repr

structure System (τ : Type*) where
  mgr : GRPCManager τ
  handler : Handler

namespace System

variable {τ : Type*} (f : TimedSessionFuncs τ) (net : Nat → Bytes → Option Bytes)

def new (base : BaseManager τ) : System τ where
  mgr := .new base
  handler := .idle

def onlineDevice (msg : Msg) : Option Bytes :=
  if msg.kind = .state then
    match msg.getState with
    | some ⟨.online, deviceId⟩ => some deviceId
    | _ => none
  else
    none

def handle (s : System τ) (now : Nat) : Option (System τ) :=
  let base := s.mgr.base
  match s.handler, base.globalMsgChan.recv, base.globalMsgChan.sent[base.globalMsgChan.taken]? with
  | .idle, some c, some msg =>
    let base := { base with globalMsgChan := c }
    match onlineDevice msg with
    | some deviceId =>
      some { mgr := { s.mgr with base := base }, handler := .initializing deviceId }
    | none =>
      match VirtualNode.handleGlobalMsg f (GRPCManager.sendData net s.mgr.clientSessions) now false
          base s.mgr.sent msg with
      | .error _ => none
      | .ok (base, sent) => some { s with mgr := { s.mgr with base := base, sent := sent } }
  | _, _, _ => none

def initialized (s : System τ) (allow : Bool) : Option (System τ) :=
  match s.handler with
  | .idle => none
  | .initializing deviceId =>
    some {
      mgr := { s.mgr with
        base := s.mgr.base.onConnected (VirtualNode.initializedId allow deviceId) }
      handler := .idle }

def post (s : System τ) (sid : Nat) (kind : CmdType) (seq : Nat) (completed : Bool) (payload : Bytes) :
    Option (System τ) :=
  match s.mgr.base.postData f (GRPCManager.sendData net s.mgr.clientSessions) s.mgr.sent sid kind
      seq completed payload with
  | .error _ => none
  | .ok (base, sent, _) => some { s with mgr := { s.mgr with base := base, sent := sent } }

def postStream (s : System τ) (kind : CmdType) (payloadCmd : Option Bytes)
    (dataOut errOut : Option WriterRef) (keepPacket : Bool) (canWrite : Option Nat) : Option (System τ) :=
  match s.mgr.base.postStreamCmd f (GRPCManager.sendData net s.mgr.clientSessions) s.mgr.sent kind
      payloadCmd dataOut errOut keepPacket canWrite with
  | .error _ => none
  | .ok (base, sent, _) => some { s with mgr := { s.mgr with base := base, sent := sent } }

inductive Action
  | accept (i : Nat)
  | stream (i : Nat) (a : GRPCManager.StreamAction)
  | reject (reason : RejectionReason) (message : Bytes)
  | handle (now : Nat)
  | initialized (allow : Bool)
  | post (sid : Nat) (kind : CmdType) (seq : Nat) (completed : Bool) (payload : Bytes)
  | postStream (kind : CmdType) (payloadCmd : Option Bytes) (dataOut errOut : Option WriterRef)
    (keepPacket : Bool) (canWrite : Option Nat)
  | session (a : SessionManager.Action)
  | cancel
  | close

def step (s : System τ) : Action → Option (System τ)
  | .accept i =>
    if (s.mgr.streams i).isSome then none else some { s with mgr := s.mgr.accept i }
  | .stream i a =>
    match s.mgr.streams i with
    | none => none
    | some t => (s.mgr.streamStep f net i t a).map fun mgr => { s with mgr := mgr }
  | .reject reason message => some { s with mgr := s.mgr.reject net reason message }
  | .handle now => s.handle f net now
  | .initialized allow => s.initialized allow
  | .post sid kind seq completed payload => s.post f net sid kind seq completed payload
  | .postStream kind payloadCmd dataOut errOut keepPacket canWrite =>
    s.postStream f net kind payloadCmd dataOut errOut keepPacket canWrite
  | .session a =>
    (s.mgr.base.sessions.step f a).map fun sessions =>
      { s with mgr := { s.mgr with base := { s.mgr.base with sessions := sessions } } }
  | .cancel =>
    some { s with mgr := { s.mgr with base := { s.mgr.base with ctxDone := true } } }
  | .close => some { s with mgr := s.mgr.close }

end System
end Aranya
