import Aranya.Connectivity.Manager

namespace Aranya

open Std (ExtTreeMap)

inductive RejectionReason
  | invalidProto
  | alreadyConnected
  | initialCheckFailure
  | internalServerError
  deriving DecidableEq, Repr

def RejectionReason.toNat : RejectionReason → Nat
  | invalidProto => 1
  | alreadyConnected => 2
  | initialCheckFailure => 3
  | internalServerError => 4

def rejectCmd (reason : RejectionReason) (message : Bytes) : Cmd where
  kind := .reject
  sid := 0
  seq := 0
  complete := true
  payload := Wire.encodeUint 0x08 reason.toNat ++ Wire.encodeBytes 0x12 message

namespace Sync

inductive Phase
  | select
  | reject (reason : RejectionReason) (message : Bytes) (exit : Bool)
  | forward (msg : Msg)
  | exit
  | returned
  deriving DecidableEq, Repr

structure Stream where
  alreadyOnline : Bool
  onlineID : Bytes
  rejected : Nat
  phase : Phase
  deriving DecidableEq, Repr

namespace Stream

def new (rejected : Nat) : Stream where
  alreadyOnline := false
  onlineID := []
  rejected := rejected
  phase := .select

def forward (t : Stream) (msg : Msg) : Stream :=
  if t.alreadyOnline then { t with phase := .forward msg } else t

def online (i : Nat) (clients : ExtTreeMap Bytes Nat) (t : Stream) (msg : Msg) (deviceId : Bytes) :
    Stream × ExtTreeMap Bytes Nat :=
  if t.alreadyOnline then
    ({ t with phase := .reject .alreadyConnected (str "client has sent online message once") false },
     clients)
  else
    match clients[deviceId]? with
    | some _ =>
      ({ t with
        onlineID := deviceId
        phase := .reject .alreadyConnected (str "client already connected with same online-id") false },
       clients)
    | none =>
      ({ t with onlineID := deviceId, alreadyOnline := true, phase := .forward msg },
       clients.insert deviceId i)

def recv (i : Nat) (clients : ExtTreeMap Bytes Nat) (t : Stream) (msg : Msg) : Stream × ExtTreeMap Bytes Nat :=
  if msg.kind = .state then
    match msg.getState with
    | none => ({ t with phase := .reject .invalidProto (str "invalid protocol") true }, clients)
    | some s =>
      match s.kind with
      | .online => t.online i clients msg s.deviceId
      | .offline => ({ t with phase := .exit }, clients)
      | .other _ => (t.forward msg, clients)
  else
    (t.forward msg, clients)

end Stream
end Sync

open Sync (Stream)

-- Streams are referred to by number. All that was sent on any of them is recorded.
structure GRPCManager (τ : Type*) where
  base : BaseManager τ
  clientSessions : ExtTreeMap Bytes Nat
  streams : Nat → Option Stream
  sent : List (Nat × Bytes)

namespace GRPCManager

variable {τ : Type*} (f : TimedSessionFuncs τ)

def new (base : BaseManager τ) : GRPCManager τ where
  base := base
  clientSessions := ∅
  streams _ := none
  sent := []

def send (net : Nat → Bytes → Option Bytes) (sent : List (Nat × Bytes)) (i : Nat) (data : Bytes) :
    List (Nat × Bytes) × Option Bytes :=
  match net i data with
  | some err => (sent, some err)
  | none => (sent ++ [(i, data)], none)

def sendData (net : Nat → Bytes → Option Bytes) (clients : ExtTreeMap Bytes Nat)
    (sent : List (Nat × Bytes)) (data : Bytes) (_ensure : Bool) : List (Nat × Bytes) × Option Bytes :=
  clients.toList.foldl append (sent, none)
where
  append (acc : List (Nat × Bytes) × Option Bytes) (client : Bytes × Nat) :
      List (Nat × Bytes) × Option Bytes :=
    match acc, send net acc.fst client.snd data with
    | (_, err), (sent, none) => (sent, err)
    | (_, none), (sent, some err) => (sent, some err)
    | (_, some err'), (sent, some err) => (sent, some (err' ++ str "; " ++ err))

def reject (net : Nat → Bytes → Option Bytes) (m : GRPCManager τ) (reason : RejectionReason)
    (message : Bytes) : GRPCManager τ :=
  let (base, sent) := m.base.onReject
    (fun sent => (sendData net m.clientSessions sent (rejectCmd reason message).marshal true).fst) m.sent
  { m with base := base, sent := sent }

def close (m : GRPCManager τ) : GRPCManager τ :=
  { m with base := (m.base.onClose id ()).fst }

def accept (m : GRPCManager τ) (i : Nat) : GRPCManager τ :=
  { m with streams := Function.update m.streams i (some (.new m.base.rejected)) }

def setPhase (m : GRPCManager τ) (i : Nat) (t : Stream) (phase : Sync.Phase) : GRPCManager τ :=
  { m with streams := Function.update m.streams i (some { t with phase := phase }) }

def recv (m : GRPCManager τ) (i : Nat) (t : Stream) (msg : Msg) : GRPCManager τ :=
  let (t, clients) := t.recv i m.clientSessions msg
  { m with streams := Function.update m.streams i (some t), clientSessions := clients }

def onRecvMsg (net : Nat → Bytes → Option Bytes) (m : GRPCManager τ) (data : Bytes) :
    Except Fault (GRPCManager τ) :=
  match m.base.onRecvMsg f (sendData net m.clientSessions) m.sent data with
  | .error e => .error e
  | .ok (base, sent) => .ok { m with base := base, sent := sent }

def finish (m : GRPCManager τ) (t : Stream) (now : Nat) : GRPCManager τ :=
  let (base, clients) := m.base.onDisconnected f
    (fun clients => (if t.alreadyOnline then clients.erase t.onlineID else clients, t.onlineID, false))
    now m.clientSessions
  { m with base := base, clientSessions := clients }

inductive StreamAction
  | recv (msg : Msg)
  | lost
  | rejected
  | reject
  | forward
  | finish (now : Nat)

def streamStep (net : Nat → Bytes → Option Bytes) (m : GRPCManager τ) (i : Nat) (t : Stream) :
    StreamAction → Option (GRPCManager τ)
  | .recv msg => if t.phase = .select then some (m.recv i t msg) else none
  | .lost => if t.phase = .select then some (m.setPhase i t .exit) else none
  | .rejected =>
    if t.phase = .select ∧ (m.base.signals.chan t.rejected).closed then some (m.setPhase i t .exit)
    else none
  | .reject =>
    match t.phase with
    | .reject reason message exit =>
      some <| (m.reject net reason message).setPhase i t (if exit then .exit else .select)
    | _ => none
  | .forward =>
    match t.phase with
    | .forward msg => (m.onRecvMsg f net msg.marshal).toOption.map (·.setPhase i t .select)
    | _ => none
  | .finish now =>
    if t.phase = .exit then some ((m.finish f t now).setPhase i t .returned) else none

end GRPCManager
end Aranya
