import Aranya.Connectivity.SessionManager

namespace Aranya

def errManagerClosed : Bytes :=
  str "connectivity manager has been closed"

structure Options where
  mqttOpts : Option Int
  amqpOpts : Bool
  azureIoTHubOpts : Bool
  gcpIoTCoreOpts : Bool
  grpcOpts : Bool

def Options.maxDataSize (config : Options) : Option Int :=
  match config.mqttOpts with
  | some maxPayloadSize => some (if maxPayloadSize ≤ 0 then 128 * 1024 else maxPayloadSize)
  | none =>
    if config.amqpOpts then some (128 * 1024 * 1024)
    else if config.azureIoTHubOpts then some (64 * 1024)
    else if config.gcpIoTCoreOpts then some (256 * 1024)
    else if config.grpcOpts then some (64 * 1024)
    else none

-- Signals are channels which are closed to tell that something has happened, and are then replaced.
structure BaseManager (τ : Type*) where
  ctxDone : Bool
  sessions : SessionManager τ
  maxDataSize : Nat
  maxDataSize_pos : 0 < maxDataSize
  globalMsgChan : Chan Msg
  connectedDevices : Finset Bytes
  signals : Chans Unit
  connected : Nat
  disconnected : Nat
  rejected : Nat
  alreadyRejected : Bool
  _stopped : Bool

namespace BaseManager

variable {τ ρ : Type*} (f : TimedSessionFuncs τ)

def initial (sessions : SessionManager τ) (maxDataSize : Nat) (h : 0 < maxDataSize) : BaseManager τ where
  ctxDone := false
  sessions := sessions
  maxDataSize := maxDataSize
  maxDataSize_pos := h
  globalMsgChan := .new 1
  connectedDevices := ∅
  signals := Chans.empty.make 0 |>.close 0 |>.make 0 |>.make 0
  connected := 1
  disconnected := 0
  rejected := 2
  alreadyRejected := false
  _stopped := false

def new (config : Options) (sessions : SessionManager τ) : Except Bytes (BaseManager τ) :=
  match config.maxDataSize with
  | none => .error (str "unknown connectivity config")
  | some size =>
    if h : size - emptyCmdSize ≤ 0 then
      .error (str ("max data size too small, must be greater than " ++ toString emptyCmdSize))
    else
      .ok <| initial sessions (size - emptyCmdSize).toNat (by omega)

-- Callbacks change things that do not belong to the manager, whose state is `ρ`.
def onReject (reject : ρ → ρ) (m : BaseManager τ) (r : ρ) : BaseManager τ × ρ :=
  if m.alreadyRejected then
    (m, r)
  else
    ({ m with alreadyRejected := true, signals := m.signals.close m.rejected }, reject r)

def signalConnected (m : BaseManager τ) : BaseManager τ :=
  let signals := m.signals.close m.connected
  { m with
    signals := signals.make 0 |>.make 0
    disconnected := signals.next
    rejected := signals.next + 1
    alreadyRejected := false }

def onConnected (m : BaseManager τ) (id : Bytes) : BaseManager τ :=
  if id = [] then
    m
  else if m._stopped then
    m
  else
    let skipSignal := m.connectedDevices ≠ ∅
    let m := { m with connectedDevices := insert id m.connectedDevices }
    if skipSignal ∨ m.ctxDone ∨ (m.signals.chan m.connected).closed then m else m.signalConnected

def signalDisconnected (m : BaseManager τ) (now : Nat) : BaseManager τ :=
  let signals := m.signals.closeOnce m.disconnected
  { m with
    sessions := m.sessions.cleanup f now
    signals := signals.make 0
    connected := signals.next }

def remaining (m : BaseManager τ) (id : Bytes) (all : Bool) : Finset Bytes :=
  if all then ∅ else m.connectedDevices.erase id

def onDisconnected (finalize : ρ → ρ × Bytes × Bool) (now : Nat) (m : BaseManager τ) (r : ρ) :
    BaseManager τ × ρ :=
  if m.connectedDevices = ∅ then
    (m, r)
  else
    let (r, id, all) := finalize r
    let m := { m with connectedDevices := m.remaining id all }
    if m.connectedDevices ≠ ∅ then (m, r) else (m.signalDisconnected f now, r)

def onClose (closeManager : ρ → ρ) (m : BaseManager τ) (r : ρ) : BaseManager τ × ρ :=
  if m._stopped then (m, r) else ({ m with ctxDone := true, _stopped := true }, closeManager r)

section sendData

-- How encoded commands are sent, and whether this has failed.
variable (sendData : ρ → (data : Bytes) → (ensure : Bool) → ρ × Option Bytes)

-- Every round takes something from the payload, so its length bounds the number of rounds.
def doPostData (m : BaseManager τ) (r : ρ) (kind : CmdType) (realSid lastSeq : Nat) (complete : Bool)
    (payload : Bytes) : ρ × Nat × Option Bytes :=
  go payload.length r lastSeq payload
where
  post (r : ρ) (lastSeq : Nat) (complete : Bool) (payload : Bytes) : ρ × Option Bytes :=
    match sendData r (Cmd.marshal ⟨kind, realSid, lastSeq, complete, payload⟩) true with
    | (r, none) => (r, none)
    | (r, some err) => (r, some (str "failed to post cmd chunk: " ++ err))
  last (r : ρ) (lastSeq : Nat) (payload : Bytes) : ρ × Nat × Option Bytes :=
    let (r, err) := post r lastSeq complete payload
    (r, lastSeq, err)
  go : Nat → ρ → Nat → Bytes → ρ × Nat × Option Bytes
    | 0, r, lastSeq, payload => last r lastSeq payload
    | n + 1, r, lastSeq, payload =>
      if m.maxDataSize < payload.length then
        match post r lastSeq false (payload.take m.maxDataSize) with
        | (r, some err) => (r, lastSeq, some err)
        | (r, none) => go n r ((lastSeq + 1) % 2 ^ 64) (payload.drop m.maxDataSize)
      else
        last r lastSeq payload

structure Posted where
  msgCh : Option Nat
  realSid : Nat
  lastSeq : Nat
  err : Option Bytes

def postRecorded (m : BaseManager τ) (r : ρ) (sid : Nat) (kind : CmdType) (seq : Nat)
    (completed : Bool) (payload : Bytes) : Except Fault (BaseManager τ × ρ × Posted) :=
  match m.sessions.add f sid false false with
  | .error e => .error e
  | .ok (sessions, realSid, msgCh) =>
    let (r, lastSeq, err) := doPostData sendData m r kind realSid seq completed payload
    let sessions := if err.isSome then sessions.delete f realSid else sessions
    .ok ({ m with sessions := sessions }, r, ⟨msgCh, realSid, lastSeq, err⟩)

def postData (m : BaseManager τ) (r : ρ) (sid : Nat) (kind : CmdType) (seq : Nat) (completed : Bool)
    (payload : Bytes) : Except Fault (BaseManager τ × ρ × Posted) :=
  if m._stopped then
    .ok (m, r, ⟨none, 0, seq, some errManagerClosed⟩)
  else
    match kind with
    | .sessionClose =>
      let (r, lastSeq, err) := doPostData sendData m r kind sid seq completed payload
      .ok ({ m with sessions := m.sessions.delete f sid }, r, ⟨none, sid, lastSeq, err⟩)
    | .exec | .attach | .logs | .portForward | .metricsCollect =>
      .ok (m, r, ⟨none, 0, seq, some (str "use PostStreamCmd to start stream session")⟩)
    | .ttyResize | .dataUpstream =>
      if sid = 0 then
        .ok (m, r, ⟨none, 0, seq, some (str "invalid zero sid")⟩)
      else
        let (r, lastSeq, err) := doPostData sendData m r kind sid seq completed payload
        .ok (m, r, ⟨none, sid, lastSeq, err⟩)
    | _ => postRecorded f sendData m r sid kind seq completed payload

def postCmd (m : BaseManager τ) (r : ρ) (sid : Nat) (kind : CmdType) (payload : Bytes) :
    Except Fault (BaseManager τ × ρ × Posted) :=
  postData f sendData m r sid kind 0 true payload

structure StreamPosted where
  msgCh : Option Nat
  streamReady : Option Nat
  realSID : Nat
  err : Option Bytes

-- The payload of `metricsCollect` is ignored.
def streamPayload (kind : CmdType) (payloadCmd : Option Bytes) : Except Bytes Bytes :=
  match kind with
  | .metricsCollect => .ok []
  | .exec | .attach | .logs | .portForward | .runtime =>
    match payloadCmd with
    | none => .error (str "invalid empty payload for stream operation")
    | some payload => .ok payload
  | _ => .error (str ("invalid non stream cmd \"" ++ kind.string ++ "\""))

def postStreamCmd (m : BaseManager τ) (r : ρ) (kind : CmdType) (payloadCmd : Option Bytes)
    (dataOut errOut : Option WriterRef) (keepPacket : Bool) (canWrite : Option Nat) :
    Except Fault (BaseManager τ × ρ × StreamPosted) :=
  if m._stopped then
    .ok (m, r, ⟨none, none, 0, some errManagerClosed⟩)
  else
    match streamPayload kind payloadCmd with
    | .error err => .ok (m, r, ⟨none, none, 0, some err⟩)
    | .ok payload =>
      match m.sessions.add f 0 true keepPacket with
      | .error e => .error e
      | .ok (sessions, realSID, msgCh) =>
        match sessions.setStream f realSID dataOut errOut canWrite with
        | (sessions, none) =>
          .ok ({ m with sessions := sessions.delete f realSID }, r,
            ⟨msgCh, none, realSID, some (str "failed to set session to stream mode")⟩)
        | (sessions, some streamReady) =>
          let (r, _, err) := doPostData sendData m r kind realSID 0 true payload
          let sessions := if err.isSome then sessions.delete f realSID else sessions
          .ok ({ m with sessions := sessions }, r, ⟨msgCh, some streamReady, realSID, err⟩)

def sessionCloseCmd (sid : Nat) : Bytes :=
  Wire.encodeUint 0x08 sid

def forwardGlobal (m : BaseManager τ) (msg : Msg) : Except Fault (BaseManager τ) :=
  match m.globalMsgChan.send msg with
  | .error e => .error e
  | .ok c => .ok { m with globalMsgChan := c }

-- Messages which do not belong to a session are global. A timeout also closes the session at the
-- other end.
def onRecvMsg (m : BaseManager τ) (r : ρ) (data : Bytes) : Except Fault (BaseManager τ × ρ) :=
  match Msg.unmarshal data with
  | none => .ok (m, r)
  | some msg =>
    if m._stopped then
      .ok (m, r)
    else
      match m.sessions.dispatch f msg with
      | .error e => .error e
      | .ok (sessions, dispatched) =>
        let m := { m with sessions := sessions }
        match if dispatched then .ok m else m.forwardGlobal msg with
        | .error e => .error e
        | .ok m =>
          if msg.getError.map ErrorMsg.kind = some .timeout then
            (postCmd f sendData m r 0 .sessionClose (sessionCloseCmd msg.sid)).map
              fun (m, r, _) => (m, r)
          else
            .ok (m, r)

inductive Call
  | onConnected (id : Bytes)
  | onDisconnected (id : Bytes) (all : Bool) (now : Nat)
  | onReject
  | onRecvMsg (data : Bytes)
  | postData (sid : Nat) (kind : CmdType) (seq : Nat) (completed : Bool) (payload : Bytes)
  | postStreamCmd (kind : CmdType) (payloadCmd : Option Bytes) (dataOut errOut : Option WriterRef)
    (keepPacket : Bool) (canWrite : Option Nat)
  | session (a : SessionManager.Action)
  | cancel
  | close

def step (s : BaseManager τ × ρ) : Call → Option (BaseManager τ × ρ)
  | .onConnected id => some (s.fst.onConnected id, s.snd)
  | .onDisconnected id all now => some (s.fst.onDisconnected f (fun r => (r, id, all)) now s.snd)
  | .onReject => some (s.fst.onReject (fun r => r) s.snd)
  | .onRecvMsg data => (s.fst.onRecvMsg f sendData s.snd data).toOption
  | .postData sid kind seq completed payload =>
    (s.fst.postData f sendData s.snd sid kind seq completed payload).toOption.map
      fun (m, r, _) => (m, r)
  | .postStreamCmd kind payloadCmd dataOut errOut keepPacket canWrite =>
    (s.fst.postStreamCmd f sendData s.snd kind payloadCmd dataOut errOut keepPacket canWrite).toOption.map
      fun (m, r, _) => (m, r)
  | .session a =>
    (s.fst.sessions.step f a).map fun sessions => ({ s.fst with sessions := sessions }, s.snd)
  | .cancel => some ({ s.fst with ctxDone := true }, s.snd)
  | .close => some (s.fst.onClose (fun r => r) s.snd)

end sendData

end BaseManager
end Aranya
