import Aranya.Lib.Chan
import Aranya.Proto.Message
import Aranya.Queue.SeqQueue

namespace Aranya

def errNotSupported : Bytes :=
  str "not supported"

-- It decides how much of the `k`-th write it accepts. A write without error makes progress.
structure Writer where
  written : Bytes
  calls : Nat
  accept : (k : Nat) → Bytes → Nat × Option Bytes
  bounded : ∀ k p, (accept k p).fst ≤ p.length
  progress : ∀ k p, p ≠ [] → (accept k p).snd = none → 0 < (accept k p).fst

namespace Writer

def buffer : Writer where
  written := []
  calls := 0
  accept _ p := (p.length, none)
  bounded _ _ := le_rfl
  progress _ _ h := fun _ => List.length_pos_of_ne_nil h

def write (w : Writer) (p : Bytes) : Writer × Nat × Option Bytes :=
  let (n, err) := w.accept w.calls p
  ({ w with written := w.written ++ p.take n, calls := w.calls + 1 }, n, err)

-- Every round makes progress, so the length of the data bounds the number of rounds.
def writeAll (w : Writer) (data : Bytes) : Writer × Option Bytes :=
  go data.length w data
where
  go : Nat → Writer → Bytes → Writer × Option Bytes
    | 0, w, _ => (w, none)
    | _ + 1, w, [] => (w, none)
    | k + 1, w, data =>
      match w.write data with
      | (w, _, some err) => (w, some err)
      | (w, n, none) => go k w (data.drop n)

-- The size is written only once.
def writePacket (w : Writer) (prependSize : Bool) (data : Bytes) : Writer × Option Bytes :=
  if prependSize then
    match w.write (Wire.encodeVarint data.length) with
    | (w, _, some err) => (w, some err)
    | (w, _, none) => w.writeAll data
  else
    w.writeAll data

end Writer

inductive WriterRef
  | discard
  | out (i : Nat)
  deriving DecidableEq, Repr

-- What sessions share with the rest of the program.
structure World where
  msgChs : Chans Msg
  signals : Chans Unit
  canWrite : Nat → Bool
  writers : Nat → Writer

def World.empty : World where
  msgChs := .empty
  signals := .empty
  canWrite _ := false
  writers _ := .buffer

def World.write (w : World) (r : WriterRef) (prependSize : Bool) (data : Bytes) : World × Option Bytes :=
  match r with
  | .discard => (w, none)
  | .out i =>
    let (x, err) := (w.writers i).writePacket prependSize data
    ({ w with writers := Function.update w.writers i x }, err)

structure Data where
  kind : MsgType
  payload : Bytes
  deriving DecidableEq, Repr

-- Pointers and channels which are initially (or after closing) `nil` are optional.
structure Session where
  epoch : Nat
  msgCh : Option Nat
  msgBuffer : Option Bytes
  seqQ : Option (SeqQueue Data Nat)
  dataOut : Option WriterRef
  errOut : Option WriterRef
  streamReady : Option Nat
  _streamReady : Bool
  canWrite : Option Nat
  _closed : Bool
  isStream : Bool
  prependSize : Bool

namespace Session

def new (epoch msgCh : Nat) (isStream keepPacket : Bool) : Session where
  epoch := epoch
  msgCh := msgCh
  msgBuffer := none
  seqQ := none
  dataOut := none
  errOut := none
  streamReady := none
  _streamReady := false
  canWrite := none
  _closed := false
  isStream := isStream
  prependSize := keepPacket

def setStream (s : Session) (dataOut errOut : Option WriterRef) (ready : Nat)
    (canWrite : Option Nat) : Option Session :=
  if s.streamReady.isSome then
    none
  else
    let dataOut := dataOut.getD .discard
    some { s with
      dataOut := dataOut
      errOut := errOut.getD dataOut
      streamReady := ready
      _streamReady := false
      canWrite := canWrite }

-- The first write tells that the stream is ready. If someone else has done so before, it is discarded.
def notifyReady (s : Session) (w : World) : Except Fault (Session × World × Bool) :=
  if s._streamReady then
    .ok (s, w, false)
  else
    match s.streamReady with
    | none => .error .closeOfNilChannel
    | some c =>
      if (w.signals.chan c).closed then
        .ok ({ s with _streamReady := true }, w, true)
      else
        .ok ({ s with _streamReady := true }, { w with signals := w.signals.close c }, false)

def target (s : Session) (kind : MsgType) : Option WriterRef :=
  if kind = .dataStderr then s.errOut else s.dataOut

def writeTarget (s : Session) (w : World) (kind : MsgType) (data : Bytes) :
    Except Fault (Session × World × Option Bytes) :=
  if !s.prependSize && data.isEmpty then
    .ok (s, w, none)
  else
    match s.target kind with
    | none => .error .nilDereference
    | some r =>
      let (w, err) := w.write r s.prependSize data
      .ok (s, w, err)

def writeToStream (s : Session) (w : World) (kind : MsgType) (data : Bytes) :
    Except Fault (Session × World × Option Bytes) :=
  if !s.isStream then
    .ok (s, w, some errNotSupported)
  else
    match s.notifyReady w with
    | .error f => .error f
    | .ok (s, w, true) => .ok (s, w, some errNotSupported)
    | .ok (s, w, false) =>
      match s.canWrite with
      | none => s.writeTarget w kind data
      | some g =>
        if w.canWrite g then s.writeTarget w kind data
        else if s._closed then .ok (s, w, none)
        else .error .blocked

def sendMsg (s : Session) (w : World) (msg : Msg) : Except Fault World :=
  if s._closed then
    .ok w
  else
    match s.msgCh with
    | none => .error .blocked
    | some c =>
      match w.msgChs.send c msg with
      | .error f => .error f
      | .ok h => .ok { w with msgChs := h }

def errorMsg (sid : Nat) (kind : ErrorMsg.Kind) (description : Bytes) : Msg where
  kind := .error
  sid := sid
  seq := 0
  complete := true
  payload := ErrorMsg.marshal { kind := kind, description := description, code := 0 }

def writeData (s : Session) (w : World) (sid : Nat) (d : Data) : Except Fault (Session × World) :=
  match s.writeToStream w d.kind d.payload with
  | .error f => .error f
  | .ok (s, w, none) => .ok (s, w)
  | .ok (s, w, some err) =>
    match s.sendMsg w (errorMsg sid .common err) with
    | .error f => .error f
    | .ok w => .ok (s, w)

-- The callback of the sequence queue. It captures the session id of the first chunk.
def handleData (sid : Nat) (s : Session) (w : World) (d : Data) : Except Fault (Session × World) :=
  if d.kind.isData then
    s.writeData w sid d
  else
    match s.msgBuffer with
    | none => .error .nilDereference
    | some b => .ok ({ s with msgBuffer := some (b ++ d.payload) }, w)

def handleAll (sid : Nat) : Session → World → List Data → Except Fault (Session × World)
  | s, w, [] => .ok (s, w)
  | s, w, d :: ds =>
    match handleData sid s w d with
    | .error f => .error f
    | .ok (s, w) => handleAll sid s w ds

def releaseReady (s : Session) (w : World) : World :=
  if s._streamReady then
    w
  else
    match s.streamReady with
    | none => w
    | some c => if (w.signals.chan c).closed then w else { w with signals := w.signals.close c }

def closeMsgCh (s : Session) (w : World) : World :=
  match s.msgCh with
  | none => w
  | some c => { w with msgChs := w.msgChs.close c }

def close (s : Session) (w : World) : Session × World :=
  if s._closed then
    (s, w)
  else
    ({ s with
      _closed := true
      _streamReady := true
      msgBuffer := none
      dataOut := none
      errOut := none
      seqQ := none
      msgCh := none }, s.closeMsgCh (s.releaseReady w))

def flush (s : Session) (w : World) (msg : Msg) : Except Fault World :=
  match s.msgBuffer with
  | none => .ok w
  | some b =>
    match s.msgCh with
    | none => .error .blocked
    | some c =>
      match w.msgChs.send c { msg with seq := 0, complete := true, payload := b } with
      | .error f => .error f
      | .ok h => .ok { w with msgChs := h }

def deliverWhole (s : Session) (w : World) (msg : Msg) : Except Fault (Session × World × Bool × Bool) :=
  if msg.kind.isData then
    match s.writeData w msg.sid { kind := msg.kind, payload := msg.payload } with
    | .error f => .error f
    | .ok (s, w) => .ok ((s.close w).fst, (s.close w).snd, true, true)
  else
    match s.sendMsg w msg with
    | .error f => .error f
    | .ok w => .ok ((s.close w).fst, (s.close w).snd, true, true)

def enqueue (s : Session) (msg : Msg) : SeqQueue Data Nat × List Data × Bool :=
  let q := s.seqQ.getD (.new msg.sid)
  let q := if msg.complete then (q.setMaxSeq msg.seq).fst else q
  q.offer msg.seq { kind := msg.kind, payload := msg.payload }

def deliverChunk (s : Session) (w : World) (msg : Msg) : Except Fault (Session × World × Bool × Bool) :=
  let (q, handed, complete) := s.enqueue msg
  let s := { s with msgBuffer := some (s.msgBuffer.getD []), seqQ := some q }
  match handleAll q.handleData s w handed with
  | .error f => .error f
  | .ok (s, w) =>
    if !complete then
      .ok (s, w, true, false)
    else
      match (s.close w).fst.flush (s.close w).snd msg with
      | .error f => .error f
      | .ok w' => .ok ((s.close w).fst, w', true, true)

def deliverMsg (s : Session) (w : World) (msg : Msg) : Except Fault (Session × World × Bool × Bool) :=
  if s._closed then
    .ok (s, w, false, true)
  else if msg.seq = 0 ∧ msg.complete then
    s.deliverWhole w msg
  else
    s.deliverChunk w msg

end Session
end Aranya
