import Aranya.Pod.Upload

namespace Aranya.Pod

structure TerminalSize where
  width : UInt16
  height : UInt16
  deriving DecidableEq, Repr

def terminalResizeCmd (size : TerminalSize) : Bytes :=
  Wire.encodeUint 0x08 size.width.toNat ++ Wire.encodeUint 0x10 size.height.toNat

def terminalResizePacket (size : TerminalSize) : Bytes :=
  Wire.encodeUint 0x08 5 ++ Wire.encodeBytes 0x12 (terminalResizeCmd size)

-- When the deadline of a tty is exceeded, the data that has been read is posted, even if there is none.
inductive TtyReadError
  | deadlineExceeded
  | other (err : ReadError)
  deriving DecidableEq, Repr

def TtyReadError.readError : TtyReadError → Option ReadError
  | deadlineExceeded => none
  | other err => some err

inductive Terminal.Resizing
  | waiting
  | running
  | returned
  deriving DecidableEq, Repr

inductive Terminal.Serving
  | handling
  | closing
  | returned
  deriving DecidableEq, Repr

-- The connectivity manager is part of `input`, and the routine that reads the input is an upload.
structure Terminal (τ ρ : Type*) where
  input : Uploading τ ρ
  kind : CmdType
  tty : Bool
  msgCh : Option Nat
  streamReady : Option Nat
  ctxDone : Bool
  resizing : Terminal.Resizing
  serving : Terminal.Serving

namespace Terminal

variable {τ ρ : Type*} (f : TimedSessionFuncs τ)
    (sendData : ρ → (data : Bytes) → (ensure : Bool) → ρ × Option Bytes)

def mgr (s : Terminal τ ρ) : BaseManager τ :=
  s.input.mgr

def sid (s : Terminal τ ρ) : Nat :=
  s.input.upload.sid

def withManager (s : Terminal τ ρ) (mgr : BaseManager τ) (net : ρ) : Terminal τ ρ :=
  { s with input := { s.input with mgr := mgr, net := net } }

-- There is no routine for an input that does not exist, nor for the sizes of a terminal that is not a tty.
def start (mgr : BaseManager τ) (net : ρ) (kind : CmdType) (p : BaseManager.StreamPosted)
    (stdin tty : Bool) : Terminal τ ρ :=
  let input := Uploading.start mgr net .terminal p.realSID
  { input := if stdin then input else { input with upload := { input.upload with phase := .returned } }
    kind := kind
    tty := tty
    msgCh := p.msgCh
    streamReady := p.streamReady
    ctxDone := false
    resizing := if tty then .waiting else .returned
    serving := .handling }

-- Either fails, or starts the routines of the terminal.
def doServeTerminalStream (m : BaseManager τ) (r : ρ) (kind : CmdType) (initialCmd : Option Bytes)
    (stdin : Bool) (stdout stderr : Option WriterRef) (tty : Bool) :
    Except Fault ((BaseManager τ × ρ × Bytes) ⊕ Terminal τ ρ) :=
  match stdout with
  | none => .ok <| .inl (m, r, str "output should not be nil")
  | some stdout =>
    match m.postStreamCmd f sendData r kind initialCmd (some stdout) stderr false none with
    | .error e => .error e
    | .ok (m, r, p) =>
      match p.err with
      | some err => .ok <| .inl (m, r, err)
      | none => .ok <| .inr (start m r kind p stdin tty)

def resizeCmdKind (s : Terminal τ ρ) : CmdType :=
  if s.kind ≠ .runtime then .ttyResize else s.kind

def resizeCmd (s : Terminal τ ρ) (size : TerminalSize) : Bytes :=
  if s.resizeCmdKind = .runtime then terminalResizePacket size else terminalResizeCmd size

-- An error is only logged.
def postResize (s : Terminal τ ρ) (size : TerminalSize) : Option (Terminal τ ρ) :=
  match s.mgr.postCmd f sendData s.input.net s.sid s.resizeCmdKind (s.resizeCmd size) with
  | .error _ => none
  | .ok (mgr, net, _) => some (s.withManager mgr net)

def stepInput (s : Terminal τ ρ) (a : Uploading.Action τ ρ) : Option (Terminal τ ρ) :=
  (s.input.step f sendData a).map fun input => { s with input := input }

def ready (s : Terminal τ ρ) : Bool :=
  s.streamReady.any fun c => (s.mgr.sessions.world.signals.chan c).closed

def drained (s : Terminal τ ρ) : Bool :=
  s.msgCh.any fun c =>
    let ch := s.mgr.sessions.world.msgChs.chan c
    ch.closed && ch.sent.length ≤ ch.taken

-- Meanwhile anything can happen to the connectivity manager.
inductive Action
  | resizeReady
  | resizeCanceled
  | resizeClosed
  | resize (size : TerminalSize)
  | inputReady
  | inputCanceled
  | read (data : Bytes) (err : Option ReadError)
  | readTty (data : Bytes) (err : Option TtyReadError)
  | noData
  | post
  | close
  | canceled
  | handled
  | finish
  | other (c : BaseManager.Call)

def step (s : Terminal τ ρ) : Action → Option (Terminal τ ρ)
  | .resizeReady =>
    if s.resizing = .waiting ∧ s.ready then some { s with resizing := .running } else none
  | .resizeCanceled =>
    if s.resizing ≠ .returned ∧ s.ctxDone then some { s with resizing := .returned } else none
  | .resizeClosed =>
    if s.resizing = .running then some { s with resizing := .returned } else none
  | .resize size =>
    if s.resizing = .running then s.postResize f sendData size else none
  | .inputReady => if s.ready then s.stepInput f sendData .ready else none
  | .inputCanceled => if s.ctxDone then s.stepInput f sendData .canceled else none
  | .read data err => if s.tty then none else s.stepInput f sendData (.read data err)
  | .readTty data err =>
    if s.tty then s.stepInput f sendData (.read data (err.bind TtyReadError.readError)) else none
  | .noData =>
    -- a tty is not waited for any longer
    if s.tty ∧ s.input.upload.phase = .reading then
      some { s with input := { s.input with upload := { s.input.upload with phase := .closing } } }
    else
      none
  | .post => s.stepInput f sendData .post
  | .close => s.stepInput f sendData .close
  | .canceled => some { s with ctxDone := true }
  | .handled =>
    if s.serving = .handling ∧ s.drained then some { s with ctxDone := true, serving := .closing } else none
  | .finish =>
    if s.serving = .closing then
      match s.mgr.postCmd f sendData s.input.net s.sid .sessionClose (BaseManager.sessionCloseCmd s.sid) with
      | .error _ => none
      | .ok (mgr, net, _) => some { s.withManager mgr net with serving := .returned }
    else
      none
  | .other c =>
    (BaseManager.step f sendData (s.mgr, s.input.net) c).map fun (mgr, net) => s.withManager mgr net

end Terminal
end Aranya.Pod
