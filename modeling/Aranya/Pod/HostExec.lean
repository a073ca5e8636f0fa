import Aranya.Connectivity.Handler
import Aranya.Proto.Runtime

namespace Aranya.Pod

open Std (ExtTreeMap)

def virtualImageNameHostExec : Bytes :=
  str "virtualimage.arhat.dev/hostexec"

def defaultExitCodeOnError : Int :=
  128

inductive ExecFailure
  | device (e : ErrorMsg)
  | other (text : Bytes)
  deriving DecidableEq, Repr

def onTerminalMsg (err : Option ExecFailure) (msg : Msg) : Option ExecFailure × Bool :=
  ((msg.getError.map .device).or err, true)

def doServeTerminalStream : Except Bytes (List Msg) → Option ExecFailure
  | .error text => some (.other text)
  | .ok msgs => handleMessages onTerminalMsg none msgs

structure Host where
  logFiles : Option Bytes
  exec : (container arg : Nat) → Option ExecFailure
  createdAt : (container : Nat) → Int
  finishedAt : (container : Nat) → Int

def toInt32 (n : Nat) : Int :=
  (BitVec.ofNat 32 n).toInt

def exitCode : Option ExecFailure → Int
  | none => 0
  | some (.device e) => toInt32 e.code
  | some (.other _) => defaultExitCodeOnError

def execReason : Option ExecFailure → Bytes
  | none => []
  | some (.device e) => e.description
  | some (.other text) => text

-- The start of a container is not recorded, only when it was created.
def execStatus (h : Host) (container : Nat) (err : Option ExecFailure) : Runtime.ContainerStatus where
  containerId := []
  imageId := []
  createdAt := h.createdAt container
  startedAt := h.createdAt container
  finishedAt := h.finishedAt container
  exitCode := exitCode err
  reason := execReason err
  message := if err.isSome then str "CommandExecFailed" else []

def execArgs (h : Host) (container : Nat) (command : List Bytes) :
    Nat → List Bytes → List (List Bytes) × Option ExecFailure
  | _, [] => ([], none)
  | i, arg :: args =>
    match h.exec container i with
    | some e => ([command ++ [arg]], some e)
    | none =>
      let (commands, err) := execArgs h container command (i + 1) args
      ((command ++ [arg]) :: commands, err)

def execContainers (h : Host) : Nat → ExtTreeMap Bytes (Option Runtime.ContainerStatus) →
    List Runtime.ContainerSpec → List (List Bytes) × ExtTreeMap Bytes (Option Runtime.ContainerStatus)
  | _, status, [] => ([], status)
  | i, status, ctr :: cs =>
    let (commands, err) := execArgs h i ctr.command 0 ctr.args
    let status := status.insert ctr.name (some (execStatus h i err))
    match err with
    | some _ => (commands, status)
    | none =>
      let (commands', status) := execContainers h (i + 1) status cs
      (commands ++ commands', status)

-- There is only an error if no command has been executed.
def handleContainerAsHostExec (h : Host) (opts : Runtime.PodEnsureCmd) :
    Except Bytes (List (List Bytes) × Runtime.PodStatusMsg) :=
  if opts.podUid = [] ∨ opts.ns = [] ∨ opts.name = [] then
    .error (str "invalid options: pod uid should not be empty")
  else
    match h.logFiles with
    | some e => .error e
    | none =>
      let (commands, status) := execContainers h 0 ∅ opts.containers
      .ok (commands, { uid := opts.podUid, network := some [], containers := status })

end Aranya.Pod
