import Mathlib.Data.List.Perm.Basic
import Aranya.Connectivity.Handler
import Aranya.Connectivity.Manager

namespace Aranya.Peripheral

open Std (ExtTreeMap)

-- Apart from its name, a command is only encoded and sent to the device.
structure PeripheralEnsureCmd where
  name : Bytes
  marshal : Bytes
  deriving DecidableEq, Repr

-- The commands under their names. The controller does not configure them in any other way.
structure Cmds where
  map : ExtTreeMap Bytes PeripheralEnsureCmd
  named : ∀ {name : Bytes} {d : PeripheralEnsureCmd}, map[name]? = some d → d.name = name

namespace Cmds

def empty : Cmds where
  map := ∅
  named := by simp

def set (c : Cmds) (d : PeripheralEnsureCmd) : Cmds where
  map := c.map.insert d.name d
  named := by
    intro name e h
    rw [ExtTreeMap.getElem?_insert] at h
    split at h
    case isTrue hn => cases h; simpa using hn
    case isFalse hn => exact c.named h

def cmds (c : Cmds) : List PeripheralEnsureCmd :=
  c.map.toList.map Prod.snd

end Cmds

structure Options where
  metricsReporters : Cmds
  peripherals : Cmds

-- The error, the messages on the channel of a command, and whether it is closed after them. A channel that
-- is `nil` has no messages and is never closed.
structure Answer where
  err : Option Bytes
  msgs : List Msg
  closes : Bool

-- The entries that are connected are collected as well, but this is not used.
structure Listed where
  devicesToRemove : Finset Bytes
  failedPeripherals : Cmds
  failedMRs : Cmds
  err : Option ErrorMsg

namespace Listed

def empty : Listed where
  devicesToRemove := ∅
  failedPeripherals := .empty
  failedMRs := .empty
  err := none

def classify (configured failed : Cmds) (devicesToRemove : Finset Bytes) (ds : PeripheralStatusMsg) :
    Cmds × Finset Bytes :=
  match configured.map[ds.name]? with
  | some d => (if ds.name = d.name ∧ ds.state = .connected then failed else failed.set d, devicesToRemove)
  | none => (failed, insert ds.name devicesToRemove)

def onEntry (options : Options) (s : Listed) (ds : PeripheralStatusMsg) : Listed :=
  match ds.kind with
  | .normal =>
    let (failed, remove) := classify options.peripherals s.failedPeripherals s.devicesToRemove ds
    { s with failedPeripherals := failed, devicesToRemove := remove }
  | .metricsReporter =>
    let (failed, remove) := classify options.metricsReporters s.failedMRs s.devicesToRemove ds
    { s with failedMRs := failed, devicesToRemove := remove }
  | .other _ => { s with devicesToRemove := insert ds.name s.devicesToRemove }

def onMsg (options : Options) (s : Listed) (msg : Msg) : Listed × Bool :=
  match msg.getError with
  | some err => ({ s with err := some err }, true)
  | none =>
    match msg.getPeripheralStatusList with
    | none => (s, true)
    | some sl => (sl.foldl (onEntry options) s, false)

end Listed

-- There is no result if nothing is ensured or removed before the next connection.
def listPeripherals (options : Options) (a : Answer) : Option Listed :=
  if a.err.isSome ∨ !a.closes then
    none
  else
    let s := handleMessages (Listed.onMsg options) .empty a.msgs
    if s.err.isSome then none else some s

def removePeripherals (peripheralsToRemove : Finset Bytes) (a : Answer) : Option (Finset Bytes) :=
  if peripheralsToRemove = ∅ ∨ a.err.isSome then
    some peripheralsToRemove
  else if !a.closes then
    none
  else
    some <| handleMessages onMsg peripheralsToRemove a.msgs
where
  onMsg (peripherals : Finset Bytes) (msg : Msg) : Finset Bytes × Bool :=
    if msg.getError.isSome then
      (peripherals, true)
    else
      match msg.getPeripheralStatusList with
      | none => (peripherals, true)
      | some dsl => (dsl.foldl (fun peripherals ds => peripherals.erase ds.name) peripherals, false)

section Ensure

variable (failedPeripherals : Cmds)

-- The command of that name is always there, as `d` is one of the failed peripherals.
def retry (nextRound : Cmds) (d : PeripheralEnsureCmd) : Cmds :=
  match failedPeripherals.map[d.name]? with
  | some e => nextRound.set e
  | none => nextRound

def onEnsureMsg (d : PeripheralEnsureCmd) (nextRound : Cmds) (msg : Msg) : Cmds × Bool :=
  match msg.getError with
  | some _ => (retry failedPeripherals nextRound d, true)
  | none =>
    match msg.getPeripheralStatus with
    | none => (retry failedPeripherals nextRound d, true)
    | some status =>
      if status.state = .connected then
        (nextRound, false)
      else
        (retry failedPeripherals nextRound d, false)

-- The messages are handled even if the command has not been posted.
def ensurePeripheral (answers : PeripheralEnsureCmd → Answer) (nextRound : Cmds) (d : PeripheralEnsureCmd) :
    Option Cmds :=
  let a := answers d
  let nextRound := if a.err.isSome then retry failedPeripherals nextRound d else nextRound
  let nextRound := handleMessages (onEnsureMsg failedPeripherals d) nextRound a.msgs
  if a.closes then some nextRound else none

-- Here `devs` are the failed peripherals in the order of the iteration. There is no result if this waits
-- forever for a channel to be closed.
def ensurePeripherals (answers : PeripheralEnsureCmd → Answer) (devs : List PeripheralEnsureCmd) : Option Cmds :=
  if failedPeripherals.map.isEmpty then
    some .empty
  else
    devs.foldlM (ensurePeripheral failedPeripherals answers) .empty

end Ensure

-- What the device has reported to be connected so far is recorded. When `stuck` is set, the routine which
-- ensures peripherals waits forever.
structure Connection where
  failedMRs : Cmds
  failedPeripherals : Cmds
  devicesToRemove : Finset Bytes
  stuck : Bool
  reported : Finset (PeripheralType × Bytes)

namespace Connection

def entries (msgs : List Msg) : List PeripheralStatusMsg :=
  msgs.flatMap fun msg => msg.getPeripheralStatusList.getD []

def replies (devs : List PeripheralEnsureCmd) (answers : PeripheralEnsureCmd → Answer) :
    List PeripheralStatusMsg :=
  devs.flatMap fun d => (answers d).msgs.filterMap Msg.getPeripheralStatus

def reports (statuses : List PeripheralStatusMsg) : Finset (PeripheralType × Bytes) :=
  (statuses.filter (·.state = .connected)).map (fun ds => (ds.kind, ds.name)) |>.toFinset

def start (options : Options) (a : Answer) : Option Connection :=
  (listPeripherals options a).map fun s => {
    failedMRs := s.failedMRs
    failedPeripherals := s.failedPeripherals
    devicesToRemove := s.devicesToRemove
    stuck := false
    reported := reports (entries a.msgs) }

def failed (s : Connection) : PeripheralType → Cmds
  | .normal => s.failedPeripherals
  | .metricsReporter => s.failedMRs
  | .other _ => .empty

def setFailed (s : Connection) (kind : PeripheralType) (failed : Cmds) : Connection :=
  match kind with
  | .normal => { s with failedPeripherals := failed }
  | .metricsReporter => { s with failedMRs := failed }
  | .other _ => s

def turn (s : Connection) : Option PeripheralType :=
  if !s.failedMRs.map.isEmpty then some .metricsReporter
  else if !s.failedPeripherals.map.isEmpty then some .normal
  else none

def ensure (s : Connection) (kind : PeripheralType) (devs : List PeripheralEnsureCmd)
    (answers : PeripheralEnsureCmd → Answer) : Connection :=
  let s := { s with reported := s.reported ∪ reports (replies devs answers) }
  match ensurePeripherals (s.failed kind) answers devs with
  | none => { s with stuck := true }
  | some failed => s.setFailed kind failed

inductive Action
  | ensure (devs : List PeripheralEnsureCmd) (answers : PeripheralEnsureCmd → Answer)
  | remove (answer : Answer)

-- One round of one of the two routines, of which each ends when there is nothing left to do.
def step (s : Connection) : Action → Option Connection
  | .ensure devs answers =>
    match s.turn with
    | none => none
    | some kind =>
      if s.stuck ∨ ¬devs.Perm (s.failed kind).cmds then none else some (s.ensure kind devs answers)
  | .remove answer =>
    if s.devicesToRemove = ∅ then
      none
    else
      (removePeripherals s.devicesToRemove answer).map fun remove => { s with devicesToRemove := remove }

end Connection
end Aranya.Peripheral
