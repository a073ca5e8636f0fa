import Aranya.Proto.Wire

namespace Aranya

open Wire

inductive MsgType
  | data
  | dataStderr
  | done
  | state
  | error
  | net
  | runtime
  | nodeStatus
  | credStatus
  | storageStatus
  | storageStatusList
  | peripheralStatus
  | peripheralStatusList
  | peripheralOperationResult
  | unknown (n : Nat)
  deriving DecidableEq, Repr

namespace MsgType

-- Enumerations are open: an agent may send any 32 bit number.
def toNat : MsgType → Nat
  | data => 0
  | dataStderr => 1
  | done => 5
  | state => 6
  | error => 7
  | net => 9
  | runtime => 10
  | nodeStatus => 11
  | credStatus => 31
  | storageStatus => 41
  | storageStatusList => 42
  | peripheralStatus => 51
  | peripheralStatusList => 52
  | peripheralOperationResult => 53
  | unknown n => n

def ofNat : Nat → MsgType
  | 0 => data
  | 1 => dataStderr
  | 5 => done
  | 6 => state
  | 7 => error
  | 9 => net
  | 10 => runtime
  | 11 => nodeStatus
  | 31 => credStatus
  | 41 => storageStatus
  | 42 => storageStatusList
  | 51 => peripheralStatus
  | 52 => peripheralStatusList
  | 53 => peripheralOperationResult
  | n => unknown n

-- The kinds which carry stream data. All other kinds carry (chunks of) an encoded message.
def isData : MsgType → Bool
  | data | dataStderr => true
  | _ => false

end MsgType

inductive CmdType
  | dataUpstream
  | sessionClose
  | reject
  | net
  | runtime
  | nodeInfoGet
  | exec
  | attach
  | logs
  | ttyResize
  | portForward
  | metricsConfig
  | metricsCollect
  | credEnsure
  | storageList
  | storageEnsure
  | storageDelete
  | peripheralList
  | peripheralEnsure
  | peripheralDelete
  | peripheralOperate
  | peripheralCollectMetrics
  deriving DecidableEq, Repr

def CmdType.toNat : CmdType → Nat
  | dataUpstream => 0
  | sessionClose => 5
  | reject => 6
  | net => 9
  | runtime => 10
  | nodeInfoGet => 11
  | exec => 12
  | attach => 13
  | logs => 14
  | ttyResize => 15
  | portForward => 16
  | metricsConfig => 21
  | metricsCollect => 22
  | credEnsure => 31
  | storageList => 41
  | storageEnsure => 42
  | storageDelete => 43
  | peripheralList => 51
  | peripheralEnsure => 52
  | peripheralDelete => 53
  | peripheralOperate => 54
  | peripheralCollectMetrics => 55

def CmdType.string : CmdType → String
  | dataUpstream => "CMD_DATA_UPSTREAM"
  | sessionClose => "CMD_SESSION_CLOSE"
  | reject => "CMD_REJECT"
  | net => "CMD_NET"
  | runtime => "CMD_RUNTIME"
  | nodeInfoGet => "CMD_NODE_INFO_GET"
  | exec => "CMD_EXEC"
  | attach => "CMD_ATTACH"
  | logs => "CMD_LOGS"
  | ttyResize => "CMD_TTY_RESIZE"
  | portForward => "CMD_PORT_FORWARD"
  | metricsConfig => "CMD_METRICS_CONFIG"
  | metricsCollect => "CMD_METRICS_COLLECT"
  | credEnsure => "CMD_CRED_ENSURE"
  | storageList => "CMD_STORAGE_LIST"
  | storageEnsure => "CMD_STORAGE_ENSURE"
  | storageDelete => "CMD_STORAGE_DELETE"
  | peripheralList => "CMD_PERIPHERAL_LIST"
  | peripheralEnsure => "CMD_PERIPHERAL_ENSURE"
  | peripheralDelete => "CMD_PERIPHERAL_DELETE"
  | peripheralOperate => "CMD_PERIPHERAL_OPERATE"
  | peripheralCollectMetrics => "CMD_PERIPHERAL_COLLECT_METRICS"

@[ext]
structure Cmd where
  kind : CmdType
  sid : Nat
  seq : Nat
  complete : Bool
  payload : Bytes
  deriving DecidableEq, Repr

def Cmd.marshal (c : Cmd) : Bytes :=
  encodeUint 0x08 c.kind.toNat ++ encodeUint 0x10 c.sid ++ encodeUint 0x18 c.seq ++
  encodeBool 0x20 c.complete ++ encodeBytes 0x5a c.payload

-- The source computes it from a command of kind `math.MaxInt32` without payload.
def emptyCmdSize : Nat :=
  (encodeUint 0x08 (2 ^ 31 - 1) ++ encodeUint 0x10 maxUint64 ++ encodeUint 0x18 maxUint64 ++
   encodeBool 0x20 true).length

@[ext]
structure Msg where
  kind : MsgType
  sid : Nat
  seq : Nat
  complete : Bool
  payload : Bytes
  deriving DecidableEq, Repr

inductive ErrorMsg.Kind
  | common
  | notFound
  | alreadyExists
  | notSupported
  | timeout
  | unknown (n : Nat)
  deriving DecidableEq, Repr

namespace ErrorMsg.Kind

def toNat : Kind → Nat
  | common => 0
  | notFound => 1
  | alreadyExists => 2
  | notSupported => 3
  | timeout => 4
  | unknown n => n

def ofNat : Nat → Kind
  | 0 => common
  | 1 => notFound
  | 2 => alreadyExists
  | 3 => notSupported
  | 4 => timeout
  | n => unknown n

end ErrorMsg.Kind

structure ErrorMsg where
  kind : ErrorMsg.Kind
  description : Bytes
  code : Nat
  deriving DecidableEq, Repr

namespace ErrorMsg

def marshal (e : ErrorMsg) : Bytes :=
  encodeUint 0x08 e.kind.toNat ++ encodeBytes 0x12 e.description ++ encodeUint 0x18 e.code

def schema : Nat → Option Wire.Kind
  | 1 | 3 => some .uint
  | 2 => some .bytes
  | _ => none

def unmarshal (dAtA : Bytes) : Option ErrorMsg :=
  (decode schema dAtA).map <| List.foldl set { kind := .common, description := [], code := 0 }
where
  set (e : ErrorMsg) : Nat × Value → ErrorMsg
    | (1, .uint v) => { e with kind := .ofNat (v % 2 ^ 32) }
    | (2, .bytes b) => { e with description := b }
    | (3, .uint v) => { e with code := v }
    | _ => e

end ErrorMsg

inductive StateMsg.Kind
  | online
  | offline
  | other (n : Nat)
  deriving DecidableEq, Repr

namespace StateMsg.Kind

def toNat : Kind → Nat
  | online => 1
  | offline => 2
  | other n => n

def ofNat : Nat → Kind
  | 1 => online
  | 2 => offline
  | n => other n

end StateMsg.Kind

structure StateMsg where
  kind : StateMsg.Kind
  deviceId : Bytes
  deriving DecidableEq, Repr

namespace StateMsg

def marshal (s : StateMsg) : Bytes :=
  encodeUint 0x08 s.kind.toNat ++ encodeBytes 0x12 s.deviceId

def schema : Nat → Option Wire.Kind
  | 1 => some .uint
  | 2 => some .bytes
  | _ => none

def unmarshal (dAtA : Bytes) : Option StateMsg :=
  (decode schema dAtA).map <| List.foldl set { kind := .other 0, deviceId := [] }
where
  set (s : StateMsg) : Nat × Value → StateMsg
    | (1, .uint v) => { s with kind := .ofNat (v % 2 ^ 32) }
    | (2, .bytes b) => { s with deviceId := b }
    | _ => s

end StateMsg

namespace Msg

def marshal (m : Msg) : Bytes :=
  encodeUint 0x08 m.kind.toNat ++ encodeUint 0x10 m.sid ++ encodeUint 0x18 m.seq ++
  encodeBool 0x20 m.complete ++ encodeBytes 0x5a m.payload

def schema : Nat → Option Wire.Kind
  | 1 | 2 | 3 | 4 => some .uint
  | 11 => some .bytes
  | _ => none

def unmarshal (dAtA : Bytes) : Option Msg :=
  (decode schema dAtA).map <| List.foldl set
    { kind := .data, sid := 0, seq := 0, complete := false, payload := [] }
where
  set (m : Msg) : Nat × Value → Msg
    | (1, .uint v) => { m with kind := .ofNat (v % 2 ^ 32) }
    | (2, .uint v) => { m with sid := v }
    | (3, .uint v) => { m with seq := v }
    | (4, .uint v) => { m with complete := v != 0 }
    | (11, .bytes b) => { m with payload := b }
    | _ => m

def getState (m : Msg) : Option StateMsg :=
  if m.kind = .state then StateMsg.unmarshal m.payload else none

theorem kind_of_getState {m : Msg} {s : StateMsg} (h : m.getState = some s) : m.kind = .state := by
  simp only [getState] at h
  split at h
  case isTrue hk => exact hk
  case isFalse => cases h

-- A common error without description counts as no error.
def getError (m : Msg) : Option ErrorMsg :=
  if m.kind = .error then
    (ErrorMsg.unmarshal m.payload).filter fun e => e.kind ≠ .common ∨ e.description ≠ []
  else
    none

end Msg

inductive PeripheralType
  | normal
  | metricsReporter
  | other (n : Nat)
  deriving DecidableEq, Repr

def PeripheralType.ofNat : Nat → PeripheralType
  | 1 => normal
  | 2 => metricsReporter
  | n => other n

inductive PeripheralState
  | unknown
  | created
  | connected
  | errored
  | removed
  | other (n : Nat)
  deriving DecidableEq, Repr

def PeripheralState.ofNat : Nat → PeripheralState
  | 0 => unknown
  | 1 => created
  | 2 => connected
  | 3 => errored
  | 4 => removed
  | n => other n

structure PeripheralStatusMsg where
  kind : PeripheralType
  name : Bytes
  state : PeripheralState
  deriving DecidableEq, Repr

namespace PeripheralStatusMsg

-- The description of the state is the field 4.
def schema : Nat → Option Wire.Kind
  | 1 | 3 => some .uint
  | 2 | 4 => some .bytes
  | _ => none

def unmarshal (dAtA : Bytes) : Option PeripheralStatusMsg :=
  (decode schema dAtA).map <| List.foldl set { kind := .other 0, name := [], state := .unknown }
where
  set (s : PeripheralStatusMsg) : Nat × Value → PeripheralStatusMsg
    | (1, .uint v) => { s with kind := .ofNat (v % 2 ^ 32) }
    | (2, .bytes b) => { s with name := b }
    | (3, .uint v) => { s with state := .ofNat (v % 2 ^ 32) }
    | _ => s

end PeripheralStatusMsg

namespace PeripheralStatusListMsg

def schema : Nat → Option Wire.Kind
  | 1 => some .bytes
  | _ => none

-- The only field of the list are its entries, each of which has to be decoded.
def unmarshal (dAtA : Bytes) : Option (List PeripheralStatusMsg) :=
  (decode schema dAtA).bind <| List.mapM entry
where
  entry : Nat × Value → Option PeripheralStatusMsg
    | (_, .bytes b) => PeripheralStatusMsg.unmarshal b
    | (_, .uint _) => none

end PeripheralStatusListMsg

namespace Msg

def getPeripheralStatus (m : Msg) : Option PeripheralStatusMsg :=
  if m.kind = .peripheralStatus then PeripheralStatusMsg.unmarshal m.payload else none

def getPeripheralStatusList (m : Msg) : Option (List PeripheralStatusMsg) :=
  if m.kind = .peripheralStatusList then PeripheralStatusListMsg.unmarshal m.payload else none

end Msg

namespace Node

-- Enumerations are open: a device may send any number.
inductive Condition
  | healthy
  | unhealthy
  | other (n : Int)
  deriving DecidableEq, Repr

structure Conditions where
  ready : Condition
  memory : Condition
  disk : Condition
  pid : Condition
  network : Condition
  deriving DecidableEq, Repr

structure SystemInfo where
  os : Bytes
  osImage : Bytes
  arch : Bytes
  kernelVersion : Bytes
  bootId : Bytes
  machineId : Bytes
  systemUuid : Bytes
  deriving DecidableEq, Repr

structure Resources where
  cpuCount : Nat
  memoryBytes : Nat
  storageBytes : Nat
  deriving DecidableEq, Repr

inductive ExtInfo.ValueType
  | string
  | number
  | other (n : Int)
  deriving DecidableEq, Repr

inductive ExtInfo.Operator
  | set
  | add
  | minus
  | other (n : Int)
  deriving DecidableEq, Repr

inductive ExtInfo.Target
  | annotations
  | labels
  | other (n : Int)
  deriving DecidableEq, Repr

def ExtInfo.ValueType.text : ExtInfo.ValueType → Bytes
  | string => str "NODE_EXT_INFO_TYPE_STRING"
  | number => str "NODE_EXT_INFO_TYPE_NUMBER"
  | other n => str (toString n)

def ExtInfo.Operator.text : ExtInfo.Operator → Bytes
  | set => str "NODE_EXT_INFO_OPERATOR_SET"
  | add => str "NODE_EXT_INFO_OPERATOR_ADD"
  | minus => str "NODE_EXT_INFO_OPERATOR_MINUS"
  | other n => str (toString n)

def ExtInfo.Target.text : ExtInfo.Target → Bytes
  | annotations => str "NODE_EXT_INFO_TARGET_ANNOTATION"
  | labels => str "NODE_EXT_INFO_TARGET_LABEL"
  | other n => str (toString n)

structure ExtInfo where
  value : Bytes
  valueType : ExtInfo.ValueType
  operator : ExtInfo.Operator
  target : ExtInfo.Target
  targetKey : Bytes
  deriving DecidableEq, Repr

-- Parts of the message can be missing.
structure StatusMsg where
  systemInfo : Option SystemInfo := none
  capacity : Option Resources := none
  conditions : Option Conditions := none
  extInfo : List ExtInfo := []
  deriving DecidableEq, Repr

inductive InfoKind
  | dyn
  | all
  deriving DecidableEq, Repr

inductive Reply
  | error (e : ErrorMsg)
  | nodeStatus (ns : StatusMsg)
  | other
  deriving DecidableEq, Repr

end Node
end Aranya
