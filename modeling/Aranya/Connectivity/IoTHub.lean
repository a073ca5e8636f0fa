import Aranya.Lib.Base64
import Aranya.Proto.Wire

namespace Aranya.IoTHub

structure ParsedConn where
  host : Bytes
  hubName : Bytes
  keyName : Bytes
  key : Bytes
  deriving DecidableEq, Repr

inductive ConnStrError
  | invalidPair
  | invalidHostName (value : Bytes)
  | undecodableKey
  | incomplete
  deriving DecidableEq, Repr

-- As `strings.SplitN`.
def splitTwo (sep : UInt8) : Bytes → Option (Bytes × Bytes)
  | [] => none
  | c :: s => if c = sep then some ([], s) else (splitTwo sep s).map fun (pre, post) => (c :: pre, post)

variable (toLower : Bytes → Bytes)

def addPair (parsed : ParsedConn) (kv : Bytes) : Except ConnStrError ParsedConn :=
  match splitTwo 61 kv with
  | none => .error .invalidPair
  | some (name, value) =>
    if toLower name = str "hostname" then
      match splitTwo 46 value with
      | none => .error (.invalidHostName value)
      | some (hubName, _) => .ok { parsed with host := value, hubName }
    else if toLower name = str "sharedaccesskeyname" then
      .ok { parsed with keyName := value }
    else if toLower name = str "sharedaccesskey" then
      match Base64.decode value with
      | none => .error .undecodableKey
      | some key => .ok { parsed with key }
    else
      .ok parsed

def parseIoTHubConnectionString (s : Bytes) : Except ConnStrError ParsedConn := do
  let parsed ← (s.splitOn 59).foldlM (addPair toLower) ⟨[], [], [], []⟩
  if parsed.keyName = [] ∨ parsed.key = [] ∨ parsed.host = [] ∨ parsed.hubName = [] then
    throw .incomplete
  else
    return parsed

end Aranya.IoTHub
