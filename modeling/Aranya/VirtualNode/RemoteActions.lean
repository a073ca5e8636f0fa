import Aranya.Connectivity.Manager

namespace Aranya.VirtualNode

variable {τ ρ : Type*} (f : TimedSessionFuncs τ)
    (sendData : ρ → (data : Bytes) → (ensure : Bool) → ρ × Option Bytes)

def initializedId (allow : Bool) (deviceId : Bytes) : Bytes :=
  if !allow then []
  else if deviceId = [] then str "default"
  else deviceId

-- Here `allow` is the result of the initial checks. Other kinds of messages only concern the status of
-- nodes, pods and storage. A message without payload has no data.
def handleGlobalMsg (now : Nat) (allow : Bool) (m : BaseManager τ) (r : ρ) (msg : Msg) :
    Except Fault (BaseManager τ × ρ) :=
  match msg.kind with
  | .state =>
    match msg.getState with
    | none => .ok (m, r)
    | some s =>
      match s.kind with
      | .online => .ok (m.onConnected (initializedId allow s.deviceId), r)
      | .offline => .ok (m.onDisconnected f (fun r => (r, s.deviceId, false)) now r)
      | .other _ => .ok (m, r)
  | .data | .dataStderr =>
    if msg.payload = [] then
      .ok (m, r)
    else
      -- close the session of the orphan data, best effort
      (BaseManager.postCmd f sendData m r 0 .sessionClose (BaseManager.sessionCloseCmd msg.sid)).map
        fun (m, r, _) => (m, r)
  | _ => .ok (m, r)

end Aranya.VirtualNode
