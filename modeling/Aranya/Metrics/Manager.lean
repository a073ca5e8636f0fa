import Aranya.Connectivity.Handler
import Aranya.Connectivity.Manager

namespace Aranya.Metrics

variable {φ τ ρ : Type*}

structure MetricsCache (φ : Type*) where
  mfs : List φ
  updates : List Bytes
  deriving DecidableEq, Repr

-- The result is an error of the decompression, which is a part of `parseMetricsBytes`.
def MetricsCache.update (parseMetricsBytes : Bytes → Except Bytes (List φ)) (c : MetricsCache φ)
    (metricsBytes : Bytes) : MetricsCache φ × Option Bytes :=
  let c := { c with updates := c.updates ++ [metricsBytes] }
  match parseMetricsBytes metricsBytes with
  | .error err => (c, some err)
  | .ok mfs => ({ c with mfs := if mfs.isEmpty then mfs else c.mfs ++ mfs }, none)

structure Manager (φ : Type*) where
  nodeMetricsCache : MetricsCache φ
  runtimeMetricsCache : MetricsCache φ
  supportNodeMetrics : Bool
  supportRuntimeMetrics : Bool
  deriving DecidableEq, Repr

namespace Manager

def cache (m : Manager φ) (forRuntime : Bool) : MetricsCache φ :=
  if forRuntime then m.runtimeMetricsCache else m.nodeMetricsCache

def updateMetrics (parseMetricsBytes : Bytes → Except Bytes (List φ)) (m : Manager φ) (forRuntime : Bool)
    (metricsData : Bytes) : Manager φ × Option Bytes :=
  if metricsData.length = 0 then
    (m, none)
  else if forRuntime then
    let (c, err) := m.runtimeMetricsCache.update parseMetricsBytes metricsData
    ({ m with runtimeMetricsCache := c }, err)
  else
    let (c, err) := m.nodeMetricsCache.update parseMetricsBytes metricsData
    ({ m with nodeMetricsCache := c }, err)

def collectPacket : Bytes :=
  Wire.encodeUint 0x08 52

-- The data goes to the output stream `buf`, and so do errors.
def postCollectCmd (f : TimedSessionFuncs τ) (sendData : ρ → Bytes → Bool → ρ × Option Bytes)
    (connectivity : BaseManager τ) (r : ρ) (forRuntime : Bool) (buf : Nat) :
    Except Fault (BaseManager τ × ρ × BaseManager.StreamPosted) :=
  if forRuntime then
    connectivity.postStreamCmd f sendData r .runtime (some collectPacket) (some (.out buf)) none true none
  else
    connectivity.postStreamCmd f sendData r .metricsCollect none (some (.out buf)) none true none

def onCollectMsg (forRuntime : Bool) (m : Manager φ) (msg : Msg) : Manager φ × Bool :=
  match msg.getError with
  | some err =>
    if err.kind = .notSupported then
      (if forRuntime then { m with supportRuntimeMetrics := false }
       else { m with supportNodeMetrics := false }, true)
    else
      (m, true)
  | none => (m, msg.kind ≠ .done)

-- Here `msgs` are all messages on the channel of the session, and `buf` is what has been written when it
-- gets closed.
def retrieveDeviceMetrics (parseMetricsBytes : Bytes → Except Bytes (List φ)) (m : Manager φ)
    (forRuntime : Bool) (err : Option Bytes) (msgs : List Msg) (buf : Bytes) : Manager φ :=
  if err.isSome then
    m
  else
    let m := handleMessages (onCollectMsg forRuntime) m msgs
    (m.updateMetrics parseMetricsBytes forRuntime buf).fst

end Manager
end Aranya.Metrics
