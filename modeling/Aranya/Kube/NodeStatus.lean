import Aranya.Kube.Objects
import Mathlib.Algebra.Group.Int.Defs

namespace Aranya.Kube

open Std (ExtTreeMap)

-- Times are given in nanoseconds since the zero time, which stands for an unset one.
abbrev Time := Int

-- A reading of the clock. It is never the zero time.
structure Instant where
  time : Time
  pos : 0 < time

def Instant.nth (k : Nat) : Instant where
  time := k.succ
  pos := Int.natCast_succ_pos k

def int64 (x : Int) : Int :=
  x.bmod (2 ^ 64)

def minDuration : Int :=
  -2 ^ 63

def maxDuration : Int :=
  2 ^ 63 - 1

-- The difference of two times is cut off at the longest durations.
def Time.sub (t u : Time) : Int :=
  max minDuration (min maxDuration (t - u))

-- What is used of the quantities of resources, which are decimal numbers of any precision.
structure Quantities (Q : Type) where
  zero : Q
  newQuantity : Int → Q
  newMilliQuantity : Int → Q
  value : Q → Int
  milliValue : Q → Int
  equal : Q → Q → Bool
  equal_self : ∀ q, equal q q

abbrev ResourceList (Q : Type) := ExtTreeMap Bytes Q

def resourceCPU : Bytes :=
  str "cpu"

def resourceMemory : Bytes :=
  str "memory"

def resourcePods : Bytes :=
  str "pods"

def resourceEphemeralStorage : Bytes :=
  str "ephemeral-storage"

structure ResourceRequirements (Q : Type) where
  limits : ResourceList Q
  requests : ResourceList Q

structure PodResources (Q : Type) where
  containers : List (ResourceRequirements Q)

structure NodeCondition where
  kind : NodeConditionType
  status : ConditionStatus
  lastHeartbeatTime : Time := 0
  lastTransitionTime : Time := 0
  reason : Bytes := []
  message : Bytes := []
  deriving DecidableEq, Repr

inductive NodePhase
  | unset
  | pending
  | running
  | terminated
  | other (text : Bytes)
  deriving DecidableEq, Repr

structure NodeSystemInfo where
  machineID : Bytes := []
  systemUUID : Bytes := []
  bootID : Bytes := []
  kernelVersion : Bytes := []
  osImage : Bytes := []
  containerRuntimeVersion : Bytes := []
  kubeletVersion : Bytes := []
  kubeProxyVersion : Bytes := []
  operatingSystem : Bytes := []
  architecture : Bytes := []
  deriving DecidableEq, Repr

structure NodeStatus (Q : Type) where
  capacity : ResourceList Q := ∅
  allocatable : ResourceList Q := ∅
  phase : NodePhase := .unset
  conditions : List NodeCondition := []
  nodeInfo : NodeSystemInfo := {}

-- Labels and annotations can be `nil`.
structure StatusNode (Q : Type) where
  labels : Option Labels
  annotations : Option Labels
  status : NodeStatus Q

namespace Quantities

variable {Q : Type} (q : Quantities Q) (r : ResourceList Q)

def cpu : Q :=
  r.getD resourceCPU q.zero

def memory : Q :=
  r.getD resourceMemory q.zero

def pods : Q :=
  r.getD resourcePods q.zero

def storageEphemeral : Q :=
  r.getD resourceEphemeralStorage q.zero

def thousandths : Quantities Int where
  zero := 0
  newQuantity x := 1000 * x
  newMilliQuantity x := x
  value x := (x + 999) / 1000
  milliValue x := x
  equal x y := x = y
  equal_self _ := decide_eq_true rfl

end Quantities
end Aranya.Kube
