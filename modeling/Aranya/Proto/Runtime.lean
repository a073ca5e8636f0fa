import Aranya.Proto.Message

namespace Aranya.Runtime

open Std (ExtTreeMap)

inductive PodState
  | unknown
  | pending
  | running
  | succeeded
  | failed
  deriving DecidableEq, Repr

-- A text that does not stand for a time counts as the zero time `0`.
structure ContainerStatus where
  containerId : Bytes
  imageId : Bytes
  createdAt : Int
  startedAt : Int
  finishedAt : Int
  exitCode : Int
  reason : Bytes
  message : Bytes
  deriving DecidableEq, Repr

def ContainerStatus.getState (s : ContainerStatus) : PodState :=
  if s.startedAt ≤ s.finishedAt then
    if s.exitCode ≠ 0 then .failed else .succeeded
  else if s.startedAt ≠ 0 then
    .running
  else if s.createdAt ≠ 0 then
    .pending
  else if s.containerId = [] then
    .unknown
  else
    .pending

structure Interface where
  name : Bytes
  addresses : List Bytes
  deriving DecidableEq, Repr

-- An entry of the map without a value is decoded as a nil pointer.
structure PodStatusMsg where
  uid : Bytes
  network : Option (List Interface)
  containers : ExtTreeMap Bytes (Option ContainerStatus)

structure ContainerMountSpec where
  mountPath : Bytes
  subPath : Bytes
  readOnly : Bool
  type : Bytes
  options : List Bytes
  fileMode : Nat
  remote : Bool
  deriving DecidableEq, Repr

inductive ContainerAction
  | exec (command : List Bytes)
  | http (method url : Bytes) (headers : List (Bytes × Bytes))
  | socket (address : Bytes)
  deriving DecidableEq, Repr

structure ContainerProbeSpec where
  method : Option ContainerAction
  initialDelay : Int
  probeTimeout : Int
  probeInterval : Int
  successThreshold : Int
  failureThreshold : Int
  deriving DecidableEq, Repr

inductive ProcMountKind
  | default
  | unmasked
  deriving DecidableEq, Repr

structure SELinuxOptions where
  type : Bytes
  level : Bytes
  role : Bytes
  user : Bytes
  deriving DecidableEq, Repr

structure ContainerSecuritySpec where
  privileged : Bool := false
  allowNewPrivileges : Bool := false
  nonRoot : Bool
  readOnlyRootfs : Bool := false
  user : Int
  group : Int
  capsAdd : List Bytes := []
  capsDrop : List Bytes := []
  procMountKind : ProcMountKind := .default
  selinuxOptions : Option SELinuxOptions
  deriving DecidableEq, Repr

structure ContainerSpec where
  name : Bytes
  image : Bytes
  command : List Bytes
  args : List Bytes
  workingDir : Bytes := []
  stdin : Bool := false
  tty : Bool := false
  envs : ExtTreeMap Bytes Bytes := ∅
  mounts : ExtTreeMap Bytes ContainerMountSpec := ∅
  readinessCheck : Option ContainerProbeSpec := none
  livenessCheck : Option ContainerProbeSpec := none
  security : Option ContainerSecuritySpec := none
  hookPostStart : Option ContainerAction := none
  deriving DecidableEq, Repr

inductive RestartPolicy
  | always
  | onFailure
  | never
  deriving DecidableEq, Repr

structure PodNetworkSpec where
  nameservers : List Bytes
  dnsSearches : List Bytes
  dnsOptions : List Bytes
  hosts : ExtTreeMap Bytes Bytes
  abbotRequestBytes : Bytes
  deriving DecidableEq, Repr

abbrev NamedData := ExtTreeMap Bytes Bytes

structure PodVolumeSpec where
  hostPaths : ExtTreeMap Bytes Bytes
  volumeData : ExtTreeMap Bytes NamedData
  deriving DecidableEq, Repr

structure PodEnsureCmd where
  podUid : Bytes
  ns : Bytes
  name : Bytes
  labels : ExtTreeMap Bytes Bytes := ∅
  restartPolicy : RestartPolicy
  hostIpc : Bool := false
  hostNetwork : Bool := false
  hostPid : Bool := false
  hostname : Bytes := []
  sharePid : Bool := false
  network : Option PodNetworkSpec := none
  containers : List ContainerSpec
  wait : Bool
  volumes : PodVolumeSpec
  sysctls : ExtTreeMap Bytes Bytes
  deriving DecidableEq, Repr

structure PodDeleteCmd where
  podUid : Bytes
  graceTime : Int
  hookPreStop : ExtTreeMap Bytes (Option ContainerAction)
  deriving DecidableEq, Repr

structure ImageAuthConfig where
  username : Bytes
  password : Bytes
  auth : Bytes := []
  serverAddress : Bytes := []
  identityToken : Bytes := []
  registryToken : Bytes := []
  email : Bytes := []
  deriving DecidableEq, Repr

inductive ImagePullPolicy
  | always
  | ifNotPresent
  | never
  deriving DecidableEq, Repr

structure ImagePullSpec where
  authConfig : Option ImageAuthConfig
  pullPolicy : ImagePullPolicy
  deriving DecidableEq, Repr

inductive Reply
  | error (e : ErrorMsg)
  | podStatus (ps : PodStatusMsg)
  | podStatusList (pods : List PodStatusMsg)
  | imageList (images : List Bytes)
  | other

end Aranya.Runtime
