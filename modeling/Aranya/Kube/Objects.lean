import Aranya.Proto.Wire
import Mathlib.Data.Finset.Basic

namespace Aranya.Kube

-- A number, or else the text of a number or the name of a port.
inductive IntOrString
  | int (v : Int)
  | string (s : Bytes)
  deriving DecidableEq, Repr

structure ContainerPort where
  name : Bytes
  containerPort : Int
  deriving DecidableEq, Repr

-- A config map or a secret, which may be missing if the reference is optional.
structure ObjectRef where
  name : Bytes
  optional : Option Bool := none
  deriving DecidableEq, Repr

structure KeyRef extends ObjectRef where
  key : Bytes
  deriving DecidableEq, Repr

structure FieldRef where
  apiVersion : Bytes
  fieldPath : Bytes
  deriving DecidableEq, Repr

structure ResourceFieldRef where
  containerName : Bytes
  resource : Bytes
  divisor : Bytes
  deriving DecidableEq, Repr

structure EnvVarSource where
  fieldRef : Option FieldRef := none
  resourceFieldRef : Option ResourceFieldRef := none
  configMapKeyRef : Option KeyRef := none
  secretKeyRef : Option KeyRef := none
  deriving DecidableEq, Repr

structure EnvVar where
  name : Bytes
  value : Bytes := []
  valueFrom : Option EnvVarSource := none
  deriving DecidableEq, Repr

structure EnvFromSource where
  namePrefix : Bytes := []
  configMapRef : Option ObjectRef := none
  secretRef : Option ObjectRef := none
  deriving DecidableEq, Repr

structure ExecAction where
  command : List Bytes
  deriving DecidableEq, Repr

structure HTTPHeader where
  name : Bytes
  value : Bytes
  deriving DecidableEq, Repr

structure HTTPGetAction where
  path : Bytes
  port : IntOrString
  host : Bytes
  scheme : Bytes
  httpHeaders : List HTTPHeader := []
  deriving DecidableEq, Repr

structure TCPSocketAction where
  port : IntOrString
  host : Bytes
  deriving DecidableEq, Repr

structure Handler where
  exec : Option ExecAction := none
  httpGet : Option HTTPGetAction := none
  tcpSocket : Option TCPSocketAction := none
  deriving DecidableEq, Repr

structure Probe where
  handler : Handler
  initialDelaySeconds : Int := 0
  timeoutSeconds : Int := 0
  periodSeconds : Int := 0
  successThreshold : Int := 0
  failureThreshold : Int := 0
  deriving DecidableEq, Repr

structure Lifecycle where
  postStart : Option Handler := none
  preStop : Option Handler := none
  deriving DecidableEq, Repr

structure SELinuxOptions where
  user : Bytes
  role : Bytes
  type : Bytes
  level : Bytes
  deriving DecidableEq, Repr

structure Capabilities where
  add : List Bytes := []
  drop : List Bytes := []
  deriving DecidableEq, Repr

inductive ProcMountType
  | default
  | unmasked
  deriving DecidableEq, Repr

structure SecurityContext where
  capabilities : Option Capabilities := none
  privileged : Option Bool := none
  seLinuxOptions : Option SELinuxOptions := none
  runAsUser : Option Int := none
  runAsGroup : Option Int := none
  runAsNonRoot : Option Bool := none
  readOnlyRootFilesystem : Option Bool := none
  allowPrivilegeEscalation : Option Bool := none
  procMount : Option ProcMountType := none
  deriving DecidableEq, Repr

inductive PullPolicy
  | unset
  | always
  | never
  | ifNotPresent
  deriving DecidableEq, Repr

structure VolumeMount where
  name : Bytes
  mountPath : Bytes
  subPath : Bytes
  readOnly : Bool
  deriving DecidableEq, Repr

structure Container where
  name : Bytes
  image : Bytes
  command : List Bytes := []
  args : List Bytes := []
  workingDir : Bytes := []
  ports : List ContainerPort := []
  envFrom : List EnvFromSource := []
  env : List EnvVar := []
  volumeMounts : List VolumeMount := []
  volumeDevices : List Bytes := []
  livenessProbe : Option Probe := none
  readinessProbe : Option Probe := none
  lifecycle : Option Lifecycle := none
  imagePullPolicy : PullPolicy := .unset
  securityContext : Option SecurityContext := none
  stdin : Bool := false
  tty : Bool := false
  deriving DecidableEq, Repr

inductive PodPhase
  | unset
  | pending
  | running
  | succeeded
  | failed
  | unknown
  deriving DecidableEq, Repr

inductive ContainerState
  | unset
  | waiting (reason message : Bytes)
  | running (startedAt : Int)
  | terminated (exitCode : Int) (reason message : Bytes) (startedAt finishedAt : Int)
    (containerID : Bytes)
  deriving DecidableEq, Repr

structure ContainerStatus where
  name : Bytes
  state : ContainerState := .unset
  ready : Bool := false
  image : Bytes := []
  imageID : Bytes := []
  containerID : Bytes := []
  deriving DecidableEq, Repr

structure PodStatus where
  phase : PodPhase
  hostIP : Bytes
  podIP : Bytes
  podIPs : List Bytes
  initContainerStatuses : List ContainerStatus
  containerStatuses : List ContainerStatus
  deriving DecidableEq, Repr

def PodStatus.empty : PodStatus where
  phase := .unset
  hostIP := []
  podIP := []
  podIPs := []
  initContainerStatuses := []
  containerStatuses := []

-- Where the data of a volume comes from. The one of the CSI plugin is part of the pod.
inductive VolumeSource
  | csi (readOnly : Option Bool := none)
  | persistentVolumeClaim (claimName : Bytes) (readOnly : Bool := false)
  | hostPath (path : Bytes)
  | emptyDir
  | configMap (ref : ObjectRef) (defaultMode : Option Int := none)
  | secret (ref : ObjectRef) (defaultMode : Option Int := none)
  | other
  deriving DecidableEq, Repr

structure Volume where
  name : Bytes
  source : VolumeSource
  deriving DecidableEq, Repr

structure PodSecurityContext where
  seLinuxOptions : Option SELinuxOptions := none
  runAsUser : Option Int := none
  runAsGroup : Option Int := none
  runAsNonRoot : Option Bool := none
  sysctls : List (Bytes × Bytes) := []
  deriving DecidableEq, Repr

inductive RestartPolicy
  | unset
  | always
  | onFailure
  | never
  deriving DecidableEq, Repr

structure HostAlias where
  ip : Bytes
  hostnames : List Bytes
  deriving DecidableEq, Repr

-- The role is the value of the label `arhat.dev/role`. Fields of the spec which are only compared are taken
-- as one.
structure Pod where
  ns : Bytes := []
  name : Bytes := []
  uid : Bytes := []
  role : Bytes := []
  labels : List (Bytes × Bytes) := []
  finalizers : List Bytes := []
  nodeName : Bytes := []
  serviceAccountName : Bytes := []
  hostNetwork : Bool := false
  hostIPC : Bool := false
  hostPID : Bool := false
  hostname : Bytes := []
  hostAliases : List HostAlias := []
  shareProcessNamespace : Option Bool := none
  enableServiceLinks : Option Bool := none
  terminationGracePeriodSeconds : Option Int := none
  restartPolicy : RestartPolicy := .unset
  securityContext : Option PodSecurityContext := none
  imagePullSecrets : List Bytes := []
  dnsPolicy : Bytes := []
  volumes : List Volume := []
  initContainers : List Container := []
  containers : List Container := []
  otherSpec : Bytes := []
  status : PodStatus := .empty
  deriving DecidableEq, Repr

structure AttachedVolume where
  name : Bytes
  devicePath : Bytes
  deriving DecidableEq, Repr

structure Node where
  volumesInUse : List Bytes
  volumesAttached : List AttachedVolume
  deriving DecidableEq, Repr

inductive ApiError
  | notFound
  | other (text : Bytes)
  deriving DecidableEq, Repr

open Std (ExtTreeMap)

-- Labels and annotations. A key that is missing has the empty value.
abbrev Labels := ExtTreeMap Bytes Bytes

inductive RequestError
  | notFound
  | conflict
  | other (text : Bytes)
  deriving DecidableEq, Repr

inductive TaintEffect
  | noSchedule
  | preferNoSchedule
  | noExecute
  deriving DecidableEq, Repr

structure Taint where
  key : Bytes
  value : Bytes
  effect : TaintEffect
  deriving DecidableEq, Repr

structure OwnerReference where
  apiVersion : Bytes
  kind : Bytes
  name : Bytes
  uid : Bytes
  controller : Option Bool
  deriving DecidableEq, Repr

-- Others than the controller can add conditions of their own.
inductive NodeConditionType
  | ready
  | memoryPressure
  | diskPressure
  | pidPressure
  | networkUnavailable
  | other (name : Bytes)
  deriving DecidableEq, Repr

inductive ConditionStatus
  | true
  | false
  | unknown
  | other (text : Bytes)
  deriving DecidableEq, Repr

structure NodeAddress where
  kind : Bytes
  address : Bytes
  deriving DecidableEq, Repr

-- Labels and annotations can be `nil`.
structure NodeObject where
  annotations : Option Labels
  labels : Option Labels
  clusterName : Bytes
  ownerReferences : List OwnerReference
  taints : List Taint
  podCIDR : Bytes
  podCIDRs : List Bytes
  providerID : Bytes
  conditions : List (NodeConditionType × ConditionStatus)
  addresses : List NodeAddress
  kubeletPort : Int

structure NodeMeta where
  name : Bytes
  uid : Bytes
  deriving DecidableEq, Repr

structure LeaseSpec where
  holderIdentity : Option Bytes
  leaseDurationSeconds : Option Int
  acquireTime : Option Int
  renewTime : Option Int
  deriving DecidableEq, Repr

structure Lease where
  name : Bytes
  labels : Labels
  ownerReferences : List OwnerReference
  spec : LeaseSpec

end Aranya.Kube
