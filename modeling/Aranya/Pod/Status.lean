import Aranya.Kube.Objects
import Aranya.Net.IP
import Aranya.Proto.Runtime

namespace Aranya.Pod

def waitingStatus (reason : Bytes) (ctr : Kube.Container) : Kube.ContainerStatus where
  name := ctr.name
  state := .waiting reason []
  image := ctr.image

def newContainerErrorStatus (pod : Kube.Pod) : Kube.PodPhase × List Kube.ContainerStatus :=
  (.failed, pod.containers.map <| waitingStatus (str "ContainerErrored"))

-- The list has one entry for each work container, but is filled with the init containers, which panics if
-- there are more.
def newContainerInitializingStatus (pod : Kube.Pod) : Option (Kube.PodPhase × List Kube.ContainerStatus) :=
  if pod.containers.length < pod.initContainers.length then
    none
  else
    some (.pending, pod.initContainers.map (waitingStatus (str "PodInitializing")) ++
      List.replicate (pod.containers.length - pod.initContainers.length) { name := [] })

def newContainerCreatingStatus (pod : Kube.Pod) : Kube.PodPhase × List Kube.ContainerStatus :=
  (.pending, pod.containers.map <| waitingStatus (str "ContainerCreating"))

-- What the status of one container in the device tells about the phase of the pod, if anything.
def containerPhase : Runtime.PodState → Option Kube.PodPhase
  | .unknown => none
  | .pending => some .pending
  | .running => none
  | .succeeded => some .succeeded
  | .failed => some .failed

def containerState (s : Runtime.ContainerStatus) : Kube.ContainerState :=
  match s.getState with
  | .unknown => .unset
  | .pending => .waiting s.reason s.message
  | .running => .running s.startedAt
  | .succeeded | .failed =>
    .terminated s.exitCode s.reason s.message s.startedAt s.finishedAt s.containerId

def containerStatus (ctr : Kube.Container) : Option Runtime.ContainerStatus → Kube.ContainerStatus
  | none => { name := ctr.name }
  | some s =>
    { name := ctr.name
      state := containerState s
      ready := s.getState = .running
      image := ctr.image
      imageID := s.imageId
      containerID := s.containerId }

-- The phase is the one that the last container tells. This panics at an entry without a value.
def resolveContainerStatus (containers : List Kube.Container) (devicePodStatus : Runtime.PodStatusMsg) :
    Option (Kube.PodPhase × List Kube.ContainerStatus) :=
  let status (ctr : Kube.Container) := devicePodStatus.containers[ctr.name]?.join
  if containers.any (devicePodStatus.containers[·.name]? = some none) then
    none
  else
    some (containers.foldl (fun podPhase ctr =>
        ((status ctr).bind fun s => containerPhase s.getState).getD podPhase) .running,
      containers.map fun ctr => containerStatus ctr (status ctr))

inductive IPFamily
  | ipv4
  | ipv6
  deriving DecidableEq, Repr

-- The family of an address with the length of a prefix is the one of its network.
def cidrFamily (net : Net.Texts) (addr : Bytes) : Option IPFamily :=
  match net.parseCIDR addr with
  | .error _ => none
  | .ok (_, cidr) => some (if Net.to4 cidr.ip = none then .ipv6 else .ipv4)

-- The last addresses of each family that are found at an interface other than `lo0`.
def interfaceAddresses (parseCIDR : Bytes → Option IPFamily) (interfaces : List Runtime.Interface) :
    Bytes × Bytes :=
  let addresses := interfaces.filter (·.name ≠ str "lo0") |>.flatMap Runtime.Interface.addresses
  let last (family : IPFamily) := addresses.filter (parseCIDR · = some family) |>.getLast?.getD []
  (last .ipv4, last .ipv6)

def getPodIPs (ipv4 ipv6 : Bytes) : Bytes × List Bytes :=
  (if ipv4 ≠ [] then ipv4 else ipv6, [ipv4, ipv6].filter (· ≠ []))

def mirrorAddresses (parseCIDR : Bytes → Option IPFamily) (devicePodStatus : Runtime.PodStatusMsg)
    (status : Kube.PodStatus) : Kube.PodStatus :=
  match devicePodStatus.network with
  | none => status
  | some interfaces =>
    let (ipv4, ipv6) := interfaceAddresses parseCIDR interfaces
    let (podIP, podIPs) := getPodIPs ipv4 ipv6
    { status with podIP := podIP, podIPs := podIPs }

def mirrorStatus (parseCIDR : Bytes → Option IPFamily) (pod : Kube.Pod)
    (devicePodStatus : Runtime.PodStatusMsg) (forInitContainers : Bool) : Option Kube.PodStatus :=
  let status :=
    if forInitContainers then
      (resolveContainerStatus pod.initContainers devicePodStatus).map fun (_, statuses) =>
        { pod.status with initContainerStatuses := statuses }
    else
      (resolveContainerStatus pod.containers devicePodStatus).map fun (phase, statuses) =>
        { pod.status with phase := phase, containerStatuses := statuses }
  status.map (mirrorAddresses parseCIDR devicePodStatus)

end Aranya.Pod
