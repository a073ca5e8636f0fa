import Aranya.Lib.TreeMap
import Aranya.Pod.HostExec
import Aranya.Pod.Manager

namespace Aranya.Pod

open Std (ExtTreeMap)

abbrev Env := ExtTreeMap Bytes Bytes

abbrev NamedPorts := ExtTreeMap Bytes Int

structure PodDNSConfig where
  servers : List Bytes := []
  searches : List Bytes := []
  options : List Bytes := []
  deriving DecidableEq, Repr

structure CreateOptions where
  images : ExtTreeMap Bytes Runtime.ImagePullSpec
  initOpts : Option Runtime.PodEnsureCmd
  workOpts : Runtime.PodEnsureCmd
  initHostExec : Bool
  workHostExec : Bool

def isVirtual (ctr : Kube.Container) : Bool :=
  ctr.image = virtualImageNameHostExec

def validImages (containers : List Kube.Container) : Bool :=
  containers.countP isVirtual = 0 ∨ containers.countP isVirtual = containers.length

def decimal (n : Int) : Bytes :=
  str (toString n)

def second : Int :=
  1000000000

def getNamedContainerPorts (ctr : Kube.Container) : NamedPorts :=
  store ∅ (ctr.ports.filter (·.name ≠ []) |>.map fun p => (p.name, p.containerPort))

def getPortValue (ports : NamedPorts) : Kube.IntOrString → Int
  | .int v => v
  | .string s => ports[s]?.getD (-1)

-- A pointer is used. This panics if it is `nil`.
def deref {α : Type} : Option α → Except Failure α
  | none => .error .panic
  | some a => .ok a

def translateHandler (h : Option Kube.Handler) (namedPorts : NamedPorts) :
    Except Failure (Option Runtime.ContainerAction) :=
  match h with
  | none => return none
  | some h =>
    match h.exec, h.httpGet, h.tcpSocket with
    | some exec, _, _ => return some (.exec exec.command)
    | none, some httpGet, _ =>
      let port := getPortValue namedPorts httpGet.port
      if port < 1 then
        return none
      else
        return some <| .http (str "GET")
          (httpGet.scheme ++ str "://" ++ httpGet.host ++ str ":" ++ decimal port ++ httpGet.path)
          (httpGet.httpHeaders.map fun header => (header.name, header.value))
    | none, none, some tcpSocket => do
      -- The port is the one of the HTTP action, although there is none.
      let httpGet ← deref h.httpGet
      let port := getPortValue namedPorts httpGet.port
      if port < 1 then
        return none
      else
        return some <| .socket (str "tcp://" ++ tcpSocket.host ++ str ":" ++ decimal port)
    | none, none, none => return none

def translateProbe (p : Option Kube.Probe) (ports : NamedPorts) :
    Except Failure (Option Runtime.ContainerProbeSpec) :=
  match p with
  | none => return none
  | some p => do
    let method ← translateHandler (some p.handler) ports
    return some {
      method := method
      initialDelay := second * p.initialDelaySeconds
      probeTimeout := second * p.timeoutSeconds
      probeInterval := second * p.periodSeconds
      successThreshold := p.successThreshold
      failureThreshold := p.failureThreshold }

def translateSELinuxOptions (o : Kube.SELinuxOptions) : Runtime.SELinuxOptions where
  type := o.type
  level := o.level
  role := o.role
  user := o.user

-- There are none if only the container has a security context.
def resolveCommonSecOpts (podSecOpts : Option Kube.PodSecurityContext)
    (ctrSecOpts : Option Kube.SecurityContext) : Option Runtime.ContainerSecuritySpec :=
  if podSecOpts.isNone ∧ ctrSecOpts.isSome then
    none
  else
    some {
      nonRoot := (ctrSecOpts.bind (·.runAsNonRoot)).or (podSecOpts.bind (·.runAsNonRoot)) |>.getD false
      user := (ctrSecOpts.bind (·.runAsUser)).or (podSecOpts.bind (·.runAsUser)) |>.getD (-1)
      group := (ctrSecOpts.bind (·.runAsGroup)).or (podSecOpts.bind (·.runAsGroup)) |>.getD (-1)
      selinuxOptions :=
        (ctrSecOpts.bind (·.seLinuxOptions)).or (podSecOpts.bind (·.seLinuxOptions))
          |>.map translateSELinuxOptions }

def procMountKind : Kube.ProcMountType → Runtime.ProcMountKind
  | .unmasked => .unmasked
  | .default => .default

def applySecOpts (ctrSecOpts : Kube.SecurityContext) (result : Runtime.ContainerSecuritySpec) :
    Runtime.ContainerSecuritySpec :=
  let result :=
    match ctrSecOpts.allowPrivilegeEscalation with
    | none => result
    | some b => { result with allowNewPrivileges := b }
  let result :=
    match ctrSecOpts.privileged with
    | none => result
    | some b => { result with privileged := b, allowNewPrivileges := true }
  let result :=
    match ctrSecOpts.readOnlyRootFilesystem with
    | none => result
    | some b => { result with readOnlyRootfs := b }
  let result :=
    match ctrSecOpts.procMount with
    | none => result
    | some t => { result with procMountKind := procMountKind t }
  match ctrSecOpts.capabilities with
  | none => result
  | some caps =>
    { result with
      allowNewPrivileges := result.allowNewPrivileges || caps.add.contains (str "SYS_ADMIN")
      capsAdd := result.capsAdd ++ caps.add
      capsDrop := result.capsDrop ++ caps.drop }

def translateContainerSecOpts (podSecOpts : Option Kube.PodSecurityContext)
    (ctrSecOpts : Option Kube.SecurityContext) : Option Runtime.ContainerSecuritySpec :=
  match resolveCommonSecOpts podSecOpts ctrSecOpts, ctrSecOpts with
  | some result, some ctrSecOpts => some (applySecOpts ctrSecOpts result)
  | result, _ => result

def translateImagePullPolicy : Kube.PullPolicy → Runtime.ImagePullPolicy
  | .never => .never
  | .ifNotPresent => .ifNotPresent
  | .always => .always
  | .unset => .never

def translateRestartPolicy : Kube.RestartPolicy → Runtime.RestartPolicy
  | .always => .always
  | .never => .never
  | .onFailure => .onFailure
  | .unset => .always

-- Labels without a slash in their key are not public.
def getPodLabels (allLabels : List (Bytes × Bytes)) : ExtTreeMap Bytes Bytes :=
  store ∅ (allLabels.filter (·.fst.contains 47))

-- The counterpart of a conversion from `int32` to `uint32`.
def toUint32 (n : Int) : Nat :=
  (n % 4294967296).toNat

def translateVolumeMount (volumes : List Kube.Volume) (volMount : Kube.VolumeMount) :
    Runtime.ContainerMountSpec :=
  let mount : Runtime.ContainerMountSpec := {
    mountPath := volMount.mountPath
    subPath := volMount.subPath
    readOnly := volMount.readOnly
    type := []
    options := []
    fileMode := 0
    remote := false }
  match (volumes.find? (·.name = volMount.name)).map Kube.Volume.source with
  | some (.configMap _ (some mode)) => { mount with fileMode := toUint32 mode }
  | some (.secret _ (some mode)) => { mount with fileMode := toUint32 mode }
  | some (.persistentVolumeClaim _ readOnly) => { mount with readOnly := readOnly, remote := true }
  | some (.csi (some readOnly)) => { mount with readOnly := readOnly, remote := true }
  | some (.csi none) => { mount with remote := true }
  | _ => mount

def translateContainerSpec (pod : Kube.Pod) (envs : ExtTreeMap Bytes Env) (ctr : Kube.Container) :
    Except Failure Runtime.ContainerSpec := do
  let ctrPorts := getNamedContainerPorts ctr
  let readinessCheck ← translateProbe ctr.readinessProbe ctrPorts
  let livenessCheck ← translateProbe ctr.livenessProbe ctrPorts
  let hookPostStart ← translateHandler (ctr.lifecycle.bind (·.postStart)) ctrPorts
  return {
    name := ctr.name
    image := ctr.image
    command := ctr.command
    args := ctr.args
    workingDir := ctr.workingDir
    stdin := ctr.stdin
    tty := ctr.tty
    envs := envs[ctr.name]?.getD ∅
    mounts := store ∅ (ctr.volumeMounts.map fun volMount =>
                        (volMount.name, translateVolumeMount pod.volumes volMount))
    readinessCheck := readinessCheck
    livenessCheck := livenessCheck
    security := translateContainerSecOpts pod.securityContext ctr.securityContext
    hookPostStart := hookPostStart }

-- This fails if some of the images are virtual, but not all.
def translateContainers (pod : Kube.Pod) (envs : ExtTreeMap Bytes Env) (text : Bytes)
    (containers : List Kube.Container) : Except Failure (List Runtime.ContainerSpec) := do
  let specs ← containers.mapM (translateContainerSpec pod envs)
  if validImages containers then
    return specs
  else
    throw (.error text)

-- The path at which a remote volume is mounted, which is looked up by the name of the volume.
def remotePath (storageEnabled : Bool) (volNames : VolumeNames) (name : Bytes) : Except Failure Bytes :=
  if !storageEnabled then
    throw (.error (str "storage not enabled"))
  else
    match volNames.values.filter (·.name = name) |>.getLast? with
    | some v => return v.path
    | none => throw (.error (str "no remote path found for volume \"" ++ name ++ str "\""))

def addHostPath (storageEnabled : Bool) (volNames : VolumeNames) (hostPaths : ExtTreeMap Bytes Bytes)
    (vol : Kube.Volume) : Except Failure (ExtTreeMap Bytes Bytes) := do
  match vol.source with
  | .hostPath path => return hostPaths.insert vol.name path
  | .emptyDir => return hostPaths.insert vol.name []
  | .persistentVolumeClaim _ _ | .csi _ =>
    let path ← remotePath storageEnabled volNames vol.name
    return hostPaths.insert vol.name path
  | .configMap _ _ | .secret _ _ | .other => return hostPaths

def imagesToPull (authConfigs : ExtTreeMap Bytes Runtime.ImageAuthConfig)
    (containers : List Kube.Container) : List (Bytes × Runtime.ImagePullSpec) :=
  containers.filter (!isVirtual ·) |>.map fun ctr =>
    (ctr.image,
     { authConfig := authConfigs[ctr.image]?
       pullPolicy := translateImagePullPolicy ctr.imagePullPolicy })

def mountedBy {α : Type} (containers : List Kube.Container) (volumes : ExtTreeMap Bytes α) :
    ExtTreeMap Bytes α :=
  store ∅ (containers.flatMap (·.volumeMounts) |>.filterMap fun vol =>
    volumes[vol.name]?.map fun a => (vol.name, a))

def ensureCmd (pod : Kube.Pod) (containers : List Kube.Container) (specs : List Runtime.ContainerSpec)
    (hostPaths : ExtTreeMap Bytes Bytes) (volumeData : ExtTreeMap Bytes Runtime.NamedData)
    (restartPolicy : Runtime.RestartPolicy) (wait : Bool) : Runtime.PodEnsureCmd where
  podUid := pod.uid
  ns := pod.ns
  name := pod.name
  restartPolicy := restartPolicy
  containers := specs
  wait := wait
  volumes := ⟨mountedBy containers hostPaths, mountedBy containers volumeData⟩
  sysctls := store ∅ (pod.securityContext.elim [] (·.sysctls))

def podOptions (pod : Kube.Pod) (dnsConfig : PodDNSConfig) (netReqBytes : Bytes)
    (cmd : Runtime.PodEnsureCmd) : Runtime.PodEnsureCmd :=
  { cmd with
    labels := getPodLabels pod.labels
    hostIpc := pod.hostIPC
    hostNetwork := pod.hostNetwork
    hostPid := pod.hostPID
    hostname := pod.hostname
    sharePid := pod.shareProcessNamespace.getD false
    network := some {
      nameservers := dnsConfig.servers
      dnsSearches := dnsConfig.searches
      dnsOptions := dnsConfig.options
      hosts := store ∅ (pod.hostAliases.map fun a =>
                             (a.ip, (str " ").intercalate a.hostnames))
      abbotRequestBytes := netReqBytes } }

def createOptions (pod : Kube.Pod) (authConfigs : ExtTreeMap Bytes Runtime.ImageAuthConfig)
    (volumeData : ExtTreeMap Bytes Runtime.NamedData) (dnsConfig : PodDNSConfig) (netReqBytes : Bytes)
    (hostPaths : ExtTreeMap Bytes Bytes) (containers initContainers : List Runtime.ContainerSpec) :
    CreateOptions :=
  let initOpts := ensureCmd pod pod.initContainers initContainers hostPaths volumeData .never true
  let workOpts := ensureCmd pod pod.containers containers hostPaths volumeData
    (translateRestartPolicy pod.restartPolicy) false
  { images := store ∅ (imagesToPull authConfigs (pod.containers ++ pod.initContainers))
    initOpts := if pod.initContainers = [] then none
                    else some (podOptions pod dnsConfig netReqBytes initOpts)
    workOpts := if pod.initContainers = [] then podOptions pod dnsConfig netReqBytes workOpts
                    else workOpts
    initHostExec := pod.initContainers.any isVirtual
    workHostExec := pod.containers.any isVirtual }

def translatePodCreateOptions (storageEnabled : Bool) (pod : Kube.Pod) (envs : ExtTreeMap Bytes Env)
    (authConfigs : ExtTreeMap Bytes Runtime.ImageAuthConfig)
    (volumeData : ExtTreeMap Bytes Runtime.NamedData) (volNames : VolumeNames)
    (dnsConfig : PodDNSConfig) (netReqBytes : Bytes) : Except Failure CreateOptions := do
  let hostPaths ← pod.volumes.foldlM (addHostPath storageEnabled volNames) ∅
  let containers ← translateContainers pod envs (str "invalid work container images") pod.containers
  let initContainers ←
    translateContainers pod envs (str "invalid init container images") pod.initContainers
  return createOptions pod authConfigs volumeData dnsConfig netReqBytes hostPaths containers initContainers

-- There are none if the pod is not in the device, as one of its containers is executed on the host.
def preStopHooks : ExtTreeMap Bytes (Option Runtime.ContainerAction) → List Kube.Container →
    Except Failure (Option (ExtTreeMap Bytes (Option Runtime.ContainerAction)))
  | hooks, [] => return some hooks
  | hooks, ctr :: cs =>
    if isVirtual ctr then
      return none
    else
      match ctr.lifecycle.bind (·.preStop) with
      | none => preStopHooks hooks cs
      | some h => do
        let action ← translateHandler (some h) (getNamedContainerPorts ctr)
        preStopHooks (hooks.insert ctr.name action) cs

def graceTime (pod : Kube.Pod) : Int :=
  match pod.terminationGracePeriodSeconds with
  | some g => if 0 < g then (BitVec.ofInt 64 (g * second)).toInt else 0
  | none => 0

-- The pod itself may not be known.
def podDeleteCmd (podUID : Bytes) (podToDelete : Option Kube.Pod) :
    Except Failure (Option Runtime.PodDeleteCmd) :=
  match podToDelete with
  | none => return some { podUid := podUID, graceTime := 0, hookPreStop := ∅ }
  | some pod => do
    let hooks ← preStopHooks ∅ pod.containers
    return hooks.map fun hooks => { podUid := podUID, graceTime := graceTime pod, hookPreStop := hooks }

end Aranya.Pod
