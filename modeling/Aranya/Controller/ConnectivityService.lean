import Aranya.Controller.Node

namespace Aranya
namespace Kube

def maxInt64 : Nat :=
  9223372036854775807

-- `strconv.Atoi` without its error. Numbers which do not fit into 64 bits give the nearest one that does.
def atoi (s : Bytes) : Int :=
  let (negative, digits) : Bool × Bytes :=
    match s with
    | 43 :: digits => (false, digits)
    | 45 :: digits => (true, digits)
    | digits => (false, digits)
  if digits.isEmpty || digits.any (fun d => d < 48 || 57 < d) then
    0
  else
    let n := digits.foldl (fun n d => 10 * n + (d.toNat - 48)) 0
    if negative then Int.negOfNat (Nat.min n (maxInt64 + 1)) else Int.ofNat (Nat.min n maxInt64)

def IntOrString.intValue : IntOrString → Int
  | int v => v
  | string s => atoi s

structure ServicePort where
  name : Bytes
  protocol : Bytes
  port : Int
  targetPort : IntOrString
  deriving DecidableEq, Repr

structure Service where
  name : Bytes
  ns : Bytes
  labels : Option Labels
  ports : List ServicePort
  selector : Option Labels

structure StoredService (name : Bytes) where
  service : Service
  named : service.name = name
  nonempty : name ≠ []

end Kube

namespace EdgeDevice

open Std (ExtTreeMap)

def labelRoleValueConnectivity : Bytes :=
  str "Connectivity"

def protocolTCP : Bytes :=
  str "TCP"

-- Virtual nodes have a listener iff their agents connect by gRPC.
structure ConnectivityServiceController where
  thisPodNS : Bytes
  connectivityService : Bytes
  virtualNodes : ExtTreeMap Bytes (Option Listener)

structure PortCheck where
  requiredPorts : ExtTreeMap Bytes Int
  hasUnknownPort : Bool
  upToDate : Bool

-- A port that is not required is compared to zero, the value of a missing key.
def PortCheck.next (s : PortCheck) (p : Kube.ServicePort) : PortCheck where
  requiredPorts := s.requiredPorts.erase p.name
  hasUnknownPort := s.hasUnknownPort || !s.requiredPorts.contains p.name
  upToDate :=
    let rp := s.requiredPorts[p.name]?.getD 0
    if p.port ≠ rp ∨ p.targetPort.intValue ≠ rp then false else s.upToDate

namespace ConnectivityServiceController

variable (c : ConnectivityServiceController)

def checkServiceUpToDate (svc : Kube.Service) (allPorts : List Kube.ServicePort) : Bool × Bool :=
  if c.connectivityService ≠ svc.name then
    (false, true)
  else
    let upToDate := true
    let labels := svc.labels.getD ∅
    let upToDate :=
      if labels.isEmpty ∨ labels[labelRole]?.getD [] ≠ labelRoleValueConnectivity then false else upToDate
    let upToDate := if svc.ports.length ≠ allPorts.length then false else upToDate
    let requiredPorts := ExtTreeMap.ofList (allPorts.map fun p => (p.name, p.port))
    let s := svc.ports.foldl PortCheck.next ⟨requiredPorts, false, upToDate⟩
    (s.hasUnknownPort, if s.requiredPorts.size > 0 then false else s.upToDate)

def requiredPort (name : Bytes) (l : Listener) : Kube.ServicePort :=
  let port := (getListenerPort (some l)).toOption.getD 0
  ⟨name, protocolTCP, port, .int port⟩

def getAllRequiredServicePorts : List Kube.ServicePort :=
  let allPorts := c.virtualNodes.toList.filterMap fun (n, listener) => listener.map (requiredPort n)
  allPorts.mergeSort fun p q => p.name ≤ q.name

def newServiceForAllEdgeDevices : Kube.Service where
  name := c.connectivityService
  ns := c.thisPodNS
  labels := some (.ofList [(labelRole, labelRoleValueConnectivity)])
  ports := c.getAllRequiredServicePorts
  selector := none

def clone (oldSvc svc : Kube.Service) : Kube.Service :=
  { oldSvc with
    labels :=
      match oldSvc.labels with
      | none => svc.labels
      | some labels => some (labels ∪ svc.labels.getD ∅)
    ports := svc.ports
    selector := svc.selector }

def serviceTexts : Texts where
  delete := str "failed to delete old service: "
  create := str "failed to create connectivity service object: "

def createService {name : Bytes} (a : Answers) (writes : List Write) (svc : Kube.StoredService name) :
    Ensured (Kube.StoredService name) :=
  if svc.service.ports.length ≠ 0 then createObject serviceTexts a writes svc else ⟨none, writes, none⟩

def ensureConnectivityService (get : Option Bytes) (a : Answers)
    (stored : Option (Kube.StoredService c.connectivityService)) :
    Ensured (Kube.StoredService c.connectivityService) :=
  if h : c.connectivityService = [] then
    ⟨stored, [], none⟩
  else
    let svc : Kube.StoredService c.connectivityService := ⟨c.newServiceForAllEdgeDevices, rfl, h⟩
    match get with
    | some e => ⟨stored, [], some (str "failed to get old service: " ++ e)⟩
    | none =>
      match stored with
      | none => createService a [] svc
      | some oldSvc =>
        let (hasUnknownPort, upToDate) := c.checkServiceUpToDate oldSvc.service svc.service.ports
        -- An update removes unknown ports. Otherwise a patch is enough.
        let how := if hasUnknownPort then some .update else if !upToDate then some .patch else none
        match how with
        | none => ⟨some oldSvc, [], none⟩
        | some write =>
          match a write with
          | none =>
            ⟨some ⟨clone oldSvc.service svc.service, oldSvc.named, h⟩, [write], none⟩
          | some .conflict => ⟨some oldSvc, [write], some (requestErrorText .conflict)⟩
          | some _ =>
            match a .delete with
            | none | some .notFound => createService a [write, .delete] svc
            | some e =>
              ⟨some oldSvc, [write, .delete], some (serviceTexts.delete ++ requestErrorText e)⟩

end ConnectivityServiceController
end EdgeDevice
end Aranya
