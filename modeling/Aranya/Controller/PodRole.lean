import Aranya.Controller.Roles

namespace Aranya.EdgeDevice

open Std (ExtTreeMap ExtTreeSet)
open Apis (PodRolePermissions)
open Kube (PolicyRule Role)

def resourcePods : Bytes :=
  str "pods"

def resourcePodsStatus : Bytes :=
  str "pods/status"

def resourcePodsLog : Bytes :=
  str "pods/log"

def resourcePodsExec : Bytes :=
  str "pods/exec"

def resourcePodsAttach : Bytes :=
  str "pods/attach"

def resourcePodsPortForward : Bytes :=
  str "pods/portforward"

-- What an edge device sets takes precedence, each setting on its own.
def overridePod (perms : PodRolePermissions) (spec : Option PodRolePermissions) : PodRolePermissions :=
  match spec with
  | none => perms
  | some spec =>
    { podVerbs := overrideVerbs perms.podVerbs spec.podVerbs
      statusVerbs := overrideVerbs perms.statusVerbs spec.statusVerbs
      allowExec := overrideFlag perms.allowExec spec.allowExec
      allowAttach := overrideFlag perms.allowAttach spec.allowAttach
      allowPortForward := overrideFlag perms.allowPortForward spec.allowPortForward
      allowLog := overrideFlag perms.allowLog spec.allowLog }

structure Target where
  podName : Bytes
  edgeDevice : Bytes
  permissions : Option PodRolePermissions

structure PodPolicies where
  policies : List PolicyRule
  podsWithDefaultPodVerbs : ExtTreeSet Bytes
  podsWithDefaultStatusVerbs : ExtTreeSet Bytes
  podsAllowExec : ExtTreeSet Bytes
  podsAllowAttach : ExtTreeSet Bytes
  podsAllowPortForward : ExtTreeSet Bytes
  podsAllowLog : ExtTreeSet Bytes

def PodPolicies.empty : PodPolicies :=
  ⟨[], ∅, ∅, ∅, ∅, ∅, ∅⟩

def insertIf (allow : Bool) (name : Bytes) (names : ExtTreeSet Bytes) : ExtTreeSet Bytes :=
  if allow then names.insert name else names

def allowed (flag : Option Bool) : Bool :=
  flag.isSome && flag = some true

def insertAllowed (flag default : Option Bool) (name : Bytes) (names : ExtTreeSet Bytes) : ExtTreeSet Bytes :=
  match flag with
  | some allow => insertIf allow name names
  | none => insertIf (allowed default) name names

-- If the edge device has permissions for the role without verbs, then its own name gets the default ones.
def addPodPolicies (roleSpec : PodRolePermissions) (s : PodPolicies) (pod : Target) : PodPolicies :=
  let name := pod.podName
  match pod.permissions with
  | none =>
    { s with
      podsWithDefaultPodVerbs := s.podsWithDefaultPodVerbs.insert name
      podsWithDefaultStatusVerbs := s.podsWithDefaultStatusVerbs.insert name
      podsAllowPortForward := insertIf (allowed roleSpec.allowPortForward) name s.podsAllowPortForward
      podsAllowLog := insertIf (allowed roleSpec.allowLog) name s.podsAllowLog
      podsAllowExec := insertIf (allowed roleSpec.allowExec) name s.podsAllowExec
      podsAllowAttach := insertIf (allowed roleSpec.allowAttach) name s.podsAllowAttach }
  | some perms =>
    let s :=
      if perms.podVerbs ≠ [] then
        { s with policies := s.policies ++ [.core resourcePods perms.podVerbs [name]] }
      else
        { s with podsWithDefaultPodVerbs := s.podsWithDefaultPodVerbs.insert pod.edgeDevice }
    let s :=
      if perms.statusVerbs ≠ [] then
        { s with policies := s.policies ++ [.core resourcePodsStatus perms.statusVerbs [name]] }
      else
        { s with podsWithDefaultStatusVerbs := s.podsWithDefaultStatusVerbs.insert pod.edgeDevice }
    { s with
      podsAllowAttach := insertAllowed perms.allowAttach roleSpec.allowAttach name s.podsAllowAttach
      podsAllowExec := insertAllowed perms.allowExec roleSpec.allowExec name s.podsAllowExec
      podsAllowPortForward :=
        insertAllowed perms.allowPortForward roleSpec.allowPortForward name s.podsAllowPortForward
      podsAllowLog := insertAllowed perms.allowLog roleSpec.allowLog name s.podsAllowLog }

def sharedRules (roleSpec : PodRolePermissions) (s : PodPolicies) : List PolicyRule :=
  sharedRule resourcePods roleSpec.podVerbs s.podsWithDefaultPodVerbs.toList ++
  sharedRule resourcePodsStatus roleSpec.statusVerbs s.podsWithDefaultStatusVerbs.toList ++
  sharedRule resourcePodsAttach [str "create"] s.podsAllowAttach.toList ++
  sharedRule resourcePodsExec [str "create"] s.podsAllowExec.toList ++
  sharedRule resourcePodsPortForward [str "create"] s.podsAllowPortForward.toList ++
  sharedRule resourcePodsLog [str "get"] s.podsAllowLog.toList

def newPodRole (ns roleName : Bytes) (roleSpec : PodRolePermissions) (pods : List Target) : Role :=
  let s := pods.foldl (addPodPolicies roleSpec) .empty
  { name := roleName
    ns := ns
    labels := (∅ : Kube.Labels).insert labelRole labelRoleValuePodRole
    rules := s.policies ++ sharedRules roleSpec s }

def requiredVerbs (perms : PodRolePermissions) (resource : Bytes) : Option (List Bytes) :=
  let create (flag : Option Bool) := some (if allowed flag then [str "create"] else [])
  if resource = resourcePods then some perms.podVerbs
  else if resource = resourcePodsStatus then some perms.statusVerbs
  else if resource = resourcePodsLog then create perms.allowLog
  else if resource = resourcePodsExec then create perms.allowExec
  else if resource = resourcePodsAttach then create perms.allowAttach
  else if resource = resourcePodsPortForward then create perms.allowPortForward
  else none

-- `resolve` yields what the edge device of a pod sets for the role, if the role can be about the pod. The
-- permissions are kept for the next name of the rule.
def checkPodName (resolve : Bytes → Option (Option PodRolePermissions)) (resource : Bytes)
    (verbs : List Bytes) (s : PodRolePermissions × ExtTreeSet Bytes) (podName : Bytes) :
    Option (PodRolePermissions × ExtTreeSet Bytes) := do
  let spec ← resolve podName
  let perms := overridePod s.fst spec
  let required ← requiredVerbs perms resource
  if verbs.length ≠ required.length then
    none
  else if !containsAll verbs required then
    none
  else
    return (perms, s.snd.insert podName)

def checkPodRule (resolve : Bytes → Option (Option PodRolePermissions)) (roleSpec : PodRolePermissions)
    (podNames : ExtTreeSet Bytes) (p : PolicyRule) : Option (ExtTreeSet Bytes) :=
  match p.apiGroups, p.resources with
  | [[]], [resource] =>
    (p.resourceNames.foldlM (checkPodName resolve resource p.verbs) (roleSpec, podNames)).map Prod.snd
  | _, _ => none

structure Pods where
  list : List Kube.Pod
  nodup : (list.map Kube.Pod.name).Nodup

def Pods.get (pods : Pods) (name : Bytes) : Option Kube.Pod :=
  pods.list.find? (·.name = name)

structure PodRoles where
  ns : Bytes
  roles : ExtTreeMap Bytes PodRolePermissions
  targets : Bytes → List Target
  resolve : Bytes → Bytes → Option (Option PodRolePermissions)
  required : List Bytes

namespace PodRoles

variable (r : PodRoles)

def checkUpToDate (obj : Role) : Bool :=
  match r.roles[obj.name]? with
  | none => true
  | some crSpec =>
    if !hasLabels obj labelRoleValuePodRole r.ns then
      false
    else
      match obj.rules.foldlM (checkPodRule (r.resolve obj.name) crSpec) ∅ with
      | none => false
      | some podNames => podNames.size = r.required.length && r.required.all podNames.contains

def ensure (name : Bytes) (a : Answers) (stored : Option Role) : Ensured Role :=
  match r.roles[name]? with
  | none => ⟨stored, [], none⟩
  | some roleSpec =>
    let role := newPodRole r.ns name roleSpec (r.targets name)
    ensureObject ⟨str "failed to delete old cluster role: ", []⟩ a r.checkUpToDate (fun _ => .update)
      (changedRole role) role stored

end PodRoles

structure PodRoleController extends Controller where
  tenantNS : Bytes
  tenantPodRoles : ExtTreeMap Bytes PodRolePermissions
  vpRoles : ExtTreeMap Bytes PodRolePermissions
  tenantPodStore : Pods
  sysPodStore : Pods
  tenantPods : ExtTreeSet Bytes

namespace PodRoleController

variable (c : PodRoleController)

def getTenantPodObject (name : Bytes) : Option Kube.Pod :=
  c.tenantPodStore.get name

def getTenantPodNames : List Bytes :=
  c.tenantPods.toList

def getVirtualPodNames : List Bytes :=
  (ExtTreeSet.ofList (c.edgeDevices.list.map Apis.EdgeDevice.name)).toList

def tenantTargets (roleName : Bytes) : List Target :=
  c.tenantPodStore.list.filterMap fun pod =>
    if (c.getEdgeDeviceObject pod.name).isSome then
      none
    else
      (c.getEdgeDeviceObject pod.nodeName).map fun edgeDevice =>
        ⟨pod.name, edgeDevice.name, edgeDevice.spec.pod.rolePermissions[roleName]?⟩

def resolveTenant (roleName podName : Bytes) : Option (Option PodRolePermissions) :=
  if (c.getEdgeDeviceObject podName).isSome then
    none
  else do
    let pod ← c.getTenantPodObject podName
    let edgeDevice ← c.getEdgeDeviceObject pod.nodeName
    return edgeDevice.spec.pod.rolePermissions[roleName]?

def virtualTargets (roleName : Bytes) : List Target :=
  c.sysPodStore.list.filterMap fun pod =>
    (c.getEdgeDeviceObject pod.name).map fun edgeDevice =>
      ⟨pod.name, edgeDevice.name, edgeDevice.spec.pod.virtualPodRolePermissions[roleName]?⟩

def resolveVirtual (roleName podName : Bytes) : Option (Option PodRolePermissions) := do
  let edgeDevice ← c.getEdgeDeviceObject podName
  return edgeDevice.spec.pod.virtualPodRolePermissions[roleName]?

def tenantRoles : PodRoles where
  ns := c.tenantNS
  roles := c.tenantPodRoles
  targets := c.tenantTargets
  resolve := c.resolveTenant
  required := c.getTenantPodNames

def virtualRoles : PodRoles where
  ns := c.sysNS
  roles := c.vpRoles
  targets := c.virtualTargets
  resolve := c.resolveVirtual
  required := c.getVirtualPodNames

def newTenantPodRoleForAllEdgeDevices (roleName : Bytes) (roleSpec : PodRolePermissions) : Role :=
  newPodRole c.tenantNS roleName roleSpec (c.tenantTargets roleName)

def newVirtualPodRole (roleName : Bytes) (roleSpec : PodRolePermissions) : Role :=
  newPodRole c.sysNS roleName roleSpec (c.virtualTargets roleName)

def checkTenantPodRoleUpToDate : Role → Bool :=
  c.tenantRoles.checkUpToDate

def checkVirtualPodRoleUpToDate : Role → Bool :=
  c.virtualRoles.checkUpToDate

def ensureTenantPodRole : Bytes → Answers → Option Role → Ensured Role :=
  c.tenantRoles.ensure

def ensureVirtualPodRole : Bytes → Answers → Option Role → Ensured Role :=
  c.virtualRoles.ensure

end PodRoleController
end Aranya.EdgeDevice
