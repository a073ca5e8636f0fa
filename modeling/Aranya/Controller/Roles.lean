import Aranya.Controller.Node
import Aranya.Kube.RBAC
import Mathlib.Data.Finset.Card

namespace Aranya.EdgeDevice

open Std (ExtTreeMap ExtTreeSet)
open Apis (NodeClusterRolePermissions PodRolePermissions)
open Kube (PolicyRule Role)

def labelRoleValueNodeClusterRole : Bytes :=
  str "NodeClusterRole"

def labelRoleValuePodRole : Bytes :=
  str "PodRole"

-- Deletes what is there from a set of what is wanted.
def containsAll (real expected : List Bytes) : Bool :=
  real.foldl Finset.erase expected.toFinset = ∅

def overrideVerbs (default verbs : List Bytes) : List Bytes :=
  if verbs = [] then default else verbs

def overrideFlag (default flag : Option Bool) : Option Bool :=
  if flag.isNone then default else flag

def hasLabels (obj : Role) (role ns : Bytes) : Bool :=
  !obj.labels.isEmpty && obj.labels.getD labelRole [] = role && obj.labels.getD labelNamespace [] = ns

def changedRole (role old : Role) : Role :=
  { old with labels := old.labels ∪ role.labels, rules := role.rules }

def sharedRule (resource : Bytes) (verbs names : List Bytes) : List PolicyRule :=
  if names = [] then [] else [.core resource verbs names]

def resourceNodes : Bytes :=
  str "nodes"

def resourceNodesStatus : Bytes :=
  str "nodes/status"

def overrideNode (crSpec : NodeClusterRolePermissions) (spec : Option NodeClusterRolePermissions) :
    NodeClusterRolePermissions :=
  match spec with
  | none => crSpec
  | some spec =>
    { nodeVerbs := overrideVerbs crSpec.nodeVerbs spec.nodeVerbs
      statusVerbs := overrideVerbs crSpec.statusVerbs spec.statusVerbs }

def nodeVerbs (perms : NodeClusterRolePermissions) (resource : Bytes) : Option (List Bytes) :=
  if resource = resourceNodes then some perms.nodeVerbs
  else if resource = resourceNodesStatus then some perms.statusVerbs
  else none

structure NodePolicies where
  policies : List PolicyRule
  nodeWithDefaultNodeVerbs : List Bytes
  nodeWithDefaultStatusVerbs : List Bytes

structure ClusterRoleController extends Controller where
  nodeClusterRoles : ExtTreeMap Bytes NodeClusterRolePermissions

namespace ClusterRoleController

variable (c : ClusterRoleController)

def expectedPermissions (roleName : Bytes) (crSpec : NodeClusterRolePermissions) (names : List Bytes) :
    Option NodeClusterRolePermissions :=
  match names with
  | [name] =>
    (c.getEdgeDeviceObject name).map fun edgeDevice =>
      overrideNode crSpec edgeDevice.spec.node.clusterRolePermissions[roleName]?
  | _ => some crSpec

-- The result is `none` if the role is not up to date.
def checkNodeRule (roleName : Bytes) (crSpec : NodeClusterRolePermissions) (nodeNames : Finset Bytes)
    (p : PolicyRule) : Option (Finset Bytes) :=
  match p.resourceNames, p.apiGroups, p.resources with
  | name :: names, [[]], [resource] => do
    let perms ← c.expectedPermissions roleName crSpec (name :: names)
    let requiredVerbs ← nodeVerbs perms resource
    if containsAll p.verbs requiredVerbs then
      return p.resourceNames.foldl (fun names name => insert name names) nodeNames
    else
      none
  | _, _, _ => none

def checkNodeClusterRoleUpToDate (obj : Role) : Bool :=
  match c.nodeClusterRoles[obj.name]? with
  | none => true
  | some crSpec =>
    if !hasLabels obj labelRoleValueNodeClusterRole c.sysNS then
      false
    else
      match obj.rules.foldlM (c.checkNodeRule obj.name crSpec) ∅ with
      | none => false
      | some nodeNames =>
        let names := c.edgeDevices.list.map Apis.EdgeDevice.name
        names.length = nodeNames.card && names.foldl Finset.erase nodeNames = ∅

-- An edge device with permissions for other roles only gets neither a rule nor the default verbs.
def addNodePolicies (crName : Bytes) (s : NodePolicies) (edgeDevice : Apis.EdgeDevice) : NodePolicies :=
  let nodeCRs := edgeDevice.spec.node.clusterRolePermissions
  let name := edgeDevice.name
  if nodeCRs.isEmpty then
    { s with
      nodeWithDefaultNodeVerbs := s.nodeWithDefaultNodeVerbs ++ [name]
      nodeWithDefaultStatusVerbs := s.nodeWithDefaultStatusVerbs ++ [name] }
  else
    match nodeCRs[crName]? with
    | none => s
    | some perms =>
      let s :=
        if perms.nodeVerbs ≠ [] then
          { s with policies := s.policies ++ [.core resourceNodes perms.nodeVerbs [name]] }
        else
          { s with nodeWithDefaultNodeVerbs := s.nodeWithDefaultNodeVerbs ++ [name] }
      if perms.statusVerbs ≠ [] then
        { s with policies := s.policies ++ [.core resourceNodesStatus perms.statusVerbs [name]] }
      else
        { s with nodeWithDefaultStatusVerbs := s.nodeWithDefaultStatusVerbs ++ [name] }

def newNodeClusterRoleForAllEdgeDevices (crName : Bytes) (crSpec : NodeClusterRolePermissions) : Role :=
  let s := c.edgeDevices.list.foldl (addNodePolicies crName) ⟨[], [], []⟩
  { name := crName
    ns := []
    labels := (∅ : Kube.Labels).insert labelRole labelRoleValueNodeClusterRole
      |>.insert labelNamespace c.sysNS
    rules := s.policies ++ sharedRule resourceNodes crSpec.nodeVerbs s.nodeWithDefaultNodeVerbs ++
      sharedRule resourceNodesStatus crSpec.statusVerbs s.nodeWithDefaultStatusVerbs }

end ClusterRoleController
end Aranya.EdgeDevice
