import Aranya.Pod.Create

namespace Aranya.Pod

open Std (ExtTreeMap)

structure ConfigMap where
  data : ExtTreeMap Bytes Bytes
  binaryData : ExtTreeMap Bytes Bytes

structure Secret where
  data : ExtTreeMap Bytes Bytes
  stringData : ExtTreeMap Bytes Bytes

-- What the cluster and the process provide, none of which changes, and functions of libraries.
structure Stores where
  serviceEnv : List (Bytes × Bytes)
  environ : List Bytes
  getConfigMap : Bytes → Option ConfigMap
  getSecret : Bytes → Option Secret
  isEnvVarName : Bytes → Bool
  convertDownwardAPIFieldLabel : (apiVersion fieldPath : Bytes) → Except Bytes Bytes
  extractFieldPathAsString : Kube.Pod → Bytes → Except Bytes Bytes
  extractContainerResourceValue : Kube.ResourceFieldRef → Kube.Container → Except Bytes Bytes
  extractResourceValueByContainerName : Kube.ResourceFieldRef → Kube.Pod → Bytes → Except Bytes Bytes
  makeDockerKeyring : List Secret → Except Bytes (Bytes → Option (List Runtime.ImageAuthConfig))
  parseImageName : Bytes → Except Bytes Bytes

def operator : UInt8 :=
  36

def referenceOpener : UInt8 :=
  40

def referenceCloser : UInt8 :=
  41

def syntaxWrap (input : Bytes) : Bytes :=
  [operator, referenceOpener] ++ input ++ [referenceCloser]

def mappingFuncFor (vars : Env) (input : Bytes) : Bytes :=
  vars[input]?.getD (syntaxWrap input)

-- The text, whether it is the name of a variable, and how much is read. A byte is written as the character
-- with its number.
def tryReadVariableName (input : Bytes) : Bytes × Bool × Nat :=
  match input with
  | [] => ([], false, 0)
  | c :: rest =>
    if c = operator then
      ([operator], false, 1)
    else if c = referenceOpener then
      if referenceCloser ∈ rest then
        let name := rest.takeWhile (· ≠ referenceCloser)
        (name, true, name.length + 2)
      else
        ([operator, referenceOpener], false, 1)
    else
      (operator :: String.utf8EncodeChar (Char.ofNat c.toNat), false, 1)

-- The fuel is the number of bytes. An operator at the end is an ordinary byte.
def expand (input : Bytes) (mapping : Bytes → Bytes) : Bytes :=
  go input.length input
where
  go : Nat → Bytes → Bytes
    | 0, input => input
    | _ + 1, [] => []
    | _ + 1, [c] => [c]
    | n + 1, c :: input =>
      if c = operator then
        let (read, isVar, advance) := tryReadVariableName input
        (if isVar then mapping read else read) ++ go n (input.drop advance)
      else
        c :: go n input

def quoted (name : Bytes) : Bytes :=
  str "\"" ++ name ++ str "\""

def getReferenced {α : Type} (get : Bytes → Option α) (kind : Bytes) (ref : Kube.ObjectRef) :
    Except Bytes (Option α) :=
  match get ref.name with
  | some a => return some a
  | none =>
    if ref.optional = some true then
      return none
    else
      throw (str "failed to get " ++ kind ++ str " " ++ quoted ref.name)

-- The variables of the process are `KEY=VALUE` texts.
def splitVariable (env : Bytes) : Option (Bytes × Bytes) :=
  if 61 ∈ env then
    some (env.takeWhile (· ≠ 61), env.dropWhile (· ≠ 61) |>.drop 1)
  else
    none

-- Objects are kept, and the number of visits to the entries of a map is counted.
structure Fetched where
  configMaps : ExtTreeMap Bytes ConfigMap := ∅
  secrets : ExtTreeMap Bytes Secret := ∅
  visits : Nat := 0

abbrev FetchM := StateT Fetched (Except Bytes)

-- An object that is referred to, unless it is kept already.
def fetch {α : Type} (get : Bytes → Option α) (kind : Bytes) (kept : Fetched → ExtTreeMap Bytes α)
    (keep : Fetched → ExtTreeMap Bytes α → Fetched) (ref : Kube.ObjectRef) : FetchM (Option α) :=
  fun s =>
    match (kept s)[ref.name]? with
    | some a => .ok (some a, s)
    | none =>
      match getReferenced get kind ref with
      | .error e => .error e
      | .ok none => .ok (none, s)
      | .ok (some a) => .ok (some a, keep s ((kept s).insert ref.name a))

-- The entries of a map are visited in an order that may differ each time.
structure Orders where
  entries : Nat → ExtTreeMap Bytes Bytes → List (Bytes × Bytes)
  perm : ∀ n m, (entries n m).Perm m.toList

def visit (o : Orders) (m : ExtTreeMap Bytes Bytes) : FetchM (List (Bytes × Bytes)) :=
  fun s => .ok (o.entries s.visits m, { s with visits := s.visits + 1 })

namespace Stores

variable (st : Stores)

def commonEnv (pod : Kube.Pod) : Env :=
  let services := if pod.enableServiceLinks = some false then [] else st.serviceEnv
  let environ := st.environ.filter fun env =>
    (str "KUBERNETES_SERVICE").isPrefixOf env || (str "KUBERNETES_PORT").isPrefixOf env
  store (store ∅ services) (environ.filterMap splitVariable)

-- Keys that cannot be the names of variables are left out.
def addEntries (tmpEnv : Env) (namePrefix : Bytes) (data : ExtTreeMap Bytes Bytes) : Env :=
  store tmpEnv (data.toList.map (fun (k, v) => (namePrefix ++ k, v)) |>.filter (st.isEnvVarName ·.fst))

def addEnvFrom (tmpEnv : Env) (envFrom : Kube.EnvFromSource) : Except Bytes Env := do
  match envFrom.configMapRef, envFrom.secretRef with
  | some ref, _ =>
    match ← getReferenced st.getConfigMap (str "configmap") ref with
    | none => return tmpEnv
    | some configMap => return st.addEntries tmpEnv envFrom.namePrefix configMap.data
  | none, some ref =>
    match ← getReferenced st.getSecret (str "secret") ref with
    | none => return tmpEnv
    | some secret => return st.addEntries tmpEnv envFrom.namePrefix secret.data
  | none, none => return tmpEnv

def podFieldSelectorRuntimeValue (fs : Kube.FieldRef) (pod : Kube.Pod) : Except Bytes Bytes := do
  let internalFieldPath ← st.convertDownwardAPIFieldLabel fs.apiVersion fs.fieldPath
  if internalFieldPath = str "spec.nodeName" then
    return pod.nodeName
  else if internalFieldPath = str "spec.serviceAccountName" then
    return pod.serviceAccountName
  else if internalFieldPath = str "status.hostIP" then
    return pod.status.hostIP
  else if internalFieldPath = str "status.podIP" then
    return pod.status.podIP
  else
    st.extractFieldPathAsString pod internalFieldPath

def containerResourceRuntimeValue (fs : Kube.ResourceFieldRef) (pod : Kube.Pod) (ctr : Kube.Container) :
    Except Bytes Bytes :=
  if fs.containerName = [] then
    st.extractContainerResourceValue fs ctr
  else
    st.extractResourceValueByContainerName fs pod fs.containerName

-- There is none if the object or the entry is missing but optional.
def entryValue {α : Type} (pod : Kube.Pod) (get : Bytes → Option α) (data : α → ExtTreeMap Bytes Bytes)
    (kind title : Bytes) (ref : Kube.KeyRef) : Except Bytes (Option Bytes) := do
  match ← getReferenced get kind ref.toObjectRef with
  | none => return none
  | some a =>
    match (data a)[ref.key]? with
    | some value => return some value
    | none =>
      if ref.optional = some true then
        return none
      else
        throw (str "failed to find key " ++ ref.key ++ str " in " ++ title ++ str " " ++ pod.ns ++
          str "/" ++ ref.name)

def sourceValue (pod : Kube.Pod) (ctr : Kube.Container) (valueFrom : Kube.EnvVarSource) :
    Except Bytes (Option Bytes) := do
  match valueFrom.fieldRef, valueFrom.resourceFieldRef, valueFrom.configMapKeyRef,
      valueFrom.secretKeyRef with
  | some fs, _, _, _ => return some (← st.podFieldSelectorRuntimeValue fs pod)
  | none, some fs, _, _ => return some (← st.containerResourceRuntimeValue fs pod ctr)
  | none, none, some ref, _ =>
    entryValue pod st.getConfigMap ConfigMap.data (str "configmap") (str "ConfigMap") ref
  | none, none, none, some ref =>
    entryValue pod st.getSecret Secret.data (str "secret") (str "Secret") ref
  | none, none, none, none => return some []

def addEnvVar (pod : Kube.Pod) (ctr : Kube.Container) (tmpEnv : Env) (envVar : Kube.EnvVar) :
    Except Bytes Env := do
  if envVar.value ≠ [] then
    return tmpEnv.insert envVar.name (expand envVar.value (mappingFuncFor tmpEnv))
  else
    match envVar.valueFrom with
    | none => return tmpEnv.insert envVar.name []
    | some valueFrom =>
      match ← st.sourceValue pod ctr valueFrom with
      | none => return tmpEnv
      | some value => return tmpEnv.insert envVar.name value

def resolveEnv (pod : Kube.Pod) (ctr : Kube.Container) : Except Bytes Env := do
  let tmpEnv ← ctr.envFrom.foldlM st.addEnvFrom ∅
  let tmpEnv ← ctr.env.foldlM (st.addEnvVar pod ctr) tmpEnv
  return store (st.commonEnv pod) tmpEnv.toList

-- As `resolveEnv`, with the objects that are kept and any order of the entries of maps.

def fetchConfigMap : Kube.ObjectRef → FetchM (Option ConfigMap) :=
  fetch st.getConfigMap (str "configmap") Fetched.configMaps fun s configMaps => { s with configMaps }

def fetchSecret : Kube.ObjectRef → FetchM (Option Secret) :=
  fetch st.getSecret (str "secret") Fetched.secrets fun s secrets => { s with secrets }

def addEntriesIn (o : Orders) (tmpEnv : Env) (namePrefix : Bytes) (data : ExtTreeMap Bytes Bytes) :
    FetchM Env := do
  let entries ← visit o data
  return store tmpEnv (entries.map (fun (k, v) => (namePrefix ++ k, v)) |>.filter (st.isEnvVarName ·.fst))

def addEnvFromCached (o : Orders) (tmpEnv : Env) (envFrom : Kube.EnvFromSource) : FetchM Env := do
  match envFrom.configMapRef, envFrom.secretRef with
  | some ref, _ =>
    match ← st.fetchConfigMap ref with
    | none => return tmpEnv
    | some configMap => st.addEntriesIn o tmpEnv envFrom.namePrefix configMap.data
  | none, some ref =>
    match ← st.fetchSecret ref with
    | none => return tmpEnv
    | some secret => st.addEntriesIn o tmpEnv envFrom.namePrefix secret.data
  | none, none => return tmpEnv

def entryValueCached {α : Type} (pod : Kube.Pod) (fetchObject : Kube.ObjectRef → FetchM (Option α))
    (data : α → ExtTreeMap Bytes Bytes) (title : Bytes) (ref : Kube.KeyRef) : FetchM (Option Bytes) := do
  match ← fetchObject ref.toObjectRef with
  | none => return none
  | some a =>
    match (data a)[ref.key]? with
    | some value => return some value
    | none =>
      if ref.optional = some true then
        return none
      else
        throw (str "failed to find key " ++ ref.key ++ str " in " ++ title ++ str " " ++ pod.ns ++
          str "/" ++ ref.name)

def sourceValueCached (pod : Kube.Pod) (ctr : Kube.Container) (valueFrom : Kube.EnvVarSource) :
    FetchM (Option Bytes) := do
  match valueFrom.fieldRef, valueFrom.resourceFieldRef, valueFrom.configMapKeyRef,
      valueFrom.secretKeyRef with
  | some fs, _, _, _ => return some (← st.podFieldSelectorRuntimeValue fs pod)
  | none, some fs, _, _ => return some (← st.containerResourceRuntimeValue fs pod ctr)
  | none, none, some ref, _ => entryValueCached pod st.fetchConfigMap ConfigMap.data (str "ConfigMap") ref
  | none, none, none, some ref => entryValueCached pod st.fetchSecret Secret.data (str "Secret") ref
  | none, none, none, none => return some []

def addEnvVarCached (pod : Kube.Pod) (ctr : Kube.Container) (tmpEnv : Env) (envVar : Kube.EnvVar) :
    FetchM Env := do
  if envVar.value ≠ [] then
    return tmpEnv.insert envVar.name (expand envVar.value (mappingFuncFor tmpEnv))
  else
    match envVar.valueFrom with
    | none => return tmpEnv.insert envVar.name []
    | some valueFrom =>
      match ← st.sourceValueCached pod ctr valueFrom with
      | none => return tmpEnv
      | some value => return tmpEnv.insert envVar.name value

def resolveEnvFetching (o : Orders) (pod : Kube.Pod) (ctr : Kube.Container) : FetchM Env := do
  let tmpEnv ← ctr.envFrom.foldlM (st.addEnvFromCached o) ∅
  let tmpEnv ← ctr.env.foldlM (st.addEnvVarCached pod ctr) tmpEnv
  return store (st.commonEnv pod) (← visit o tmpEnv)

def resolveEnvCached (o : Orders) (pod : Kube.Pod) (ctr : Kube.Container) : Except Bytes Env :=
  (st.resolveEnvFetching o pod ctr).run' {}

def keyring (pod : Kube.Pod) : Except Bytes (Bytes → Option (List Runtime.ImageAuthConfig)) := do
  let secret ← pod.imagePullSecrets.mapM fun name =>
    match st.getSecret name with
    | some s => .ok s
    | none => .error (str "failed to get secret " ++ quoted name)
  st.makeDockerKeyring secret

def credentials (lookup : Bytes → Option (List Runtime.ImageAuthConfig)) (image : Bytes) :
    Except Bytes (Option Runtime.ImageAuthConfig) := do
  let repoToPull ← st.parseImageName image
  return (lookup repoToPull).bind List.getLast?

def addCredentials (lookup : Bytes → Option (List Runtime.ImageAuthConfig))
    (authConfigs : ExtTreeMap Bytes Runtime.ImageAuthConfig) (ctr : Kube.Container) :
    Except Bytes (ExtTreeMap Bytes Runtime.ImageAuthConfig) := do
  match ← st.credentials lookup ctr.image with
  | none => return authConfigs
  | some authConfig => return authConfigs.insert ctr.image authConfig

def resolveImagePullAuthConfig (pod : Kube.Pod) :
    Except Bytes (ExtTreeMap Bytes Runtime.ImageAuthConfig) := do
  let lookup ← st.keyring pod
  pod.containers.foldlM (st.addCredentials lookup) ∅

def addVolumeData (volumeData : ExtTreeMap Bytes Runtime.NamedData) (vol : Kube.Volume) :
    Except Bytes (ExtTreeMap Bytes Runtime.NamedData) := do
  match vol.source with
  | .configMap ref _ =>
    match ← getReferenced st.getConfigMap (str "configmap") ref with
    | none => return volumeData
    | some configMap =>
      return volumeData.insert vol.name (store (store ∅ configMap.data.toList) configMap.binaryData.toList)
  | .secret ref _ =>
    match ← getReferenced st.getSecret (str "secret") ref with
    | none => return volumeData
    | some secret =>
      return volumeData.insert vol.name (store (store ∅ secret.stringData.toList) secret.data.toList)
  | _ => return volumeData

def resolveVolumeData (pod : Kube.Pod) : Except Bytes (ExtTreeMap Bytes Runtime.NamedData) :=
  pod.volumes.foldlM st.addVolumeData ∅

def resolver {ρ : Type} (r : Resolver ρ) : Resolver ρ :=
  { r with
    resolveEnv := fun pod ctr c => (c, st.resolveEnv pod ctr)
    resolveImagePullAuthConfig := fun pod c => (c, st.resolveImagePullAuthConfig pod)
    resolveVolumeData := fun pod c => (c, st.resolveVolumeData pod) }

end Stores
end Aranya.Pod
