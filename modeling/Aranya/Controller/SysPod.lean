import Aranya.Controller.Roles

namespace Aranya.EdgeDevice

def virtualContainerNameHost : Bytes :=
  str "host"

def virtualImageNameHost : Bytes :=
  str "virtualimage.arhat.dev/host"

def virtualImageNamePeripheral : Bytes :=
  str "virtualimage.arhat.dev/peripheral"

structure PeripheralOperation where
  name : Bytes
  pseudoCommand : Bytes

structure PeripheralSpec where
  name : Bytes
  operations : List PeripheralOperation

def isLowerAlphanumeric (c : UInt8) : Bool :=
  97 ≤ c && c ≤ 122 || 48 ≤ c && c ≤ 57

def matchesDNS1123Label (value : Bytes) : Bool :=
  value.head?.any isLowerAlphanumeric && value.getLast?.any isLowerAlphanumeric &&
    value.all fun c => isLowerAlphanumeric c || c = 45

def isDNS1123Label (value : Bytes) : List Bytes :=
  (if value.length > 63 then [str "must be no more than 63 characters"] else []) ++
  if matchesDNS1123Label value then [] else
    [str "a DNS-1123 label must consist of lower case alphanumeric characters or '-', " ++
     str "and must start and end with an alphanumeric character (e.g. 'my-name',  or '123-abc', " ++
     str "regex used for validation is '[a-z0-9]([-a-z0-9]*[a-z0-9])?')"]

def operationCommand (op : PeripheralOperation) : Bytes :=
  if op.pseudoCommand = [] then op.name else op.pseudoCommand ++ str " (" ++ op.name ++ str ")"

section Generated

variable (quote : Bytes → Bytes)

def virtualContainer (d : PeripheralSpec) : Except Bytes Kube.Container :=
  if d.name = [] ∨ d.name = virtualContainerNameHost then
    .error (str "invalid device name " ++ quote d.name)
  else if isDNS1123Label d.name ≠ [] then
    .error (str "device name " ++ quote d.name ++ str " is not a valid dns label: " ++
      (str ", ").intercalate (isDNS1123Label d.name))
  else
    .ok {
      name := d.name
      image := virtualImageNamePeripheral
      imagePullPolicy := .ifNotPresent
      command := d.operations.map operationCommand }

def hostContainer : Kube.Container where
  name := virtualContainerNameHost
  image := virtualImageNameHost
  imagePullPolicy := .ifNotPresent
  tty := true
  stdin := true

def virtualPod (sysNS name : Bytes) (virtualCtrs : List Kube.Container) : Kube.Pod where
  ns := sysNS
  name := name
  nodeName := name
  containers := hostContainer :: virtualCtrs

def newVirtualPodForEdgeDevice (sysNS name : Bytes) (peripherals : List PeripheralSpec) :
    Except Bytes Kube.Pod :=
  (peripherals.mapM (virtualContainer quote)).map (virtualPod sysNS name)

end Generated

def upToDateList (real expected : List Bytes) : Bool :=
  real.length = expected.length && containsAll real expected

def upToDateContainer (real expected : Kube.Container) : Bool :=
  real.name = expected.name && real.image = expected.image && real.stdin = expected.stdin &&
    real.tty = expected.tty && upToDateList real.command expected.command &&
    upToDateList real.args expected.args

def checkVirtualPodUpToDate (realPod expectedPod : Kube.Pod) : Bool :=
  realPod.initContainers.length = 0 && realPod.containers.length = expectedPod.containers.length &&
    (realPod.containers.zip expectedPod.containers).all fun (real, expected) => upToDateContainer real expected

def virtualPodTexts : Texts where
  delete := str "failed to delete invalid virtual pod at once: "
  create := str "failed to create virtual pod: "

-- The generated pod is checked as the real one, and the stored pod as the expected one.
def ensureVirtualPod (quote : Bytes → Bytes) (sysNS name : Bytes) (peripherals : List PeripheralSpec)
    (a : Answers) (oldPod : Option Kube.Pod) : Ensured Kube.Pod :=
  match newVirtualPodForEdgeDevice quote sysNS name peripherals with
  | .error e => ⟨oldPod, [], some (str "failed to generate virtual pod object: " ++ e)⟩
  | .ok pod =>
    match oldPod with
    | none => createObject virtualPodTexts a [] pod
    | some old =>
      if checkVirtualPodUpToDate pod old then
        ⟨some old, [], none⟩
      else
        match a .delete with
        | none | some .notFound => createObject virtualPodTexts a [.delete] pod
        | some e => ⟨some old, [.delete], some (virtualPodTexts.delete ++ requestErrorText e)⟩

end Aranya.EdgeDevice
