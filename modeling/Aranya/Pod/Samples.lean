import Aranya.Pod.Resolve

-- Values which the examples of several modules share.

namespace Aranya

def samplePod : Kube.Pod where
  ns := [0]
  name := [7]
  uid := [1]
  hostNetwork := true

def podOn (name nodeName : Bytes) : Kube.Pod :=
  { name := name, nodeName := nodeName }

namespace Pod

variable {ρ : Type}

-- There are no nodes, claims and volumes, and each update is accepted.
def Cluster.answering (pod : Option Kube.Pod) : Cluster ρ where
  getPod c _ := (c, pod)
  updatePodStatus c _ := (c, none)
  getNode c := (c, none)
  updateNodeStatus c node := (c, .ok node)
  getClaim c _ := (c, .error [])
  getVolume c _ := (c, .error [])
  parseCIDR _ := none

def Resolver.answering : Resolver ρ where
  hasPodCIDR _ := false
  resolveEnv _ _ c := (c, .ok ∅)
  resolveImagePullAuthConfig _ c := (c, .ok ∅)
  resolveVolumeData _ c := (c, .ok ∅)
  resolveDNSSettings _ c := (c, .ok {})
  networkRequest _ _ c := (c, .ok [])
  prepareStorage _ _ c := (c, .ok ())

def Stores.empty : Stores where
  serviceEnv := []
  environ := []
  getConfigMap _ := none
  getSecret _ := none
  isEnvVarName _ := true
  convertDownwardAPIFieldLabel _ _ := .error []
  extractFieldPathAsString _ _ := .error []
  extractContainerResourceValue _ _ := .error []
  extractResourceValueByContainerName _ _ _ := .error []
  makeDockerKeyring _ := .error []
  parseImageName _ := .error []

def Manager.idle (c : ρ) : Manager ρ where
  nodeName := [9]
  podCache := .new
  devPodRec := .new
  mountPath := none
  cluster := c

end Pod
end Aranya
