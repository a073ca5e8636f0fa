import Aranya.Pod.Create
import Aranya.Pod.Reconcile
import Aranya.Pod.Sync

namespace Aranya.Pod

-- The status of the node that is read is the one that was written last, and neither claims nor volumes
-- change.
structure NodeStore {ρ : Type} (k : Cluster ρ) (r : Resolver ρ) where
  node : ρ → Kube.Node
  claims : Bytes → Except Bytes Bytes
  volumes : Bytes → Except Bytes (Option (Bytes × Bytes))
  getNode : ∀ {c c' n}, k.getNode c = (c', some n) → n = node c ∧ node c' = node c
  updateNodeStatus : ∀ {c c' n n'}, k.updateNodeStatus c n = (c', .ok n') → node c' = n
  getPod : ∀ c name, node (k.getPod c name).fst = node c
  updatePodStatus : ∀ c pod, node (k.updatePodStatus c pod).fst = node c
  getClaim : ∀ c name, node (k.getClaim c name).fst = node c
  getVolume : ∀ c name, node (k.getVolume c name).fst = node c
  claims_eq : ∀ c name, (k.getClaim c name).snd = claims name
  volumes_eq : ∀ c name, (k.getVolume c name).snd = volumes name
  resolveEnv : ∀ pod ctr c, node (r.resolveEnv pod ctr c).fst = node c
  resolveImagePullAuthConfig : ∀ pod c, node (r.resolveImagePullAuthConfig pod c).fst = node c
  resolveVolumeData : ∀ pod c, node (r.resolveVolumeData pod c).fst = node c
  resolveDNSSettings : ∀ pod c, node (r.resolveDNSSettings pod c).fst = node c
  networkRequest : ∀ pod dnsConfig c, node (r.networkRequest pod dnsConfig c).fst = node c
  prepareStorage : ∀ pod inUse c, node (r.prepareStorage pod inUse c).fst = node c

structure DevicePods (ρ : Type) where
  system : System ρ
  created : Bytes → Option Kube.Pod

namespace DevicePods

inductive Action
  | create (podUID : Bytes) (a : Replies)
  | delete (podUID : Bytes) (a : Answers)
  | sync (replies : Except Bytes (List Runtime.Reply))
  | cache (podCache : PodCache)

variable {ρ : Type} (k : Cluster ρ) (r : Resolver ρ) (i : Nat)

def manager (s : DevicePods ρ) : PodManager ρ :=
  s.system.managers i

def setManager (s : DevicePods ρ) (m : Manager ρ) : DevicePods ρ :=
  { s with system := s.system.setManager i { s.manager i with toManager := m } }

-- Only calls that return no error.
def step (s : DevicePods ρ) : Action → Option (DevicePods ρ)
  | .create podUID a =>
    match (s.manager i).podCache.getByID podUID with
    | none => none
    | some pod =>
      match (s.manager i).runCreateDevicePod k r a pod with
      | (m, _, none) => some { s.setManager i m with created := Function.update s.created podUID (some pod) }
      | _ => none
  | .delete podUID a =>
    match System.run (System.onRemotePodDeleted k i a podUID) s.system with
    | some (system, none) => some ⟨system, Function.update s.created podUID none⟩
    | _ => none
  | .sync replies =>
    match (s.manager i).syncDevicePods k replies with
    | (m, _, none) => some (s.setManager i m)
    | _ => none
  | .cache podCache => some (s.setManager i { (s.manager i).toManager with podCache := podCache })

end DevicePods
end Aranya.Pod
