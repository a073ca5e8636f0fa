import Aranya.Pod.Theorems.Create

namespace Aranya.Pod

open Std (ExtTreeMap)

def lastNamed (containers : List Kube.Container) (name : Bytes) : Option Kube.Container :=
  (containers.filter (·.name = name)).getLast?

namespace Stores

variable (st : Stores)

def provided (pod : Kube.Pod) (image : Bytes) : Except Bytes (Option Runtime.ImageAuthConfig) := do
  let lookup ← st.keyring pod
  st.credentials lookup image

def EnvsSent (pod : Kube.Pod) (cmd : Runtime.PodEnsureCmd) : Prop :=
  List.Forall₂ (fun ctr spec => st.resolveEnv pod ctr = .ok spec.envs) pod.initContainers cmd.containers

def CredentialsSent (pod : Kube.Pod) (images : ExtTreeMap Bytes Runtime.ImagePullSpec) : Prop :=
  ∀ ctr ∈ pod.initContainers, ctr.image ≠ virtualImageNameHostExec →
    ∃ spec, images[ctr.image]? = some spec ∧ st.provided pod ctr.image = .ok spec.authConfig

def EnvsShared (pod : Kube.Pod) : Prop :=
  ∀ ctr ∈ pod.initContainers,
    st.resolveEnv pod ctr = (lastNamed pod.containers ctr.name).elim (.ok ∅) (st.resolveEnv pod)

def CredentialsShared (pod : Kube.Pod) : Prop :=
  ∀ ctr ∈ pod.initContainers, ctr.image ≠ virtualImageNameHostExec →
    ctr.image ∈ pod.containers.map (·.image) ∨ st.provided pod ctr.image = .ok none

end Stores

variable {st : Stores} {pod : Kube.Pod} {containers cs : List Kube.Container} {ctr : Kube.Container}
    {envs : ExtTreeMap Bytes Env} {env : Env} {authConfigs : ExtTreeMap Bytes Runtime.ImageAuthConfig}
    {lookup : Bytes → Option (List Runtime.ImageAuthConfig)} {image : Bytes}
    {authConfigs' : ExtTreeMap Bytes Runtime.ImageAuthConfig}

theorem lastNamed_concat {name : Bytes} :
    lastNamed (containers ++ [ctr]) name = if ctr.name = name then some ctr else lastNamed containers name := by
  simp only [lastNamed, List.filter_append, List.filter_singleton]
  by_cases h : ctr.name = name <;> simp [h]

def EnvsOf (st : Stores) (pod : Kube.Pod) (containers : List Kube.Container) (envs : ExtTreeMap Bytes Env) :
    Prop :=
  ∀ name, (lastNamed containers name).elim (.ok ∅) (st.resolveEnv pod) = .ok (envs[name]?.getD ∅)

theorem EnvsOf.nil : EnvsOf st pod [] ∅ := by
  intro name
  simp [lastNamed]

theorem EnvsOf.concat (h : EnvsOf st pod containers envs) (hr : st.resolveEnv pod ctr = .ok env) :
    EnvsOf st pod (containers ++ [ctr]) (envs.insert ctr.name env) := by
  intro name
  rw [lastNamed_concat, ExtTreeMap.getElem?_insert]
  by_cases hn : ctr.name = name
  case pos => simp [hn, hr]
  case neg => simpa [hn] using h name

def EnvsLeft (st : Stores) (pod : Kube.Pod) (cs : List Kube.Container) (envs : ExtTreeMap Bytes Env) : Prop :=
  ∃ done, pod.containers = done ++ cs ∧ EnvsOf st pod done envs

theorem EnvsLeft.step (h : EnvsLeft st pod (ctr :: cs) envs) (hr : st.resolveEnv pod ctr = .ok env) :
    EnvsLeft st pod cs (envs.insert ctr.name env) := by
  obtain ⟨done, hd, he⟩ := h
  exact ⟨done ++ [ctr], by rw [hd, List.append_cons], he.concat hr⟩

theorem EnvsLeft.envsOf (h : EnvsLeft st pod [] envs) : EnvsOf st pod pod.containers envs := by
  obtain ⟨done, hd, he⟩ := h
  rwa [hd, List.append_nil]

theorem envsSent_iff {cmd : Runtime.PodEnsureCmd} (h : EnvsOf st pod pod.containers envs)
    (hs : List.Forall₂ (SpecOf pod envs) pod.initContainers cmd.containers) :
    st.EnvsSent pod cmd ↔ st.EnvsShared pod := by
  refine forall₂_iff_forall hs fun {ctr spec} hc => ?_
  rw [h ctr.name, hc.envs]

def CredentialsOf (st : Stores) (lookup : Bytes → Option (List Runtime.ImageAuthConfig))
    (containers : List Kube.Container) (authConfigs : ExtTreeMap Bytes Runtime.ImageAuthConfig) : Prop :=
  ∀ image, if image ∈ containers.map (·.image) then st.credentials lookup image = .ok authConfigs[image]?
    else authConfigs[image]? = none

theorem CredentialsOf.concat
    (h : CredentialsOf st lookup containers authConfigs)
    (ha : st.addCredentials lookup authConfigs ctr = .ok authConfigs') :
    CredentialsOf st lookup (containers ++ [ctr]) authConfigs' := by
  intro image
  have hi := h image
  obtain ⟨auth, hc, ha⟩ := Except.bind_eq_ok_iff.mp ha
  simp only [List.map_append, List.map_singleton, List.mem_append, List.mem_singleton]
  cases auth
  case none =>
    cases ha
    grind
  case some auth =>
    cases ha
    rw [ExtTreeMap.getElem?_insert]
    grind

theorem CredentialsOf.of_foldlM
    (h : CredentialsOf st lookup containers authConfigs)
    (hf : cs.foldlM (st.addCredentials lookup) authConfigs = .ok authConfigs') :
    CredentialsOf st lookup (containers ++ cs) authConfigs' := by
  induction cs generalizing containers authConfigs
  case nil =>
    cases hf
    simpa using h
  case cons ctr cs hi =>
    obtain ⟨authConfigs₁, h₁, h₂⟩ := Except.bind_eq_ok_iff.mp hf
    rw [List.append_cons]
    exact hi (h.concat h₁) h₂

theorem credentialsOf_resolve (h : st.resolveImagePullAuthConfig pod = .ok authConfigs) :
    ∃ lookup, st.keyring pod = .ok lookup ∧ CredentialsOf st lookup pod.containers authConfigs := by
  obtain ⟨lookup, hk, hf⟩ := Except.bind_eq_ok_iff.mp h
  have hn : CredentialsOf st lookup [] ∅ := fun image => by simp
  exact ⟨lookup, hk, hn.of_foldlM hf⟩

theorem getElem?_imagesToPull (authConfigs : ExtTreeMap Bytes Runtime.ImageAuthConfig)
    (hc : ctr ∈ containers) (hv : ctr.image ≠ virtualImageNameHostExec) :
    ∃ spec : Runtime.ImagePullSpec, (store (∅ : ExtTreeMap Bytes Runtime.ImagePullSpec)
        (imagesToPull authConfigs containers))[ctr.image]? = some spec ∧
      spec.authConfig = authConfigs[ctr.image]? := by
  have hm : ctr.image ∈ store (∅ : ExtTreeMap Bytes Runtime.ImagePullSpec)
      (imagesToPull authConfigs containers) :=
    mem_store.mpr (.inr ⟨_, mem_imagesToPull_iff.mpr ⟨hv, ctr, hc, rfl, rfl⟩⟩)
  obtain ⟨spec, hs⟩ := Option.isSome_iff_exists.mp (ExtTreeMap.mem_iff_isSome_getElem?.mp hm)
  obtain ⟨_, _, _, _, rfl⟩ := mem_imagesToPull_iff.mp (mem_of_getElem?_store hs)
  exact ⟨_, hs, rfl⟩

theorem credentialsSent_iff (h : st.resolveImagePullAuthConfig pod = .ok authConfigs) :
    st.CredentialsSent pod (store ∅ (imagesToPull authConfigs (pod.containers ++ pod.initContainers))) ↔
    st.CredentialsShared pod := by
  obtain ⟨lookup, hk, hc⟩ := credentialsOf_resolve h
  have hp (image : Bytes) : st.provided pod image = st.credentials lookup image := by
    rw [Stores.provided, hk]
    rfl
  refine forall₃_congr fun ctr hm hv => ?_
  obtain ⟨spec, hs, ha⟩ := getElem?_imagesToPull authConfigs (List.mem_append_right pod.containers hm) hv
  have hc := hc ctr.image
  simp only [hs, Option.some.injEq, exists_eq_left', ha, hp]
  split at hc
  case isTrue hw => simp [hw, hc]
  case isFalse hw => simp [hw, hc]

namespace Manager

variable {ρ : Type} {k : Cluster ρ} {r : Resolver ρ} {a : Replies} {opts : CreateOptions}

def initPolicy (st : Stores) (pod : Kube.Pod) (m : Manager ρ) : Policy ρ where
  cluster _ := True
  pods _ := True
  statuses _ := True
  events
    | .ensure .init cmd => st.EnvsSent pod cmd ↔ st.EnvsShared pod
    | .pull images => st.CredentialsSent pod images ↔ st.CredentialsShared pod
    | _ => True
  errors _ := True
  mountPath := m.mountPath

theorem initPolicy_admits (m : Manager ρ) : (initPolicy st pod m).Admits k := by
  constructor
  case toPreserves => constructor <;> simp [initPolicy]
  all_goals simp [initPolicy]

theorem initPolicy_prepares {m : Manager ρ}
    (h : FromResolved (st.resolver r) pod (EnvsLeft st pod []) opts) : (initPolicy st pod m).Prepares opts := by
  obtain ⟨_, _, _, ⟨c, ha⟩, _, _, _, _, _, ht⟩ := h
  obtain ⟨_, _, _, _, _, _, rfl⟩ := translatePodCreateOptions_eq_ok_iff.mp ht
  exact ⟨fun _ _ => trivial, credentialsSent_iff ha⟩

theorem initPolicy_creates {m : Manager ρ}
    (h : FromResolved (st.resolver r) pod (EnvsLeft st pod []) opts) :
    (initPolicy st pod m).Creates k a opts := by
  obtain ⟨envs, authConfigs, he, _, _, volumeData, _, _, _, ht⟩ := h
  obtain ⟨_, specs, initSpecs, hh, hc, hi, rfl⟩ := translatePodCreateOptions_eq_ok_iff.mp ht
  constructor
  case init =>
    intro cmd ho
    obtain ⟨_, ho⟩ := Option.ite_none_left_eq_some.mp ho
    cases ho
    split
    case isTrue => constructor <;> simp [initPolicy]
    case isFalse =>
      constructor
      case ensure => exact envsSent_iff he.envsOf hi.specs
      all_goals simp [initPolicy]
  case work => exact fun _ => by split <;> constructor <;> simp [initPolicy]
  all_goals simp [initPolicy]

-- The init containers get their environments and credentials iff they share them with work containers.
theorem init_sent_iff (k : Cluster ρ) (st : Stores) (r : Resolver ρ) (a : Replies) (m : Manager ρ)
    (pod : Kube.Pod) :
    (∀ cmd, .ensure .init cmd ∈ (runCreateDevicePod k (st.resolver r) a m pod).snd.fst →
      (st.EnvsSent pod cmd ↔ st.EnvsShared pod)) ∧
    (∀ images, .pull images ∈ (runCreateDevicePod k (st.resolver r) a m pod).snd.fst →
      (st.CredentialsSent pod images ↔ st.CredentialsShared pod)) := by
  have he : Emits (initPolicy st pod m) (fun _ => True) (createDevicePod k (st.resolver r) a pod) := by
    refine emits_createDevicePod (initPolicy_admits m) ?resolves ?mounts (fun h hr => h.step hr)
      ⟨[], rfl, .nil⟩ (fun _ => initPolicy_prepares) (fun _ h _ => initPolicy_creates h) trivial
    case resolves => exact ⟨by constructor <;> simp [initPolicy], by simp [initPolicy]⟩
    case mounts => exact fun _ => by constructor <;> simp [initPolicy]
  have h := (runCreateDevicePod_emits he trivial rfl).left
  exact ⟨fun cmd hm => h _ hm, fun images hm => h _ hm⟩

def seededContainer : Kube.Container where
  name := [1]
  image := [1]
  env := [{ name := [5], value := [6] }]

def seeded : Kube.Pod :=
  { migrated with imagePullSecrets := [[4]], initContainers := [seededContainer] }

def seededStores : Stores :=
  { Stores.empty with
    getSecret _ := some ⟨∅, ∅⟩
    makeDockerKeyring _ := .ok fun _ => some [{ username := [8], password := [9] }]
    parseImageName image := .ok image }

-- The variable and the credentials are missing.
theorem not_sent_seeded : ∃ images status cmd rest,
    (runCreateDevicePod (.answering (some seeded)) (seededStores.resolver .answering) (migrationReplies [])
      (.idle ()) seeded).snd.fst = .pull images :: .api status :: .ensure .init cmd :: rest ∧
    ¬seededStores.EnvsSent seeded cmd ∧ ¬seededStores.CredentialsSent seeded images := by
  refine ⟨_, _, _, _, rfl, fun h => ?_, fun h => ?_⟩
  case refine_1 =>
    cases h
    case cons h _ =>
      have hv := congrArg (fun env => env.toOption.map (·[([5] : Bytes)]?)) h
      exact absurd hv (by decide +kernel)
  case refine_2 =>
    obtain ⟨spec, hs, h⟩ := h seededContainer List.mem_cons_self (by decide +kernel)
    cases hs
    cases h

end Manager
end Aranya.Pod
