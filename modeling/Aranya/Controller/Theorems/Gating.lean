import Aranya.Controller.Mesh
import Aranya.Lib.Except

namespace Aranya.EdgeDevice

open Conf (VirtualnodeConfig VirtualnodeNetworkBackendConfig)

variable {net : MeshTexts} {config : VirtualnodeConfig} {backend : VirtualnodeNetworkBackendConfig}
    {mesh mesh' : Mesh} {ed : Apis.EdgeDevice} {secret : Option Secret} {publicAddresses : List Bytes}
    {ips : Addresses} {parseFloat : Bytes → Float} {spec : Apis.EdgeDeviceSpec}

theorem newNetworkOptions_ne_zero :
    newNetworkOptions net publicAddresses backend ed secret ips ≠ .ok (.ok .zero) := by
  simp only [newNetworkOptions]
  repeat' split
  all_goals simp [NetworkOptions.zero, prefixMeshInterfaceProviderAranya, str]

theorem prepareMesh_ne_zero :
    prepareMesh net publicAddresses backend mesh ed secret ≠ .ok (mesh', .ok (.zero, ips)) := by
  intro h
  simp only [prepareMesh] at h
  split at h
  case isTrue => cases h
  case isFalse =>
    obtain ⟨⟨mesh'', res⟩, -, h⟩ := Except.bind_eq_ok_iff.mp h
    cases res
    case error e => cases h
    case ok ips =>
      obtain ⟨opts, ho, h⟩ := Except.bind_eq_ok_iff.mp h
      cases opts
      case error e => cases h
      case ok opts =>
        cases h
        exact newNetworkOptions_ne_zero ho

-- Neither storage nor network are ever enabled after a configuration has been overridden.
theorem prepareStorageOptions_overrideWith :
    prepareStorageOptions (config.overrideWith parseFloat spec) = none := by
  simp [prepareStorageOptions, VirtualnodeConfig.overrideWith, Conf.VirtualnodeStorageConfig.zero]

theorem prepareNetworkOptions_overrideWith :
    prepareNetworkOptions net config (config.overrideWith parseFloat spec) mesh ed secret =
    .ok (mesh, .ok (.zero, ⟨none, none⟩)) := by
  simp [prepareNetworkOptions, VirtualnodeConfig.overrideWith, Conf.VirtualnodeNetworkConfig.zero]

structure Gated (net : MeshTexts) (parseFloat : Bytes → Float) (config : VirtualnodeConfig) (mesh : Mesh)
    (ed : Apis.EdgeDevice) (secret : Option Secret) : Prop where
  storage : prepareStorageOptions (config.overrideWith parseFloat ed.spec) =
      some ⟨config.storage.rootDir, config.storage.kubeletRegistrationDir, config.storage.kubeletPluginsDir⟩ ↔
    config.storage.enabled ∧ ed.spec.storageEnabled
  network : prepareNetworkOptions net config (config.overrideWith parseFloat ed.spec) mesh ed secret =
      prepareMesh net config.network.addresses config.network.backend mesh ed secret ↔
    config.network.enabled ∧ ed.spec.network.enabled

theorem gated_iff_disabled : Gated net parseFloat config mesh ed secret ↔
    ¬(config.storage.enabled ∧ ed.spec.storageEnabled) ∧ ¬(config.network.enabled ∧ ed.spec.network.enabled) := by
  have hs : ¬prepareStorageOptions (config.overrideWith parseFloat ed.spec) =
      some ⟨config.storage.rootDir, config.storage.kubeletRegistrationDir, config.storage.kubeletPluginsDir⟩ := by
    rw [prepareStorageOptions_overrideWith]
    exact Option.some_ne_none _ |>.symm
  have hn : ¬prepareNetworkOptions net config (config.overrideWith parseFloat ed.spec) mesh ed secret =
      prepareMesh net config.network.addresses config.network.backend mesh ed secret := by
    rw [prepareNetworkOptions_overrideWith]
    exact prepareMesh_ne_zero.symm
  constructor
  case mp => exact fun h => ⟨mt h.storage.mpr hs, mt h.network.mpr hn⟩
  case mpr => exact fun h => ⟨iff_of_false hs h.left, iff_of_false hn h.right⟩

-- Storage is enabled in both, and there is none.
theorem not_gated_storage : ∃ (config : VirtualnodeConfig) (ed : Apis.EdgeDevice),
    config.storage.enabled ∧ ed.spec.storageEnabled ∧
    prepareStorageOptions (config.overrideWith (fun _ => 2) ed.spec) = none ∧
    ∀ net mesh secret, ¬Gated net (fun _ => 2) config mesh ed secret := by
  refine ⟨{ VirtualnodeConfig.zero with storage := ⟨true, [1], [2], [3]⟩ },
    ⟨[1], [], [], { Apis.EdgeDeviceSpec.zero with storageEnabled := true }, [], []⟩, rfl, rfl,
    prepareStorageOptions_overrideWith, fun net mesh secret h => ?_⟩
  cases prepareStorageOptions_overrideWith.symm.trans <| h.storage.mpr ⟨rfl, rfl⟩

end Aranya.EdgeDevice
