import Aranya.Controller.NodeWrites
import Aranya.Controller.Theorems.Node
import Aranya.Lib.TreeMap

namespace Aranya.EdgeDevice

open Std (ExtTreeMap)

def NodeWrite.replay (writes : List NodeWrite.Sent) (stored : Option Kube.NodeObject) : Option Kube.NodeObject :=
  (writes.filter (·.accepted)).foldl (fun stored w => w.write.apply stored) stored

namespace Controller

variable {c : Controller} {name : Bytes} {l : Option Listener} {port : Int} {a : NodeAnswers}
    {ed : Apis.EdgeDevice} {old node clone : Kube.NodeObject} {stored : Option Kube.NodeObject}
    {w : NodeWrite.Sent} {taints taints' : List Kube.Taint} {k : Bytes} {t : Kube.Taint}

section Replay

open NodeWrite (replay)

theorem replay_append {ws ws' : List NodeWrite.Sent} :
    replay (ws ++ ws') stored = replay ws' (replay ws stored) := by
  rw [replay, List.filter_append, List.foldl_append]
  rfl

theorem replay_cons {ws : List NodeWrite.Sent} :
    replay (w :: ws) stored = replay ws (if w.accepted then w.write.apply stored else stored) := by
  rw [replay, List.filter_cons]
  split <;> rfl

theorem replay_nil : replay [] stored = stored :=
  rfl

theorem replay_cidrWrites {cidrs : List Bytes} :
    replay (cidrWrites a cidrs 0 3) (some node) = some (patchNodeCIDRs a cidrs node).fst := by
  cases h₀ : a.patchCIDRs 0 <;> cases h₁ : a.patchCIDRs 1 <;> cases h₂ : a.patchCIDRs 2 <;>
    simp [cidrWrites, patchNodeCIDRs, replay_cons, replay_nil, NodeWrite.apply, h₀, h₁, h₂]

theorem replay_patchWrites : replay (patchWrites a old node) (some old) = some (patchNode a old node).fst := by
  cases hp : a.patch
  case some e => simp [patchWrites, patchNode, hp, replay_cons, replay_nil]
  case none =>
    cases hg : a.getPatched
    case some e => simp [patchWrites, patchNode, hp, hg, replay_cons, replay_nil, NodeWrite.apply]
    case none =>
      cases hs : a.patchStatus
      case some e => simp [patchWrites, patchNode, hp, hg, hs, replay_cons, replay_nil, NodeWrite.apply]
      case none =>
        by_cases hc : node.podCIDRs = []
        case pos => simp [patchWrites, patchNode, hp, hg, hs, hc, replay_cons, replay_nil, NodeWrite.apply]
        case neg =>
          simp [patchWrites, patchNode, hp, hg, hs, hc, replay_cons, replay_cidrWrites, NodeWrite.apply]

theorem replay_create : replay [⟨.create node, a.create.isNone⟩] stored = (createNode a node stored).fst := by
  cases stored <;> cases ha : a.create <;>
    simp [replay_cons, replay_nil, NodeWrite.apply, createNode, ha]

theorem replay_recreate :
    replay (recreateWrites a node) (some old) =
      if a.delete = none ∨ a.delete = some .notFound then (createNode a node none).fst else some old := by
  cases hd : a.delete
  case none => simp [recreateWrites, hd, replay_cons, NodeWrite.apply, ← replay_create, replay_nil]
  case some e =>
    cases e <;> simp [recreateWrites, hd, replay_cons, NodeWrite.apply, ← replay_create, replay_nil]

theorem replay_ensureNodeWrites :
    replay (c.ensureNodeWrites name l a stored) stored = (c.ensureNodeObject name l a stored).fst := by
  cases he : c.getEdgeDeviceObject name
  case none => simp [ensureNodeWrites, ensureNodeObject, he, replay_nil]
  case some ed =>
    cases hl : getListenerPort l
    case error e => simp [ensureNodeWrites, ensureNodeObject, he, hl, replay_nil]
    case ok port =>
      simp only [ensureNodeWrites, ensureNodeObject, he, hl]
      cases hg : a.get
      case some e =>
        cases e
        case notFound => exact replay_create
        all_goals rfl
      case none =>
        cases stored
        case none => exact replay_create
        case some old =>
          simp only [replay_append, replay_patchWrites]
          obtain ⟨patched, err⟩ := patchNode a old (c.newNodeForEdgeDevice ed port)
          cases err
          case none => rfl
          case some e =>
            cases c.vnConfig.node.recreateIfPatchFailed
            case false => rfl
            case true =>
              simp only [Option.isSome_some, Bool.and_self, if_true, replay_recreate]
              cases a.delete
              case none => rfl
              case some e => cases e <;> rfl

end Replay

section Submitted

theorem submitted_cidrWrites {cidrs : List Bytes} {k n : Nat} (hw : w ∈ cidrWrites a cidrs k n) :
    w.write.submitted = none := by
  induction n generalizing k
  case zero => cases hw
  case succ n hi =>
    obtain rfl | hw := List.mem_cons.mp hw
    case inl => rfl
    case inr =>
      split at hw
      case isTrue => cases hw
      case isFalse => exact hi hw

theorem submitted_patchWrites (hw : w ∈ patchWrites a old node) :
    w.write = .patch (patchedNode old node) ∨ w.write.submitted = none := by
  obtain rfl | hw := List.mem_cons.mp hw
  case inl => exact .inl rfl
  case inr =>
    split at hw
    case isFalse => cases hw
    case isTrue =>
      obtain rfl | hw := List.mem_cons.mp hw
      case inl => exact .inr rfl
      case inr =>
        split at hw
        case isTrue => exact .inr <| submitted_cidrWrites hw
        case isFalse => cases hw

theorem submitted_recreateWrites (hw : w ∈ recreateWrites a node) :
    w.write = .create node ∨ w.write.submitted = none := by
  rw [recreateWrites] at hw
  split at hw
  case h_3 =>
    cases List.mem_singleton.mp hw
    exact .inr rfl
  all_goals
    obtain rfl | hw := List.mem_cons.mp hw
    case inl => exact .inr rfl
    case inr =>
      cases List.mem_singleton.mp hw
      exact .inl rfl

theorem submitted_cases (he : c.getEdgeDeviceObject name = some ed) (hw : w ∈ c.ensureNodeWrites name l a stored)
    (hs : w.write.submitted = some node) :
    ∃ port, w.write = .create (c.newNodeForEdgeDevice ed port) ∨
      ∃ old, stored = some old ∧ w.write = .patch (patchedNode old (c.newNodeForEdgeDevice ed port)) := by
  have hn : w.write.submitted ≠ none := by simp [hs]
  cases hl : getListenerPort l
  case error e => simp [ensureNodeWrites, he, hl] at hw
  case ok port =>
    refine ⟨port, ?_⟩
    simp only [ensureNodeWrites, he, hl] at hw
    split at hw
    case h_1 => exact .inl <| List.mem_singleton.mp hw ▸ rfl
    case h_2 => exact .inl <| List.mem_singleton.mp hw ▸ rfl
    case h_3 => cases hw
    case h_4 old _ =>
      obtain hw | hw := List.mem_append.mp hw
      case inl => exact .inr ⟨old, rfl, (submitted_patchWrites hw).resolve_right hn⟩
      case inr =>
        split at hw
        case isTrue => exact .inl <| (submitted_recreateWrites hw).resolve_right hn
        case isFalse => cases hw

end Submitted

def reservedLabels : List Bytes :=
  [labelName, labelRole, labelNamespace, labelHostname]

structure Identified (c : Controller) (ed : Apis.EdgeDevice) (node : Kube.NodeObject) : Prop where
  name : (node.labels.getD ∅)[labelName]? = some ed.name
  role : (node.labels.getD ∅)[labelRole]? = some labelRoleValueNode
  ns : (node.labels.getD ∅)[labelNamespace]? = some c.sysNS
  hostname : (node.labels.getD ∅)[labelHostname]? = some c.hostname
  taint : node.taints.filter (·.key = taintKeyNamespace) = [⟨taintKeyNamespace, ed.ns, .noSchedule⟩]

theorem getElem?_nodeLabels (h : k ∉ reservedLabels) :
    (c.nodeLabels ed)[k]? =
      (ed.spec.node.labels[k]?).or (if labelKubeRole = k then some c.sysNS else none) := by
  simp only [reservedLabels, List.mem_cons, not_or, List.not_mem_nil, not_false_iff, and_true] at h
  obtain ⟨h₁, h₂, h₃, h₄⟩ := h
  simp [nodeLabels, ExtTreeMap.getElem?_insert, ExtTreeMap.getElem?_union, Ne.symm h₁, Ne.symm h₂, Ne.symm h₃,
    Ne.symm h₄]

theorem filter_nodeTaints :
    (nodeTaints ed).filter (·.key = taintKeyNamespace) = [⟨taintKeyNamespace, ed.ns, .noSchedule⟩] := by
  rw [nodeTaints, List.filter_cons_of_pos (by simp), List.filter_filter]
  simp

theorem Identified.new : c.Identified ed (c.newNodeForEdgeDevice ed port) where
  name := by
    rw [newNodeForEdgeDevice, Option.getD_some, nodeLabels, getElem?_insert_of_ne (by decide),
      getElem?_insert_of_ne (by decide), getElem?_insert_of_ne (by decide), ExtTreeMap.getElem?_insert_self]
  role := by
    rw [newNodeForEdgeDevice, Option.getD_some, nodeLabels, getElem?_insert_of_ne (by decide),
      getElem?_insert_of_ne (by decide), ExtTreeMap.getElem?_insert_self]
  ns := by
    rw [newNodeForEdgeDevice, Option.getD_some, nodeLabels, getElem?_insert_of_ne (by decide),
      ExtTreeMap.getElem?_insert_self]
  hostname := by rw [newNodeForEdgeDevice, Option.getD_some, nodeLabels, ExtTreeMap.getElem?_insert_self]
  taint := filter_nodeTaints

theorem getElem?_patchedNode_labels (h : k ≠ labelKubeRole) :
    ((patchedNode old node).labels.getD ∅)[k]? = (node.labels.getD ∅)[k]?.or (old.labels.getD ∅)[k]? := by
  cases hl : old.labels
  case none => simp [patchedNode, hl]
  case some labels =>
    simp [patchedNode, hl, ExtTreeMap.getElem?_union, ExtTreeMap.getElem?_erase, Ne.symm h]

theorem getElem?_patchedNode_kubeRole {v : Bytes} (h : (old.labels.getD ∅)[labelKubeRole]? = some v) :
    ((patchedNode old node).labels.getD ∅)[labelKubeRole]? = some v := by
  cases hl : old.labels
  case none => simp [hl] at h
  case some labels =>
    rw [hl] at h
    simpa [patchedNode, hl, ExtTreeMap.getElem?_union] using h

theorem getElem?_patchedNode_annotations :
    ((patchedNode old node).annotations.getD ∅)[k]? =
      (node.annotations.getD ∅)[k]?.or (old.annotations.getD ∅)[k]? := by
  cases hl : old.annotations
  case none => simp [patchedNode, hl]
  case some labels => simp [patchedNode, hl, ExtTreeMap.getElem?_union]

def appliedTaint (old : List Kube.Taint) (t : Kube.Taint) : Kube.Taint :=
  if t.key = taintKeyNamespace then t else (old.find? (·.key = t.key)).getD t

theorem appliedTaint_key : (appliedTaint taints t).key = t.key := by
  rw [appliedTaint]
  split
  case isTrue => rfl
  case isFalse =>
    cases hf : taints.find? (·.key = t.key)
    case none => rfl
    case some t' => simpa using List.find?_some hf

theorem appliedTaints_eq : appliedTaints taints taints' = taints'.map (appliedTaint taints) := by
  rw [appliedTaints]
  split
  case isFalse => rfl
  case isTrue h =>
    subst h
    exact (List.map_id'' (fun t => by simp [appliedTaint]) taints').symm

theorem filter_appliedTaints :
    (appliedTaints taints taints').filter (·.key = taintKeyNamespace) =
      taints'.filter (·.key = taintKeyNamespace) := by
  rw [appliedTaints_eq, List.filter_map]
  have hk : (fun t : Kube.Taint => decide (t.key = taintKeyNamespace)) ∘ appliedTaint taints =
      fun t => decide (t.key = taintKeyNamespace) := funext fun t => by simp [appliedTaint_key]
  rw [hk]
  refine (List.map_congr_left fun t ht => ?_).trans (List.map_id _)
  exact if_pos <| of_decide_eq_true (List.mem_filter.mp ht).right

theorem Identified.patched (h : c.Identified ed node) : c.Identified ed (patchedNode old node) where
  name := by rw [getElem?_patchedNode_labels (by decide), h.name, Option.some_or]
  role := by rw [getElem?_patchedNode_labels (by decide), h.role, Option.some_or]
  ns := by rw [getElem?_patchedNode_labels (by decide), h.ns, Option.some_or]
  hostname := by rw [getElem?_patchedNode_labels (by decide), h.hostname, Option.some_or]
  taint := filter_appliedTaints.trans h.taint

theorem submitted_identified (c : Controller) (name : Bytes) (l : Option Listener) (a : NodeAnswers)
    (stored : Option Kube.NodeObject) (ed : Apis.EdgeDevice) (he : c.getEdgeDeviceObject name = some ed)
    (w : NodeWrite.Sent) (hw : w ∈ c.ensureNodeWrites name l a stored) :
    (∀ node, w.write.submitted = some node → c.Identified ed node) ∧
    ∀ clone old v, w.write = .patch clone → stored = some old →
      (old.labels.getD ∅)[labelKubeRole]? = some v → (clone.labels.getD ∅)[labelKubeRole]? = some v := by
  refine ⟨fun node hs => ?_, ?_⟩
  case refine_1 =>
    obtain ⟨port, hw' | ⟨old, -, hw'⟩⟩ := submitted_cases he hw hs <;> rw [hw'] at hs <;> cases hs
    case inl => exact .new
    case inr => exact Identified.new.patched
  case refine_2 =>
    rintro clone old v hp rfl hv
    have hs : w.write.submitted = some clone := by rw [hp]; rfl
    obtain ⟨port, hw' | ⟨old', ho, hw'⟩⟩ := submitted_cases he hw hs <;> cases hp.symm.trans hw'
    cases ho
    exact getElem?_patchedNode_kubeRole hv

def greedyDevice : Apis.EdgeDevice where
  name := [1]
  ns := str "edge"
  clusterName := []
  spec :=
    { Apis.EdgeDeviceSpec.zero with
      node :=
        { Apis.EdgeDeviceSpec.zero.node with
          labels := (∅ : Kube.Labels).insert labelRole (str "Pod")
          taints := [⟨taintKeyNamespace, [], .noExecute⟩, ⟨str "user", [], .noSchedule⟩] } }
  meshIPv4Addr := []
  meshIPv6Addr := []

def greedy : Controller where
  sysNS := greedyDevice.ns
  hostname := str "host"
  hostNodeAddresses := []
  vnConfig := .zero
  edgeDevices := .singleton greedyDevice
  virtualNodes name := name = [1]

def foreignNode (taints : List Kube.Taint) : Kube.NodeObject :=
  { bareNode with
    labels := some <| (∅ : Kube.Labels).insert labelHostname (str "other") |>.insert labelKubeRole (str "worker")
    taints := ⟨taintKeyNamespace, str "other", .noExecute⟩ :: taints }

theorem submitted_identified_foreign :
    ∃ clone, ⟨.patch clone, true⟩ ∈
        greedy.ensureNodeWrites [1] (some ⟨.ok 10250⟩) (answerPatch none) (some (foreignNode [])) ∧
      greedy.Identified greedyDevice clone ∧
      (clone.labels.getD ∅)[labelKubeRole]? = some (str "worker") := by
  obtain ⟨clone, hw⟩ : ∃ clone, ⟨.patch clone, true⟩ ∈
      greedy.ensureNodeWrites [1] (some ⟨.ok 10250⟩) (answerPatch none) (some (foreignNode [])) :=
    ⟨_, .head _⟩
  obtain ⟨h₁, h₂⟩ := submitted_identified greedy [1] _ _ _ greedyDevice rfl _ hw
  exact ⟨clone, hw, h₁ clone rfl, h₂ clone _ _ rfl rfl (by decide)⟩

-- Labels, annotations and taints that the edge device does not define are kept, apart from reserved ones.
structure KeepsSettings (ed : Apis.EdgeDevice) (old clone : Kube.NodeObject) : Prop where
  labels : ∀ k v : Bytes, (old.labels.getD ∅)[k]? = some v → k ∉ ed.spec.node.labels → k ∉ reservedLabels →
    (clone.labels.getD ∅)[k]? = some v
  annotations : ∀ k v : Bytes, (old.annotations.getD ∅)[k]? = some v →
    k ∉ ed.spec.node.annotations.getD ∅ → (clone.annotations.getD ∅)[k]? = some v
  taints : ∀ t ∈ old.taints, t.key ≠ taintKeyNamespace → t ∈ clone.taints

theorem keeps_label {k v : Bytes} (hv : (old.labels.getD ∅)[k]? = some v) (hk : k ∉ ed.spec.node.labels)
    (hr : k ∉ reservedLabels) :
    ((patchedNode old (c.newNodeForEdgeDevice ed port)).labels.getD ∅)[k]? = some v := by
  by_cases hk' : k = labelKubeRole
  case pos => exact hk' ▸ getElem?_patchedNode_kubeRole (hk' ▸ hv)
  case neg =>
    rw [getElem?_patchedNode_labels hk', newNodeForEdgeDevice, Option.getD_some, getElem?_nodeLabels hr]
    simp [hk, Ne.symm hk', hv]

theorem keeps_annotation {k v : Bytes} (hv : (old.annotations.getD ∅)[k]? = some v)
    (hk : k ∉ ed.spec.node.annotations.getD ∅) :
    ((patchedNode old (c.newNodeForEdgeDevice ed port)).annotations.getD ∅)[k]? = some v := by
  rw [getElem?_patchedNode_annotations, newNodeForEdgeDevice]
  simp [hk, hv]

theorem mem_appliedTaints_iff (ht : t ∈ taints)
    (hk : t.key ≠ taintKeyNamespace) :
    t ∈ appliedTaints taints (nodeTaints ed) ↔
      t.key ∈ ed.spec.node.taints.map (·.key) ∧ taints.find? (·.key = t.key) = some t := by
  rw [appliedTaints_eq, List.mem_map]
  constructor
  case mp =>
    rintro ⟨t', hm, ha⟩
    have hk' : t'.key = t.key := by rw [← ha, appliedTaint_key]
    have hs : t' ∈ ed.spec.node.taints := by
      obtain rfl | hm := List.mem_cons.mp hm
      case inl => exact absurd hk'.symm hk
      case inr => exact (List.mem_filter.mp hm).left
    refine ⟨List.mem_map.mpr ⟨t', hs, hk'⟩, ?_⟩
    obtain ⟨t₀, hf⟩ : ∃ t₀, taints.find? (·.key = t.key) = some t₀ :=
      Option.isSome_iff_exists.mp <| List.find?_isSome.mpr ⟨t, ht, decide_eq_true rfl⟩
    rw [appliedTaint, if_neg (hk' ▸ hk), hk', hf] at ha
    exact ha ▸ hf
  case mpr =>
    rintro ⟨hm, hf⟩
    obtain ⟨t', hm, hk'⟩ := List.mem_map.mp hm
    have hn : t'.key ≠ taintKeyNamespace := hk' ▸ hk
    refine ⟨t', List.mem_cons_of_mem _ <| List.mem_filter.mpr ⟨hm, decide_eq_true hn⟩, ?_⟩
    rw [appliedTaint, if_neg hn, hk', hf]
    rfl

theorem keepsSettings_iff (c : Controller) (name : Bytes) (l : Option Listener) (a : NodeAnswers)
    (old : Kube.NodeObject) (ed : Apis.EdgeDevice) (he : c.getEdgeDeviceObject name = some ed)
    (clone : Kube.NodeObject) (accepted : Bool)
    (hw : ⟨.patch clone, accepted⟩ ∈ c.ensureNodeWrites name l a (some old)) :
    KeepsSettings ed old clone ↔
      ∀ t ∈ old.taints, t.key ≠ taintKeyNamespace →
        t.key ∈ ed.spec.node.taints.map (·.key) ∧ old.taints.find? (·.key = t.key) = some t := by
  obtain ⟨port, hc⟩ : ∃ port, clone = patchedNode old (c.newNodeForEdgeDevice ed port) := by
    obtain ⟨port, hp | ⟨old', ho, hp⟩⟩ := submitted_cases he hw rfl <;> cases hp
    cases ho
    exact ⟨port, rfl⟩
  subst hc
  constructor
  case mp => exact fun h t ht hk => (mem_appliedTaints_iff ht hk).mp <| h.taints t ht hk
  case mpr =>
    intro h
    exact
      { labels := fun _ _ => keeps_label
        annotations := fun _ _ => keeps_annotation
        taints := fun t ht hk => (mem_appliedTaints_iff ht hk).mpr <| h t ht hk }

theorem keepsSettings_own :
    ∃ clone, ⟨.patch clone, true⟩ ∈ greedy.ensureNodeWrites [1] (some ⟨.ok 10250⟩) (answerPatch none)
        (some (foreignNode [⟨str "user", [], .noExecute⟩])) ∧
      KeepsSettings greedyDevice (foreignNode [⟨str "user", [], .noExecute⟩]) clone := by
  obtain ⟨clone, hw⟩ : ∃ clone, ⟨.patch clone, true⟩ ∈ greedy.ensureNodeWrites [1] (some ⟨.ok 10250⟩)
      (answerPatch none) (some (foreignNode [⟨str "user", [], .noExecute⟩])) := ⟨_, .head _⟩
  exact ⟨clone, hw, (keepsSettings_iff greedy [1] _ _ _ greedyDevice rfl clone true hw).mpr (by decide)⟩

-- A taint with a key of which the edge device knows nothing is lost, and so is the second one with a known key.
theorem not_keepsSettings_foreign :
    ∃ clone, ⟨.patch clone, true⟩ ∈ greedy.ensureNodeWrites [1] (some ⟨.ok 10250⟩) (answerPatch none)
        (some (foreignNode [⟨str "other", [], .noExecute⟩, ⟨str "user", [], .noExecute⟩,
          ⟨str "user", [], .noSchedule⟩])) ∧
      clone.taints = [⟨taintKeyNamespace, str "edge", .noSchedule⟩, ⟨str "user", [], .noExecute⟩] ∧
      ¬KeepsSettings greedyDevice (foreignNode [⟨str "other", [], .noExecute⟩, ⟨str "user", [], .noExecute⟩,
          ⟨str "user", [], .noSchedule⟩]) clone := by
  refine ⟨_, .head _, by decide, fun h => ?_⟩
  have ht := h.taints ⟨str "other", [], .noExecute⟩ (by decide) (by decide)
  revert ht
  decide

end Controller
end Aranya.EdgeDevice
