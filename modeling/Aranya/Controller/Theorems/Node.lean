import Aranya.Controller.Node

namespace Aranya.EdgeDevice.Controller

open Std (ExtTreeMap)

section Nodes

variable {c : Controller} {name : Bytes} {l : Option Listener} {port : Int} {a : NodeAnswers}
    {ed : Apis.EdgeDevice} {old node : Kube.NodeObject} {stored stored' : Option Kube.NodeObject}
    {key value : Bytes}

structure Marked (c : Controller) (node : Kube.NodeObject) : Prop where
  role : (node.labels.getD ∅)[labelRole]? = some labelRoleValueNode
  taint : ⟨taintKeyNamespace, c.sysNS, .noSchedule⟩ ∈ node.taints

theorem getD_label_iff {labels : Kube.Labels} (hv : value ≠ []) :
    (labels.isEmpty = false ∧ labels.getD key [] = value) ↔ labels[key]? = some value := by
  rw [ExtTreeMap.getD_eq_getD_getElem?]
  cases hl : labels[key]?
  case none => simp [hv.symm]
  case some value' =>
    simp only [Option.getD_some, Option.some.injEq, and_iff_right_iff_imp]
    rintro -
    refine Bool.eq_false_iff.mpr fun he => ?_
    rw [ExtTreeMap.isEmpty_iff.mp he] at hl
    simp at hl

theorem hasTaint_iff {taints : List Kube.Taint} {effect : Kube.TaintEffect} :
    taints.any (fun t => t.key = key && t.value = value && t.effect = effect) ↔
    ⟨key, value, effect⟩ ∈ taints := by
  rw [List.any_eq_true]
  constructor
  case mp =>
    rintro ⟨t, hm, ht⟩
    simp only [Bool.and_eq_true, decide_eq_true_eq] at ht
    obtain ⟨⟨rfl, rfl⟩, rfl⟩ := ht
    exact hm
  case mpr => exact fun h => ⟨_, h, by simp⟩

theorem checkNodeQualified_iff (hp : getListenerPort l = .ok port) :
    c.checkNodeQualified node l ↔ c.Marked node ∧ node.kubeletPort = port := by
  have hl : (node.labels.getD ∅)[labelRole]? = some labelRoleValueNode ↔
      ¬((node.labels.getD ∅).isEmpty || (node.labels.getD ∅).getD labelRole [] ≠ labelRoleValueNode) := by
    rw [← getD_label_iff (by decide)]
    simp
  simp only [checkNodeQualified, hp]
  split
  case isTrue h => exact iff_of_false nofun fun hm => hl.mp hm.left.role h
  case isFalse h =>
    rw [Bool.and_eq_true, hasTaint_iff, decide_eq_true_eq]
    exact ⟨fun hm => ⟨⟨hl.mpr h, hm.left⟩, hm.right⟩, fun hm => ⟨hm.left.taint, hm.right⟩⟩

theorem Marked.new (hn : ed.ns = c.sysNS) : c.Marked (c.newNodeForEdgeDevice ed port) where
  role := by
    have h₁ : compare labelHostname labelRole ≠ .eq := by decide
    have h₂ : compare labelNamespace labelRole ≠ .eq := by decide
    simp only [newNodeForEdgeDevice, nodeLabels, Option.getD_some]
    rw [ExtTreeMap.getElem?_insert, if_neg h₁, ExtTreeMap.getElem?_insert, if_neg h₂,
      ExtTreeMap.getElem?_insert_self]
  taint := by
    rw [newNodeForEdgeDevice, nodeTaints, hn]
    exact List.mem_cons_self

theorem mem_appliedTaints {taints taints' : List Kube.Taint} {t : Kube.Taint} (h : t ∈ taints')
    (hk : t.key = taintKeyNamespace) : t ∈ appliedTaints taints taints' := by
  simp only [appliedTaints]
  split
  case isTrue => exact h
  case isFalse => exact List.mem_map.mpr ⟨t, h, if_pos hk⟩

theorem Marked.patched (h : c.Marked node) : c.Marked (patchedNode old node) where
  role := by
    cases hl : old.labels
    case none => simpa [patchedNode, hl] using h.role
    case some labels =>
      have hk : compare labelKubeRole labelRole ≠ .eq := by decide
      simp [patchedNode, hl, ExtTreeMap.getElem?_union, ExtTreeMap.getElem?_erase, hk, h.role]
  taint := mem_appliedTaints h.taint rfl

theorem Marked.of_eq (h : c.Marked node) (hl : old.labels = node.labels) (ht : old.taints = node.taints) :
    c.Marked old where
  role := hl ▸ h.role
  taint := ht ▸ h.taint

def Patches (a : NodeAnswers) (old : Kube.NodeObject) (port : Int) : Prop :=
  a.patch = none ∧ (a.getPatched = none ∧ a.patchStatus = none ∨ old.kubeletPort = port)

theorem patchNode_of_patch_error (h : a.patch ≠ none) :
    (patchNode a old node).fst = old ∧ (patchNode a old node).snd ≠ none := by
  obtain ⟨e, he⟩ := Option.ne_none_iff_exists'.mp h
  simp [patchNode, he]

theorem patchNode_of_status_error (h : a.patch = none) (hs : ¬(a.getPatched = none ∧ a.patchStatus = none)) :
    (patchNode a old node).fst = patchedNode old node ∧ (patchNode a old node).snd ≠ none := by
  cases hg : a.getPatched
  case some e => simp [patchNode, h, hg]
  case none =>
    cases hs' : a.patchStatus
    case some e => simp [patchNode, h, hg, hs']
    case none => exact absurd ⟨hg, hs'⟩ hs

theorem patchNode_of_status (old node : Kube.NodeObject) (h : a.patch = none) (hg : a.getPatched = none)
    (hs : a.patchStatus = none) :
    (patchNode a old node).fst.labels = (patchedNode old node).labels ∧
    (patchNode a old node).fst.taints = (patchedNode old node).taints ∧
    (patchNode a old node).fst.kubeletPort = node.kubeletPort := by
  simp only [patchNode, h, hg, hs, patchNodeCIDRs]
  split
  case isTrue => exact ⟨rfl, rfl, rfl⟩
  case isFalse => split <;> exact ⟨rfl, rfl, rfl⟩

theorem qualified_patchNode_iff (hp : getListenerPort l = .ok port) (hm : c.Marked node)
    (hn : node.kubeletPort = port) :
    c.checkNodeQualified (patchNode a old node).fst l ↔ c.checkNodeQualified old l ∨ Patches a old port := by
  by_cases ha : a.patch = none
  case neg => simp [patchNode_of_patch_error ha, Patches, ha]
  case pos =>
    by_cases hs : a.getPatched = none ∧ a.patchStatus = none
    case pos =>
      obtain ⟨h₁, h₂, h₃⟩ := patchNode_of_status old node ha hs.left hs.right
      refine iff_of_true ?_ (.inr ⟨ha, .inl hs⟩)
      exact (checkNodeQualified_iff hp).mpr ⟨hm.patched.of_eq h₁ h₂, h₃.trans hn⟩
    case neg =>
      rw [(patchNode_of_status_error ha hs).left, checkNodeQualified_iff hp, checkNodeQualified_iff hp]
      constructor
      case mp => exact fun h => .inr ⟨ha, .inr h.right⟩
      case mpr =>
        refine fun h => ⟨hm.patched, ?_⟩
        cases h
        case inl h => exact h.right
        case inr h => exact h.right.resolve_left hs

theorem createNode_eq (h : createNode a node stored = (stored', none)) : stored = none ∧ stored' = some node := by
  cases stored
  case some old => cases h
  case none =>
    cases ha : a.create
    case some e => simp [createNode, ha] at h
    case none => simpa [createNode, ha, eq_comm] using h

theorem ensureNodeObject_cases (he : c.getEdgeDeviceObject name = some ed)
    (h : c.ensureNodeObject name l a stored = (stored', none)) :
    ∃ port, getListenerPort l = .ok port ∧
      ((stored = none ∨ c.vnConfig.node.recreateIfPatchFailed) ∧
        stored' = some (c.newNodeForEdgeDevice ed port) ∨
       ∃ old, stored = some old ∧ stored' = some (patchNode a old (c.newNodeForEdgeDevice ed port)).fst ∧
        (c.vnConfig.node.recreateIfPatchFailed →
          (patchNode a old (c.newNodeForEdgeDevice ed port)).snd = none)) := by
  simp only [ensureNodeObject, he] at h
  cases hp : getListenerPort l
  case error e => simp [hp] at h
  case ok port =>
    refine ⟨port, rfl, ?_⟩
    simp only [hp] at h
    split at h
    case h_1 =>
      obtain ⟨hn, hs⟩ := createNode_eq h
      exact .inl ⟨.inl hn, hs⟩
    case h_2 =>
      obtain ⟨hn, hs⟩ := createNode_eq h
      exact .inl ⟨.inl hn, hs⟩
    case h_3 => cases h
    case h_4 old _ =>
      split at h
      case h_1 hs =>
        cases h
        exact .inr ⟨old, rfl, by rw [hs], fun _ => by rw [hs]⟩
      case h_2 hs =>
        split at h
        case isTrue hr =>
          split at h
          case h_1 => exact .inl ⟨.inr hr, (createNode_eq h).right⟩
          case h_2 => exact .inl ⟨.inr hr, (createNode_eq h).right⟩
          case h_3 => cases h
        case isFalse hr =>
          cases h
          exact .inr ⟨old, rfl, by rw [hs], fun hr' => absurd hr' hr⟩

def Settled (c : Controller) (name : Bytes) (l : Option Listener) (stored : Option Kube.NodeObject) : Prop :=
  ∃ node, stored = some node ∧ c.checkNodeQualified node l ∧ ∀ a, c.onNodeUpdated name node l a = none

theorem settled_iff : c.Settled name l (some node) ↔ c.checkNodeQualified node l := by
  constructor
  case mp =>
    rintro ⟨_, ⟨⟩, hq, _⟩
    exact hq
  case mpr => exact fun hq => ⟨node, rfl, hq, fun a => by simp [onNodeUpdated, hq]⟩

-- The node is settled iff it was not stored before, it is created anew if a patch fails, it was qualified
-- before, or the patches which matter are accepted.
theorem ensureNodeObject_settled_iff (he : c.getEdgeDeviceObject name = some ed)
    (hp : getListenerPort l = .ok port) (h : c.ensureNodeObject name l a stored = (stored', none)) :
    c.Settled name l stored' ↔
    ∀ old, stored = some old →
      c.vnConfig.node.recreateIfPatchFailed ∨ c.checkNodeQualified old l ∨ Patches a old port := by
  obtain ⟨port', hp', hc⟩ := ensureNodeObject_cases he h
  cases hp.symm.trans hp'
  have hn : ed.ns = c.sysNS :=
    c.edgeDevices.inNS ed (Apis.EdgeDevices.get_eq_some_iff.mp he).left
  have hm : c.Marked (c.newNodeForEdgeDevice ed port) := .new hn
  cases hc
  case inl hc =>
    obtain ⟨hr, rfl⟩ := hc
    refine iff_of_true (settled_iff.mpr <| (checkNodeQualified_iff hp).mpr ⟨hm, rfl⟩) ?_
    rintro old rfl
    exact .inl (hr.resolve_left nofun)
  case inr hc =>
    obtain ⟨old, rfl, rfl, hr⟩ := hc
    rw [settled_iff, qualified_patchNode_iff hp hm rfl]
    constructor
    case mp =>
      rintro h _ ⟨⟩
      exact .inr h
    case mpr =>
      intro h
      refine (h old rfl).elim (fun hr' => .inr ?_) id
      -- There was no error, as otherwise the node would have been created.
      have hs := hr hr'
      have ha : a.patch = none := by
        by_contra ha
        exact (patchNode_of_patch_error ha).right hs
      refine ⟨ha, .inl ?_⟩
      by_contra hg
      exact (patchNode_of_status_error ha hg).right hs

def single (leaseEnabled recreateIfPatchFailed : Bool) : Controller where
  sysNS := str "edge"
  hostname := str "host"
  hostNodeAddresses := []
  vnConfig :=
    { Conf.VirtualnodeConfig.zero with
      node := ⟨recreateIfPatchFailed, 0, 0, leaseEnabled, 0, 40, []⟩ }
  edgeDevices := ⟨[⟨[1], str "edge", [], .zero, [], []⟩], by simp, by simp⟩
  virtualNodes name := name = [1]

def bareNode : Kube.NodeObject :=
  ⟨none, none, [], [], [], [], [], [], [], [], 0⟩

def answerPatch (patch : Option Kube.RequestError) : NodeAnswers :=
  ⟨none, patch, none, none, fun _ => none, none, none⟩

theorem ensureNodeObject_settled_iff_accepted :
    ∃ stored, (single false false).ensureNodeObject [1] (some ⟨.ok 10250⟩) (answerPatch none)
        (some bareNode) = (stored, none) ∧
      (single false false).Settled [1] (some ⟨.ok 10250⟩) stored := by
  obtain ⟨stored, h⟩ : ∃ stored, (single false false).ensureNodeObject [1] (some ⟨.ok 10250⟩)
      (answerPatch none) (some bareNode) = (stored, none) := ⟨_, rfl⟩
  refine ⟨stored, h, (ensureNodeObject_settled_iff rfl rfl h).mpr fun old _ => ?_⟩
  exact .inr (.inr ⟨rfl, .inl ⟨rfl, rfl⟩⟩)

-- The patch fails, but there is no error.
theorem not_settled_patch :
    (single false false).ensureNodeObject [1] (some ⟨.ok 10250⟩) (answerPatch (some (.other [])))
      (some bareNode) = (some bareNode, none) ∧
    ¬(single false false).Settled [1] (some ⟨.ok 10250⟩) (some bareNode) := by
  constructor
  case left => rfl
  case right =>
    rw [settled_iff, checkNodeQualified_iff rfl]
    exact fun h => nomatch h.right

end Nodes

section Leases

variable {c : Controller} {now : Int} {nodeMeta : Kube.NodeMeta} {a : Answers} {old lease : Kube.Lease}
    {stored : Option Kube.Lease} {e : Ensured Kube.Lease}

def Owned (lease : Kube.Lease) (nodeMeta : Kube.NodeMeta) : Prop :=
  lease.ownerReferences = [⟨str "v1", str "Node", lease.name, nodeMeta.uid, none⟩]

structure Current (c : Controller) (lease : Kube.Lease) (nodeMeta : Kube.NodeMeta) : Prop where
  holder : lease.spec.holderIdentity = some nodeMeta.name
  duration : lease.spec.leaseDurationSeconds = some c.vnConfig.node.leaseDurationSeconds
  role : lease.labels[labelRole]? = some labelRoleValueNodeLease
  ns : lease.labels.getD labelNamespace [] = c.sysNS

theorem checkLeaseOwner_iff {ref : Kube.OwnerReference} :
    checkLeaseOwner lease nodeMeta ref ↔ ref = ⟨str "v1", str "Node", lease.name, nodeMeta.uid, none⟩ := by
  cases ref
  simp only [checkLeaseOwner, Bool.and_eq_true, decide_eq_true_eq, Option.isNone_iff_eq_none,
    Kube.OwnerReference.mk.injEq]
  tauto

theorem checkNodeLease_fst (hm : c.doNodeResourcePreCheck lease.name = false) :
    (c.checkNodeLeaseUpToDate lease nodeMeta).fst ↔ Owned lease nodeMeta := by
  simp only [checkNodeLeaseUpToDate, hm, Bool.false_eq_true, if_false, Owned]
  split
  case h_1 ref hr => rw [hr, checkLeaseOwner_iff, List.cons.injEq, and_iff_left rfl]
  case h_2 hr => exact iff_of_false nofun fun h => hr _ h

theorem checkNodeLease_iff (hm : c.doNodeResourcePreCheck lease.name = false) :
    c.checkNodeLeaseUpToDate lease nodeMeta = (true, true) ↔
    Owned lease nodeMeta ∧ c.Current lease nodeMeta := by
  rw [← checkNodeLease_fst hm]
  simp only [checkNodeLeaseUpToDate, hm, Bool.false_eq_true, if_false]
  split
  case h_1 =>
    have hl : (lease.labels.isEmpty = false ∧ lease.labels.getD labelRole [] = labelRoleValueNodeLease) ↔
        lease.labels[labelRole]? = some labelRoleValueNodeLease := getD_label_iff (by decide)
    simp only [Prod.mk.injEq, Bool.and_eq_true, Bool.not_eq_true', decide_eq_true_eq]
    refine and_congr_right fun _ => ⟨fun h => ?mp, fun h => ?mpr⟩
    case mp =>
      obtain ⟨⟨⟨⟨he, hh⟩, hd⟩, hr⟩, hn⟩ := h
      exact ⟨hh, hd, hl.mp ⟨he, hr⟩, hn⟩
    case mpr => exact ⟨⟨⟨⟨(hl.mpr h.role).left, h.holder⟩, h.duration⟩, (hl.mpr h.role).right⟩, h.ns⟩
  case h_2 => simp

theorem newLease_labels :
    (c.newLeaseForNode now nodeMeta).labels[labelRole]? = some labelRoleValueNodeLease ∧
    (c.newLeaseForNode now nodeMeta).labels[labelNamespace]? = some c.sysNS := by
  have hn : compare labelNamespace labelRole ≠ .eq := by decide
  simp only [newLeaseForNode]
  rw [ExtTreeMap.getElem?_insert, if_neg hn, ExtTreeMap.getElem?_insert_self,
    ExtTreeMap.getElem?_insert_self]
  exact ⟨rfl, rfl⟩

theorem Current.new : c.Current (c.newLeaseForNode now nodeMeta) nodeMeta where
  holder := rfl
  duration := rfl
  role := newLease_labels.left
  ns := by rw [ExtTreeMap.getD_eq_getD_getElem?, newLease_labels.right, Option.getD_some]

theorem Current.changed : c.Current (changedLease (c.newLeaseForNode now nodeMeta) old) nodeMeta where
  holder := rfl
  duration := rfl
  role := by rw [changedLease, ExtTreeMap.getElem?_union, newLease_labels.left, Option.some_or]
  ns := by
    rw [changedLease, ExtTreeMap.getD_union, ExtTreeMap.getD_eq_getD_getElem?, newLease_labels.right,
      Option.getD_some]

def LeaseSettled (c : Controller) (nodeMeta : Kube.NodeMeta) (stored : Option Kube.Lease) : Prop :=
  ∃ lease, stored = some lease ∧ c.checkNodeLeaseUpToDate lease nodeMeta = (true, true) ∧
    ∀ now a, c.onNodeLeaseUpdated now (some nodeMeta) a lease = none

theorem leaseSettled_iff :
    c.LeaseSettled nodeMeta (some lease) ↔ c.checkNodeLeaseUpToDate lease nodeMeta = (true, true) := by
  constructor
  case mp =>
    rintro ⟨_, ⟨⟩, hc, _⟩
    exact hc
  case mpr => exact fun hc => ⟨lease, rfl, hc, fun _ _ => by simp [onNodeLeaseUpdated, hc]⟩

-- The lease is settled iff it was not stored before, it was owned by the node, or its update fails, so that
-- it is created anew.
theorem ensureNodeLease_settled_iff (hl : c.vnConfig.node.leaseEnabled)
    (hm : c.doNodeResourcePreCheck nodeMeta.name = false)
    (hn : ∀ old, stored = some old → old.name = nodeMeta.name)
    (he : c.ensureNodeLease now nodeMeta a stored = e) (h : e.err = none) :
    c.LeaseSettled nodeMeta e.stored ↔ ∀ old, stored = some old → Owned old nodeMeta ∨ a .update ≠ none := by
  simp only [ensureNodeLease, hl, Bool.not_true, Bool.false_eq_true, if_false] at he
  -- Which request is made for a lease that is not up to date depends on its owner.
  have hf {old} (ho : stored = some old) :
      (c.checkNodeLeaseUpToDate old nodeMeta).fst ↔ Owned old nodeMeta :=
    checkNodeLease_fst (hn old ho ▸ hm)
  cases ensureObject_cases he h
  case kept old ho hu =>
    have hc := of_decide_eq_true hu
    refine iff_of_true (leaseSettled_iff.mpr hc) fun old' ho' => ?_
    cases ho.symm.trans ho'
    exact .inl ((hf ho).mp (by rw [hc]))
  case changed old ho hu ha =>
    have hm' : c.doNodeResourcePreCheck (changedLease (c.newLeaseForNode now nodeMeta) old).name = false :=
      (congrArg _ (hn old ho)).trans hm
    rw [leaseSettled_iff, checkNodeLease_iff hm', and_iff_left Current.changed]
    constructor
    case mp =>
      intro hw old' ho'
      cases ho.symm.trans ho'
      exact .inl hw
    case mpr =>
      intro hr
      by_contra hw
      rw [if_neg (mt (hf ho).mp hw)] at ha
      exact (hr old ho).elim hw fun hne => hne ha
  case created writes hc =>
    have hw : Owned (c.newLeaseForNode now nodeMeta) nodeMeta := rfl
    refine iff_of_true (leaseSettled_iff.mpr <| (checkNodeLease_iff hm).mpr ⟨hw, .new⟩) fun old ho => ?_
    refine or_iff_not_imp_left.mpr fun hw' => ?_
    have ha := (hc old ho).right
    rwa [if_neg (mt (hf ho).mp hw')] at ha

def outdatedLease (ownerReferences : List Kube.OwnerReference) : Kube.Lease :=
  ⟨[1], ∅, ownerReferences, none, none, none, none⟩

theorem ensureNodeLease_settled_iff_owned :
    ∃ e, (single true false).ensureNodeLease 5 ⟨[1], [2]⟩ (fun _ => none)
        (some (outdatedLease [⟨str "v1", str "Node", [1], [2], none⟩])) = e ∧
      (single true false).LeaseSettled ⟨[1], [2]⟩ e.stored := by
  refine ⟨_, rfl, (ensureNodeLease_settled_iff rfl rfl ?_ rfl rfl).mpr ?_⟩
  all_goals rintro old ⟨⟩
  case refine_1 => rfl
  case refine_2 => exact .inl rfl

-- A lease without owners is updated, and is still not up to date.
theorem not_leaseSettled_unowned :
    ∃ e, (single true false).ensureNodeLease 5 ⟨[1], [2]⟩ (fun _ => none) (some (outdatedLease [])) = e ∧
      e.err = none ∧ ¬(single true false).LeaseSettled ⟨[1], [2]⟩ e.stored := by
  refine ⟨_, rfl, rfl, fun h => ?_⟩
  obtain ⟨lease, hl, hc, -⟩ := h
  cases hl
  cases hc

end Leases

end Aranya.EdgeDevice.Controller
