import Aranya.VirtualNode.NodeStatus

namespace Aranya.VirtualNode

variable {Q F : Type} {q : Kube.Quantities Q} {b : BigFloats F} {maxPods : Int} {n n' : NodeCache Q}

namespace NodeCache

variable {u : Unit}

theorem modifyStatus_ok {f : Kube.NodeStatus Q → Kube.NodeStatus Q}
    (h : (modifyStatus f).run n = (.ok u, n')) : n'.val = { n.val with status := f n.val.status } :=
  (congrArg Prod.snd (doExclusive_eq_ok h).right.right).symm

theorem retrieveStatus_ok {s s' : Kube.NodeStatus Q} (h : (retrieveStatus s).run n = (.ok s', n')) :
    s' = n.val.retrieve s ∧ n'.val = n.val := by
  obtain ⟨hs, hn⟩ := Prod.mk.inj (doExclusive_eq_ok h).right.right
  exact ⟨(Except.ok.inj hs).symm, hn.symm⟩

theorem updateSystemInfo_ok {i : Kube.NodeSystemInfo} (h : (updateSystemInfo i).run n = (.ok u, n')) :
    n'.val.status.conditions = n.val.status.conditions := by
  rw [updateSystemInfo] at h
  rw [modifyStatus_ok h]

theorem updatePhase_ok {p : Kube.NodePhase} (h : (updatePhase p).run n = (.ok u, n')) :
    n'.val.status.conditions = n.val.status.conditions := by
  simp only [updatePhase] at h
  split at h
  case isTrue => cases h; rfl
  case isFalse => rw [modifyStatus_ok h]

theorem updateCapacity_ok {c : Kube.ResourceList Q} (h : (updateCapacity c).run n = (.ok u, n')) :
    n'.val.status.conditions = n.val.status.conditions := by
  simp only [updateCapacity] at h
  split at h
  case isTrue => cases h; rfl
  case isFalse => rw [modifyStatus_ok h]

theorem updateConditions_ok {c : List Kube.NodeCondition} (hc : c ≠ [])
    (h : (updateConditions c).run n = (.ok u, n')) : n'.val.status.conditions = c := by
  simp only [updateConditions, List.isEmpty_iff, hc, if_false] at h
  rw [modifyStatus_ok h]

theorem updateExtInfo_ok {extInfo : List Node.ExtInfo} {e : Option Bytes}
    (h : (updateExtInfo b extInfo).run n = (.ok e, n')) :
    n'.val.status = n.val.status ∧ n'.val.node = n.val.node := by
  have hr := (doExclusive_eq_ok h).right.right
  simp only [ExceptT.run] at hr
  split at hr
  all_goals
    rw [← (Prod.mk.inj hr).right]
    exact ⟨rfl, rfl⟩

end NodeCache

theorem updateNodeCache_conditions {now : Kube.Instant} {msg : Node.StatusMsg} {action : Node.InfoKind} {u : Unit}
    (h : (updateNodeCache q b maxPods now msg action).run n = (.ok u, n')) :
    n'.val.status.conditions =
      msg.conditions.elim n.val.status.conditions (translateNodeConditions now.time n.val.status.conditions) := by
  obtain ⟨_, n₁, h₁, h⟩ := run_bind_eq_ok h
  obtain ⟨_, n₂, h₂, h⟩ := run_bind_eq_ok h
  obtain ⟨_, n₃, h₃, h⟩ := run_bind_eq_ok h
  obtain ⟨_, n₄, h₄, h⟩ := run_bind_eq_ok h
  have hi : n₁.val.status.conditions = n.val.status.conditions := by
    cases hm : msg.systemInfo
    case none => rw [hm] at h₁; cases h₁; rfl
    case some info => rw [hm] at h₁; exact NodeCache.updateSystemInfo_ok h₁
  have hc : n₃.val.status.conditions = n₂.val.status.conditions := by
    cases hm : msg.capacity
    case none => rw [hm] at h₃; cases h₃; rfl
    case some capacity => rw [hm] at h₃; exact NodeCache.updateCapacity_ok h₃
  have he : n₄.val.status.conditions = n₃.val.status.conditions := by
    split at h₄
    case isFalse => cases h₄; rfl
    case isTrue =>
      obtain ⟨_, n₅, h₅, h₄⟩ := run_bind_eq_ok h₄
      cases h₄
      rw [(NodeCache.updateExtInfo_ok h₅).left]
  rw [NodeCache.updatePhase_ok h, he, hc, ← hi]
  cases hm : msg.conditions
  case none => rw [hm] at h₂; cases h₂; rfl
  case some conditions =>
    rw [hm] at h₂
    obtain ⟨prev, n₅, h₅, h₂⟩ := run_bind_eq_ok h₂
    obtain ⟨rfl, -⟩ := NodeCache.retrieveStatus_ok h₅
    exact NodeCache.updateConditions_ok (by simp [translateNodeConditions, reported]) h₂

end Aranya.VirtualNode
