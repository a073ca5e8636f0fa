import Aranya.Controller.Theorems.NodeStatus

namespace Aranya.EdgeDevice

open Std (ExtTreeMap)

def remaining (interval : Int) (now : Kube.Time) (expected conditions : List Kube.NodeCondition) : List Int :=
  conditions.filter (·.kind ∈ expected.map (·.kind)) |>.map fun c =>
    Kube.Time.sub (c.lastHeartbeatTime + interval) now

structure Economical {Q : Type} (interval : Int) (remaining : List Int) (h : StatusHandled Q) : Prop where
  update : (∃ node, .updateStatus node ∈ h.requests) ↔ ∃ r, remaining.min? = some r ∧ r < interval.tdiv 5
  reschedule : ∀ r, remaining.min? = some r → interval.tdiv 5 ≤ r →
    h.requests = [] ∧ h.result = .reschedule ((r * 4).tdiv 5)

theorem min?_lt_iff {l : List Int} {x : Int} : (∃ r, l.min? = some r ∧ r < x) ↔ ∃ r ∈ l, r < x := by
  constructor
  case mp =>
    rintro ⟨r, hr, hx⟩
    exact ⟨r, (List.min?_eq_some_iff.mp hr).left, hx⟩
  case mpr =>
    rintro ⟨r, hr, hx⟩
    cases hm : l.min?
    case none =>
      rw [List.min?_eq_none_iff.mp hm] at hr
      cases hr
    case some r' => exact ⟨r', rfl, Int.lt_of_le_of_lt ((List.min?_eq_some_iff.mp hm).right r hr) hx⟩

section Status

variable {Q : Type} {q : Kube.Quantities Q} {config : Conf.VirtualnodeNodeConfig} {now : Kube.Time}
    {expected status : Kube.NodeStatus Q}

theorem connectedStatus_of_no_lease (hl : ¬config.leaseEnabled) (hi : 5 ≤ config.mirrorSyncInterval) :
    (connectedStatus q config now expected status).updateStatus := by
  have hb : 0 < config.mirrorSyncInterval.tdiv 5 := by
    rw [Int.tdiv_eq_ediv_of_nonneg (by omega)]
    omega
  simp only [connectedStatus, if_neg hl]
  rw [if_pos <| Int.lt_of_le_of_lt foldl_mergeCondition_heartBeatRemain hb]

end Status

namespace Controller

variable {Q : Type} {c : Controller} {q : Kube.Quantities Q} {o : Nat → Visits} {name : Bytes} {vn : Device Q}
    {pods : List (Kube.PodResources Q)} {now : Kube.Instant} {a : StatusAnswers} {stored : Kube.StatusNode Q}

structure MetadataSettled (vn : Device Q) (stored : Kube.StatusNode Q) : Prop where
  labels : ∀ k v : Bytes, (systemLabels vn.cached.status.nodeInfo)[k]?.or vn.cached.ext.labels[k]? = some v →
    (stored.labels.getD ∅)[k]? = some v
  annotations : ∀ k v : Bytes, vn.cached.ext.annotations[k]? = some v →
    (stored.annotations.getD ∅)[k]? = some v

theorem eq_or_of_imp {x y : Option Bytes} (h : ∀ v, x = some v → y = some v) : y = x.or y := by
  cases x
  case none => rfl
  case some v => exact h v rfl

theorem toSet_of_settled (h : MetadataSettled vn stored) : toSet o vn stored = (∅, ∅) :=
  nothing_to_set (fun k => eq_or_of_imp (h.labels k)) (fun k => eq_or_of_imp (h.annotations k))
    (fun _ _ => .inl rfl) (fun _ => .inl rfl)

structure AsExpected (q : Kube.Quantities Q) (vn : Device Q) (pods : List (Kube.PodResources Q))
    (stored : Kube.StatusNode Q) : Prop where
  metadata : MetadataSettled vn stored
  status : StatusSettled q (expectedStatus q vn pods stored.status) stored.status

theorem requests_of_no_lease (hp : ¬c.doNodeResourcePreCheck name) (hc : vn.connected)
    (hl : ¬c.vnConfig.node.leaseEnabled) (hi : 5 ≤ c.vnConfig.node.mirrorSyncInterval)
    (hm : MetadataSettled vn stored) :
    ∃ node, (c.onNodeStatusUpdated q o name vn pods now a stored).requests = [.updateStatus node] := by
  have hu : (c.statusChange q vn pods now stored.status).updateStatus := by
    rw [statusChange, if_pos hc]
    exact connectedStatus_of_no_lease hl hi
  rw [onNodeStatusUpdated_of_set hp (toSet_of_settled hm), writeStatus, if_pos hu]
  cases a.updateStatus <;> exact ⟨_, rfl⟩

theorem economical_iff_of_update {interval : Int} {l : List Int} {h : StatusHandled Q}
    (hr : ∃ node, h.requests = [.updateStatus node]) :
    Economical interval l h ↔ ∃ r ∈ l, r < interval.tdiv 5 := by
  obtain ⟨node, hr⟩ := hr
  have hu : ∃ node, NodeRequest.updateStatus node ∈ h.requests := ⟨node, by simp [hr]⟩
  rw [← min?_lt_iff]
  constructor
  case mp => exact fun he => he.update.mp hu
  case mpr =>
    rintro ⟨r, hm, hx⟩
    refine ⟨iff_of_true hu ⟨r, hm, hx⟩, fun r' hm' hx' => ?_⟩
    cases hm.symm.trans hm'
    exact absurd hx (Int.not_lt.mpr hx')

theorem heartbeat_economical_iff (c : Controller) (q : Kube.Quantities Q) (o : Nat → Visits) (name : Bytes)
    (vn : Device Q) (pods : List (Kube.PodResources Q)) (now : Kube.Instant) (a : StatusAnswers)
    (stored : Kube.StatusNode Q) (hp : ¬c.doNodeResourcePreCheck name) (hc : vn.connected)
    (hl : ¬c.vnConfig.node.leaseEnabled) (hi : 5 ≤ c.vnConfig.node.mirrorSyncInterval)
    (hm : AsExpected q vn pods stored) :
    let interval := c.vnConfig.node.mirrorSyncInterval
    let remains := remaining interval now.time vn.cached.status.conditions stored.status.conditions
    Economical interval remains (c.onNodeStatusUpdated q o name vn pods now a stored) ↔
      ∃ r ∈ remains, r < interval.tdiv 5 :=
  economical_iff_of_update (requests_of_no_lease hp hc hl hi hm.metadata)

def unleased (interval : Int) : Controller :=
  { single false false with
    vnConfig := { Conf.VirtualnodeConfig.zero with node := ⟨false, interval, 0, false, 0, 40, []⟩ } }

def readyDevice : Device Int where
  connected := true
  cached := ⟨{ conditions := [{ kind := .ready, status := .true }] }, {}, {}⟩

def readyNode : Kube.StatusNode Int where
  labels := some (systemLabels {})
  annotations := none
  status :=
    { phase := .running
      conditions := [{ kind := .ready, status := .true, lastHeartbeatTime := 1, lastTransitionTime := 1 }] }

theorem asExpected_readyNode : AsExpected Kube.Quantities.thousandths readyDevice [] readyNode where
  metadata :=
    { labels := by simp [readyDevice, readyNode]
      annotations := by simp [readyDevice] }
  status :=
    { capacity := rfl
      allocatable := rfl
      nodeInfo := rfl
      phase := rfl
      conditions := by
        intro e he
        obtain rfl : e = { kind := .ready, status := .true } := List.mem_singleton.mp he
        exact ⟨by decide, by decide⟩ }

theorem heartbeat_economical_late :
    Economical 10 [1] ((unleased 10).onNodeStatusUpdated Kube.Quantities.thousandths (fun _ => .sorted) [1]
      readyDevice [] (.nth 9) ⟨none, none⟩ readyNode) :=
  (heartbeat_economical_iff (unleased 10) _ _ [1] readyDevice [] (.nth 9) ⟨none, none⟩ readyNode (by decide) rfl
    (by decide) (by decide) asExpected_readyNode).mpr ⟨1, by decide, by decide⟩

-- The heartbeat is as fresh as it can be, but the status is written.
theorem not_heartbeat_economical_fresh :
    AsExpected Kube.Quantities.thousandths readyDevice [] readyNode ∧
    remaining 10 1 readyDevice.cached.status.conditions readyNode.status.conditions = [10] ∧
    ¬Economical 10 [10] ((unleased 10).onNodeStatusUpdated Kube.Quantities.thousandths (fun _ => .sorted) [1]
      readyDevice [] (.nth 0) ⟨none, none⟩ readyNode) := by
  refine ⟨asExpected_readyNode, by decide, ?_⟩
  have hm := asExpected_readyNode.metadata
  refine mt (economical_iff_of_update (requests_of_no_lease (by decide) rfl (by decide) (by decide) hm)).mp ?_
  decide

end Controller
end Aranya.EdgeDevice
