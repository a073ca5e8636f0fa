import Aranya.VirtualNode.Connected

namespace Aranya.VirtualNode

variable {Q F : Type} {q : Kube.Quantities Q} {b : BigFloats F} {maxPods : Int} {n : NodeCache Q}
    {action : Node.InfoKind} {posted : Except Bytes (List (Kube.Instant × Node.Reply))}

def Applied (q : Kube.Quantities Q) (b : BigFloats F) (maxPods : Int) (n : NodeCache Q) (action : Node.InfoKind)
    (posted : Except Bytes (List (Kube.Instant × Node.Reply))) : Prop :=
  ∃ replies now ns post s n', posted = .ok replies ∧
    Reaches (onNodeMsg q b maxPods action) ⟨n, none⟩ replies (now, .nodeStatus ns) post s ∧
    (updateNodeCache q b maxPods now ns action).run s.cache = (.ok (), n')

def Answered (posted : Except Bytes (List (Kube.Instant × Node.Reply))) : Prop :=
  (∃ e, posted = .error e) ∨ ∃ r replies, posted = .ok (r :: replies) ∧ r.snd ≠ .other

theorem syncDeviceNodeStatus_ok {replies : List (Kube.Instant × Node.Reply)} :
    syncDeviceNodeStatus q b maxPods n action (.ok replies) =
      (loop (onNodeMsg q b maxPods action) ⟨n, none⟩ replies).fst :=
  handleMessages_eq

theorem applied_of_answered (h : Answered posted)
    (hs : (syncDeviceNodeStatus q b maxPods n action posted).err = none) :
    Applied q b maxPods n action posted := by
  obtain ⟨e, rfl⟩ | ⟨⟨now, r⟩, replies, rfl, hr⟩ := h
  case inl => cases hs
  case inr =>
    rw [syncDeviceNodeStatus_ok] at hs
    cases r
    case error e =>
      have hb : onNodeMsg q b maxPods action ⟨n, none⟩ (now, .error e) = (⟨n, some (.device e)⟩, true) := rfl
      rw [loop_of_exit hb] at hs
      cases hs
    case other => exact absurd rfl hr
    case nodeStatus ns =>
      cases hu : (updateNodeCache q b maxPods now ns action).run n
      case mk res n' =>
        cases res
        case ok u => exact ⟨_, now, ns, replies, _, n', rfl, .head, hu⟩
        case error h =>
          have hb : onNodeMsg q b maxPods action ⟨n, none⟩ (now, .nodeStatus ns) =
              (⟨n', some (.halt h)⟩, true) := by
            simp only [onNodeMsg, hu]
          rw [loop_of_exit hb] at hs
          cases hs

theorem not_applied_of_not_answered (q : Kube.Quantities Q) (b : BigFloats F) (maxPods : Int) (n : NodeCache Q)
    (action : Node.InfoKind) (h : ¬Answered posted) :
    (syncDeviceNodeStatus q b maxPods n action posted).err = none ∧ ¬Applied q b maxPods n action posted := by
  cases posted
  case error e => exact absurd (.inl ⟨e, rfl⟩) h
  case ok replies =>
    cases replies
    case nil =>
      refine ⟨rfl, ?_⟩
      rintro ⟨_, _, _, _, _, _, hp, ⟨_, hr, _⟩, _⟩
      cases hp
      simp at hr
    case cons r replies =>
      obtain ⟨now, r⟩ := r
      have hr : r = .other := by
        by_contra hr
        exact h <| .inr ⟨_, replies, rfl, hr⟩
      subst hr
      have hb : onNodeMsg q b maxPods action ⟨n, none⟩ (now, .other) = (⟨n, none⟩, true) := rfl
      constructor
      case left => rw [syncDeviceNodeStatus_ok, loop_of_exit hb]
      case right =>
        rintro ⟨_, _, _, _, _, _, hp, hr, _⟩
        cases hp
        obtain ⟨he, -⟩ | ⟨s', hs, -⟩ := hr.cons_cases
        case inl => cases he
        case inr => cases hb.symm.trans hs

theorem sync_of_allowed {c : SyncConfig} {name : Bytes} {queues : SyncQueue → GuardedQueue Bytes Int}
    {podErr : Option Pod.Failure} {r : Connected Q}
    (h : onVirtualNodeConnected q b maxPods c name queues n posted podErr = some r) (hr : r.rejected = none) :
    (syncDeviceNodeStatus q b maxPods n .all posted).err = none := by
  cases he : (syncDeviceNodeStatus q b maxPods n .all posted).err
  case none => rfl
  case some e =>
    cases e
    all_goals
      simp only [onVirtualNodeConnected, he] at h
      cases h
    all_goals cases hr

-- The device is allowed only after a status was applied, iff the first thing it sends is a status or an
-- error.
theorem initialSync_real_iff (q : Kube.Quantities Q) (b : BigFloats F) (maxPods : Int) (n : NodeCache Q)
    (posted : Except Bytes (List (Kube.Instant × Node.Reply))) :
    ((∀ action, (syncDeviceNodeStatus q b maxPods n action posted).err = none →
        Applied q b maxPods n action posted) ∧
      ∀ c name queues podErr r, onVirtualNodeConnected q b maxPods c name queues n posted podErr = some r →
        r.rejected = none → Applied q b maxPods n .all posted) ↔
    Answered posted := by
  constructor
  case mp =>
    intro h
    by_contra ha
    obtain ⟨hs, hn⟩ := not_applied_of_not_answered q b maxPods n .all ha
    exact hn <| h.left .all hs
  case mpr =>
    intro ha
    refine ⟨fun action => applied_of_answered ha, fun c name queues podErr r h hr => ?_⟩
    exact applied_of_answered ha <| sync_of_allowed h hr

-- A device that sends nothing at all is allowed.
theorem not_initialSync_real_silent :
    ∃ r : Connected Int,
      onVirtualNodeConnected .thousandths .integers 11 ⟨true, 1, 1, fun _ => 0, fun _ => 0⟩ (str "node")
        (fun _ => .new) (newNodeCache none none) (.ok []) none = some r ∧
      r.rejected = none ∧ r.cache.val.status.phase = .unset ∧
      (syncDeviceNodeStatus .thousandths .integers 11 (newNodeCache none none : NodeCache Int) .all (.ok [])).err =
        none ∧
      ¬Applied .thousandths .integers 11 (newNodeCache none none : NodeCache Int) .all (.ok []) := by
  have ha : ¬Answered (.ok []) := by simp [Answered]
  obtain ⟨hs, hn⟩ := not_applied_of_not_answered Kube.Quantities.thousandths .integers 11
    (newNodeCache none none) .all ha
  exact ⟨_, rfl, rfl, rfl, hs, hn⟩

end Aranya.VirtualNode
