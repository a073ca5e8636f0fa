import Aranya.Lib.Execution
import Aranya.Lib.History
import Aranya.Lib.List
import Aranya.VirtualNode.Theorems.NodeCache

namespace Aranya.VirtualNode

variable {Q F : Type} {q : Kube.Quantities Q} {b : BigFloats F} {maxPods : Int} {n n' : NodeCache Q}
    {kind : Kube.NodeConditionType} {status : Kube.ConditionStatus} {cond : Node.Conditions}
    {prev : List Kube.NodeCondition} {now : Kube.Time} {hist : List Received}
    {l : List (Kube.Time × Node.Conditions)} {r : Received}

def statusOf (kind : Kube.NodeConditionType) (cond : Node.Conditions) : Option Kube.ConditionStatus :=
  (reported cond).find? (Prod.fst · = kind) |>.map Prod.snd

def carried (hist : List Received) : List (Kube.Time × Node.Conditions) :=
  hist.filterMap fun r => r.msg.conditions.map (r.now.time, ·)

def statuses (kind : Kube.NodeConditionType) (l : List (Kube.Time × Node.Conditions)) :
    List (Kube.Time × Option Kube.ConditionStatus) :=
  l.map fun x => (x.fst, statusOf kind x.snd)

structure Stamped (l : List (Kube.Time × Node.Conditions)) (conditions : List Kube.NodeCondition) : Prop where
  latest : conditions.map (fun c => (c.kind, c.status)) = (l.getLast?.map (reported ·.snd)).getD []
  heartbeat : ∀ c ∈ conditions, l.getLast?.map Prod.fst = some c.lastHeartbeatTime
  transition : ∀ c ∈ conditions, Since (statuses c.kind l) c.lastTransitionTime (some c.status)

theorem nodup_reported : ((reported cond).map Prod.fst).Nodup := by
  simp [reported]

theorem mem_reported_iff : (kind, status) ∈ reported cond ↔ statusOf kind cond = some status := by
  constructor
  case mp =>
    intro h
    rw [statusOf, (find?_key_eq_some_iff nodup_reported).mpr ⟨h, rfl⟩]
    rfl
  case mpr =>
    intro h
    obtain ⟨⟨_, _⟩, he, rfl⟩ := Option.map_eq_some_iff.mp h
    obtain ⟨hm, rfl⟩ := (find?_key_eq_some_iff nodup_reported).mp he
    exact hm

theorem Stamped.nodup (h : Stamped l prev) : (prev.map (·.kind)).Nodup := by
  have hk : prev.map (·.kind) = (prev.map fun c => (c.kind, c.status)).map Prod.fst := by simp
  rw [hk, h.latest]
  cases l.getLast?
  case none => exact .nil
  case some x => exact nodup_reported

theorem foldl_visitLast_of_ne {t : Kube.Time} (h : ∀ c ∈ prev, c.kind ≠ kind) :
    prev.foldl (visitLast now kind status) t = t := by
  induction prev
  case nil => rfl
  case cons c prev hi =>
    rw [List.foldl_cons, visitLast, if_pos <| h c List.mem_cons_self]
    exact hi fun c hc => h c (List.mem_cons_of_mem _ hc)

theorem transitionTime_eq {last : Kube.NodeCondition} (hn : (prev.map (·.kind)).Nodup) (h : last ∈ prev) :
    transitionTime prev now last.kind status =
      if last.status = status ∧ last.lastTransitionTime ≠ 0 then last.lastTransitionTime else now := by
  obtain ⟨pre, post, rfl⟩ := List.append_of_mem h
  obtain ⟨h₁, h₂⟩ := List.forall_mem_append.mp fun c hc => ne_key_of_nodup hn hc
  rw [transitionTime, List.foldl_append, List.foldl_cons, foldl_visitLast_of_ne h₁,
    foldl_visitLast_of_ne h₂, visitLast, if_neg (by simp)]

theorem Stamped.translate (h : Stamped l prev)
    (hl : ∀ x ∈ l, x.fst ≠ 0) (ht : now ≠ 0) :
    Stamped (l ++ [(now, cond)]) (translateNodeConditions now prev cond) where
  latest := by
    rw [List.getLast?_concat]
    rfl
  heartbeat := by
    intro c hc
    obtain ⟨_, _, rfl⟩ := List.mem_map.mp hc
    simp
  transition := by
    intro c hc
    obtain ⟨⟨kind, status⟩, hm, rfl⟩ := List.mem_map.mp hc
    have hs := mem_reported_iff.mp hm
    simp only [statuses, List.map_append, List.map_cons, List.map_nil, hs]
    cases hg : l.getLast?
    case none =>
      cases List.getLast?_eq_none_iff.mp hg
      have hp : prev = [] := by simpa using h.latest
      rw [hp]
      exact .append_of_ne (by simp)
    case some x =>
      -- all messages report the same conditions, so there was one of this kind
      have hk : kind ∈ (prev.map fun c => (c.kind, c.status)).map Prod.fst := by
        have hk : kind ∈ (reported cond).map Prod.fst := List.mem_map_of_mem (f := Prod.fst) hm
        rwa [h.latest, hg]
      obtain ⟨last, hp, rfl⟩ : ∃ last ∈ prev, last.kind = kind := by simpa using hk
      have hc := h.transition last hp
      have h₀ : last.lastTransitionTime ≠ 0 := by
        obtain ⟨x, hx, he⟩ := List.mem_map.mp hc.mem
        exact (Prod.mk.inj he).left ▸ hl x hx
      rw [transitionTime_eq h.nodup hp]
      by_cases he : last.status = status
      case pos =>
        simp only [he, h₀, ne_eq, not_false_iff, and_self, if_true, if_false]
        exact (he ▸ hc).append
      case neg =>
        simp only [he, ht, false_and, if_false]
        refine .append_of_ne fun x hx => ?_
        obtain ⟨u, hu⟩ := hc.latest
        cases hu.symm.trans hx
        simpa using he

theorem carried_append :
    carried (hist ++ [r]) = carried hist ++ (r.msg.conditions.map (r.now.time, ·)).toList := by
  rw [carried, List.filterMap_append]
  cases h : r.msg.conditions <;> simp [carried, h]

theorem carried_ne_zero : ∀ x ∈ carried hist, x.fst ≠ 0 := by
  intro x hx
  obtain ⟨r, -, hr⟩ := List.mem_filterMap.mp hx
  obtain ⟨_, -, rfl⟩ := Option.map_eq_some_iff.mp hr
  exact r.now.pos.ne'

theorem Stamped.step (h : Stamped (carried hist) n.val.status.conditions)
    (hs : step q b maxPods n r = some n') : Stamped (carried (hist ++ [r])) n'.val.status.conditions := by
  have hu : ∃ u, (updateNodeCache q b maxPods r.now r.msg r.action).run n = (.ok u, n') := by
    simp only [VirtualNode.step] at hs
    split at hs
    case h_1 u _ hr => exact ⟨u, Option.some.inj hs ▸ hr⟩
    case h_2 => cases hs
  obtain ⟨u, hu⟩ := hu
  rw [updateNodeCache_conditions hu, carried_append]
  cases hc : r.msg.conditions
  case none => simpa using h
  case some cond => exact h.translate carried_ne_zero r.now.pos.ne'

theorem stamped_of_execution {nodeLabels nodeAnnotations : Option Kube.Labels}
    (e : Execution (step q b maxPods) (newNodeCache nodeLabels nodeAnnotations) hist n) :
    Stamped (carried hist) n.val.status.conditions := by
  refine e.preserves_history (I := fun hist n => Stamped (carried hist) n.val.status.conditions)
    (P := fun _ _ => True) (fun h _ => h.step) ?_ (.of_forall fun _ _ => trivial)
  exact ⟨rfl, by simp [newNodeCache], by simp [newNodeCache]⟩

theorem conditions_stamped (q : Kube.Quantities Q) (b : BigFloats F) (maxPods : Int)
    (nodeLabels nodeAnnotations : Option Kube.Labels) (hist : List Received) (n : NodeCache Q)
    (e : Execution (step q b maxPods) (newNodeCache nodeLabels nodeAnnotations) hist n) :
    (n.val.status.conditions.map (·.kind)).Nodup ∧ Stamped (carried hist) n.val.status.conditions :=
  ⟨(stamped_of_execution e).nodup, stamped_of_execution e⟩

def fourMessages : List Received :=
  [⟨.nth 0, { conditions := some ⟨.healthy, .healthy, .healthy, .healthy, .healthy⟩ }, .dyn⟩,
   ⟨.nth 1, {}, .dyn⟩,
   ⟨.nth 2, { conditions := some ⟨.healthy, .healthy, .healthy, .healthy, .healthy⟩ }, .dyn⟩,
   ⟨.nth 3, { conditions := some ⟨.healthy, .healthy, .unhealthy, .healthy, .healthy⟩ }, .dyn⟩]

theorem conditions_stamped_four :
    ∃ n, Execution (step Kube.Quantities.thousandths BigFloats.integers 11) (newNodeCache none none)
        fourMessages n ∧
      (n.val.status.conditions.map (·.kind)).Nodup ∧ Stamped (carried fourMessages) n.val.status.conditions ∧
      n.val.status.conditions.map (fun c => (c.lastHeartbeatTime, c.lastTransitionTime)) =
        [(4, 1), (4, 1), (4, 4), (4, 1), (4, 1)] := by
  have ⟨n, e, hc⟩ : ∃ n, Execution (step Kube.Quantities.thousandths BigFloats.integers 11)
      (newNodeCache none none) fourMessages n ∧
      n.val.status.conditions.map (fun c => (c.lastHeartbeatTime, c.lastTransitionTime)) =
        [(4, 1), (4, 1), (4, 4), (4, 1), (4, 1)] :=
    ⟨_, .of_foldlM rfl, rfl⟩
  obtain ⟨h₁, h₂⟩ := conditions_stamped _ _ _ _ _ _ _ e
  exact ⟨n, e, h₁, h₂, hc⟩

end Aranya.VirtualNode
