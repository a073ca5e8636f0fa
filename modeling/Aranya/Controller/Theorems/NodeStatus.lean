import Aranya.Controller.Theorems.Node
import Aranya.Controller.Theorems.NodeMetadata
import Aranya.VirtualNode.Theorems.NodeConditions

namespace Aranya.EdgeDevice

open Std (ExtTreeMap)

section Resources

variable {Q : Type} {q : Kube.Quantities Q} {capacity : Kube.ResourceList Q}
    {pods pods' : List (Kube.PodResources Q)}

theorem checkNodeResourcesEqual_self : checkNodeResourcesEqual q capacity capacity := by
  simp [checkNodeResourcesEqual, q.equal_self]

theorem checkNodeInfoEqual_self {info : Kube.NodeSystemInfo} : checkNodeInfoEqual info info := by
  simp [checkNodeInfoEqual]

theorem int64_sub_int64_sub (x y z : Int) :
    Kube.int64 (Kube.int64 (x - y) - z) = Kube.int64 (Kube.int64 (x - z) - y) := by
  simp only [Kube.int64, Int.bmod_sub_bmod]
  rw [Int.sub_sub, Int.add_comm, ← Int.sub_sub]

theorem available_perm (resource : Kube.ResourceList Q → Q) (measure : Q → Int) (h : pods.Perm pods') :
    available q resource measure capacity pods = available q resource measure capacity pods' := by
  simp only [available, ← List.foldl_flatMap]
  apply List.Perm.foldl_eq' (h.flatMap_right _)
  intro _ _ _ _ _
  exact int64_sub_int64_sub _ _ _

theorem getAllocatable_perm (h : pods.Perm pods') :
    getAllocatable q capacity pods = getAllocatable q capacity pods' := by
  simp only [getAllocatable, available_perm _ _ h, h.length_eq]

end Resources

section Conditions

variable {config : Conf.VirtualnodeNodeConfig} {now : Kube.Time} {e c : Kube.NodeCondition}
    {expected cs : List Kube.NodeCondition} {m : Merge}

structure Matches (conditions : List Kube.NodeCondition) (expected : Kube.NodeCondition) : Prop where
  found : expected.kind ∈ conditions.map (·.kind)
  status : ∀ c ∈ conditions, c.kind = expected.kind → c.status = expected.status

def visited (config : Conf.VirtualnodeNodeConfig) (now : Kube.Time) (expected current : Kube.NodeCondition) :
    Kube.NodeCondition :=
  if expected.kind ≠ current.kind then
    current
  else if expected.status = current.status then
    if config.leaseEnabled then current else { current with lastHeartbeatTime := now }
  else
    { current with
      status := expected.status
      lastTransitionTime := now
      lastHeartbeatTime := now
      message := expected.message
      reason := expected.reason }

def added (now : Kube.Time) (expected : Kube.NodeCondition) : Kube.NodeCondition :=
  { expected with lastTransitionTime := now, lastHeartbeatTime := now }

@[simp]
theorem visited_kind : (visited config now e c).kind = c.kind := by
  rw [visited]
  split <;> try split <;> try split
  all_goals rfl

theorem visited_of_ne (h : e.kind ≠ c.kind) : visited config now e c = c :=
  if_pos h

theorem visited_status (h : e.kind = c.kind) : (visited config now e c).status = e.status := by
  rw [visited, if_neg <| not_not.mpr h]
  split
  case isTrue hs => split <;> exact hs.symm
  case isFalse => rfl

-- With leases, a condition only changes together with its status.
theorem visited_of_status (hl : config.leaseEnabled) (h : (visited config now e c).status = c.status) :
    visited config now e c = c := by
  by_cases hk : e.kind = c.kind
  case neg => exact visited_of_ne hk
  case pos =>
    rw [visited_status hk] at h
    rw [visited, if_neg <| not_not.mpr hk, if_pos h, if_pos hl]

theorem visitCondition_conditions :
    (visitCondition config now e m c).conditions = m.conditions ++ [visited config now e c] := by
  rw [visitCondition, visited]
  split <;> try split <;> try split
  all_goals rfl

theorem visitCondition_found : (visitCondition config now e m c).found ↔ m.found ∨ c.kind = e.kind := by
  rw [visitCondition]
  split
  case isTrue h => simp [Ne.symm h]
  case isFalse h =>
    split <;> try split
    all_goals simp [not_not.mp h]

theorem visitCondition_updateStatus :
    (visitCondition config now e m c).updateStatus ↔ m.updateStatus ∨ c.kind = e.kind ∧ c.status ≠ e.status := by
  rw [visitCondition]
  split
  case isTrue h => simp [Ne.symm h]
  case isFalse h =>
    have hk := (not_not.mp h).symm
    split
    case isTrue hs => split <;> simp [hs]
    case isFalse hs => simp [hk, Ne.symm hs]

theorem visitCondition_heartBeatRemain :
    (visitCondition config now e m c).heartBeatRemain ≤ m.heartBeatRemain := by
  rw [visitCondition]
  split <;> try split <;> try split
  case isFalse.isTrue.isFalse =>
    dsimp only
    split <;> omega
  all_goals rfl

theorem foldl_visitCondition_conditions :
    (cs.foldl (visitCondition config now e) m).conditions = m.conditions ++ cs.map (visited config now e) := by
  induction cs generalizing m
  case nil => simp
  case cons c cs hi => simp [hi, visitCondition_conditions]

theorem foldl_visitCondition_heartBeatRemain :
    (cs.foldl (visitCondition config now e) m).heartBeatRemain ≤ m.heartBeatRemain := by
  induction cs generalizing m
  case nil => exact le_rfl
  case cons c cs hi => exact hi.trans visitCondition_heartBeatRemain

theorem foldl_visitCondition_found :
    (cs.foldl (visitCondition config now e) m).found ↔ m.found ∨ ∃ c ∈ cs, c.kind = e.kind :=
  foldl_collects (fun (m : Merge) (_ : Unit) => m.found) (fun (c : Kube.NodeCondition) _ => c.kind = e.kind)
    (fun _ _ _ => visitCondition_found) (b := ())

theorem foldl_visitCondition_updateStatus :
    (cs.foldl (visitCondition config now e) m).updateStatus ↔
      m.updateStatus ∨ ∃ c ∈ cs, c.kind = e.kind ∧ c.status ≠ e.status :=
  foldl_collects (fun (m : Merge) (_ : Unit) => m.updateStatus)
    (fun (c : Kube.NodeCondition) _ => c.kind = e.kind ∧ c.status ≠ e.status)
    (fun _ _ _ => visitCondition_updateStatus) (b := ())

theorem foldl_visitCondition_reset :
    (m.conditions.foldl (visitCondition config now e) { m with conditions := [], found := false }).found ↔
      e.kind ∈ m.conditions.map (·.kind) := by
  rw [foldl_visitCondition_found, List.mem_map]
  simp

theorem mergeCondition_conditions :
    (mergeCondition config now m e).conditions = m.conditions.map (visited config now e) ++
      if e.kind ∈ m.conditions.map (·.kind) then [] else [added now e] := by
  simp only [mergeCondition, foldl_visitCondition_reset]
  split
  case isTrue h => simp [foldl_visitCondition_conditions]
  case isFalse h =>
    simp only [foldl_visitCondition_conditions]
    rfl

theorem mergeCondition_updateStatus :
    (mergeCondition config now m e).updateStatus ↔ m.updateStatus ∨ ¬Matches m.conditions e := by
  simp only [mergeCondition, foldl_visitCondition_reset]
  split
  case isTrue h =>
    rw [foldl_visitCondition_updateStatus]
    refine or_congr_right ⟨?_, ?_⟩
    case refine_1 =>
      rintro ⟨c, hc, hk, hs⟩ hm
      exact hs <| hm.status c hc hk
    case refine_2 =>
      intro hm
      by_contra hn
      push Not at hn
      exact hm ⟨h, hn⟩
  case isFalse h => exact iff_of_true rfl <| .inr fun hm => h hm.found

theorem mergeCondition_heartBeatRemain :
    (mergeCondition config now m e).heartBeatRemain ≤ m.heartBeatRemain := by
  simp only [mergeCondition]
  split <;> exact foldl_visitCondition_heartBeatRemain

theorem foldl_mergeCondition_heartBeatRemain :
    (expected.foldl (mergeCondition config now) m).heartBeatRemain ≤ m.heartBeatRemain := by
  induction expected generalizing m
  case nil => exact le_rfl
  case cons e expected hi => exact hi.trans mergeCondition_heartBeatRemain

section Leases

variable (hl : config.leaseEnabled)

include hl

theorem mergeCondition_of_matches (h : Matches m.conditions e) :
    (mergeCondition config now m e).conditions = m.conditions := by
  rw [mergeCondition_conditions, if_pos h.found, List.append_nil]
  refine (List.map_congr_left fun c hc => ?_).trans (List.map_id _)
  by_cases hk : e.kind = c.kind
  case neg => exact visited_of_ne hk
  case pos => exact visited_of_status hl <| (visited_status hk).trans (h.status c hc hk.symm).symm

theorem foldl_mergeCondition_updateStatus_iff :
    ¬(expected.foldl (mergeCondition config now) m).updateStatus ↔
      ¬m.updateStatus ∧ ∀ e ∈ expected, Matches m.conditions e := by
  induction expected generalizing m
  case nil => simp
  case cons e expected hi =>
    rw [List.foldl_cons, hi, mergeCondition_updateStatus, not_or, not_not, List.forall_mem_cons, and_assoc]
    refine and_congr_right' <| and_congr_right fun h => ?_
    rw [mergeCondition_of_matches hl h]

theorem foldl_mergeCondition_of_matches (h : ∀ e ∈ expected, Matches m.conditions e) :
    (expected.foldl (mergeCondition config now) m).conditions = m.conditions := by
  induction expected generalizing m
  case nil => rfl
  case cons e expected hi =>
    obtain ⟨he, hr⟩ := List.forall_mem_cons.mp h
    have hc : (mergeCondition config now m e).conditions = m.conditions := mergeCondition_of_matches hl he
    rw [List.foldl_cons, hi (hc ▸ hr), hc]

end Leases

def merged (config : Conf.VirtualnodeNodeConfig) (now : Kube.Time) (expected : List Kube.NodeCondition)
    (c : Kube.NodeCondition) : Kube.NodeCondition :=
  (expected.find? (·.kind = c.kind)).elim c (visited config now · c)

@[simp]
theorem merged_kind : (merged config now expected c).kind = c.kind := by
  rw [merged]
  cases expected.find? (·.kind = c.kind)
  case none => rfl
  case some e => exact visited_kind

theorem merged_of_notMem (h : c.kind ∉ expected.map (·.kind)) : merged config now expected c = c := by
  have hf : expected.find? (·.kind = c.kind) = none := by
    simpa using h
  rw [merged, hf]
  rfl

theorem merged_of_mem (hn : (expected.map (·.kind)).Nodup) (h : e ∈ expected) (hk : e.kind = c.kind) :
    merged config now expected c = visited config now e c := by
  rw [merged, (find?_key_eq_some_iff hn).mpr ⟨h, hk⟩]
  rfl

theorem merged_of_status (hl : config.leaseEnabled) (h : (merged config now expected c).status = c.status) :
    merged config now expected c = c := by
  rw [merged] at h ⊢
  cases hf : expected.find? (·.kind = c.kind)
  case none => rfl
  case some e =>
    rw [hf] at h
    exact visited_of_status hl h

theorem merged_cons (h : e.kind ∉ expected.map (·.kind)) :
    merged config now expected (visited config now e c) = merged config now (e :: expected) c := by
  by_cases hk : e.kind = c.kind
  case pos =>
    rw [merged_of_notMem (by rwa [visited_kind, ← hk]), merged, List.find?_cons_of_pos (by simpa using hk)]
    rfl
  case neg =>
    rw [visited_of_ne hk, merged, merged, List.find?_cons_of_neg (by simpa using hk)]

theorem foldl_mergeCondition_conditions (hn : (expected.map (·.kind)).Nodup) :
    (expected.foldl (mergeCondition config now) m).conditions = m.conditions.map (merged config now expected) ++
      (expected.filter (·.kind ∉ m.conditions.map (·.kind))).map (added now) := by
  induction expected generalizing m
  case nil =>
    simp only [List.foldl_nil, List.filter_nil, List.map_nil, List.append_nil]
    exact (List.map_id _).symm
  case cons e expected hi =>
    obtain ⟨he, hn⟩ := List.nodup_cons.mp hn
    have hf : expected.filter (·.kind ∉ (mergeCondition config now m e).conditions.map (·.kind)) =
        expected.filter (·.kind ∉ m.conditions.map (·.kind)) := by
      refine List.filter_congr fun e' he' => decide_eq_decide.mpr <| not_congr ?_
      have hk : e'.kind ≠ e.kind := fun hk => he <| List.mem_map.mpr ⟨e', he', hk⟩
      rw [mergeCondition_conditions, List.map_append, List.map_map, List.mem_append]
      split <;> simp [added, Function.comp_def, hk]
    have ha : merged config now expected (added now e) = added now e := merged_of_notMem he
    rw [List.foldl_cons, hi hn, hf, mergeCondition_conditions, List.map_append, List.map_map, List.append_assoc]
    refine congrArg₂ (· ++ ·) ?_ ?_
    case refine_1 => exact List.map_congr_left fun c _ => merged_cons he
    case refine_2 =>
      split
      case isTrue h => rw [List.filter_cons_of_neg (by simpa using h), List.map_nil, List.nil_append]
      case isFalse h =>
        rw [List.filter_cons_of_pos (by simpa using h), List.map_singleton, ha]
        rfl

-- A condition only changes together with its status, and only if it is expected.
structure Kept (expected : List Kube.NodeCondition) (c c' : Kube.NodeCondition) : Prop where
  kind : c'.kind = c.kind
  unrelated : c.kind ∉ expected.map (·.kind) → c' = c
  unchanged : c'.status = c.status → c' = c

structure Reconciled (expected old conditions : List Kube.NodeCondition) : Prop where
  settled : ∀ e ∈ expected, Matches conditions e
  split : ∃ kept new, conditions = kept ++ new ∧ List.Forall₂ (Kept expected) old kept ∧
    (new.map (·.kind)).Nodup ∧ ∀ c ∈ new, c.kind ∉ old.map (·.kind)

theorem matches_merge (hn : (expected.map (·.kind)).Nodup) (he : e ∈ expected) :
    Matches (expected.foldl (mergeCondition config now) m).conditions e := by
  rw [foldl_mergeCondition_conditions hn]
  constructor
  case found =>
    rw [List.map_append, List.map_map, List.map_map, List.mem_append]
    by_cases hk : e.kind ∈ m.conditions.map (·.kind)
    case pos => exact .inl <| by simpa [Function.comp_def] using hk
    case neg =>
      refine .inr <| List.mem_map.mpr ⟨e, List.mem_filter.mpr ⟨he, decide_eq_true hk⟩, rfl⟩
  case status =>
    intro c hc hk
    obtain hc | hc := List.mem_append.mp hc
    case inl =>
      obtain ⟨c, -, rfl⟩ := List.mem_map.mp hc
      rw [merged_kind] at hk
      rw [merged_of_mem hn he hk.symm, visited_status hk.symm]
    case inr =>
      obtain ⟨e', he', rfl⟩ := List.mem_map.mp hc
      have hm := (List.mem_filter.mp he').left
      rw [List.inj_on_of_nodup_map hn hm he hk]
      rfl

theorem reconciled_merge (hl : config.leaseEnabled) (hn : (expected.map (·.kind)).Nodup) :
    Reconciled expected m.conditions (expected.foldl (mergeCondition config now) m).conditions where
  settled := fun _ he => matches_merge hn he
  split := by
    refine ⟨_, _, foldl_mergeCondition_conditions hn, ?_, ?_, ?_⟩
    case refine_1 =>
      rw [List.forall₂_map_right_iff, List.forall₂_same]
      intro c _
      exact ⟨merged_kind, merged_of_notMem, merged_of_status hl⟩
    case refine_2 =>
      rw [List.map_map]
      exact (List.filter_sublist.map _).nodup hn
    case refine_3 =>
      intro c hc
      obtain ⟨e, he, rfl⟩ := List.mem_map.mp hc
      exact of_decide_eq_true (List.mem_filter.mp he).right

def IsNotReady (conditions : List Kube.NodeCondition) : Prop :=
  ∃ pre c post, conditions = pre ++ c :: post ∧ (∀ c ∈ pre, c.kind ≠ .ready) ∧ c.kind = .ready ∧
    (c.status = .unknown ∨ c.status = .false)

-- The first condition of type `Ready` is there and not true, and nothing else is new.
def Disconnected (old conditions : List Kube.NodeCondition) : Prop :=
  ∃ pre c post, conditions = pre ++ c :: post ∧ (∀ c ∈ pre, c.kind ≠ .ready) ∧ c.kind = .ready ∧
    c.status ≠ .true ∧ ((∃ c₀, c₀.kind = .ready ∧ old = pre ++ c₀ :: post) ∨ old = pre ∧ post = [])

theorem markNotReady_append {pre cs : List Kube.NodeCondition} (h : ∀ c ∈ pre, c.kind ≠ .ready) :
    markNotReady now (pre ++ cs) = (pre ++ (markNotReady now cs).fst, (markNotReady now cs).snd) := by
  induction pre
  case nil => rfl
  case cons c pre hi =>
    obtain ⟨hc, h⟩ := List.forall_mem_cons.mp h
    rw [List.cons_append, markNotReady, if_pos hc, hi h]
    rfl

theorem markNotReady_of_isNotReady (h : IsNotReady cs) : markNotReady now cs = (cs, false) := by
  obtain ⟨pre, c, post, rfl, hp, hk, hs⟩ := h
  rw [markNotReady_append hp, markNotReady, if_neg <| not_not.mpr hk, if_pos hs]

theorem markNotReady_of_missing (h : ∀ c ∈ cs, c.kind ≠ .ready) :
    markNotReady now cs = (cs ++ [newNodeNotReadyCondition now], true) := by
  have ha : markNotReady now (cs ++ []) = _ := markNotReady_append h
  rwa [List.append_nil] at ha

theorem disconnected_markNotReady :
    Disconnected cs (markNotReady now cs).fst ∧ IsNotReady (markNotReady now cs).fst ∧
    (¬(markNotReady now cs).snd → (markNotReady now cs).fst = cs) := by
  have hr : (newNodeNotReadyCondition now).status ≠ .true := by simp [newNodeNotReadyCondition]
  cases hf : cs.find? (·.kind = .ready)
  case none =>
    have hc : ∀ c ∈ cs, c.kind ≠ .ready := by simpa using hf
    rw [markNotReady_of_missing hc]
    exact ⟨⟨cs, _, [], rfl, hc, rfl, hr, .inr ⟨rfl, rfl⟩⟩, ⟨cs, _, [], rfl, hc, rfl, .inr rfl⟩, by simp⟩
  case some c =>
    obtain ⟨hk, pre, post, rfl, hp⟩ := List.find?_eq_some_iff_append.mp hf
    have hk : c.kind = .ready := of_decide_eq_true hk
    have hp : ∀ c ∈ pre, c.kind ≠ .ready := by simpa using hp
    rw [markNotReady_append hp, markNotReady, if_neg <| not_not.mpr hk]
    split
    case isTrue hs =>
      have ht : c.status ≠ .true := by
        rintro ht
        simp [ht] at hs
      exact ⟨⟨pre, c, post, rfl, hp, hk, ht, .inl ⟨c, hk, rfl⟩⟩, ⟨pre, c, post, rfl, hp, hk, hs⟩, fun _ => rfl⟩
    case isFalse hs =>
      exact ⟨⟨pre, _, post, rfl, hp, rfl, hr, .inl ⟨c, hk, rfl⟩⟩, ⟨pre, _, post, rfl, hp, rfl, .inr rfl⟩,
        by simp⟩

end Conditions

section Status

variable {Q : Type} {q : Kube.Quantities Q} {config : Conf.VirtualnodeNodeConfig} {now : Kube.Time}
    {expected status : Kube.NodeStatus Q}

structure StatusSettled (q : Kube.Quantities Q) (expected status : Kube.NodeStatus Q) : Prop where
  capacity : checkNodeResourcesEqual q expected.capacity status.capacity
  allocatable : checkNodeResourcesEqual q expected.allocatable status.allocatable
  nodeInfo : checkNodeInfoEqual expected.nodeInfo status.nodeInfo
  phase : status.phase = .running
  conditions : ∀ e ∈ expected.conditions, Matches status.conditions e

section Leases

variable (hl : config.leaseEnabled)

include hl

theorem connectedStatus_updateStatus_iff :
    ¬(connectedStatus q config now expected status).updateStatus ↔ StatusSettled q expected status := by
  simp only [connectedStatus, if_pos hl]
  rw [foldl_mergeCondition_updateStatus_iff hl]
  simp only [Bool.not_eq_true', Bool.not_eq_false, Bool.and_eq_true, decide_eq_true_eq]
  constructor
  case mp =>
    rintro ⟨⟨⟨⟨h₁, h₂⟩, h₃⟩, h₄⟩, h₅⟩
    exact ⟨h₁, h₂, h₃, h₄, h₅⟩
  case mpr =>
    intro h
    exact ⟨⟨⟨⟨h.capacity, h.allocatable⟩, h.nodeInfo⟩, h.phase⟩, h.conditions⟩

theorem connectedStatus_of_settled (h : StatusSettled q expected status) :
    (connectedStatus q config now expected status).status = status := by
  simp only [connectedStatus, if_pos hl, h.capacity, h.allocatable, h.nodeInfo, h.phase, if_true, decide_true]
  rw [foldl_mergeCondition_of_matches hl h.conditions, ← h.phase]

theorem settled_connectedStatus (hn : (expected.conditions.map (·.kind)).Nodup) :
    StatusSettled q expected (connectedStatus q config now expected status).status := by
  simp only [connectedStatus, if_pos hl]
  constructor
  case capacity =>
    dsimp only
    split
    case isTrue h => exact h
    case isFalse => exact checkNodeResourcesEqual_self
  case allocatable =>
    dsimp only
    split
    case isTrue h => exact h
    case isFalse => exact checkNodeResourcesEqual_self
  case nodeInfo =>
    dsimp only
    split
    case isTrue h => exact h
    case isFalse => exact checkNodeInfoEqual_self
  case phase =>
    dsimp only
    split
    case isTrue h => exact h
    case isFalse => rfl
  case conditions => exact fun _ he => matches_merge hn he

end Leases
end Status

namespace Controller

variable {Q : Type} {c : Controller} {q : Kube.Quantities Q} {o o' : Nat → Visits} {name : Bytes}
    {vn : Device Q} {pods pods' : List (Kube.PodResources Q)} {now now' : Kube.Instant} {a a' : StatusAnswers}
    {stored node : Kube.StatusNode Q} {status : Kube.NodeStatus Q} {requests : List (NodeRequest Q)}
    {change : StatusChange Q}

def toSet (o : Nat → Visits) (vn : Device Q) (stored : Kube.StatusNode Q) : Kube.Labels × Kube.Labels :=
  getNodeLabelsAndAnnotationsToSet o (stored.labels.getD ∅) (stored.annotations.getD ∅) vn.cached.status.nodeInfo
    vn.cached.ext.labels vn.cached.ext.annotations

def withMetadata (o : Nat → Visits) (vn : Device Q) (stored : Kube.StatusNode Q) : Kube.StatusNode Q :=
  { stored with
    labels := some (stored.labels.getD ∅ ∪ (toSet o vn stored).fst)
    annotations := some (stored.annotations.getD ∅ ∪ (toSet o vn stored).snd) }

section Calls

variable (hp : ¬c.doNodeResourcePreCheck name)

include hp

theorem onNodeStatusUpdated_of_set (hm : toSet o vn stored = (∅, ∅)) :
    c.onNodeStatusUpdated q o name vn pods now a stored =
      writeStatus a stored (withMetadata o vn stored) [] (c.statusChange q vn pods now stored.status) := by
  obtain ⟨h₁, h₂⟩ := Prod.mk.inj hm
  rw [onNodeStatusUpdated, if_neg hp]
  refine if_pos (Bool.and_eq_true_iff.mpr ⟨?_, ?_⟩)
  case refine_1 => exact ExtTreeMap.isEmpty_iff.mpr h₁
  case refine_2 => exact ExtTreeMap.isEmpty_iff.mpr h₂

theorem onNodeStatusUpdated_of_not_set (hm : toSet o vn stored ≠ (∅, ∅)) :
    c.onNodeStatusUpdated q o name vn pods now a stored =
      let node := withMetadata o vn stored
      a.patch.elim (writeStatus a node node [.patch node] (c.statusChange q vn pods now stored.status))
        fun e => ⟨stored, [.patch node], .failed (requestErrorText e)⟩ := by
  rw [onNodeStatusUpdated, if_neg hp]
  refine (if_neg fun he => hm ?_).trans ?_
  case refine_1 =>
    obtain ⟨h₁, h₂⟩ := Bool.and_eq_true_iff.mp he
    exact Prod.ext (ExtTreeMap.isEmpty_iff.mp h₁) (ExtTreeMap.isEmpty_iff.mp h₂)
  case refine_2 => cases a.patch <;> rfl

end Calls

theorem writeStatus_of_not_update
    (h : ¬change.updateStatus) : writeStatus a stored node requests change = ⟨stored, requests, change.result⟩ :=
  if_neg h

theorem writeStatus_stored
    (hs : ∀ err, (writeStatus a stored node requests change).result ≠ .failed err) :
    (writeStatus a stored node requests change).stored =
      if change.updateStatus then { node with status := change.status } else stored := by
  rw [writeStatus] at hs ⊢
  split
  case isFalse h => rfl
  case isTrue h =>
    rw [if_pos h] at hs
    cases ha : a.updateStatus
    case none => rfl
    case some e =>
      rw [ha] at hs
      exact absurd rfl <| hs _

theorem onNodeStatusUpdated_stored (hp : ¬c.doNodeResourcePreCheck name)
    (hs : ∀ err, (c.onNodeStatusUpdated q o name vn pods now a stored).result ≠ .failed err)
    (hi : ¬(c.statusChange q vn pods now stored.status).updateStatus →
      (c.statusChange q vn pods now stored.status).status = stored.status) :
    let stored' := (c.onNodeStatusUpdated q o name vn pods now a stored).stored
    stored'.labels.getD ∅ = stored.labels.getD ∅ ∪ (toSet o vn stored).fst ∧
    stored'.annotations.getD ∅ = stored.annotations.getD ∅ ∪ (toSet o vn stored).snd ∧
    stored'.status = (c.statusChange q vn pods now stored.status).status := by
  by_cases hm : toSet o vn stored = (∅, ∅)
  case pos =>
    have hu (labels : Kube.Labels) : labels ∪ ∅ = labels :=
      ExtTreeMap.ext_getElem? fun {k} => by simp [ExtTreeMap.getElem?_union]
    rw [onNodeStatusUpdated_of_set hp hm] at hs ⊢
    simp only [writeStatus_stored hs, hm, hu]
    split
    case isTrue => simp [withMetadata, hm, hu]
    case isFalse h => simp [hi h]
  case neg =>
    rw [onNodeStatusUpdated_of_not_set hp hm] at hs ⊢
    cases ha : a.patch
    case some e =>
      rw [ha] at hs
      exact absurd rfl <| hs _
    case none =>
      rw [ha] at hs
      simp only [Option.elim] at hs ⊢
      simp only [writeStatus_stored hs]
      split
      case isTrue => exact ⟨rfl, rfl, rfl⟩
      case isFalse h => exact ⟨rfl, rfl, (hi h).symm⟩

section Leases

variable (hl : c.vnConfig.node.leaseEnabled)

include hl

theorem statusChange_of_not_update (h : ¬(c.statusChange q vn pods now status).updateStatus) :
    (c.statusChange q vn pods now status).status = status := by
  rw [statusChange] at h ⊢
  split
  case isTrue hc =>
    rw [if_pos hc] at h
    exact connectedStatus_of_settled hl <| (connectedStatus_updateStatus_iff hl).mp h
  case isFalse hc =>
    rw [if_neg hc] at h
    simp only [disconnectedStatus, disconnected_markNotReady.right.right h]

theorem statusChange_again (hn : (vn.cached.status.conditions.map (·.kind)).Nodup) (hpods : pods.Perm pods') :
    ¬(c.statusChange q vn pods' now' (c.statusChange q vn pods now status).status).updateStatus := by
  simp only [statusChange]
  split
  case isTrue hc =>
    rw [connectedStatus_updateStatus_iff hl]
    have he (s : Kube.NodeStatus Q) : expectedStatus q vn pods' s = expectedStatus q vn pods status := by
      simp only [expectedStatus, VirtualNode.Cached.retrieve, getAllocatable_perm hpods]
    rw [he]
    exact settled_connectedStatus hl hn
  case isFalse hc =>
    simp [disconnectedStatus, markNotReady_of_isNotReady disconnected_markNotReady.right.left]

theorem statusChange_reconciled (vn : Device Q) (hn : (vn.cached.status.conditions.map (·.kind)).Nodup)
    (hc : vn.connected) :
    Reconciled vn.cached.status.conditions status.conditions
      (c.statusChange q vn pods now status).status.conditions := by
  simp only [statusChange, if_pos hc, connectedStatus, if_pos hl]
  exact @reconciled_merge _ _ _ ⟨status.conditions, _, _, _⟩ hl hn

end Leases

theorem statusChange_disconnected (vn : Device Q) (hc : ¬vn.connected) :
    Disconnected status.conditions (c.statusChange q vn pods now status).status.conditions := by
  simp only [statusChange, if_neg hc]
  exact disconnected_markNotReady.left

theorem toSet_again {stored' : Kube.StatusNode Q}
    (hl : stored'.labels.getD ∅ = stored.labels.getD ∅ ∪ (toSet o vn stored).fst)
    (ha : stored'.annotations.getD ∅ = stored.annotations.getD ∅ ∪ (toSet o vn stored).snd) :
    toSet o' vn stored' = (∅, ∅) := by
  rw [toSet, hl, ha]
  exact nothing_to_set (fun _ => getElem?_labels_set) (fun _ => getElem?_annotations_set)
    (fun _ _ => .inl rfl) (fun _ => .inl rfl)

-- Unless the node is ignored, it has the cached conditions then, or is not ready.
theorem onNodeStatusUpdated_settles {F : Type} (q : Kube.Quantities Q) (b : BigFloats F) (maxPods : Int)
    (nodeLabels nodeAnnotations : Option Kube.Labels) (hist : List VirtualNode.Received)
    (n : VirtualNode.NodeCache Q)
    (e : Execution (VirtualNode.step q b maxPods) (VirtualNode.newNodeCache nodeLabels nodeAnnotations) hist n)
    (c : Controller) (hl : c.vnConfig.node.leaseEnabled) (o o' : Nat → Visits) (name : Bytes) (connected : Bool)
    (pods pods' : List (Kube.PodResources Q)) (hpods : pods.Perm pods') (now now' : Kube.Instant)
    (a a' : StatusAnswers) (stored : Kube.StatusNode Q)
    (hs : ∀ err, (c.onNodeStatusUpdated q o name ⟨connected, n.val⟩ pods now a stored).result ≠ .failed err) :
    let stored' := (c.onNodeStatusUpdated q o name ⟨connected, n.val⟩ pods now a stored).stored
    (c.onNodeStatusUpdated q o' name ⟨connected, n.val⟩ pods' now' a' stored').requests = [] ∧
    (¬c.doNodeResourcePreCheck name → connected →
      Reconciled n.val.status.conditions stored.status.conditions stored'.status.conditions) ∧
    (¬c.doNodeResourcePreCheck name → ¬connected →
      Disconnected stored.status.conditions stored'.status.conditions) := by
  intro stored'
  have hn := (VirtualNode.stamped_of_execution e).nodup
  by_cases hp : c.doNodeResourcePreCheck name
  case pos =>
    refine ⟨?_, absurd hp, absurd hp⟩
    rw [onNodeStatusUpdated, if_pos hp]
  case neg =>
    obtain ⟨h₁, h₂, h₃⟩ := onNodeStatusUpdated_stored hp hs (statusChange_of_not_update hl)
    refine ⟨?_, fun _ hc => ?_, fun _ hc => ?_⟩
    case refine_1 =>
      have hu : ¬(c.statusChange q ⟨connected, n.val⟩ pods' now' stored'.status).updateStatus :=
        h₃ ▸ statusChange_again hl hn hpods
      rw [onNodeStatusUpdated_of_set hp (toSet_again h₁ h₂), writeStatus_of_not_update hu]
    case refine_2 => exact h₃ ▸ statusChange_reconciled hl ⟨connected, n.val⟩ hn hc
    case refine_3 => exact h₃ ▸ statusChange_disconnected ⟨connected, n.val⟩ hc

def barePressure : Kube.StatusNode Int where
  labels := none
  annotations := none
  status := { conditions := [{ kind := .other (str "Pressure"), status := .true }] }

theorem onNodeStatusUpdated_settles_four :
    ∃ n : VirtualNode.NodeCache Int,
      Execution (VirtualNode.step Kube.Quantities.thousandths BigFloats.integers 11)
        (VirtualNode.newNodeCache none none) VirtualNode.fourMessages n ∧
      let call := (single true false).onNodeStatusUpdated Kube.Quantities.thousandths (fun _ => .sorted) [1]
        ⟨true, n.val⟩ []
      let stored := (call (.nth 4) ⟨none, none⟩ barePressure).stored
      (call (.nth 5) ⟨none, none⟩ stored).requests = [] ∧
      Reconciled n.val.status.conditions barePressure.status.conditions stored.status.conditions := by
  obtain ⟨n, e, hr⟩ : ∃ n : VirtualNode.NodeCache Int,
      Execution (VirtualNode.step Kube.Quantities.thousandths BigFloats.integers 11)
        (VirtualNode.newNodeCache none none) VirtualNode.fourMessages n ∧
      ((single true false).onNodeStatusUpdated Kube.Quantities.thousandths (fun _ => .sorted) [1]
        ⟨true, n.val⟩ [] (.nth 4) ⟨none, none⟩ barePressure).result = .done := ⟨_, .of_foldlM rfl, rfl⟩
  obtain ⟨h₁, h₂, -⟩ := onNodeStatusUpdated_settles _ _ _ _ _ _ _ e (single true false) rfl (fun _ => .sorted)
    (fun _ => .sorted) [1] true [] [] (.refl _) (.nth 4) (.nth 5) ⟨none, none⟩ ⟨none, none⟩ barePressure
    fun err he => by cases hr.symm.trans he
  exact ⟨n, e, h₁, h₂ (by decide) rfl⟩

end Controller
end Aranya.EdgeDevice
