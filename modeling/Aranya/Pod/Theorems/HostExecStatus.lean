import Aranya.Connectivity.Session
import Aranya.Pod.Theorems.HostExec

namespace Aranya.Pod

open Std (ExtTreeMap)

variable {h : Host} {i : Nat} {cs : List Runtime.ContainerSpec} {ctr : Runtime.ContainerSpec}
    {containers : List Kube.Container} {c : Kube.Container}
    {ps : Runtime.PodStatusMsg} {s : Runtime.ContainerStatus}

def EndsWithError : Except Bytes (List Msg) → Prop
  | .error _ => True
  | .ok msgs => ∃ msg ∈ msgs, msg.kind = .error

def Host.answered (h : Host) (replies : Nat → Nat → Except Bytes (List Msg)) : Host :=
  { h with exec := fun i j => doServeTerminalStream (replies i j) }

structure FailureVisible (containers : List Kube.Container) (ps : Runtime.PodStatusMsg) (i : Nat) : Prop where
  status : ∃ s exitCode reason message startedAt finishedAt containerID,
    ((resolveContainerStatus containers ps).bind (·.snd[i]?)) = some s ∧ exitCode ≠ 0 ∧
    s.state = .terminated exitCode reason message startedAt finishedAt containerID
  phase : phase containers ps = some .failed

theorem getElem?_of_mem_executed (hx : (i, ctr) ∈ h.executed 0 cs) : cs[i]? = some ctr := by
  rw [executed_eq] at hx
  obtain ⟨x, hm, he⟩ := List.mem_map.mp hx
  have hm := List.mem_zipIdx_iff_getElem?.mp (mem_of_mem_upTo hm)
  cases he
  exact hm

theorem executed_of_execution {x : (Nat × Nat) × List Bytes} (hx : x ∈ upTo h.fails (executions i cs)) :
    ∃ ctr, (x.fst.fst, ctr) ∈ h.executed i cs := by
  induction cs generalizing i
  case nil => cases hx
  case cons ctr cs hi =>
    have hm : x ∈ (ctr.args.zipIdx.map fun y => ((i, y.snd), ctr.command ++ [y.fst])) →
        (x.fst.fst, ctr) ∈ h.executed i (ctr :: cs) := by
      intro hm
      obtain ⟨y, -, rfl⟩ := List.mem_map.mp hm
      exact List.mem_cons_self
    rw [executions_cons, upTo_append, any_fails_args, execArgs_container] at hx
    rw [Host.executed] at hm ⊢
    cases hf : h.failure i ctr
    case some e =>
      rw [hf] at hx
      exact ⟨ctr, by simpa [hf] using hm (mem_of_mem_upTo hx)⟩
    case none =>
      rw [hf, Option.isSome_none, if_neg Bool.false_ne_true] at hx
      cases List.mem_append.mp hx
      case inl hx => exact ⟨ctr, by simpa [hf] using hm hx⟩
      case inr hx =>
        obtain ⟨ctr', hc⟩ := hi hx
        exact ⟨ctr', List.mem_cons_of_mem _ hc⟩

theorem execContainers_executed (hd : (cs.map (·.name)).Nodup) (hx : (i, ctr) ∈ h.executed 0 cs) :
    (execContainers h 0 ∅ cs).snd[ctr.name]? = some (some (execStatus h i (h.failure i ctr))) := by
  have hn : ((h.executed 0 cs).map (·.snd.name)).Nodup := by
    rw [executed_eq, List.map_map]
    exact names_upTo_failsIn (h := h) ▸ hd.take
  rw [execContainers_getElem?, ExtTreeMap.getElem?_empty, Option.or_none]
  have hm : (i, ctr) ∈ (h.executed 0 cs).filter (·.snd.name = ctr.name) := by simp [hx]
  obtain ⟨y, hy⟩ := getLast?_of_mem hm
  have hl := List.mem_filter.mp (List.mem_of_getLast? hy)
  have he : y = (i, ctr) := List.inj_on_of_nodup_map hn hl.left hx (by simpa using hl.right)
  rw [hy, he]
  rfl

theorem containerState_of_finished (h : s.startedAt ≤ s.finishedAt) :
    containerState s = .terminated s.exitCode s.reason s.message s.startedAt s.finishedAt s.containerId := by
  by_cases he : s.exitCode = 0
  case pos => simp [containerState, Runtime.ContainerStatus.getState, h, he]
  case neg => simp [containerState, Runtime.ContainerStatus.getState, h, he]

theorem finished_of_terminated {code startedAt finishedAt : Int}
    {reason message containerID : Bytes}
    (h : containerState s = .terminated code reason message startedAt finishedAt containerID) :
    s.startedAt ≤ s.finishedAt := by
  by_contra hn
  rw [containerState, Runtime.ContainerStatus.getState, if_neg hn] at h
  grind

theorem getElem?_of_names (hn : containers.map (·.name) = cs.map (·.name)) (hc : cs[i]? = some ctr) :
    ∃ c, containers[i]? = some c ∧ c.name = ctr.name := by
  have hi := congrArg (·[i]?) hn
  simpa [hc] using hi

-- No container after one that has failed is executed, so it decides the phase.
theorem phase_execContainers (hd : (cs.map (·.name)).Nodup) (hn : containers.map (·.name) = cs.map (·.name))
    (hp : ps.containers = (execContainers h 0 ∅ cs).snd) (hx : (i, ctr) ∈ h.executed 0 cs)
    (ht : h.createdAt i ≤ h.finishedAt i) (he : exitCode (h.failure i ctr) ≠ 0) :
    phase containers ps = some .failed := by
  have hc := getElem?_of_mem_executed hx
  have hi : cs.zipIdx.findIdx h.failsIn ≤ i := by
    by_contra hi
    have hf := List.not_of_lt_findIdx (Nat.lt_of_not_le hi)
    obtain ⟨hl, hc⟩ := List.getElem?_eq_some_iff.mp hc
    rw [List.getElem_zipIdx, hc, Host.failsIn, Nat.zero_add, Option.isSome_eq_false_iff,
      Option.isNone_iff_eq_none] at hf
    rw [hf] at he
    exact he rfl
  obtain ⟨c, hk, hcn⟩ := getElem?_of_names hn hc
  have hv : vote ps c = some .failed := by
    have hs := execContainers_executed hd hx
    rw [vote_eq, hp, hcn, hs]
    simp [execStatus, Runtime.ContainerStatus.getState, ht, he, containerPhase]
  have ha : (containers.drop (i + 1)).filterMap (vote ps) = [] := by
    rw [List.filterMap_eq_nil_iff]
    intro d hm
    have hm : d.name ∈ (cs.map (·.name)).drop (i + 1) := by
      rw [← hn, ← List.map_drop]
      exact List.mem_map_of_mem hm
    have hs : ps.containers[d.name]? = none := by
      apply ExtTreeMap.getElem?_eq_none
      rw [hp, mem_execContainers, names_upTo_failsIn]
      exact fun ht => List.disjoint_take_drop hd (Nat.succ_le_succ hi) ht hm
    rw [vote_eq, hs]
    rfl
  rw [phase_eq (present_execContainers hp), ← List.take_append_drop (i + 1) containers, List.filterMap_append, ha,
    List.append_nil,
    List.take_add_one, hk, List.filterMap_append]
  simp [hv]

-- What is visible of an executed container is its exit code, if the clock was not set back.
theorem failureVisible_executed_iff (hd : (cs.map (·.name)).Nodup)
    (hn : containers.map (·.name) = cs.map (·.name)) (hp : ps.containers = (execContainers h 0 ∅ cs).snd)
    (hx : (i, ctr) ∈ h.executed 0 cs) :
    FailureVisible containers ps i ↔ exitCode (h.failure i ctr) ≠ 0 ∧ h.createdAt i ≤ h.finishedAt i := by
  obtain ⟨c, hk, hcn⟩ := getElem?_of_names hn (getElem?_of_mem_executed hx)
  have hs : ((resolveContainerStatus containers ps).bind (·.snd[i]?)) =
      some (containerStatus c (some (execStatus h i (h.failure i ctr)))) := by
    rw [resolveContainerStatus, if_neg (by simpa [Present] using present_execContainers hp)]
    simp [hk, hp, hcn, execContainers_executed hd hx]
  constructor
  case mp =>
    rintro ⟨⟨s, code, reason, message, startedAt, finishedAt, containerID, hs', hc, ht⟩, _⟩
    cases hs.symm.trans hs'
    have hf := finished_of_terminated ht
    cases (containerState_of_finished hf).symm.trans ht
    exact ⟨hc, hf⟩
  case mpr =>
    rintro ⟨he, hf⟩
    refine ⟨⟨_, _, _, _, _, _, _, hs, he, containerState_of_finished hf⟩, ?_⟩
    exact phase_execContainers hd hn hp hx hf he

-- This is so iff the exit code of the first error that is noticed in the container is not zero, and the
-- clock was not set back meanwhile.
theorem failureVisible_iff {opts : Runtime.PodEnsureCmd} {commands : List (List Bytes)}
    (h : Host) (replies : Nat → Nat → Except Bytes (List Msg))
    (hr : handleContainerAsHostExec (h.answered replies) opts = .ok (commands, ps))
    (hd : (opts.containers.map (·.name)).Nodup)
    (hn : containers.map (·.name) = opts.containers.map (·.name)) :
    (∀ x ∈ upTo (h.answered replies).fails (executions 0 opts.containers),
      EndsWithError (replies x.fst.fst x.fst.snd) → FailureVisible containers ps x.fst.fst) ↔
    (∀ x ∈ upTo (h.answered replies).fails (executions 0 opts.containers),
      EndsWithError (replies x.fst.fst x.fst.snd) → ∃ ctr, opts.containers[x.fst.fst]? = some ctr ∧
        exitCode ((h.answered replies).failure x.fst.fst ctr) ≠ 0 ∧
        h.createdAt x.fst.fst ≤ h.finishedAt x.fst.fst) := by
  have hp := handleContainerAsHostExec_containers hr
  refine forall₂_congr fun x hx => imp_congr_right fun _ => ?_
  obtain ⟨ctr, hc⟩ := executed_of_execution hx
  rw [failureVisible_executed_iff hd hn hp hc, getElem?_of_mem_executed hc]
  simp [Host.answered]

def secondHost : Host where
  logFiles := none
  exec := fun _ _ => none
  createdAt := fun _ => 1
  finishedAt := fun _ => 2

def hostPod : Runtime.PodEnsureCmd where
  podUid := str "1"
  ns := str "default"
  name := str "p"
  restartPolicy := .never
  containers :=
    [{ name := str "x", image := virtualImageNameHostExec, command := [str "sh"], args := [str "a"] }]
  wait := true
  volumes := ⟨∅, ∅⟩
  sysctls := ∅

def hostContainers : List Kube.Container :=
  [{ name := str "x", image := virtualImageNameHostExec }]

def failedMsg (code : Nat) : Msg :=
  { Session.errorMsg 1 .common (str "failed") with
    payload := ErrorMsg.marshal { kind := .common, description := str "failed", code := code } }

theorem failureVisible_code :
    let replies : Nat → Nat → Except Bytes (List Msg) := fun _ _ => .ok [failedMsg 1]
    ∃ commands ps,
      handleContainerAsHostExec (secondHost.answered replies) hostPod = .ok (commands, ps) ∧
      ∀ x ∈ upTo (secondHost.answered replies).fails (executions 0 hostPod.containers),
        EndsWithError (replies x.fst.fst x.fst.snd) → FailureVisible hostContainers ps x.fst.fst := by
  intro replies
  refine ⟨_, _, rfl, ?_⟩
  have hn : hostContainers.map (·.name) = hostPod.containers.map (·.name) := by decide
  apply (failureVisible_iff secondHost replies rfl (by decide) hn).mpr
  have hx : upTo (secondHost.answered replies).fails (executions 0 hostPod.containers) =
      [((0, 0), [str "sh", str "a"])] := by decide
  rw [hx]
  intro x hx _
  cases List.mem_singleton.mp hx
  exact ⟨_, rfl, by decide, by decide⟩

-- The session sends an error without exit code if the output cannot be written. Then the container and the
-- pod have succeeded.
theorem not_failureVisible_broken_pipe :
    let replies : Nat → Nat → Except Bytes (List Msg) :=
      fun _ _ => .ok [Session.errorMsg 1 .common (str "io: read/write on closed pipe")]
    ∃ commands ps,
      handleContainerAsHostExec (secondHost.answered replies) hostPod = .ok (commands, ps) ∧
      commands = [[str "sh", str "a"]] ∧ EndsWithError (replies 0 0) ∧
      ¬FailureVisible hostContainers ps 0 ∧ phase hostContainers ps = some .succeeded := by
  intro replies
  have hp : phase hostContainers
      ⟨str "1", some [], (execContainers (secondHost.answered replies) 0 ∅ hostPod.containers).snd⟩ =
      some .succeeded := by decide
  refine ⟨_, _, rfl, by decide, ⟨_, List.mem_cons_self, rfl⟩, fun hv => ?_, hp⟩
  cases hp.symm.trans hv.phase

end Aranya.Pod
