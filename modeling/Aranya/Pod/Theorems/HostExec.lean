import Aranya.Pod.HostExec
import Aranya.Pod.Theorems.Phase

namespace Aranya.Pod

open Std (ExtTreeMap)

variable {h : Host} {i j : Nat} {command args : List Bytes} {ctr : Runtime.ContainerSpec}
    {cs : List Runtime.ContainerSpec} {name : Bytes}
    {status : ExtTreeMap Bytes (Option Runtime.ContainerStatus)}

def Host.failure (h : Host) (container : Nat) (ctr : Runtime.ContainerSpec) : Option ExecFailure :=
  (List.range ctr.args.length).findSome? (h.exec container)

def Host.executed (h : Host) : Nat → List Runtime.ContainerSpec → List (Nat × Runtime.ContainerSpec)
  | _, [] => []
  | i, ctr :: cs => (i, ctr) :: if h.failure i ctr = none then h.executed (i + 1) cs else []

def Host.lastExecuted (h : Host) (cs : List Runtime.ContainerSpec) (name : Bytes) :
    Option (Nat × Runtime.ContainerSpec) :=
  (h.executed 0 cs).filter (·.snd.name = name) |>.getLast?

def commandOf (spec : Runtime.ContainerSpec) : Runtime.ContainerSpec where
  name := spec.name
  image := spec.image
  command := spec.command
  args := spec.args

theorem execContainers_commandOf :
    execContainers h i status (cs.map commandOf) = execContainers h i status cs := by
  induction cs generalizing i status
  case nil => rfl
  case cons ctr cs hi => simp only [List.map_cons, execContainers, commandOf, hi]

theorem execArgs_failure :
    (execArgs h i command j args).snd = (List.range' j args.length).findSome? (h.exec i) := by
  induction args generalizing j
  case nil => rfl
  case cons arg args hi =>
    rw [List.length_cons, List.range'_succ, List.findSome?_cons, execArgs, ← hi]
    split
    case h_1 e he => simp [he]
    case h_2 he => simp [he]

theorem execArgs_container : (execArgs h i ctr.command 0 ctr.args).snd = h.failure i ctr := by
  rw [execArgs_failure, Host.failure, List.range_eq_range']

theorem execContainers_cons :
    (execContainers h i status (ctr :: cs)).snd =
    if h.failure i ctr = none then
      (execContainers h (i + 1) (status.insert ctr.name (some (execStatus h i none))) cs).snd
    else
      status.insert ctr.name (some (execStatus h i (h.failure i ctr))) := by
  rw [← execArgs_container]
  simp only [execContainers]
  split
  case h_1 e he => simp [he]
  case h_2 he => simp [he]

theorem execContainers_getElem? :
    (execContainers h i status cs).snd[name]? =
    (((h.executed i cs).filter (·.snd.name = name)).getLast?.map fun x =>
      some (execStatus h x.fst (h.failure x.fst x.snd))).or status[name]? := by
  induction cs generalizing i status
  case nil => simp [execContainers, Host.executed]
  case cons ctr cs hi =>
    rw [execContainers_cons, Host.executed]
    by_cases hf : h.failure i ctr = none
    case pos =>
      rw [if_pos hf, if_pos hf, hi, ExtTreeMap.getElem?_insert]
      by_cases hn : ctr.name = name
      case pos =>
        simp only [List.filter_cons, hn, decide_true, if_true, List.getLast?_cons]
        cases (h.executed (i + 1) cs |>.filter (·.snd.name = name)).getLast?
        case none => simp [hf]
        case some x => simp
      case neg => simp [hn]
    case neg =>
      rw [if_neg hf, if_neg hf, ExtTreeMap.getElem?_insert]
      by_cases hn : ctr.name = name
      case pos => simp [hn]
      case neg => simp [hn]

theorem present_execContainers {ps : Runtime.PodStatusMsg} {containers : List Kube.Container}
    (hp : ps.containers = (execContainers h 0 ∅ cs).snd) : Present containers ps := by
  intro ctr _ hs
  rw [hp, execContainers_getElem?, ExtTreeMap.getElem?_empty, Option.or_none] at hs
  obtain ⟨x, _, hx⟩ := Option.map_eq_some_iff.mp hs
  cases hx

def executions (i : Nat) (cs : List Runtime.ContainerSpec) : List ((Nat × Nat) × List Bytes) :=
  (cs.zipIdx i).flatMap fun x => x.fst.args.zipIdx.map fun y => ((x.snd, y.snd), x.fst.command ++ [y.fst])

def Host.fails (h : Host) (x : (Nat × Nat) × List Bytes) : Bool :=
  (h.exec x.fst.fst x.fst.snd).isSome

def Host.failsIn (h : Host) (x : Runtime.ContainerSpec × Nat) : Bool :=
  (h.failure x.snd x.fst).isSome

theorem executions_cons :
    executions i (ctr :: cs) =
    (ctr.args.zipIdx.map fun y => ((i, y.snd), ctr.command ++ [y.fst])) ++ executions (i + 1) cs := by
  rw [executions, List.zipIdx_cons, List.flatMap_cons]
  rfl

theorem execArgs_commands (h : Host) (i j : Nat) (command args : List Bytes) :
    (execArgs h i command j args).fst =
    (upTo h.fails ((args.zipIdx j).map fun y => ((i, y.snd), command ++ [y.fst]))).map Prod.snd := by
  induction args generalizing j
  case nil => rfl
  case cons arg args hi =>
    rw [List.zipIdx_cons, List.map_cons, upTo_cons, execArgs, Host.fails]
    cases he : h.exec i j
    case none => simp [hi]
    case some e => rfl

theorem any_fails_args (h : Host) (i j : Nat) (command args : List Bytes) :
    ((args.zipIdx j).map fun y => ((i, y.snd), command ++ [y.fst])).any h.fails =
    (execArgs h i command j args).snd.isSome := by
  induction args generalizing j
  case nil => rfl
  case cons arg args hi =>
    rw [List.zipIdx_cons, List.map_cons, List.any_cons, execArgs, Host.fails]
    cases he : h.exec i j
    case none => simp [hi]
    case some e => rfl

theorem execContainers_commands :
    (execContainers h i status cs).fst = (upTo h.fails (executions i cs)).map Prod.snd := by
  induction cs generalizing i status
  case nil => rfl
  case cons ctr cs hi =>
    have hf := any_fails_args h i 0 ctr.command ctr.args
    have hc := execArgs_commands h i 0 ctr.command ctr.args
    rw [executions_cons, upTo_append, hf]
    cases he : (execArgs h i ctr.command 0 ctr.args).snd
    case none =>
      rw [he] at hf
      rw [upTo_of_any_eq_false hf] at hc
      simp only [execContainers, he, hc, hi, Option.isSome_none, Bool.false_eq_true, if_false, List.map_append]
    case some e => simp only [execContainers, he, hc, Option.isSome_some, if_true]

theorem executed_eq : h.executed i cs = (upTo h.failsIn (cs.zipIdx i)).map Prod.swap := by
  induction cs generalizing i
  case nil => rfl
  case cons ctr cs hi =>
    rw [Host.executed, List.zipIdx_cons, upTo_cons, Host.failsIn]
    cases hf : h.failure i ctr
    case none => simp [hi]
    case some e => simp

theorem names_upTo_failsIn :
    (upTo h.failsIn cs.zipIdx).map (·.fst.name) =
    (cs.map (·.name)).take (cs.zipIdx.findIdx h.failsIn + 1) := by
  have hm : cs.zipIdx.map (·.fst.name) = cs.map (·.name) := by
    conv_rhs => rw [← List.zipIdx_map_fst 0 cs, List.map_map]
    rfl
  rw [upTo, List.map_take, hm]

theorem mem_execContainers :
    name ∈ (execContainers h 0 ∅ cs).snd ↔ name ∈ (upTo h.failsIn cs.zipIdx).map (·.fst.name) := by
  rw [ExtTreeMap.mem_iff_isSome_getElem?, execContainers_getElem?, executed_eq]
  simp [List.filter_map, Option.isSome_iff_ne_none]

theorem keys_execContainers (hd : (cs.map (·.name)).Nodup) :
    (execContainers h 0 ∅ cs).snd.keys.Perm ((upTo h.failsIn cs.zipIdx).map (·.fst.name)) := by
  have hn : ((upTo h.failsIn cs.zipIdx).map (·.fst.name)).Nodup := by
    rw [names_upTo_failsIn]
    exact hd.take
  rw [List.perm_ext_iff_of_nodup ExtTreeMap.nodup_keys hn]
  intro name
  rw [ExtTreeMap.mem_keys, mem_execContainers]

theorem handleContainerAsHostExec_containers {opts : Runtime.PodEnsureCmd} {commands : List (List Bytes)}
    {ps : Runtime.PodStatusMsg} (hx : handleContainerAsHostExec h opts = .ok (commands, ps)) :
    ps.containers = (execContainers h 0 ∅ opts.containers).snd := by
  simp only [handleContainerAsHostExec] at hx
  split at hx
  case isTrue => cases hx
  case isFalse =>
    split at hx
    case h_1 => cases hx
    case h_2 => cases hx; rfl

-- The commands are executed in order up to the first that fails, and there is a status for each container
-- up to the one that has failed.
theorem handleContainerAsHostExec_order {opts : Runtime.PodEnsureCmd}
    (hu : opts.podUid ≠ []) (hs : opts.ns ≠ []) (hn : opts.name ≠ []) (hl : h.logFiles = none)
    (hd : (opts.containers.map (·.name)).Nodup) :
    ∃ commands ps,
      handleContainerAsHostExec h opts = .ok (commands, ps) ∧
      commands = (upTo h.fails (executions 0 opts.containers)).map Prod.snd ∧
      ps.containers.keys.Perm ((upTo h.failsIn opts.containers.zipIdx).map (·.fst.name)) := by
  have hr : handleContainerAsHostExec h opts =
      .ok ((execContainers h 0 ∅ opts.containers).fst, {
        uid := opts.podUid, network := some [], containers := (execContainers h 0 ∅ opts.containers).snd
      }) := by
    rw [handleContainerAsHostExec, if_neg (by simp [hu, hs, hn]), hl]
  exact ⟨_, _, hr, execContainers_commands, keys_execContainers hd⟩

theorem handleContainerAsHostExec_order_second :
    let h : Host := {
      logFiles := none, createdAt := fun _ => 0, finishedAt := fun _ => 1
      exec := fun i j => if i = 1 ∧ j = 0 then some (.other (str "timeout")) else none
    }
    let ctr (name : String) : Runtime.ContainerSpec := {
      name := str name, image := virtualImageNameHostExec, command := [str "sh"]
      args := [str "a", str "b"]
    }
    let opts : Runtime.PodEnsureCmd := {
      podUid := str "1", ns := str "default", name := str "p", restartPolicy := .never, wait := true
      containers := [ctr "x", ctr "y", ctr "z"], volumes := ⟨∅, ∅⟩, sysctls := ∅
    }
    opts.podUid ≠ [] ∧ (opts.containers.map (·.name)).Nodup ∧
    ∃ commands ps,
      handleContainerAsHostExec h opts = .ok (commands, ps) ∧
      commands = [[str "sh", str "a"], [str "sh", str "b"], [str "sh", str "a"]] ∧
      ps.containers.keys.Perm [str "x", str "y"] := by
  intro h ctr opts
  have hu : opts.podUid ≠ [] := by decide
  have hd : (opts.containers.map (·.name)).Nodup := by decide
  exact ⟨hu, hd, handleContainerAsHostExec_order (h := h) hu (by decide) (by decide) rfl hd⟩

theorem execStatus_succeeded {err : Option ExecFailure} :
    (execStatus h i err).getState = .succeeded ↔ h.createdAt i ≤ h.finishedAt i ∧ exitCode err = 0 := by
  simp only [Runtime.ContainerStatus.getState, execStatus]
  by_cases ht : h.createdAt i ≤ h.finishedAt i
  case pos =>
    by_cases he : exitCode err = 0
    case pos => simp [ht, he]
    case neg => simp [ht, he]
  case neg =>
    simp only [ht, if_false, false_and, iff_false]
    by_cases hc : h.createdAt i = 0
    case pos => simp [hc]
    case neg => simp [hc]

end Aranya.Pod
