import Aranya.VirtualNode.Connected
import Aranya.VirtualNode.Theorems.PeriodicSync

namespace Aranya.VirtualNode.PeriodicSync

variable {Q F : Type} {τ ρ : Type*} (f : TimedSessionFuncs τ) (sendData : ρ → Bytes → Bool → ρ × Option Bytes)
    (reject : RejectionReason → Bytes → ρ → ρ) (c : SyncConfig) {s s' : PeriodicSync τ ρ} {n : SyncNode τ ρ}
    {name deviceId : Bytes}

@[simp]
theorem nodes_setNode_self : (s.setNode name n).nodes name = some n := by
  simp [setNode]

@[simp]
theorem queues_setNode : (s.setNode name n).queues = s.queues :=
  rfl

variable {f sendData reject c} in
theorem node_execution {a : NodeAction} (hn : s.nodes name = some n)
    (h : s.nodeStep f sendData reject c name n a = some s') :
    Execution (step f sendData reject c) s [.node name a] s' :=
  .single <| by simp only [step, hn, h]

theorem online_execution (deviceId : Bytes) (hn : s.nodes name = some n) (hc : n.check = .idle) :
    Execution (step f sendData reject c) s [.node name (.online deviceId)]
      ((s.doPerQueue (·.allow name)).setNode name { n with check := .node deviceId, settled := false }) :=
  node_execution hn <| by simp only [nodeStep, hc, if_true]

theorem nodeSynced_execution (ok : Bool) (hn : s.nodes name = some n) (hc : n.check = .node deviceId) :
    Execution (step f sendData reject c) s [.node name (.nodeSynced ok)]
      (s.setNode name <|
        if ok then { n with check := .pods deviceId }
        else n.fail reject .initialCheckFailure (str "failed to pass initial node sync")) :=
  node_execution hn <| by simp only [nodeStep, hc]

theorem podsSynced_execution (p : Option Bool) (hn : s.nodes name = some n) (hc : n.check = .pods deviceId) :
    Execution (step f sendData reject c) s [.node name (.podsSynced p)]
      (s.setNode name <|
        match p with
        | some p => { n with check := .offering deviceId (offers c name p) }
        | none => n.fail reject .initialCheckFailure (str "failed to pass initial pod sync")) :=
  node_execution hn <| by cases p <;> simp only [nodeStep, hc]

theorem initialized_execution (hn : s.nodes name = some n) (hc : n.check = .offering deviceId []) :
    Execution (step f sendData reject c) s [.node name .initialized]
      (s.setNode name
        { n with base := n.base.onConnected (initializedId true deviceId), check := .idle }) :=
  node_execution hn <| by simp only [nodeStep, hc]

theorem abort_execution {reason : RejectionReason} {message : Bytes}
    (hn : s.nodes name = some (n.fail reject reason message)) :
    Execution (step f sendData reject c) s [.node name .abort]
      (s.onVirtualNodeDisconnected name { n.rejected reject reason message with check := .idle }) :=
  node_execution hn <| by simp only [nodeStep, SyncNode.fail, if_true]

theorem offerAll_execution {os : List Offer} (hn : s.nodes name = some n) (hc : n.check = .offering deviceId os) :
    ∃ as s', Execution (step f sendData reject c) s as s' ∧ s'.queues = (offerAll name s.queues os).fst ∧
      s'.nodes name = some
        (match (offerAll name s.queues os).snd with
        | none => { n with check := .offering deviceId [] }
        | some failure => n.fail reject .internalServerError failure) := by
  induction os generalizing s n
  case nil =>
    refine ⟨[], s, .refl, rfl, ?_⟩
    rw [hn, offerAll]
    exact congrArg some (by cases n; cases hc; rfl)
  case cons o os hi =>
    have hs : s.nodeStep f sendData reject c name n .offer = some (s.offer reject name n deviceId o os) := by
      simp only [nodeStep, hc]
    have he := node_execution hn hs
    have hq : (o.disabled.elim s (s.disable name)).queues = o.disabled.elim s.queues fun q =>
        Function.update s.queues q (((s.queues q).forbid name).remove name) := by
      cases o.disabled <;> rfl
    simp only [offerAll, ← hq]
    cases hx : ((o.disabled.elim s (s.disable name)).queues o.queue).offerWithDelay name o.interval
    case none =>
      refine ⟨_, _, he, ?_, ?_⟩
      all_goals simp only [PeriodicSync.offer, hx, nodes_setNode_self, queues_setNode]
    case some x =>
      simp only [PeriodicSync.offer, hx] at he
      obtain ⟨as, s', e, h₁, h₂⟩ := hi (nodes_setNode_self (n := { n with check := .offering deviceId os })) rfl
      exact ⟨_, s', he.append e, h₁, h₂⟩

theorem synced_execution (deviceId : Bytes) (p : Bool) (hn : s.nodes name = some n) (hc : n.check = .idle) :
    ∃ as s', Execution (step f sendData reject c) s as s' ∧ s'.queues = (fun i => (s.queues i).allow name) ∧
      s'.nodes name = some { n with check := .offering deviceId (offers c name p), settled := false } := by
  have e₁ := online_execution f sendData reject c deviceId hn hc
  have e₂ := e₁.append <| nodeSynced_execution f sendData reject c true nodes_setNode_self rfl
  have e₃ := e₂.append <| podsSynced_execution f sendData reject c (some p) nodes_setNode_self rfl
  exact ⟨_, _, e₃, rfl, nodes_setNode_self⟩

-- The call is a run of the steps of the handler, from the online message to the end of the initial checks.
theorem onVirtualNodeConnected_execution {q : Kube.Quantities Q} {b : BigFloats F} {maxPods : Int}
    {cache : NodeCache Q} {posted : Except Bytes (List (Kube.Instant × Node.Reply))} {podErr : Option Pod.Failure}
    {r : Connected Q} (deviceId : Bytes) (hn : s.nodes name = some n) (hc : n.check = .idle)
    (h : onVirtualNodeConnected q b maxPods c name s.queues cache posted podErr = some r) :
    ∃ as s', Execution (step f sendData reject c) s as s' ∧ s'.queues = r.queues ∧
      s'.nodes name = some
        (match r.rejected with
        | none =>
          { n with base := n.base.onConnected (initializedId true deviceId), check := .idle, settled := false }
        | some (reason, message) =>
          { n.rejected reject reason message with check := .idle, settled := true }) := by
  have e₁ := online_execution f sendData reject c deviceId hn hc
  cases he : (syncDeviceNodeStatus q b maxPods cache .all posted).err
  case some e =>
    have e₂ := e₁.append <| nodeSynced_execution f sendData reject c false nodes_setNode_self rfl
    have e₃ := e₂.append <| abort_execution f sendData reject c nodes_setNode_self
    cases e
    case halt => simp [onVirtualNodeConnected, he] at h
    all_goals
      simp only [onVirtualNodeConnected, he, Option.some.injEq] at h
      subst h
      exact ⟨_, _, e₃, rfl, nodes_setNode_self⟩
  case none =>
    cases hp : supportPod podErr
    case none =>
      have e₂ := e₁.append <| nodeSynced_execution f sendData reject c true nodes_setNode_self rfl
      have e₃ := e₂.append <| podsSynced_execution f sendData reject c none nodes_setNode_self rfl
      have e₄ := e₃.append <| abort_execution f sendData reject c nodes_setNode_self
      simp only [onVirtualNodeConnected, he, hp, Option.some.injEq] at h
      subst h
      exact ⟨_, _, e₄, rfl, nodes_setNode_self⟩
    case some p =>
      obtain ⟨as, s₁, e₁, hq₁, hn₁⟩ := synced_execution f sendData reject c deviceId p hn hc
      obtain ⟨as', s₂, e₂, hq₂, hn₂⟩ := offerAll_execution f sendData reject c hn₁ rfl
      rw [hq₁] at hq₂ hn₂
      simp only [onVirtualNodeConnected, he, hp] at h
      cases ho : offerAll name (fun i => (s.queues i).allow name) (offers c name p)
      case mk queues failure =>
        rw [ho] at hq₂ hn₂ h
        cases failure
        case none =>
          cases h
          have e₃ := (e₁.append e₂).append <| initialized_execution f sendData reject c hn₂ rfl
          exact ⟨_, _, e₃, hq₂, nodes_setNode_self⟩
        case some failure =>
          cases h
          have e₃ := (e₁.append e₂).append <| abort_execution f sendData reject c hn₂
          have hq₃ : (fun i => ((s₂.queues i).forbid name).remove name) =
              fun i => ((queues i).forbid name).remove name := by rw [hq₂]
          exact ⟨_, _, e₃, hq₃, nodes_setNode_self⟩

def silentlyConnected (s : PeriodicSync Unit Unit) : Option (Connected Int) :=
  onVirtualNodeConnected .thousandths .integers 11 mirrored [1] s.queues (newNodeCache none none) (.ok []) none

-- The device sends nothing while its node is synchronized.
theorem onVirtualNodeConnected_execution_silent : ∃ s r as s', Execution mirroredStep new [.add [1] .grpc ()] s ∧
    silentlyConnected s = some r ∧ Execution mirroredStep s as s' ∧ s'.queues = r.queues := by
  have ⟨s, n, r, e, hn, hc, h⟩ : ∃ s n r, Execution mirroredStep new [.add [1] .grpc ()] s ∧
      s.nodes [1] = some n ∧ n.check = .idle ∧ silentlyConnected s = some r :=
    ⟨_, _, _, .of_foldlM rfl, rfl, rfl, rfl⟩
  obtain ⟨as, s', e', hq, _⟩ :=
    onVirtualNodeConnected_execution .ignore (fun r _ _ => (r, none)) (fun _ _ r => r) mirrored [2] hn hc h
  exact ⟨s, r, as, s', e, h, e', hq⟩

end Aranya.VirtualNode.PeriodicSync
