import Aranya.Pod.Theorems.CreateOptions

namespace Aranya.Pod

open Std (ExtTreeMap)

variable {ports : NamedPorts} {h : Kube.Handler} {pod : Kube.Pod} {envs : ExtTreeMap Bytes Env}
    {ctr : Kube.Container} {cs : List Kube.Container} {spec : Runtime.ContainerSpec}
    {action : Option Runtime.ContainerAction} {volNames : VolumeNames} {storageEnabled : Bool}

def resolvePort (ports : NamedPorts) : Kube.IntOrString → Option Int
  | .int v => (some v).filter (1 ≤ ·)
  | .string s => ports[s]?.filter (1 ≤ ·)

def handlerAction (ports : NamedPorts) (h : Kube.Handler) : Option Runtime.ContainerAction :=
  match h.exec, h.httpGet, h.tcpSocket with
  | some exec, _, _ => some (.exec exec.command)
  | none, some httpGet, _ => (resolvePort ports httpGet.port).map fun port =>
    .http (str "GET")
      (httpGet.scheme ++ str "://" ++ httpGet.host ++ str ":" ++ decimal port ++ httpGet.path)
      (httpGet.httpHeaders.map fun header => (header.name, header.value))
  | none, none, some tcpSocket => (resolvePort ports tcpSocket.port).map fun port =>
    .socket (str "tcp://" ++ tcpSocket.host ++ str ":" ++ decimal port)
  | none, none, none => none

def ConnectsTCP (h : Kube.Handler) : Prop :=
  h.exec = none ∧ h.httpGet = none ∧ h.tcpSocket ≠ none

theorem filter_valid_eq (port : Option Int) :
    port.filter (1 ≤ ·) = if port.getD (-1) < 1 then none else some (port.getD (-1)) := by
  cases port
  case none => rfl
  case some v =>
    rw [Option.getD_some]
    by_cases hv : 1 ≤ v
    case pos => rw [Option.filter_some_pos (by simpa using hv), if_neg (not_lt.mpr hv)]
    case neg => rw [Option.filter_some_neg (by simpa using hv), if_pos (not_le.mp hv)]

theorem resolvePort_eq (port : Kube.IntOrString) :
    resolvePort ports port = if getPortValue ports port < 1 then none else some (getPortValue ports port) := by
  cases port
  case int v => exact filter_valid_eq (some v)
  case string s => exact filter_valid_eq ports[s]?

theorem translateHandler_some_iff :
    translateHandler (some h) ports = .ok action ↔ ¬ConnectsTCP h ∧ action = handlerAction ports h := by
  obtain ⟨exec, httpGet, tcpSocket⟩ := h
  cases exec
  case some exec => simp [translateHandler, handlerAction, ConnectsTCP, pure, Except.pure, eq_comm]
  case none =>
    cases httpGet
    case some httpGet =>
      simp only [translateHandler, handlerAction, ConnectsTCP, resolvePort_eq]
      by_cases hp : getPortValue ports httpGet.port < 1
      case pos => simp [hp, pure, Except.pure, eq_comm]
      case neg => simp [hp, pure, Except.pure, eq_comm]
    case none =>
      cases tcpSocket
      case none => simp [translateHandler, handlerAction, ConnectsTCP, pure, Except.pure, eq_comm]
      case some tcpSocket => simp [translateHandler, ConnectsTCP, deref, bind, Except.bind]

theorem translateHandler_eq_ok_iff {h : Option Kube.Handler} :
    translateHandler h ports = .ok action ↔
    (∀ h', h = some h' → ¬ConnectsTCP h') ∧ action = h.bind (handlerAction ports) := by
  cases h
  case none => simp [translateHandler, pure, Except.pure, eq_comm]
  case some h => simp [translateHandler_some_iff]

def probeSpec (ports : NamedPorts) (p : Kube.Probe) : Runtime.ContainerProbeSpec where
  method := handlerAction ports p.handler
  initialDelay := second * p.initialDelaySeconds
  probeTimeout := second * p.timeoutSeconds
  probeInterval := second * p.periodSeconds
  successThreshold := p.successThreshold
  failureThreshold := p.failureThreshold

theorem translateProbe_eq_ok_iff {p : Option Kube.Probe} {check : Option Runtime.ContainerProbeSpec} :
    translateProbe p ports = .ok check ↔
    (∀ p', p = some p' → ¬ConnectsTCP p'.handler) ∧ check = p.map (probeSpec ports) := by
  cases p
  case none => simp [translateProbe, pure, Except.pure, eq_comm]
  case some p =>
    simp only [translateProbe, Except.bind_eq_ok_iff, translateHandler_some_iff, Option.some.injEq, forall_eq',
      Option.map_some]
    constructor
    case mp =>
      rintro ⟨_, ⟨ht, rfl⟩, hc⟩
      cases hc
      exact ⟨ht, rfl⟩
    case mpr =>
      rintro ⟨ht, rfl⟩
      exact ⟨_, ⟨ht, rfl⟩, rfl⟩

def startHandlers (ctr : Kube.Container) : List Kube.Handler :=
  ctr.readinessProbe.toList.map (·.handler) ++ ctr.livenessProbe.toList.map (·.handler) ++
  (ctr.lifecycle.bind (·.postStart)).toList

structure HandlersSound (ctr : Kube.Container) (spec : Runtime.ContainerSpec) : Prop where
  readiness : spec.readinessCheck = ctr.readinessProbe.map (probeSpec (getNamedContainerPorts ctr))
  liveness : spec.livenessCheck = ctr.livenessProbe.map (probeSpec (getNamedContainerPorts ctr))
  postStart : spec.hookPostStart =
    (ctr.lifecycle.bind (·.postStart)).bind (handlerAction (getNamedContainerPorts ctr))

theorem handlersSound_iff :
    (∃ spec, translateContainerSpec pod envs ctr = .ok spec ∧ HandlersSound ctr spec) ↔
    ∀ h ∈ startHandlers ctr, ¬ConnectsTCP h := by
  have hh : (∀ h ∈ startHandlers ctr, ¬ConnectsTCP h) ↔
      (∀ p, ctr.readinessProbe = some p → ¬ConnectsTCP p.handler) ∧
      (∀ p, ctr.livenessProbe = some p → ¬ConnectsTCP p.handler) ∧
      ∀ h, ctr.lifecycle.bind (·.postStart) = some h → ¬ConnectsTCP h := by
    simp only [startHandlers, List.mem_append, List.mem_map, Option.mem_toList]
    grind
  rw [hh]
  constructor
  case mp =>
    rintro ⟨spec, ht, _⟩
    have hs := translateContainerSpec_eq_ok_iff.mp ht
    exact ⟨(translateProbe_eq_ok_iff.mp hs.readinessCheck).left,
      (translateProbe_eq_ok_iff.mp hs.livenessCheck).left,
      (translateHandler_eq_ok_iff.mp hs.hookPostStart).left⟩
  case mpr =>
    rintro ⟨hr, hl, hp⟩
    refine ⟨_, Except.bind_eq_ok_iff.mpr ⟨_, translateProbe_eq_ok_iff.mpr ⟨hr, rfl⟩,
      Except.bind_eq_ok_iff.mpr ⟨_, translateProbe_eq_ok_iff.mpr ⟨hl, rfl⟩,
      Except.bind_eq_ok_iff.mpr ⟨_, translateHandler_eq_ok_iff.mpr ⟨hp, rfl⟩, rfl⟩⟩⟩, rfl, rfl, rfl⟩

theorem remotePath_ne_panic {name : Bytes} : remotePath storageEnabled volNames name ≠ .error .panic := by
  rw [remotePath]
  split
  case isTrue => simp [throw, throwThe, MonadExceptOf.throw]
  case isFalse => split <;> simp [throw, throwThe, MonadExceptOf.throw, pure, Except.pure]

theorem addHostPath_ne_panic {hostPaths : ExtTreeMap Bytes Bytes}
    {vol : Kube.Volume} : addHostPath storageEnabled volNames hostPaths vol ≠ .error .panic := by
  intro h
  rw [addHostPath] at h
  split at h
  case h_3 | h_4 =>
    cases Except.bind_eq_error_iff.mp h
    case inl h => exact remotePath_ne_panic h
    case inr h => obtain ⟨_, _, h⟩ := h; cases h
  all_goals cases h

theorem translateContainers_panic {text : Bytes} (hp : translateContainers pod envs text cs = .error .panic) :
    ∃ ctr ∈ cs, ∃ h ∈ startHandlers ctr, ConnectsTCP h := by
  cases Except.bind_eq_error_iff.mp hp
  case inl hp =>
    obtain ⟨ctr, hc, hp⟩ := Except.mapM_eq_error hp
    refine ⟨ctr, hc, ?_⟩
    by_contra hn
    have hs : ∃ spec, translateContainerSpec pod envs ctr = .ok spec ∧ HandlersSound ctr spec :=
      handlersSound_iff.mpr fun h hm ht => hn ⟨h, hm, ht⟩
    obtain ⟨spec, hs, _⟩ := hs
    cases hs.symm.trans hp
  case inr hp =>
    obtain ⟨_, _, hp⟩ := hp
    split at hp
    case isTrue => cases hp
    case isFalse => cases hp

theorem translatePodCreateOptions_panic
    {authConfigs : ExtTreeMap Bytes Runtime.ImageAuthConfig}
    {volumeData : ExtTreeMap Bytes Runtime.NamedData} {dnsConfig : PodDNSConfig} {netReqBytes : Bytes}
    (hp : translatePodCreateOptions storageEnabled pod envs authConfigs volumeData volNames dnsConfig netReqBytes =
      .error .panic) :
    ∃ ctr ∈ pod.containers ++ pod.initContainers, ∃ h ∈ startHandlers ctr, ConnectsTCP h := by
  simp only [translatePodCreateOptions, Except.bind_eq_error_iff] at hp
  obtain hp | ⟨hostPaths, _, hp | ⟨specs, _, hp | ⟨initSpecs, _, hp⟩⟩⟩ := hp
  case inl =>
    obtain ⟨vol, _, paths, hp⟩ := Except.foldlM_eq_error hp
    exact (addHostPath_ne_panic hp).elim
  case inr.inl =>
    obtain ⟨ctr, hc, hs⟩ := translateContainers_panic hp
    exact ⟨ctr, List.mem_append_left _ hc, hs⟩
  case inr.inr.inl =>
    obtain ⟨ctr, hc, hs⟩ := translateContainers_panic hp
    exact ⟨ctr, List.mem_append_right _ hc, hs⟩
  case inr.inr.inr => cases hp

def preStopActions (cs : List Kube.Container) : List (Bytes × Option Runtime.ContainerAction) :=
  cs.filterMap fun ctr => (ctr.lifecycle.bind (·.preStop)).map fun h =>
    (ctr.name, handlerAction (getNamedContainerPorts ctr) h)

def stopHandlers (cs : List Kube.Container) : List Kube.Handler :=
  cs.takeWhile (!isVirtual ·) |>.filterMap fun ctr => ctr.lifecycle.bind (·.preStop)

theorem preStopHooks_eq_ok_iff {hooks : ExtTreeMap Bytes (Option Runtime.ContainerAction)}
    {result : Option (ExtTreeMap Bytes (Option Runtime.ContainerAction))} :
    preStopHooks hooks cs = .ok result ↔ (∀ h ∈ stopHandlers cs, ¬ConnectsTCP h) ∧
    result = if cs.any isVirtual then none else some (store hooks (preStopActions cs)) := by
  induction cs generalizing hooks
  case nil => simp [preStopHooks, stopHandlers, preStopActions, store, pure, Except.pure, eq_comm]
  case cons ctr cs hi =>
    rw [preStopHooks]
    by_cases hv : isVirtual ctr = true
    case pos => simp [hv, stopHandlers, pure, Except.pure, eq_comm]
    case neg =>
      have hw : (ctr :: cs).takeWhile (!isVirtual ·) = ctr :: cs.takeWhile (!isVirtual ·) :=
        List.takeWhile_cons_of_pos (by simpa using hv)
      rw [if_neg hv, List.any_cons, Bool.eq_false_iff.mpr hv, Bool.false_or]
      cases hp : ctr.lifecycle.bind (·.preStop)
      case none =>
        have ha : preStopActions (ctr :: cs) = preStopActions cs :=
          List.filterMap_cons_none (by rw [hp, Option.map_none])
        have hs : stopHandlers (ctr :: cs) = stopHandlers cs := by
          rw [stopHandlers, hw]
          exact List.filterMap_cons_none hp
        rw [hi, ha, hs]
      case some h =>
        have ha : preStopActions (ctr :: cs) =
            (ctr.name, handlerAction (getNamedContainerPorts ctr) h) :: preStopActions cs :=
          List.filterMap_cons_some (by rw [hp, Option.map_some])
        have hs : stopHandlers (ctr :: cs) = h :: stopHandlers cs := by
          rw [stopHandlers, hw]
          exact List.filterMap_cons_some hp
        rw [ha, hs, List.forall_mem_cons]
        simp only [Except.bind_eq_ok_iff, translateHandler_some_iff, hi]
        constructor
        case mp =>
          rintro ⟨_, ⟨ht, rfl⟩, hs, hr⟩
          exact ⟨⟨ht, hs⟩, hr⟩
        case mpr =>
          rintro ⟨⟨ht, hs⟩, hr⟩
          exact ⟨_, ⟨ht, rfl⟩, hs, hr⟩

-- There is nothing to delete if a container is executed on the host.
def DeleteSound (podUID : Bytes) (pod : Kube.Pod) (cmd : Option Runtime.PodDeleteCmd) : Prop :=
  cmd = if pod.containers.any isVirtual then none else some {
    podUid := podUID
    graceTime := graceTime pod
    hookPreStop := store ∅ (preStopActions pod.containers) }

theorem deleteSound_iff {podUID : Bytes} :
    (∃ cmd, podDeleteCmd podUID (some pod) = .ok cmd ∧ DeleteSound podUID pod cmd) ↔
    ∀ h ∈ stopHandlers pod.containers, ¬ConnectsTCP h := by
  constructor
  case mp =>
    rintro ⟨cmd, hc, _⟩
    obtain ⟨hooks, hh, _⟩ := Except.bind_eq_ok_iff.mp hc
    exact (preStopHooks_eq_ok_iff.mp hh).left
  case mpr =>
    intro ht
    refine ⟨_, Except.bind_eq_ok_iff.mpr ⟨_, preStopHooks_eq_ok_iff.mpr ⟨ht, rfl⟩, rfl⟩, ?_⟩
    rw [DeleteSound]
    split
    case isTrue => rfl
    case isFalse => rfl

-- A handler is translated to its own action iff it does not connect to a TCP port, wherever it is used.
theorem handler_sound_iff (ports : NamedPorts) (h : Kube.Handler) (podUID : Bytes) (pod : Kube.Pod)
    (envs : ExtTreeMap Bytes Env) (ctr : Kube.Container) :
    (translateHandler (some h) ports = .ok (handlerAction ports h) ↔ ¬ConnectsTCP h) ∧
    ((∃ spec, translateContainerSpec pod envs ctr = .ok spec ∧ HandlersSound ctr spec) ↔
      ∀ h ∈ startHandlers ctr, ¬ConnectsTCP h) ∧
    ((∃ cmd, podDeleteCmd podUID (some pod) = .ok cmd ∧ DeleteSound podUID pod cmd) ↔
      ∀ h ∈ stopHandlers pod.containers, ¬ConnectsTCP h) :=
  ⟨translateHandler_some_iff.trans <| and_iff_left rfl, handlersSound_iff, deleteSound_iff⟩

-- A handler which connects to port 80 panics.
theorem not_handler_sound_tcp :
    translateHandler (some { tcpSocket := some { port := .int 80, host := [] } }) ∅ = .error .panic :=
  rfl

end Aranya.Pod
