import Aranya.Lib.Triple
import Aranya.Pod.Samples
import Aranya.Pod.Theorems.Emits
import Aranya.Pod.Theorems.HostExec

namespace Aranya.Pod

open Std (ExtTreeMap)
open Std.Do

set_option mvcgen.warning false

namespace CreateEvent

def StartsWork : CreateEvent → Prop
  | .ensure .work _ | .hostExec .work _ => True
  | _ => False

def Quiet : CreateEvent → Prop
  | .api _ | .pull _ => True
  | _ => False

end CreateEvent

def Quiet (log : List CreateEvent) : Prop :=
  ∀ e ∈ log, e.Quiet

theorem Quiet.append {log es : List CreateEvent} (h : Quiet es) (hl : Quiet log) : Quiet (log ++ es) := by
  intro e he
  cases List.mem_append.mp he
  case inl he => exact hl e he
  case inr he => exact h e he

theorem quiet_api {es : List Event} : Quiet (es.map .api) := by
  intro e he
  obtain ⟨_, _, rfl⟩ := List.mem_map.mp he
  trivial

def hostSpec (ctr : Kube.Container) : Runtime.ContainerSpec where
  name := ctr.name
  image := ctr.image
  command := ctr.command
  args := ctr.args

variable {envs : ExtTreeMap Bytes Env}

theorem SpecOf.commandOf_eq {pod : Kube.Pod} {ctr : Kube.Container}
    {spec : Runtime.ContainerSpec} (h : SpecOf pod envs ctr spec) : hostSpec ctr = commandOf spec := by
  rw [hostSpec, commandOf, h.name, h.image, h.command, h.args]

theorem GroupOf.commandOf_eq {pod : Kube.Pod} {containers : List Kube.Container}
    {specs : List Runtime.ContainerSpec} (h : GroupOf pod envs containers specs) :
    specs.map commandOf = containers.map hostSpec := by
  have hs : List.Forall₂ (· = ·) (containers.map hostSpec) (specs.map commandOf) := by
    rw [List.forall₂_map_left_iff, List.forall₂_map_right_iff]
    exact h.specs.imp fun _ _ => SpecOf.commandOf_eq
  exact (List.forall₂_eq_eq_eq ▸ hs :).symm

namespace Manager

variable {ρ : Type} {α : Type} {k : Cluster ρ} {r : Resolver ρ} {a : Replies}

section Frame

variable {P : List CreateEvent → Prop} (hP : ∀ {log} {es : List Event}, P log → P (log ++ es.map .api))

include hP

theorem call_spec (f : Manager ρ → Manager ρ × List Event × α) :
    ⦃fun s => ⌜P s.log⌝⦄ call f ⦃post⟨fun _ s => ⌜P s.log⌝, fun _ s => ⌜P s.log⌝⟩⦄ := by
  mvcgen [call]
  exact hP ‹_›

theorem mark_spec (name : Bytes) (status : Kube.Pod → Option Kube.PodStatus) :
    ⦃fun s => ⌜P s.log⌝⦄ mark k name status ⦃post⟨fun _ s => ⌜P s.log⌝, fun _ s => ⌜P s.log⌝⟩⦄ := by
  have h₁ := call_spec (ρ := ρ) (α := Option Kube.Pod) (P := P) hP
  have h₂ := call_spec (ρ := ρ) (α := Except Failure Kube.Pod) (P := P) hP
  mvcgen [mark, fail, ofExcept, h₁, h₂]

end Frame

@[spec]
theorem mark_quiet (name : Bytes) (status : Kube.Pod → Option Kube.PodStatus) :
    ⦃fun s => ⌜Quiet s.log⌝⦄ mark k name status
    ⦃post⟨fun _ s => ⌜Quiet s.log⌝, fun _ s => ⌜Quiet s.log⌝⟩⦄ :=
  mark_spec (Quiet.append quiet_api) name status

structure Translated (pod : Kube.Pod) (opts : CreateOptions) : Prop where
  initOpts : pod.initContainers ≠ [] → ∃ cmd, opts.initOpts = some cmd ∧
    cmd.containers.map commandOf = pod.initContainers.map hostSpec
  initExec : opts.initHostExec = pod.initContainers.any isVirtual

theorem Translated.of_translate {b : Bool} {pod : Kube.Pod} {envs : ExtTreeMap Bytes Env}
    {authConfigs : ExtTreeMap Bytes Runtime.ImageAuthConfig} {volumeData : ExtTreeMap Bytes Runtime.NamedData}
    {volNames : VolumeNames} {dnsConfig : PodDNSConfig} {netReqBytes : Bytes} {opts : CreateOptions}
    (h : translatePodCreateOptions b pod envs authConfigs volumeData volNames dnsConfig netReqBytes = .ok opts) :
    Translated pod opts := by
  obtain ⟨_, _, initSpecs, _, _, hi, rfl⟩ := translatePodCreateOptions_eq_ok_iff.mp h
  exact ⟨fun hn => ⟨_, if_neg hn, hi.commandOf_eq⟩, rfl⟩

def quietPolicy (mountPath : Option (Bytes → Bytes → Bytes)) : Policy ρ where
  cluster _ := True
  pods _ := True
  statuses _ := True
  events := CreateEvent.Quiet
  errors _ := True
  mountPath := mountPath

theorem quietPolicy_admits {mountPath : Option (Bytes → Bytes → Bytes)} : (quietPolicy mountPath).Admits k := by
  constructor
  case toPreserves => constructor <;> simp [quietPolicy]
  all_goals simp [quietPolicy, CreateEvent.Quiet]

theorem quiet_of_emits {x : CreateM ρ α} {Q : α → Prop} (h : ∀ mountPath, Emits (quietPolicy mountPath) Q x) :
    ⦃fun s => ⌜Quiet s.log⌝⦄ x ⦃post⟨fun t s => ⌜Quiet s.log ∧ Q t⌝, fun _ s => ⌜Quiet s.log⌝⟩⦄ := by
  refine triple_iff_run.mpr fun s hs => ?_
  have hs : Emitted (quietPolicy s.mgr.mountPath) s := ⟨trivial, rfl, hs⟩
  have h := h s.mgr.mountPath
  split
  case h_1 hr => exact ⟨(h.ok hs hr).left.events, (h.ok hs hr).right⟩
  case h_2 hr => exact (h.error hs hr).left.events

@[spec]
theorem resolveOptions_quiet (pod : Kube.Pod) :
    ⦃fun s => ⌜Quiet s.log⌝⦄ resolveOptions k r pod
    ⦃post⟨fun opts s => ⌜Quiet s.log ∧ Translated pod opts⌝, fun _ s => ⌜Quiet s.log⌝⟩⦄ := by
  refine quiet_of_emits fun mountPath => ?_
  have he : Emits (quietPolicy mountPath) (FromResolved r pod fun _ => True) (resolveOptions k r pod) := by
    refine emits_resolveOptions (I := fun _ _ => True) quietPolicy_admits ?resolves (fun _ => ?mounts)
      (fun _ _ => trivial) trivial
    case resolves => exact ⟨by constructor <;> simp [quietPolicy], by simp [quietPolicy]⟩
    case mounts => constructor <;> simp [quietPolicy, CreateEvent.Quiet]
  exact he.mono fun opts ⟨_, _, _, _, _, _, _, _, _, h⟩ => .of_translate h

@[spec]
theorem prepareCreation_quiet (opts : CreateOptions) (pod : Kube.Pod) :
    ⦃fun s => ⌜Quiet s.log⌝⦄ prepareCreation k a opts pod
    ⦃post⟨fun _ s => ⌜Quiet s.log⌝, fun _ s => ⌜Quiet s.log⌝⟩⦄ := by
  have he (mountPath : Option (Bytes → Bytes → Bytes)) :
      Emits (quietPolicy mountPath) (fun _ => True) (prepareCreation k a opts pod) :=
    (emits_prepareCreation quietPolicy_admits ⟨fun _ _ => trivial, trivial⟩ trivial).mono fun _ _ => trivial
  simpa only [and_true] using quiet_of_emits he

end Manager

def Succeeded (pod : Kube.Pod) (ps : Runtime.PodStatusMsg) : Prop :=
  ∀ ctr ∈ pod.initContainers, ps.containers[ctr.name]?.join.map (·.getState) = some .succeeded

def Initialized (pod : Kube.Pod) (log : List CreateEvent) : Prop :=
  ∃ ps, .received .init ps ∈ log ∧ Succeeded pod ps

-- The work containers are only started after such a status has been received.
def Gated (pod : Kube.Pod) (log : List CreateEvent) : Prop :=
  ∀ before e after, log = before ++ e :: after → e.StartsWork → Initialized pod before

-- Before anything else, the device replies with a status that reports all init containers as succeeded. On
-- the host, the last execution under each name ends without failure, or with an error of the device whose
-- code counts as success, and the clock has not run backwards.
def InitSucceeds (a : Replies) (pod : Kube.Pod) : Prop :=
  if pod.initContainers.any isVirtual then
    ∀ ctr ∈ pod.initContainers, ∃ i c,
      (a.host .init).lastExecuted (pod.initContainers.map hostSpec) ctr.name = some (i, c) ∧
      (a.host .init).createdAt i ≤ (a.host .init).finishedAt i ∧
      exitCode ((a.host .init).failure i c) = 0
  else
    ∃ before ps after, a.ensure .init = .ok (before ++ .podStatus ps :: after) ∧
      (∀ msg ∈ before, ∃ ps', msg = .podStatus ps') ∧ Succeeded pod ps

variable {ρ : Type} {k : Cluster ρ} {a : Replies} {pod : Kube.Pod} {log es : List CreateEvent}

structure Ready (a : Replies) (pod : Kube.Pod) (log : List CreateEvent) : Prop where
  idle : ∀ e ∈ log, ¬e.StartsWork
  iff : Initialized pod log ↔ InitSucceeds a pod

def Begun (a : Replies) (pod : Kube.Pod) (log : List CreateEvent) : Prop :=
  ∃ before e after, log = before ++ e :: after ∧ e.StartsWork ∧ Ready a pod before ∧
    ∀ e ∈ after, ¬e.StartsWork

theorem Quiet.not_startsWork (h : Quiet log) : ∀ e ∈ log, ¬e.StartsWork := by
  intro e he hs
  have hq := h e he
  cases e <;> trivial

theorem Quiet.not_received {group : Group} {ps : Runtime.PodStatusMsg} (h : Quiet log) :
    .received group ps ∉ log :=
  fun hr => h _ hr

theorem Ready.append (hq : Quiet es) (h : Ready a pod log) : Ready a pod (log ++ es) where
  idle e he := by
    cases List.mem_append.mp he
    case inl he => exact h.idle e he
    case inr he => exact hq.not_startsWork e he
  iff := by
    rw [← h.iff]
    simp [Initialized, hq.not_received]

theorem Begun.append (hs : ∀ e ∈ es, ¬e.StartsWork) (h : Begun a pod log) : Begun a pod (log ++ es) := by
  obtain ⟨before, e, after, rfl, he, hr, ha⟩ := h
  refine ⟨before, e, after ++ es, by simp, he, hr, fun e he => ?_⟩
  cases List.mem_append.mp he
  case inl he => exact ha e he
  case inr he => exact hs e he

theorem Begun.gated_iff (h : Begun a pod log) : Gated pod log ↔ InitSucceeds a pod := by
  obtain ⟨before, e, after, rfl, he, hr, ha⟩ := h
  rw [← hr.iff]
  constructor
  case mp => exact fun hg => hg before e after rfl he
  case mpr =>
    intro hi before' e' after' hl he'
    -- There is only one event that starts the work containers.
    have hb : e' ∉ before := fun hm => hr.idle e' hm he'
    have ha : e' ∉ after := fun hm => ha e' hm he'
    obtain ⟨rfl, _⟩ := (List.append_cons_inj_of_notMem hb ha).mp hl
    exact hi

theorem initialized_append_api (log : List CreateEvent) {es : List Event} :
    Initialized pod (log ++ es.map .api) ↔ Initialized pod log := by
  simp [Initialized]

theorem mirror_log (t : EnsureState ρ) (ps : Option Runtime.PodStatusMsg) (b : Bool) :
    ∃ es : List Event, (t.mirror k ps b).fst.log = t.log ++ es.map .api := by
  rw [EnsureState.mirror]
  split
  case h_1 => exact ⟨[], (List.append_nil _).symm⟩
  case h_2 => exact ⟨_, rfl⟩

theorem received_log (t : EnsureState ρ) (group : Group) (ps : Runtime.PodStatusMsg) (b : Bool) :
    ∃ es, ({ t with log := t.log ++ [CreateEvent.received group ps] }.mirror k (some ps) b).fst.log =
      t.log ++ es ∧ ∀ e ∈ es, ¬e.StartsWork := by
  obtain ⟨es, hs⟩ := mirror_log (k := k) { t with log := t.log ++ [CreateEvent.received group ps] } (some ps) b
  refine ⟨.received group ps :: es.map .api, hs.trans (List.append_assoc ..), fun e he => ?_⟩
  cases List.mem_cons.mp he
  case inl he => subst he; exact id
  case inr he => exact quiet_api.not_startsWork e he

theorem onInitMsg_log (t : EnsureState ρ) (msg : Runtime.Reply) :
    ∃ es, (t.onInitMsg k msg).fst.log = t.log ++ es ∧ ∀ e ∈ es, ¬e.StartsWork := by
  cases msg
  case error e => exact ⟨_, rfl, quiet_api.not_startsWork⟩
  case podStatus ps => exact received_log t .init ps true
  all_goals exact ⟨[], (List.append_nil _).symm, by simp⟩

theorem onWorkMsg_log (t : EnsureState ρ) (msg : Runtime.Reply) :
    ∃ es, (t.onWorkMsg k msg).fst.log = t.log ++ es ∧ ∀ e ∈ es, ¬e.StartsWork := by
  cases msg
  case error e =>
    simp only [EnsureState.onWorkMsg]
    split
    case isTrue => exact ⟨[], (List.append_nil _).symm, by simp⟩
    case isFalse => exact ⟨_, rfl, quiet_api.not_startsWork⟩
  case podStatus ps => exact received_log t .work ps false
  all_goals exact ⟨[], (List.append_nil _).symm, by simp⟩

section Init

structure Fresh (log : List CreateEvent) : Prop where
  idle : ∀ e ∈ log, ¬e.StartsWork
  received : ∀ ps, .received .init ps ∉ log

theorem Quiet.fresh (h : Quiet log) : Fresh log :=
  ⟨h.not_startsWork, fun _ => h.not_received⟩

theorem Fresh.concat {e : CreateEvent} (h : Fresh log) (hs : ¬e.StartsWork)
    (hr : ∀ ps, e ≠ .received .init ps) : Fresh (log ++ [e]) where
  idle e' he := by
    cases List.mem_append.mp he
    case inl he => exact h.idle e' he
    case inr he => exact List.mem_singleton.mp he ▸ hs
  received ps hm := by
    cases List.mem_append.mp hm
    case inl hm => exact h.received ps hm
    case inr hm => exact hr ps (List.mem_singleton.mp hm).symm

theorem onInitMsg_initialized {t : EnsureState ρ} {msg : Runtime.Reply} :
    Initialized pod (t.onInitMsg k msg).fst.log ↔
    Initialized pod t.log ∨ ∃ ps, msg = .podStatus ps ∧ Succeeded pod ps := by
  cases msg
  case error e => exact (initialized_append_api t.log).trans (by simp)
  case podStatus ps =>
    obtain ⟨es, hs⟩ := mirror_log (k := k) { t with log := t.log ++ [CreateEvent.received .init ps] } (some ps) true
    simp only [EnsureState.onInitMsg, hs, initialized_append_api]
    simp [Initialized, or_and_right, exists_or]
  all_goals simp [EnsureState.onInitMsg]

theorem idle_handleMessages {s : EnsureState ρ} {replies : List Runtime.Reply} (h : Fresh s.log) :
    ∀ e ∈ (handleMessages (EnsureState.onInitMsg k) s replies).log, ¬e.StartsWork := by
  rw [handleMessages_eq]
  apply loop_preserves (I := fun s : EnsureState ρ => ∀ e ∈ s.log, ¬e.StartsWork) h.idle
  intro t msg ht e he
  obtain ⟨es, hl, hes⟩ := onInitMsg_log (k := k) t msg
  rw [hl] at he
  cases List.mem_append.mp he
  case inl he => exact ht e he
  case inr he => exact hes e he

theorem Ready.handleMessages {s : EnsureState ρ} {replies : List Runtime.Reply} (h : Fresh s.log)
    (hv : pod.initContainers.any isVirtual = false) (hr : a.ensure .init = .ok replies)
    (he : (Aranya.handleMessages (EnsureState.onInitMsg k) s replies).err = none) :
    Ready a pod (Aranya.handleMessages (EnsureState.onInitMsg k) s replies).log := by
  constructor
  case idle => exact idle_handleMessages h
  case iff =>
    rw [handleMessages_eq] at he ⊢
    have hn : ¬Initialized pod s.log := by
      rintro ⟨ps, hm, _⟩
      exact h.received ps hm
    apply (loop_accumulates (I := fun _ => True) (P := fun s : EnsureState ρ => Initialized pod s.log)
      (A := fun _ msg => ∃ ps, msg = .podStatus ps ∧ Succeeded pod ps) trivial (fun _ _ => trivial)
      (fun _ => onInitMsg_initialized)).trans
    rw [InitSucceeds, hv]
    simp only [hn, false_or, Bool.false_eq_true, if_false, hr, Except.ok.injEq]
    constructor
    case mp =>
      rintro ⟨msg, post, t, ⟨pre, hp, hl⟩, ps, rfl, hs⟩
      exact ⟨pre, ps, post, hp, forall_mem_of_continue onInitMsg_continues hl, hs⟩
    case mpr =>
      rintro ⟨pre, ps, post, hp, hb, hs⟩
      obtain ⟨t, hl⟩ := onInitMsg_continue hb (hp ▸ he)
      exact ⟨_, post, t, ⟨pre, hp, hl⟩, ps, rfl, hs⟩

theorem Ready.hostExec {cmd : Runtime.PodEnsureCmd} {commands : List (List Bytes)}
    {ps : Runtime.PodStatusMsg} (h : Fresh log) (hv : pod.initContainers.any isVirtual = true)
    (hc : cmd.containers.map commandOf = pod.initContainers.map hostSpec)
    (hx : handleContainerAsHostExec (a.host .init) cmd = .ok (commands, ps)) :
    Ready a pod (log ++ [.hostExec .init commands] ++ [.received .init ps]) where
  idle e he := by
    simp only [List.append_assoc, List.mem_append, List.mem_singleton] at he
    rcases he with he | rfl | rfl
    case inl => exact h.idle e he
    case inr.inl => exact id
    case inr.inr => exact id
  iff := by
    have hi : Initialized pod (log ++ [.hostExec .init commands] ++ [.received .init ps]) ↔
        Succeeded pod ps := by
      simp [Initialized, h.received]
    rw [hi, InitSucceeds, if_pos hv, Succeeded]
    apply forall₂_congr
    intro ctr _
    rw [handleContainerAsHostExec_containers hx, ← execContainers_commandOf, hc, execContainers_getElem?,
      Host.lastExecuted]
    cases List.getLast? _
    case none => simp
    case some x => cases x; simp [execStatus_succeeded]

end Init

theorem Ready.begun {e : CreateEvent} (h : Ready a pod log) (he : e.StartsWork) : Begun a pod (log ++ [e]) :=
  ⟨log, e, [], rfl, he, h, by simp⟩

theorem Begun.handleMessages {s : EnsureState ρ} {replies : List Runtime.Reply} (h : Begun a pod s.log) :
    Begun a pod (Aranya.handleMessages (EnsureState.onWorkMsg k) s replies).log := by
  rw [handleMessages_eq]
  apply loop_preserves (I := fun s : EnsureState ρ => Begun a pod s.log) h
  intro t msg ht
  obtain ⟨es, hl, hes⟩ := onWorkMsg_log (k := k) t msg
  exact hl ▸ ht.append hes

def Settled (a : Replies) (pod : Kube.Pod) (log : List CreateEvent) : Prop :=
  (∀ e ∈ log, ¬e.StartsWork) ∨ Begun a pod log

theorem Settled.gated_iff (h : Settled a pod log) :
    Gated pod log ↔ ((∃ e ∈ log, e.StartsWork) → InitSucceeds a pod) := by
  cases h
  case inl hn =>
    have hg : Gated pod log := by
      intro before e after hl he
      exact (hn e (by simp [hl]) he).elim
    refine iff_of_true hg ?_
    rintro ⟨e, hm, he⟩
    exact (hn e hm he).elim
  case inr hb =>
    have hs : ∃ e ∈ log, e.StartsWork := by
      obtain ⟨before, e, after, rfl, he, _⟩ := hb
      exact ⟨e, by simp, he⟩
    rw [hb.gated_iff, forall_prop_of_true hs]

namespace Manager

variable {r : Resolver ρ} {opts : CreateOptions} {m : Manager ρ}

section Groups

variable {group : Group} {P R : List CreateEvent → Prop} (cmd : Runtime.PodEnsureCmd)

theorem execGroup_spec (hP : ∀ {log} {es : List Event}, P log → P (log ++ es.map .api))
    (hR : ∀ {log commands ps}, handleContainerAsHostExec (a.host group) cmd = .ok (commands, ps) →
      R log → P (log ++ [.hostExec group commands] ++ [.received group ps]))
    (pod' : Kube.Pod) :
    ⦃fun s => ⌜R s.log⌝⦄ execGroup k a group pod' cmd
    ⦃post⟨fun _ s => ⌜P s.log⌝, fun _ s => ⌜P s.log ∨ R s.log⌝⟩⦄ := by
  have h₁ := call_spec (ρ := ρ) (α := Option Kube.Pod) (P := P) hP
  have h₂ := call_spec (ρ := ρ) (α := Option Failure) (P := P) hP
  mvcgen [execGroup, record, fail, h₁, h₂]
  case vc1.h_1 hs => exact .inr hs
  case vc2.h_2.pre hx s hs _ _ => exact hR hx hs
  case vc4.h_2.post.success.post.success.h_1 hs => exact .inl hs
  case vc5.h_2.post.success.post.success.h_2 hs => exact .inl hs
  case vc7.h_2.post.success.post.except.handle => exact .inl
  case vc8.h_2.post.except.handle => exact .inl

theorem ensureContainers_spec (onMsg : EnsureState ρ → Runtime.Reply → EnsureState ρ × Bool)
    {Q E : List CreateEvent → Prop} (hR : ∀ {log}, R log → P (log ++ [.ensure group cmd]))
    (hE : ∀ {log}, P log → E log)
    (hQ : ∀ {s replies}, a.ensure group = .ok replies → P s.log → E (handleMessages onMsg s replies).log ∧
      ((handleMessages onMsg s replies).err = none → Q (handleMessages onMsg s replies).log))
    (pod' : Kube.Pod) :
    ⦃fun s => ⌜R s.log⌝⦄ ensureContainers a group onMsg pod' cmd
    ⦃post⟨fun _ s => ⌜Q s.log⌝, fun _ s => ⌜E s.log⌝⟩⦄ := by
  mvcgen [ensureContainers, record, fail]
  case vc1.h_1 s hs _ _ _ => exact hE (hR hs)
  case vc2.h_2.h_1 s hs _ _ hr _ _ _ => exact (hQ hr (hR hs)).left
  case vc3.h_2.h_2 s hs _ _ hr _ he => exact (hQ hr (hR hs)).right he

end Groups

theorem execInit_ready (hv : pod.initContainers.any isVirtual = true) {cmd : Runtime.PodEnsureCmd}
    (hc : cmd.containers.map commandOf = pod.initContainers.map hostSpec) (pod' : Kube.Pod) :
    ⦃fun s => ⌜Quiet s.log⌝⦄ execGroup k a .init pod' cmd
    ⦃post⟨fun _ s => ⌜Ready a pod s.log⌝, fun _ s => ⌜∀ e ∈ s.log, ¬e.StartsWork⌝⟩⦄ := by
  have h := execGroup_spec (k := k) (P := Ready a pod) (R := Quiet) cmd (Ready.append quiet_api)
    fun hx hq => .hostExec hq.fresh hv hc hx
  mvcgen [h]
  case vc2.post.success => exact id
  case vc3.post.except.handle => exact (·.elim Ready.idle Quiet.not_startsWork)

theorem ensureInit_ready (hv : pod.initContainers.any isVirtual = false) (cmd : Runtime.PodEnsureCmd)
    (pod' : Kube.Pod) :
    ⦃fun s => ⌜Quiet s.log⌝⦄ ensureContainers a .init (EnsureState.onInitMsg k) pod' cmd
    ⦃post⟨fun _ s => ⌜Ready a pod s.log⌝, fun _ s => ⌜∀ e ∈ s.log, ¬e.StartsWork⌝⟩⦄ := by
  exact ensureContainers_spec (R := Quiet) (P := Fresh) cmd (EnsureState.onInitMsg k)
    (fun hq => hq.fresh.concat (e := .ensure .init cmd) id (by simp)) Fresh.idle
    (fun hr hf => ⟨idle_handleMessages hf, .handleMessages hf hv hr⟩) pod'

theorem createInit_ready (hi : pod.initContainers ≠ []) (ht : Translated pod opts) (pod' : Kube.Pod) :
    ⦃fun s => ⌜Quiet s.log⌝⦄ createInit k a opts pod'
    ⦃post⟨fun _ s => ⌜Ready a pod s.log⌝, fun _ s => ⌜∀ e ∈ s.log, ¬e.StartsWork⌝⟩⦄ := by
  obtain ⟨cmd, ho, hc⟩ := ht.initOpts hi
  rw [createInit.eq_def, ho, ht.initExec]
  cases hv : pod.initContainers.any isVirtual
  case true =>
    have h := execInit_ready (k := k) (a := a) hv hc
    mvcgen [markInitializing, h]
    exact Quiet.not_startsWork
  case false =>
    have h := ensureInit_ready (k := k) (a := a) hv
    mvcgen [markInitializing, h]
    exact Quiet.not_startsWork

theorem createWork_settled (pod : Kube.Pod) (opts : CreateOptions) (pod' : Kube.Pod) :
    ⦃fun s => ⌜Ready a pod s.log⌝⦄ createWork k a opts pod'
    ⦃post⟨fun _ s => ⌜Settled a pod s.log⌝, fun _ s => ⌜Settled a pod s.log⌝⟩⦄ := by
  have h₁ := execGroup_spec (k := k) (a := a) (R := Ready a pod) (P := Begun a pod) opts.workOpts
    (.append quiet_api.not_startsWork)
    (fun _ hr => .append (by simp [CreateEvent.StartsWork]) (hr.begun (e := .hostExec .work _) trivial))
  have h₂ := ensureContainers_spec (a := a) (R := Ready a pod) (P := Begun a pod) (Q := Begun a pod)
    opts.workOpts (EnsureState.onWorkMsg k) (fun hr => hr.begun (e := .ensure .work _) trivial) id
    (fun _ hb => ⟨.handleMessages hb, fun _ => .handleMessages hb⟩)
  mvcgen [createWork, h₁, h₂]
  case vc2.isTrue.post.success => exact .inr ‹_›
  case vc3.isTrue.post.except.handle => exact (·.elim .inr (.inl ·.idle))
  case vc5.isFalse.post.success => exact .inr
  case vc6.isFalse.post.except.handle => exact .inr

theorem createDevicePod_settled (hi : pod.initContainers ≠ []) :
    ⦃fun s => ⌜Quiet s.log⌝⦄ createDevicePod k r a pod
    ⦃post⟨fun _ s => ⌜Settled a pod s.log⌝, fun _ s => ⌜Settled a pod s.log⌝⟩⦄ := by
  have h₁ {opts} (ht : Translated pod opts) := createInit_ready (k := k) (a := a) hi ht
  have h₂ := mark_spec (k := k) (P := Ready a pod) (Ready.append quiet_api)
  have h₃ := createWork_settled (k := k) (a := a) pod
  mvcgen [createDevicePod, markCreating, h₁, h₂, h₃, -mark_quiet]
  -- In the last cases the creation ends with an error.
  case vc2.post.success.pre h => exact h.left
  case vc3.ht h _ _ _ => exact h.right
  case vc7.post.success.post.success.post.success.post.except.handle => exact (.inl ·.idle)
  case vc8.post.success.post.success.post.except.handle => exact .inl
  case vc9.post.success.post.except.handle => exact (.inl ·.not_startsWork)
  case vc10.post.except.handle => exact (.inl ·.not_startsWork)

theorem runCreateDevicePod_log :
    (runCreateDevicePod k r a m pod).snd.fst =
    ((createDevicePod k r a pod).run { mgr := m, log := [] }).snd.log := by
  rw [runCreateDevicePod]
  split
  case h_1 s hr => rw [hr]
  case h_2 s hr => rw [hr]

theorem runCreateDevicePod_settled (hi : pod.initContainers ≠ []) :
    Settled a pod (runCreateDevicePod k r a m pod).snd.fst := by
  rw [runCreateDevicePod_log]
  apply of_triple (Q := fun s : CreateState ρ => Settled a pod s.log) (createDevicePod_settled hi)
  exact fun _ he => (List.not_mem_nil he).elim

-- This is so iff the device or the host lets the init containers succeed, or the creation ends before.
theorem work_gated_iff {m m' : Manager ρ} {err : Option Failure} (hi : pod.initContainers ≠ [])
    (h : runCreateDevicePod k r a m pod = (m', log, err)) :
    Gated pod log ↔ ((∃ e ∈ log, e.StartsWork) → InitSucceeds a pod) := by
  have hs := runCreateDevicePod_settled (k := k) (r := r) (a := a) (m := m) hi
  rw [h] at hs
  exact hs.gated_iff

def plainContainer (name image : Bytes) : Kube.Container where
  name := name
  image := image

def migrated : Kube.Pod :=
  { samplePod with initContainers := [plainContainer [1] [1]], containers := [plainContainer [2] [2]] }

def migratedCluster : Cluster Unit :=
  .answering (some migrated)

def migrationReplies (replies : List Runtime.Reply) : Replies where
  images := .ok []
  ensure
    | .init => .ok replies
    | .work => .ok []
  host _ := { logFiles := none, exec _ _ := none, createdAt _ := 1, finishedAt _ := 2 }

def migrationSucceeded : Runtime.PodStatusMsg where
  uid := [1]
  network := none
  containers := (∅ : Std.ExtTreeMap Bytes (Option Runtime.ContainerStatus)).insert [1]
    (some ⟨[1], [], 1, 1, 2, 0, [], []⟩)

theorem work_gated_iff_migrated :
    ∃ m' log err, runCreateDevicePod migratedCluster .answering
        (migrationReplies [.podStatus migrationSucceeded]) (.idle ()) migrated = (m', log, err) ∧
      (Gated migrated log ↔ ((∃ e ∈ log, e.StartsWork) →
        InitSucceeds (migrationReplies [.podStatus migrationSucceeded]) migrated)) := by
  cases h : runCreateDevicePod migratedCluster .answering
    (migrationReplies [.podStatus migrationSucceeded]) (.idle ()) migrated
  case mk m' result => exact ⟨m', result.fst, result.snd, rfl, work_gated_iff (by decide) h⟩

-- The device closes the session without a status of the init containers.
theorem not_gated_closed :
    ∃ m' before cmd, runCreateDevicePod migratedCluster .answering (migrationReplies [])
        (.idle ()) migrated = (m', before ++ [.ensure .work cmd], none) ∧
      ¬Gated migrated (before ++ [.ensure .work cmd]) := by
  refine ⟨_, [_, _, _, _], _, rfl, fun hg => ?_⟩
  obtain ⟨ps, hm, _⟩ := hg _ _ [] rfl trivial
  simp at hm

end Manager
end Aranya.Pod
