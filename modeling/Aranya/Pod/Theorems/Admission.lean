import Aranya.Lib.Execution
import Aranya.Lib.Frame
import Aranya.Pod.Reconcile

namespace Aranya.Pod.System

variable {ρ : Type}

inductive Call
  | creation (a : Answers) (pod : Kube.Pod)
  | deletion (a : Answers) (pod : Kube.Pod)
  | others (pods : Bytes → Option Kube.Pod) (podCache : PodCache)

def Call.perform (i : Nat) : Call → ReconcileM ρ Unit
  | .creation a pod => admitPodCreation i a pod
  | .deletion a pod => admitPodDeletion i a pod
  | .others pods podCache => do
    modifyManager i fun m => { m with podCache := podCache }
    modify fun s => { s with pods := pods }

structure Admissions (ρ : Type) where
  system : System ρ
  admitted : List Bytes
  processed : List Bytes
  panicked : Bool

namespace Admissions

def start (s : System ρ) : Admissions ρ where
  system := s
  admitted := []
  processed := []
  panicked := false

def record (s : Admissions ρ) : Call → Except Return Unit → Admissions ρ
  | _, .error .panic => { s with panicked := true }
  | .creation _ pod, .error (.result _) =>
    if isAbbotPod pod ∧ pod.status.phase = .running then
      { s with processed := pod.uid :: s.processed }
    else
      s
  | .creation _ pod, .ok () =>
    if isAbbotPod pod then { s with admitted := pod.uid :: s.admitted } else s
  | .deletion _ pod, .ok () =>
    { s with
      admitted := s.admitted.filter (· ≠ pod.uid)
      processed := s.processed.filter (· ≠ pod.uid) }
  | _, _ => s

variable (i : Nat)

def manager (s : Admissions ρ) : PodManager ρ :=
  s.system.managers i

def outcome (s : Admissions ρ) (c : Call) : Except Return Unit :=
  ((c.perform i).run s.system).fst

def step (s : Admissions ρ) (c : Call) : Option (Admissions ρ) :=
  if s.panicked then none
  else some { s.record c (s.outcome i c) with system := ((c.perform i).run s.system).snd }

structure Right (s : Admissions ρ) (c : Call) (s' : Admissions ρ) : Prop where
  returns : s'.panicked = false
  unique : ∀ uid₁ ∈ s'.admitted, ∀ uid₂ ∈ s'.admitted, uid₁ = uid₂
  known : ∀ uid ∈ s'.processed, (s'.manager i).abbotPodUID ≠ [] ∧ (s'.manager i).abbotPodUID = uid
  network : ∀ {a pod}, c = .creation a pod → pod.status.phase ≠ .running → requireClusterNetwork pod →
    s.outcome i c = .ok () → ∃ abbotPod, abbotPod.status.phase = .running ∧
    (s.manager i).podCache.getByID (s.manager i).abbotPodUID = some abbotPod
  first : ∀ {a pod}, c = .creation a pod → (s.manager i).abbotPodUID = pod.uid → pod.uid ≠ [] →
    s.outcome i c ≠ .error (.result (some
      { err := some (str "only one abbot pod can be deployed per node") }))
  last : ∀ {a pod}, c = .deletion a pod → isAbbotPod pod → s.outcome i c = .ok () →
    ∀ p ∈ (s.manager i).podCache.uidIndex.values, requireClusterNetwork p = false

end Admissions

def Accepts (s : System ρ) (a : Answers) (pod : Kube.Pod) : Prop :=
  a.patchFinalizers = none ∧ (s.pods pod.name).isSome

def Call.Replays : Call → Prop
  | .creation _ pod => isAbbotPod pod ∧ pod.status.phase = .running
  | _ => False

def Call.Networks : Call → Prop
  | .creation _ pod | .deletion _ pod => isAbbotPod pod ∨ requireClusterNetwork pod
  | .others .. => False

def Call.Stores (i : Nat) (s : System ρ) : Call → Prop
  | .creation a pod =>
    isAbbotPod pod ∧ requireClusterNetwork pod = false ∧
    pod.status.phase ≠ .running ∧ pod.status.phase ≠ .succeeded ∧ pod.status.phase ≠ .failed ∧
    (pod.finalizers.contains finalizerClusterNetworkManager ∨ s.Accepts a pod)
  | .deletion a pod =>
    isAbbotPod pod ∧ requireClusterNetwork pod = false ∧
    (∀ p ∈ (s.managers i).podCache.uidIndex.values, requireClusterNetwork p = false) ∧
    (!pod.finalizers.contains finalizerClusterNetworkManager ∨ s.Accepts a pod)
  | .others .. => False

def Admissions.Orderly (i : Nat) (s : Admissions ρ) (c : Call) : Prop :=
  ¬c.Replays ∧ ¬c.Stores i s.system

structure Call.Ends (i : Nat) (s : System ρ) (c : Call) (r : Except Return Unit) (s' : System ρ) : Prop where
  unknown : (s'.managers i).abbotPodUID = []
  panics : r = .error .panic ↔ c.Stores i s
  admitted : r = .ok () → ¬c.Networks
  replayed : c.Replays → r = .error (.result none)

section

variable {i : Nat} {a : Answers} {pod : Kube.Pod} {finalizer : Bytes} {s s' : System ρ} {α β : Type}
    {x : ReconcileM ρ α} {f : α → ReconcileM ρ β} {r : α} {e : Return}

theorem manager_bind_run {f : PodManager ρ → ReconcileM ρ β} :
    (manager i >>= f).run s = (f (s.managers i)).run s :=
  run_bind_ok rfl

theorem patch_run (err : Option Bytes) (name : Bytes) (f : Kube.Pod → Kube.Pod) (s : System ρ) :
    ∃ r s', (patch err name f).run s = (.ok r, s') ∧ s'.managers = s.managers ∧
      (r.isOk ↔ err = none ∧ (s.pods name).isSome) := by
  cases err
  case some e => exact ⟨.error e, s, rfl, rfl, by simp [Except.isOk, Except.toBool]⟩
  case none =>
    cases hp : s.pods name
    case none =>
      refine ⟨.error (apiErrorText .notFound), s, ?_, rfl, by simp [Except.isOk, Except.toBool]⟩
      refine (run_bind_ok (r := s) rfl).trans ?_
      rw [hp]
      rfl
    case some pod =>
      refine ⟨.ok (f pod), { s with pods := Function.update s.pods name (some (f pod)) }, ?_, rfl,
        by simp [Except.isOk, Except.toBool]⟩
      refine (run_bind_ok (r := s) rfl).trans ?_
      rw [hp]
      rfl

theorem patchUnless_run (b : Bool) (a : Answers) (pod : Kube.Pod) (f : Kube.Pod → Kube.Pod) (s : System ρ) :
    ∃ r s', (if b then return .ok pod else patch a.patchFinalizers pod.name f : ReconcileM ρ _).run s =
        (.ok r, s') ∧
      s'.managers = s.managers ∧ (r.isOk ↔ b ∨ s.Accepts a pod) := by
  cases b
  case true => exact ⟨.ok pod, s, rfl, rfl, iff_of_true rfl (.inl rfl)⟩
  case false =>
    obtain ⟨r, s', hr, hm, ho⟩ := patch_run a.patchFinalizers pod.name f s
    exact ⟨r, s', hr, hm, ho.trans (or_iff_right Bool.false_ne_true).symm⟩

-- After a patch, what stores a UID panics.
theorem ofExcept_bind_run {f : Kube.Pod → ReconcileM ρ Unit} (text : Bytes) (x : Except Bytes Kube.Pod)
    (hf : ∀ pod, (f pod).run s = (.error .panic, s)) :
    ∃ r, (ofExcept text x >>= f).run s = (.error r, s) ∧ (r = .panic ↔ x.isOk) := by
  cases x
  case error e => exact ⟨_, rfl, by simp [Except.isOk, Except.toBool]⟩
  case ok pod => exact ⟨.panic, hf pod, by simp [Except.isOk, Except.toBool]⟩

theorem admitAbbotPod_run (h : (s.managers i).abbotPodUID = []) (a : Answers) (pod : Kube.Pod) :
    ∃ r s', (admitAbbotPod i a pod).run s = (.error r, s') ∧ s'.managers = s.managers ∧
      (r = .panic ↔ pod.finalizers.contains finalizerClusterNetworkManager ∨ s.Accepts a pod) := by
  obtain ⟨x, s', hx, hm, ho⟩ := patchUnless_run (pod.finalizers.contains finalizerClusterNetworkManager) a pod _ s
  obtain ⟨r, hr, hp⟩ := ofExcept_bind_run (s := s')
    (f := fun pod => do setAbbotPod pod.uid; cachePod i pod)
    (str "failed to add cluster network manager finalizer for abbot pod: ") x fun _ => rfl
  refine ⟨r, s', ?_, hm, hp.trans ho⟩
  refine manager_bind_run.trans ?_
  rw [if_neg (not_not.mpr h)]
  exact (run_bind_ok rfl).trans ((run_bind_ok hx).trans hr)

theorem admitClusterNetworkPod_run (h : (s.managers i).abbotPodUID = []) :
    (admitClusterNetworkPod i a pod).run s =
    (.error (.result (some { err := some abbotPodRequired })), s) := by
  refine manager_bind_run.trans ?_
  rw [if_pos h]
  exact run_bind_error rfl

theorem Call.Ends.cached {c : Call} {r : Except Return Unit} (h : (s.managers i).abbotPodUID = [])
    (hp : r = .error .panic ↔ c.Stores i s) (ha : r = .ok () → ¬c.Networks)
    (hr : c.Replays → r = .error (.result none)) :
    c.Ends i s r (s.setManager i { s.managers i with podCache := (s.managers i).podCache.update pod }) where
  unknown := by simpa [setManager] using h
  panics := hp
  admitted := ha
  replayed := hr

theorem creation_ends (h : (s.managers i).abbotPodUID = []) (a : Answers) (pod : Kube.Pod) :
    ∃ r s', (admitPodCreation i a pod).run s = (r, s') ∧ (Call.creation a pod).Ends i s r s' := by
  simp only [admitPodCreation]
  cases hp : pod.status.phase
  case running | succeeded | failed =>
    exact ⟨_, _, rfl, .cached h (by simp [Call.Stores, hp]) nofun fun _ => rfl⟩
  case unset | pending | unknown =>
    have hr : ¬(Call.creation a pod).Replays := by simp [Call.Replays, hp]
    cases hn : requireClusterNetwork pod
    case true =>
      refine ⟨_, _, admitClusterNetworkPod_run h, h, ?_, nofun, fun h => absurd h hr⟩
      simp [Call.Stores, hn]
    case false =>
      cases ha : isAbbotPod pod
      case false =>
        refine ⟨_, _, rfl, .cached h ?_ ?_ fun h => absurd h hr⟩
        case refine_1 => simp [Call.Stores, ha]
        case refine_2 => simp [Call.Networks, ha, hn]
      case true =>
        obtain ⟨r, s', hs, hm, hp'⟩ := admitAbbotPod_run h a pod
        refine ⟨.error r, s', hs, hm ▸ h, ?_, nofun, fun h => absurd h hr⟩
        simp [Call.Stores, ha, hn, hp, hp']

theorem deletion_ends (h : (s.managers i).abbotPodUID = []) (a : Answers) (pod : Kube.Pod) :
    ∃ r s', (admitPodDeletion i a pod).run s = (r, s') ∧ (Call.deletion a pod).Ends i s r s' := by
  have hf : ¬(Call.deletion a pod).Replays := by simp [Call.Replays]
  cases hn : requireClusterNetwork pod
  case true =>
    have hs : (admitPodDeletion i a pod).run s = (.error (.result (some
        { err := some (str "cannot delete cluster network pod without abbot pod") })), s) := by
      rw [admitPodDeletion, if_pos hn, manager_bind_run, if_pos h]
      exact run_bind_error rfl
    exact ⟨_, _, hs, h, by simp [Call.Stores, hn], by simp, fun h => absurd h hf⟩
  case false =>
    rw [admitPodDeletion, if_neg (Bool.eq_false_iff.mp hn)]
    cases ha : isAbbotPod pod
    case false =>
      refine ⟨_, _, rfl, h, ?_, ?_, fun h => absurd h hf⟩
      case refine_1 => simp [Call.Stores, ha]
      case refine_2 => simp [Call.Networks, ha, hn]
    case true =>
      rw [if_pos rfl, manager_bind_run]
      split
      case isTrue hc =>
        refine ⟨_, _, run_bind_error rfl, h, iff_of_false (by simp) fun h => ?_, by simp, fun h => absurd h hf⟩
        obtain ⟨p, hp, hn⟩ := List.any_eq_true.mp hc
        exact Bool.noConfusion (hn.symm.trans (h.right.right.left p hp))
      case isFalse hc =>
        obtain ⟨x, s', hx, hm, ho⟩ :=
          patchUnless_run (!pod.finalizers.contains finalizerClusterNetworkManager) a pod _ s
        obtain ⟨r, hr, hp⟩ := ofExcept_bind_run (s := s') (f := fun _ => setAbbotPod []) [] x fun _ => rfl
        refine ⟨.error r, s', (run_bind_ok hx).trans hr, hm ▸ h, ?_, by simp, fun h => absurd h hf⟩
        rw [Except.error.injEq, hp, ho]
        exact ⟨fun h => ⟨ha, hn, by simpa using hc, h⟩, fun h => h.right.right.right⟩

theorem Call.ends (h : (s.managers i).abbotPodUID = []) (c : Call) :
    ∃ r s', (c.perform i).run s = (r, s') ∧ c.Ends i s r s' := by
  cases c
  case creation a pod => exact creation_ends h a pod
  case deletion a pod => exact deletion_ends h a pod
  case others pods podCache =>
    exact ⟨_, _, rfl, by simpa [setManager] using h, ⟨nofun, nofun⟩, fun _ => not_false, nofun⟩

end

namespace Admissions

variable {i : Nat} {s s' : Admissions ρ} {c : Call} {cs : List Call}

structure Idle (i : Nat) (s : Admissions ρ) : Prop where
  unknown : (s.manager i).abbotPodUID = []
  admitted : s.admitted = []
  processed : s.processed = []
  panicked : s.panicked = false

theorem Idle.start {s : System ρ} (h : (s.managers i).abbotPodUID = []) : (start s).Idle i where
  unknown := h
  admitted := rfl
  processed := rfl
  panicked := rfl

theorem Idle.step_cases (h : s.Idle i) (hs : s.step i c = some s') :
    ∃ r t, s.outcome i c = r ∧ s' = { s.record c r with system := t } ∧ c.Ends i s.system r t := by
  obtain ⟨r, t, hr, he⟩ := c.ends h.unknown
  rw [Admissions.step, h.panicked, if_neg nofun, Option.some.injEq] at hs
  refine ⟨r, t, by rw [outcome, hr], ?_, he⟩
  rw [← hs, outcome, hr]

theorem Idle.step (h : s.Idle i) (hp : s.Orderly i c) (hs : s.step i c = some s') : s'.Idle i := by
  obtain ⟨r, t, -, rfl, he⟩ := h.step_cases hs
  have hi : { s with system := t }.Idle i := ⟨he.unknown, h.admitted, h.processed, h.panicked⟩
  cases r
  case ok =>
    have hn := he.admitted rfl
    cases c
    case creation a pod => rw [record, if_neg fun ha => hn (.inl ha)]; exact hi
    case deletion a pod =>
      exact ⟨he.unknown, by simp [record, h.admitted], by simp [record, h.processed], h.panicked⟩
    case others => exact hi
  case error r =>
    cases r
    case panic => exact absurd (he.panics.mp rfl) hp.right
    case result r =>
      cases c
      case creation a pod => rw [record, if_neg fun hr => hp.left ⟨hr.left, hr.right⟩]; exact hi
      case deletion => exact hi
      case others => exact hi

theorem Idle.right_iff (h : s.Idle i) (hs : s.step i c = some s') : s.Right i c s' ↔ s.Orderly i c := by
  obtain ⟨r, t, hr, he, hc⟩ := h.step_cases hs
  constructor
  case mp =>
    intro hg
    constructor
    case left =>
      intro hp
      obtain rfl := hc.replayed hp
      cases c
      case creation a pod =>
        have hm : pod.uid ∈ s'.processed := by
          rw [he, record, if_pos ⟨hp.left, hp.right⟩]
          exact List.mem_cons_self
        exact (hg.known _ hm).left (he ▸ hc.unknown)
      case deletion | others => exact hp
    case right =>
      intro hp
      obtain rfl := hc.panics.mpr hp
      have := hg.returns
      cases he ▸ hg.returns
  case mpr =>
    intro hp
    have hi := h.step hp hs
    exact {
      returns := hi.panicked
      unique := by simp [hi.admitted]
      known := by simp [hi.processed]
      network := by
        rintro a pod rfl - hn ho
        exact absurd (.inr hn) (hc.admitted (hr ▸ ho))
      first := fun _ hu hn => absurd (hu ▸ h.unknown) hn
      last := by
        rintro a pod rfl ha ho
        exact absurd (.inl ha) (hc.admitted (hr ▸ ho)) }

-- In a run from a new manager, this is so iff no call is about a running abbot pod or has to change which
-- abbot pod is known.
theorem right_iff_orderly {s₀ : System ρ} {nodeName hostIP : Bytes}
    {mountPath : Option (Bytes → Bytes → Bytes)} {cluster : ρ}
    (h : s₀.managers i = .newManager nodeName hostIP mountPath cluster)
    (e : Execution (step i) (start s₀) cs s') :
    (∀ pre c s s', pre ++ [c] <+: cs → Execution (step i) (start s₀) pre s → s.step i c = some s' →
      s.Right i c s') ↔ Along (step i) (Orderly i) (start s₀) cs := by
  refine e.steps_iff_along (J := Idle i) (fun h hp hs => h.step hp hs) (fun h hs => h.right_iff hs) ?_
  exact .start (by rw [h]; rfl)

def hostPod (role : Bytes) (phase : Kube.PodPhase) : Kube.Pod where
  ns := [0]
  name := [7]
  uid := [1]
  role := role
  hostNetwork := true
  containers := [{ name := str "abbot", image := [] }]
  status := { Kube.PodStatus.empty with phase := phase }

def fresh (pod : Kube.Pod) : System Unit where
  pods name := if name = pod.name then some pod else none
  edgeDevices _ := true
  virtualNodes _ := some 0
  managers _ := .newManager [2] [3] none ()
  log := []

theorem right_iff_orderly_host :
    let cs := [.creation {} (hostPod [] .pending), .deletion {} (hostPod [] .running)]
    Along (step 0) (Orderly 0) (start (fresh (hostPod [] .pending))) cs ∧
    ∀ pre c s s', pre ++ [c] <+: cs →
      Execution (step 0) (start (fresh (hostPod [] .pending))) pre s → s.step 0 c = some s' →
      s.Right 0 c s' := by
  intro cs
  have hn (phase : Kube.PodPhase) : ¬isAbbotPod (hostPod [] phase) := by
    rw [show isAbbotPod (hostPod [] phase) = false from rfl]
    exact Bool.false_ne_true
  have ha : Along (step 0) (Orderly 0) (start (fresh (hostPod [] .pending))) cs :=
    .cons ⟨fun h => hn _ h.left, fun h => hn _ h.left⟩ rfl <|
      .cons ⟨id, fun h => hn _ h.left⟩ rfl trivial
  exact ⟨ha, right_iff_orderly rfl (.trans rfl <| .trans rfl .refl) |>.mpr ha⟩

-- The first abbot pod makes the manager panic, and one which was running is not known afterwards.
theorem not_right_abbot :
    let s := start (fresh (hostPod (str "Abbot") .pending))
    let c := Call.creation {} (hostPod (str "Abbot") .pending)
    let d := Call.creation {} (hostPod (str "Abbot") .running)
    (∃ s', s.step 0 c = some s' ∧ s'.panicked ∧ ¬s.Right 0 c s') ∧
    ∃ s', s.step 0 d = some s' ∧ s'.processed = [[1]] ∧ (s'.manager 0).abbotPodUID = [] ∧
      ¬s.Right 0 d s' := by
  intro s c d
  constructor
  case left => exact ⟨_, rfl, rfl, fun h => nomatch h.returns⟩
  case right => exact ⟨_, rfl, rfl, rfl, fun h => (h.known [1] (List.mem_singleton_self _)).left rfl⟩

end Admissions
end Aranya.Pod.System
