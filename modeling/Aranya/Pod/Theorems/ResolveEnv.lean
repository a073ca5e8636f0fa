import Aranya.Lib.Agrees
import Aranya.Lib.Layers
import Aranya.Pod.Resolve

namespace Aranya.Pod

open Std (ExtTreeMap)

variable {st : Stores} {o : Orders} {pod : Kube.Pod} {ctr : Kube.Container} {tmpEnv tmpEnv' env : Env}
    {name : Bytes}

def LooksUp {α : Type} (found : Option α) (optional : Option Bool) (r : Except Bytes (Option α)) : Prop :=
  (∃ e, r = .error e ∧ found = none ∧ optional ≠ some true) ∨
  (r = .ok found ∧ (found = none → optional = some true))

namespace LooksUp

variable {α : Type} {found a : Option α} {optional : Option Bool} {r : Except Bytes (Option α)}

theorem fails_iff (h : LooksUp found optional r) : (∃ e, r = .error e) ↔ found = none ∧ optional ≠ some true := by
  cases h
  case inl h =>
    obtain ⟨e, rfl, hf⟩ := h
    exact ⟨fun _ => hf, fun _ => ⟨e, rfl⟩⟩
  case inr h =>
    obtain ⟨rfl, hf⟩ := h
    constructor
    case mp => exact fun ⟨_, he⟩ => nomatch he
    case mpr => exact fun ⟨hm, ho⟩ => absurd (hf hm) ho

theorem eq_of_ok (h : LooksUp found optional r) (hr : r = .ok a) : a = found := by
  cases h
  case inl h =>
    obtain ⟨e, he, _⟩ := h
    cases he.symm.trans hr
  case inr h => exact Except.ok.inj <| hr.symm.trans h.left

theorem optional_of_none (h : LooksUp found optional r) (hr : r = .ok none) : optional = some true := by
  by_contra ho
  obtain ⟨e, he⟩ := h.fails_iff.mpr ⟨(h.eq_of_ok hr).symm, ho⟩
  cases hr.symm.trans he

theorem ok_of_some {b : α} (h : LooksUp (some b) optional r) : r = .ok (some b) := by
  cases h
  case inl h =>
    obtain ⟨_, _, h, _⟩ := h
    cases h
  case inr h => exact h.left

theorem map {β : Type} (f : α → β) (h : LooksUp found optional r) :
    LooksUp (found.map f) optional (r.map (Option.map f)) := by
  cases h
  case inl h =>
    obtain ⟨e, rfl, rfl, ho⟩ := h
    exact .inl ⟨e, rfl, rfl, ho⟩
  case inr h =>
    obtain ⟨rfl, ho⟩ := h
    exact .inr ⟨rfl, fun hf => ho <| Option.map_eq_none_iff.mp hf⟩

end LooksUp

theorem getReferenced_looksUp {α : Type} (get : Bytes → Option α) (kind : Bytes) (ref : Kube.ObjectRef) :
    LooksUp (get ref.name) ref.optional (getReferenced get kind ref) := by
  cases hg : get ref.name
  case some a =>
    simp only [getReferenced, hg]
    exact .inr ⟨rfl, nofun⟩
  case none =>
    by_cases ho : ref.optional = some true
    case pos =>
      simp only [getReferenced, hg, ho, if_true]
      exact .inr ⟨rfl, fun _ => rfl⟩
    case neg =>
      simp only [getReferenced, hg, ho, if_false]
      exact .inl ⟨_, rfl, rfl, ho⟩

namespace Stores

structure Coherent (st : Stores) (s : Fetched) : Prop where
  configMaps : ∀ {name a}, s.configMaps[name]? = some a → st.getConfigMap name = some a
  secrets : ∀ {name a}, s.secrets[name]? = some a → st.getSecret name = some a

section Cached

variable {α : Type} {get : Bytes → Option α} {ref : Kube.ObjectRef}

theorem fetch_agrees {kind : Bytes} {kept : Fetched → ExtTreeMap Bytes α}
    {keep : Fetched → ExtTreeMap Bytes α → Fetched} {I : Fetched → Prop}
    (hk : ∀ {s name a}, I s → (kept s)[name]? = some a → get name = some a)
    (hi : ∀ {s name a}, I s → get name = some a → I (keep s ((kept s).insert name a))) :
    Agrees I (fetch get kind kept keep ref) (getReferenced get kind ref) := by
  intro s hs
  cases hf : (kept s)[ref.name]?
  case some a =>
    have hr := getReferenced_looksUp get kind ref
    rw [hk hs hf] at hr
    exact .inr ⟨some a, s, by simp only [fetch, hf], hr.ok_of_some, hs⟩
  case none =>
    cases hr : getReferenced get kind ref
    case error e => exact .inl ⟨e, by simp only [fetch, hf, hr], rfl⟩
    case ok a =>
      have hg := (getReferenced_looksUp get kind ref).eq_of_ok hr
      cases a
      case none => exact .inr ⟨none, s, by simp only [fetch, hf, hr], rfl, hs⟩
      case some a => exact .inr ⟨some a, _, by simp only [fetch, hf, hr], rfl, hi hs hg.symm⟩

theorem getElem?_insert_coherent {kept : ExtTreeMap Bytes α}
    {n n' : Bytes} {a a' : α} (hk : ∀ {n a}, kept[n]? = some a → get n = some a) (hg : get n = some a)
    (h : (kept.insert n a)[n']? = some a') : get n' = some a' := by
  rw [ExtTreeMap.getElem?_insert] at h
  by_cases hn : n = n'
  case pos => simpa [hn] using hn ▸ hg.trans (by simpa [hn] using h)
  case neg => exact hk <| by simpa [hn] using h

theorem fetchConfigMap_agrees :
    Agrees st.Coherent (st.fetchConfigMap ref) (getReferenced st.getConfigMap (str "configmap") ref) :=
  fetch_agrees (fun hs => hs.configMaps) fun hs hg =>
    { hs with configMaps := getElem?_insert_coherent hs.configMaps hg }

theorem fetchSecret_agrees :
    Agrees st.Coherent (st.fetchSecret ref) (getReferenced st.getSecret (str "secret") ref) :=
  fetch_agrees (fun hs => hs.secrets) fun hs hg =>
    { hs with secrets := getElem?_insert_coherent hs.secrets hg }

def definitions (st : Stores) (namePrefix : Bytes) (entries : List (Bytes × Bytes)) : List (Bytes × Bytes) :=
  entries.map (fun e => (namePrefix ++ e.fst, e.snd)) |>.filter (st.isEnvVarName ·.fst)

variable {namePrefix : Bytes} {data : ExtTreeMap Bytes Bytes}

theorem definitions_nodup (st : Stores) (namePrefix : Bytes) (data : ExtTreeMap Bytes Bytes) :
    ((st.definitions namePrefix data.toList).map Prod.fst).Nodup := by
  refine .sublist (List.filter_sublist.map _) ?_
  rw [List.map_map]
  have hi : Function.Injective (namePrefix ++ ·) := fun _ _ => List.append_cancel_left
  have hn := (nodup_toList_fst (m := data)).map hi
  rwa [List.map_map] at hn

theorem addEntriesIn_agrees :
    Agrees st.Coherent (st.addEntriesIn o tmpEnv namePrefix data)
      (.ok <| st.addEntries tmpEnv namePrefix data) := by
  intro s hs
  have hp := o.perm s.visits data |>.map (fun e => (namePrefix ++ e.fst, e.snd)) |>.filter (st.isEnvVarName ·.fst)
  have he : store tmpEnv (st.definitions namePrefix (o.entries s.visits data)) =
      st.addEntries tmpEnv namePrefix data :=
    (store_perm hp.symm (st.definitions_nodup namePrefix data)).symm
  exact .inr ⟨_, { s with visits := s.visits + 1 }, rfl, by rw [← he]; rfl, ⟨hs.configMaps, hs.secrets⟩⟩

theorem addEnvFromCached_agrees {envFrom : Kube.EnvFromSource} :
    Agrees st.Coherent (st.addEnvFromCached o tmpEnv envFrom) (st.addEnvFrom tmpEnv envFrom) := by
  cases hc : envFrom.configMapRef
  case some ref =>
    simp only [addEnvFromCached, addEnvFrom, hc]
    refine fetchConfigMap_agrees.bind fun a => ?_
    cases a
    case none => exact .pure _
    case some a => exact addEntriesIn_agrees
  case none =>
    cases hr : envFrom.secretRef
    case some ref =>
      simp only [addEnvFromCached, addEnvFrom, hc, hr]
      refine fetchSecret_agrees.bind fun a => ?_
      cases a
      case none => exact .pure _
      case some a => exact addEntriesIn_agrees
    case none =>
      simp only [addEnvFromCached, addEnvFrom, hc, hr]
      exact .pure _

theorem entryValueCached_agrees {kind title : Bytes}
    {fetchObject : Kube.ObjectRef → FetchM (Option α)} {data : α → ExtTreeMap Bytes Bytes} {ref : Kube.KeyRef}
    (hf : Agrees st.Coherent (fetchObject ref.toObjectRef) (getReferenced get kind ref.toObjectRef)) :
    Agrees st.Coherent (entryValueCached pod fetchObject data title ref)
      (entryValue pod get data kind title ref) := by
  refine hf.bind fun a => ?_
  cases a
  case none => exact .pure _
  case some a =>
    cases hv : (data a)[ref.key]?
    case some value =>
      simp only [hv]
      exact .pure _
    case none =>
      simp only [hv]
      by_cases ho : ref.optional = some true
      case pos =>
        simp only [ho, if_true]
        exact .pure _
      case neg =>
        simp only [ho, if_false]
        exact .throw _

theorem sourceValueCached_agrees {valueFrom : Kube.EnvVarSource} :
    Agrees st.Coherent (st.sourceValueCached pod ctr valueFrom) (st.sourceValue pod ctr valueFrom) := by
  simp only [sourceValueCached, sourceValue]
  split
  · exact .bind .lift fun _ => .pure _
  · exact .bind .lift fun _ => .pure _
  · exact entryValueCached_agrees fetchConfigMap_agrees
  · exact entryValueCached_agrees fetchSecret_agrees
  · exact .pure _

theorem addEnvVarCached_agrees {envVar : Kube.EnvVar} :
    Agrees st.Coherent (st.addEnvVarCached pod ctr tmpEnv envVar) (st.addEnvVar pod ctr tmpEnv envVar) := by
  by_cases hv : envVar.value = []
  case neg =>
    simp only [addEnvVarCached, addEnvVar, hv, ne_eq, not_false_iff, if_true]
    exact .pure _
  case pos =>
    cases hf : envVar.valueFrom
    case none =>
      simp only [addEnvVarCached, addEnvVar, hv, hf, ne_eq, not_true_eq_false, if_false]
      exact .pure _
    case some valueFrom =>
      simp only [addEnvVarCached, addEnvVar, hv, hf, ne_eq, not_true_eq_false, if_false]
      refine sourceValueCached_agrees.bind fun value => ?_
      cases value
      case none => exact .pure _
      case some value => exact .pure _

-- What is kept and the orders make no difference.
theorem resolveEnvCached_eq : st.resolveEnvCached o pod ctr = st.resolveEnv pod ctr := by
  have ha : Agrees st.Coherent (st.resolveEnvFetching o pod ctr) (st.resolveEnv pod ctr) := by
    refine .bind (.foldlM fun _ _ => addEnvFromCached_agrees) fun _ => ?_
    refine .bind (.foldlM fun _ _ => addEnvVarCached_agrees) fun tmpEnv => ?_
    intro s hs
    have he := store_perm (m := st.commonEnv pod) (o.perm s.visits tmpEnv).symm nodup_toList_fst
    exact .inr ⟨_, { s with visits := s.visits + 1 }, rfl, by rw [he]; rfl, ⟨hs.configMaps, hs.secrets⟩⟩
  exact ha.run'_eq ⟨by simp, by simp⟩

end Cached

def envFromRef (st : Stores) (envFrom : Kube.EnvFromSource) :
    Option (Kube.ObjectRef × Option (ExtTreeMap Bytes Bytes)) :=
  match envFrom.configMapRef, envFrom.secretRef with
  | some ref, _ => some (ref, (st.getConfigMap ref.name).map ConfigMap.data)
  | none, some ref => some (ref, (st.getSecret ref.name).map Secret.data)
  | none, none => none

def keyRef (st : Stores) (valueFrom : Kube.EnvVarSource) :
    Option (Kube.KeyRef × Option (ExtTreeMap Bytes Bytes)) :=
  match valueFrom.configMapKeyRef, valueFrom.secretKeyRef with
  | some ref, _ => some (ref, (st.getConfigMap ref.name).map ConfigMap.data)
  | none, some ref => some (ref, (st.getSecret ref.name).map Secret.data)
  | none, none => none

def EnvFromMissing (st : Stores) (envFrom : Kube.EnvFromSource) : Prop :=
  ∃ ref, st.envFromRef envFrom = some (ref, none) ∧ ref.optional ≠ some true

-- The names are the keys with the prefix, as far as they are valid.
def envFromSource (st : Stores) (envFrom : Kube.EnvFromSource) (name : Bytes) : Option Bytes :=
  if st.isEnvVarName name ∧ envFrom.namePrefix <+: name then
    (st.envFromRef envFrom).bind Prod.snd |>.bind (·[name.drop envFrom.namePrefix.length]?)
  else
    none

inductive Unresolved (st : Stores) (pod : Kube.Pod) (ctr : Kube.Container) (v : Kube.EnvVarSource) : Prop
  | field {fs e} (h : v.fieldRef = some fs) (he : st.podFieldSelectorRuntimeValue fs pod = .error e)
  | resource {fs e} (hf : v.fieldRef = none) (h : v.resourceFieldRef = some fs)
      (he : st.containerResourceRuntimeValue fs pod ctr = .error e)
  | key {ref data} (hf : v.fieldRef = none) (hr : v.resourceFieldRef = none) (h : st.keyRef v = some (ref, data))
      (hd : data.bind (·[ref.key]?) = none) (ho : ref.optional ≠ some true)

def EnvUnresolved (st : Stores) (pod : Kube.Pod) (ctr : Kube.Container) (envVar : Kube.EnvVar) : Prop :=
  envVar.value = [] ∧ ∃ v, envVar.valueFrom = some v ∧ st.Unresolved pod ctr v

def sourceText (st : Stores) (pod : Kube.Pod) (ctr : Kube.Container) (v : Kube.EnvVarSource) : Option Bytes :=
  match v.fieldRef, v.resourceFieldRef with
  | some fs, _ => (st.podFieldSelectorRuntimeValue fs pod).toOption
  | none, some fs => (st.containerResourceRuntimeValue fs pod ctr).toOption
  | none, none =>
    match st.keyRef v with
    | none => some []
    | some (ref, data) => data.bind (·[ref.key]?)

-- References to the variables that are defined by `envFrom` and the entries before it are expanded, others
-- stay as they are.
def envText (st : Stores) (pod : Kube.Pod) (ctr : Kube.Container) (before : Bytes → Option Bytes)
    (envVar : Kube.EnvVar) : Option Bytes :=
  if envVar.value ≠ [] then
    some (expand envVar.value fun input => (before input).getD (syntaxWrap input))
  else
    match envVar.valueFrom with
    | none => some []
    | some v => st.sourceText pod ctr v

def envSource (st : Stores) (pod : Kube.Pod) (ctr : Kube.Container) (before : Bytes → Option Bytes)
    (envVar : Kube.EnvVar) (name : Bytes) : Option Bytes :=
  if name = envVar.name then st.envText pod ctr before envVar else none

def commonSources (st : Stores) (pod : Kube.Pod) : List (Bytes × Bytes) :=
  (if pod.enableServiceLinks = some false then [] else st.serviceEnv) ++
    (st.environ.filter fun env =>
      (str "KUBERNETES_SERVICE").isPrefixOf env || (str "KUBERNETES_PORT").isPrefixOf env).filterMap splitVariable

def sources (st : Stores) (pod : Kube.Pod) (ctr : Kube.Container) : List (Bytes → Option Bytes) :=
  let envFrom := ctr.envFrom.map st.envFromSource
  (st.commonSources pod).map entryLayer ++ (envFrom ++ layersOf (st.envSource pod ctr) envFrom ctr.env)

section Steps

variable {envFrom : Kube.EnvFromSource} {envVar : Kube.EnvVar} {v : Kube.EnvVarSource}

theorem addEnvFrom_of_ref (tmpEnv : Env) {ref : Kube.ObjectRef} {data : Option (ExtTreeMap Bytes Bytes)}
    (h : st.envFromRef envFrom = some (ref, data)) :
    ∃ r, LooksUp data ref.optional r ∧
      st.addEnvFrom tmpEnv envFrom = r.map fun d => d.elim tmpEnv (st.addEntries tmpEnv envFrom.namePrefix) := by
  cases hc : envFrom.configMapRef
  case some ref' =>
    simp only [envFromRef, hc, Option.some.injEq, Prod.mk.injEq] at h
    obtain ⟨rfl, rfl⟩ := h
    refine ⟨_, (getReferenced_looksUp st.getConfigMap (str "configmap") ref').map _, ?_⟩
    simp only [addEnvFrom, hc]
    cases getReferenced st.getConfigMap (str "configmap") ref'
    case error e => rfl
    case ok a => cases a <;> rfl
  case none =>
    cases hs : envFrom.secretRef
    case none => simp [envFromRef, hc, hs] at h
    case some ref' =>
      simp only [envFromRef, hc, hs, Option.some.injEq, Prod.mk.injEq] at h
      obtain ⟨rfl, rfl⟩ := h
      refine ⟨_, (getReferenced_looksUp st.getSecret (str "secret") ref').map _, ?_⟩
      simp only [addEnvFrom, hc, hs]
      cases getReferenced st.getSecret (str "secret") ref'
      case error e => rfl
      case ok a => cases a <;> rfl

theorem addEnvFrom_of_no_ref (h : st.envFromRef envFrom = none) : st.addEnvFrom tmpEnv envFrom = .ok tmpEnv := by
  cases hc : envFrom.configMapRef
  case some ref => simp [envFromRef, hc] at h
  case none =>
    cases hs : envFrom.secretRef
    case some ref => simp [envFromRef, hc, hs] at h
    case none =>
      simp only [addEnvFrom, hc, hs]
      rfl

theorem addEnvFrom_fails_iff (st : Stores) (tmpEnv : Env) (envFrom : Kube.EnvFromSource) :
    (∃ e, st.addEnvFrom tmpEnv envFrom = .error e) ↔ st.EnvFromMissing envFrom := by
  cases hr : st.envFromRef envFrom
  case none => simp [addEnvFrom_of_no_ref hr, EnvFromMissing, hr]
  case some p =>
    obtain ⟨r, hl, he⟩ := addEnvFrom_of_ref tmpEnv hr
    simp only [he, Except.map_eq_error_iff, hl.fails_iff, EnvFromMissing, hr]
    constructor
    case mp => exact fun ⟨hd, ho⟩ => ⟨p.fst, by rw [← hd], ho⟩
    case mpr =>
      rintro ⟨ref, h, ho⟩
      cases h
      exact ⟨rfl, ho⟩

theorem getElem?_addEntries {namePrefix : Bytes} {data : ExtTreeMap Bytes Bytes} :
    (st.addEntries tmpEnv namePrefix data)[name]? =
      (if st.isEnvVarName name ∧ namePrefix <+: name then data[name.drop namePrefix.length]? else none).or
        tmpEnv[name]? := by
  refine getElem?_store_of_iff (st.definitions_nodup namePrefix data) fun v => ?_
  constructor
  case mp =>
    intro h
    obtain ⟨h, hv⟩ := List.mem_filter.mp h
    obtain ⟨e, he, h⟩ := List.mem_map.mp h
    cases h
    rw [if_pos ⟨hv, List.prefix_append _ _⟩, List.drop_left]
    exact ExtTreeMap.mem_toList_iff_getElem?_eq_some.mp he
  case mpr =>
    intro h
    split at h
    case isFalse => cases h
    case isTrue hv =>
      obtain ⟨hv, k, rfl⟩ := hv
      rw [List.drop_left] at h
      refine List.mem_filter.mpr ⟨List.mem_map.mpr ⟨(k, v), ?_, rfl⟩, hv⟩
      exact ExtTreeMap.mem_toList_iff_getElem?_eq_some.mpr h

theorem getElem?_addEnvFrom (h : st.addEnvFrom tmpEnv envFrom = .ok tmpEnv') (name : Bytes) :
    tmpEnv'[name]? = (st.envFromSource envFrom name).or tmpEnv[name]? := by
  cases hr : st.envFromRef envFrom
  case none =>
    cases (addEnvFrom_of_no_ref hr).symm.trans h
    simp [envFromSource, hr]
  case some p =>
    obtain ⟨r, hl, he⟩ := addEnvFrom_of_ref tmpEnv hr
    obtain ⟨data, hd, rfl⟩ := Except.map_eq_ok_iff.mp <| he.symm.trans h
    rw [hl.eq_of_ok hd, envFromSource, hr, Option.bind_some]
    cases p.snd
    case none => simp
    case some data => exact getElem?_addEntries

theorem entryValue_looksUp {α : Type} {get : Bytes → Option α} {data : α → ExtTreeMap Bytes Bytes}
    {kind title : Bytes} {ref : Kube.KeyRef} :
    LooksUp (((get ref.name).map data).bind (·[ref.key]?)) ref.optional
      (entryValue pod get data kind title ref) := by
  have hl := getReferenced_looksUp get kind ref.toObjectRef
  cases hr : getReferenced get kind ref.toObjectRef
  case error e =>
    obtain ⟨hg, ho⟩ := hl.fails_iff.mp ⟨e, hr⟩
    simp only [entryValue, hr, hg]
    exact .inl ⟨e, rfl, rfl, ho⟩
  case ok a =>
    rw [← hl.eq_of_ok hr]
    cases a
    case none =>
      simp only [entryValue, hr]
      exact .inr ⟨rfl, fun _ => hl.optional_of_none hr⟩
    case some a =>
      simp only [entryValue, hr, Option.map_some, Option.bind_some]
      cases hv : (data a)[ref.key]?
      case some value => exact .inr ⟨by simp only [bind, Except.bind, hv]; rfl, nofun⟩
      case none =>
        by_cases ho : ref.optional = some true
        case pos => exact .inr ⟨by simp only [bind, Except.bind, hv, ho]; rfl, fun _ => ho⟩
        case neg => exact .inl ⟨_, by simp only [bind, Except.bind, hv, ho]; rfl, rfl, ho⟩

theorem sourceValue_looksUp {ref : Kube.KeyRef} {data : Option (ExtTreeMap Bytes Bytes)} (hf : v.fieldRef = none)
    (hr : v.resourceFieldRef = none) (h : st.keyRef v = some (ref, data)) :
    LooksUp (data.bind (·[ref.key]?)) ref.optional (st.sourceValue pod ctr v) := by
  cases hc : v.configMapKeyRef
  case some ref' =>
    simp only [keyRef, hc, Option.some.injEq, Prod.mk.injEq] at h
    obtain ⟨rfl, rfl⟩ := h
    simp only [sourceValue, hf, hr, hc]
    exact entryValue_looksUp
  case none =>
    cases hs : v.secretKeyRef
    case none => simp [keyRef, hc, hs] at h
    case some ref' =>
      simp only [keyRef, hc, hs, Option.some.injEq, Prod.mk.injEq] at h
      obtain ⟨rfl, rfl⟩ := h
      simp only [sourceValue, hf, hr, hc, hs]
      exact entryValue_looksUp

theorem sourceValue_of_no_ref (hf : v.fieldRef = none) (hr : v.resourceFieldRef = none) (h : st.keyRef v = none) :
    st.sourceValue pod ctr v = .ok (some []) := by
  cases hc : v.configMapKeyRef
  case some ref => simp [keyRef, hc] at h
  case none =>
    cases hs : v.secretKeyRef
    case some ref => simp [keyRef, hc, hs] at h
    case none =>
      simp only [sourceValue, hf, hr, hc, hs]
      rfl

theorem sourceValue_of_field {fs : Kube.FieldRef} (hf : v.fieldRef = some fs) :
    st.sourceValue pod ctr v = (st.podFieldSelectorRuntimeValue fs pod).map some := by
  simp only [sourceValue, hf]
  rfl

theorem sourceValue_of_resource {fs : Kube.ResourceFieldRef} (hf : v.fieldRef = none)
    (hr : v.resourceFieldRef = some fs) :
    st.sourceValue pod ctr v = (st.containerResourceRuntimeValue fs pod ctr).map some := by
  simp only [sourceValue, hf, hr]
  rfl

theorem sourceValue_fails_iff : (∃ e, st.sourceValue pod ctr v = .error e) ↔ st.Unresolved pod ctr v := by
  cases hf : v.fieldRef
  case some fs =>
    simp only [sourceValue_of_field hf, Except.map_eq_error_iff]
    constructor
    case mp => exact fun ⟨_, he⟩ => .field hf he
    case mpr =>
      rintro (⟨h, he⟩ | ⟨h, _⟩ | ⟨h, _⟩)
      case field => exact ⟨_, Option.some.inj (hf.symm.trans h) ▸ he⟩
      all_goals cases hf.symm.trans h
  case none =>
    cases hr : v.resourceFieldRef
    case some fs =>
      simp only [sourceValue_of_resource hf hr, Except.map_eq_error_iff]
      constructor
      case mp => exact fun ⟨_, he⟩ => .resource hf hr he
      case mpr =>
        rintro (⟨h, _⟩ | ⟨_, h, he⟩ | ⟨_, h, _⟩)
        case field => cases hf.symm.trans h
        case resource => exact ⟨_, Option.some.inj (hr.symm.trans h) ▸ he⟩
        case key => cases hr.symm.trans h
    case none =>
      cases hk : st.keyRef v
      case none =>
        rw [sourceValue_of_no_ref hf hr hk]
        constructor
        case mp => exact fun ⟨_, he⟩ => nomatch he
        case mpr =>
          rintro (⟨h, _⟩ | ⟨_, h, _⟩ | ⟨_, _, h, _⟩)
          case field => cases hf.symm.trans h
          case resource => cases hr.symm.trans h
          case key => cases hk.symm.trans h
      case some p =>
        rw [(sourceValue_looksUp hf hr hk).fails_iff]
        constructor
        case mp => exact fun ⟨hd, ho⟩ => .key hf hr hk hd ho
        case mpr =>
          rintro (⟨h, _⟩ | ⟨_, h, _⟩ | ⟨_, _, h, hd, ho⟩)
          case field => cases hf.symm.trans h
          case resource => cases hr.symm.trans h
          case key =>
            cases hk.symm.trans h
            exact ⟨hd, ho⟩

theorem sourceText_of_sourceValue {value : Option Bytes} (h : st.sourceValue pod ctr v = .ok value) :
    st.sourceText pod ctr v = value := by
  cases hf : v.fieldRef
  case some fs =>
    obtain ⟨a, ha, rfl⟩ := Except.map_eq_ok_iff.mp <| (sourceValue_of_field hf).symm.trans h
    simp only [sourceText, hf, ha]
    rfl
  case none =>
    cases hr : v.resourceFieldRef
    case some fs =>
      obtain ⟨a, ha, rfl⟩ := Except.map_eq_ok_iff.mp <| (sourceValue_of_resource hf hr).symm.trans h
      simp only [sourceText, hf, hr, ha]
      rfl
    case none =>
      cases hk : st.keyRef v
      case none =>
        cases (sourceValue_of_no_ref hf hr hk).symm.trans h
        simp only [sourceText, hf, hr, hk]
      case some p =>
        simp only [sourceText, hf, hr, hk]
        exact ((sourceValue_looksUp hf hr hk).eq_of_ok h).symm

theorem addEnvVar_of_value (hv : envVar.value ≠ []) :
    st.addEnvVar pod ctr tmpEnv envVar =
      .ok (tmpEnv.insert envVar.name (expand envVar.value (mappingFuncFor tmpEnv))) := by
  simp only [addEnvVar, hv, ne_eq, not_false_iff, if_true]
  rfl

theorem addEnvVar_of_no_source (hv : envVar.value = []) (hf : envVar.valueFrom = none) :
    st.addEnvVar pod ctr tmpEnv envVar = .ok (tmpEnv.insert envVar.name []) := by
  simp only [addEnvVar, hv, hf, ne_eq, not_true_eq_false, if_false]
  rfl

theorem addEnvVar_of_source (hv : envVar.value = []) (hf : envVar.valueFrom = some v) :
    st.addEnvVar pod ctr tmpEnv envVar =
      (st.sourceValue pod ctr v).map fun value => value.elim tmpEnv (tmpEnv.insert envVar.name) := by
  simp only [addEnvVar, hv, hf, ne_eq, not_true_eq_false, if_false]
  cases st.sourceValue pod ctr v
  case error e => rfl
  case ok a => cases a <;> rfl

theorem addEnvVar_fails_iff (st : Stores) (pod : Kube.Pod) (ctr : Kube.Container) (tmpEnv : Env)
    (envVar : Kube.EnvVar) :
    (∃ e, st.addEnvVar pod ctr tmpEnv envVar = .error e) ↔ st.EnvUnresolved pod ctr envVar := by
  by_cases hv : envVar.value = []
  case neg => simp [addEnvVar_of_value hv, EnvUnresolved, hv]
  case pos =>
    cases hf : envVar.valueFrom
    case none => simp [addEnvVar_of_no_source hv hf, EnvUnresolved, hf]
    case some v =>
      simp [addEnvVar_of_source hv hf, Except.map_eq_error_iff, sourceValue_fails_iff, EnvUnresolved, hv, hf]

theorem getElem?_insert_or {value : Bytes} :
    (tmpEnv.insert envVar.name value)[name]? =
      (if name = envVar.name then some value else none).or tmpEnv[name]? := by
  rw [ExtTreeMap.getElem?_insert]
  by_cases hn : name = envVar.name
  case pos => simp [hn]
  case neg => simp [hn, Ne.symm hn]

theorem getElem?_addEnvVar (h : st.addEnvVar pod ctr tmpEnv envVar = .ok tmpEnv') (name : Bytes) :
    tmpEnv'[name]? = (st.envSource pod ctr (tmpEnv[·]?) envVar name).or tmpEnv[name]? := by
  by_cases hv : envVar.value = []
  case neg =>
    cases (addEnvVar_of_value hv).symm.trans h
    simp only [envSource, envText, hv, ne_eq, not_false_iff, if_true]
    exact getElem?_insert_or
  case pos =>
    cases hf : envVar.valueFrom
    case none =>
      cases (addEnvVar_of_no_source hv hf).symm.trans h
      simp only [envSource, envText, hv, hf, ne_eq, not_true_eq_false, if_false]
      exact getElem?_insert_or
    case some v =>
      obtain ⟨value, hs, rfl⟩ := Except.map_eq_ok_iff.mp <| (addEnvVar_of_source hv hf).symm.trans h
      simp only [envSource, envText, hv, hf, ne_eq, not_true_eq_false, if_false, sourceText_of_sourceValue hs]
      cases value
      case none => simp
      case some value => exact getElem?_insert_or

end Steps

theorem getElem?_commonEnv : (st.commonEnv pod)[name]? = lastOf ((st.commonSources pod).map entryLayer) name := by
  rw [commonEnv, getElem?_store_layers, getElem?_store_layers, commonSources, List.map_append, lastOf_append,
    ExtTreeMap.getElem?_empty, Option.or_none]

theorem resolveEnv_fails_iff :
    (∃ e, st.resolveEnv pod ctr = .error e) ↔
      (∃ envFrom ∈ ctr.envFrom, st.EnvFromMissing envFrom) ∨
        ∃ envVar ∈ ctr.env, st.EnvUnresolved pod ctr envVar := by
  have hf := Except.foldlM_fails_iff st.addEnvFrom_fails_iff ctr.envFrom
  have he := Except.foldlM_fails_iff (st.addEnvVar_fails_iff pod ctr) ctr.env
  constructor
  case mp =>
    rintro ⟨e, h⟩
    cases Except.bind_eq_error_iff.mp h
    case inl h => exact .inl <| (hf ∅).mp ⟨e, h⟩
    case inr h =>
      obtain ⟨tmpEnv, _, h⟩ := h
      cases Except.bind_eq_error_iff.mp h
      case inl h => exact .inr <| (he tmpEnv).mp ⟨e, h⟩
      case inr h =>
        obtain ⟨_, _, h⟩ := h
        cases h
  case mpr =>
    intro h
    cases ht : ctr.envFrom.foldlM st.addEnvFrom ∅
    case error e => exact ⟨e, Except.bind_eq_error_iff.mpr <| .inl ht⟩
    case ok tmpEnv =>
      cases h
      case inl h =>
        obtain ⟨e, h⟩ := (hf ∅).mpr h
        cases ht.symm.trans h
      case inr h =>
        obtain ⟨e, h⟩ := (he tmpEnv).mpr h
        exact ⟨e, Except.bind_eq_error_iff.mpr <| .inr ⟨tmpEnv, ht, Except.bind_eq_error_iff.mpr <| .inl h⟩⟩

def definitionsBefore (st : Stores) (pod : Kube.Pod) (ctr : Kube.Container) (entries : List Kube.EnvVar) :
    List (Bytes → Option Bytes) :=
  let envFrom := ctr.envFrom.map st.envFromSource
  envFrom ++ layersOf (st.envSource pod ctr) envFrom entries

theorem getElem?_definitionsBefore {entries : List Kube.EnvVar}
    (h : ctr.envFrom.foldlM st.addEnvFrom ∅ = .ok tmpEnv)
    (h' : entries.foldlM (st.addEnvVar pod ctr) tmpEnv = .ok tmpEnv') (name : Bytes) :
    tmpEnv'[name]? = lastOf (st.definitionsBefore pod ctr entries) name := by
  have hf (name : Bytes) : tmpEnv[name]? = lastOf (ctr.envFrom.map st.envFromSource) name := by
    have he (name : Bytes) : (∅ : Env)[name]? = lastOf [] name := ExtTreeMap.getElem?_empty
    have hl := getElem?_foldlM_layers (fun _ => st.envFromSource) getElem?_addEnvFrom h he name
    rwa [layersOf_const, List.nil_append] at hl
  exact getElem?_foldlM_layers (st.envSource pod ctr) getElem?_addEnvVar h' hf name

theorem getElem?_resolveEnv (h : st.resolveEnv pod ctr = .ok env) (name : Bytes) :
    env[name]? = lastOf (st.sources pod ctr) name := by
  obtain ⟨tmpEnv₁, h₁, h⟩ := Except.bind_eq_ok_iff.mp h
  obtain ⟨tmpEnv₂, h₂, h⟩ := Except.bind_eq_ok_iff.mp h
  cases h
  rw [getElem?_store_of_iff nodup_toList_fst fun _ => ExtTreeMap.mem_toList_iff_getElem?_eq_some,
    getElem?_definitionsBefore h₁ h₂, getElem?_commonEnv]
  simp only [sources, definitionsBefore, lastOf_append]

-- This succeeds iff no reference that is not optional is missing. Then each name has the value of the last
-- source that defines it.
theorem resolveEnvCached_precedence (st : Stores) (o : Orders) (pod : Kube.Pod) (ctr : Kube.Container) :
    ((∃ e, st.resolveEnvCached o pod ctr = .error e) ↔
      (∃ envFrom ∈ ctr.envFrom, st.EnvFromMissing envFrom) ∨
        ∃ envVar ∈ ctr.env, st.EnvUnresolved pod ctr envVar) ∧
    ∀ env, st.resolveEnvCached o pod ctr = .ok env →
      ∀ name : Bytes, env[name]? = lastOf (st.sources pod ctr) name := by
  simp only [resolveEnvCached_eq]
  exact ⟨resolveEnv_fails_iff, fun _ h => getElem?_resolveEnv h⟩

end Stores
end Aranya.Pod
