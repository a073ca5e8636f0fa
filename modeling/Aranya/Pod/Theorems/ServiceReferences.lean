import Aranya.Pod.Samples
import Aranya.Pod.Theorems.ResolveEnv

namespace Aranya.Pod

open Std (ExtTreeMap)

-- What a value consists of: text that stays, and references to variables.
inductive Token
  | text (bytes : Bytes)
  | reference (name : Bytes)
  deriving DecidableEq, Repr

def Token.expanded (mapping : Bytes → Bytes) : Token → Bytes
  | text bytes => bytes
  | reference name => mapping name

def tokens (input : Bytes) : List Token :=
  go input.length input
where
  go : Nat → Bytes → List Token
    | 0, input => [.text input]
    | _ + 1, [] => []
    | _ + 1, [c] => [.text [c]]
    | n + 1, c :: input =>
      if c = operator then
        let (read, isVar, advance) := tryReadVariableName input
        (if isVar then .reference read else .text read) :: go n (input.drop advance)
      else
        .text [c] :: go n input

theorem expand_go_eq {n : Nat} {input : Bytes} {mapping : Bytes → Bytes} :
    expand.go mapping n input = (tokens.go n input).flatMap (Token.expanded mapping) := by
  induction n generalizing input
  case zero => simp [expand.go, tokens.go, Token.expanded]
  case succ n hi =>
    obtain _ | ⟨c, _ | ⟨d, input⟩⟩ := input
    case nil => rfl
    case cons.nil => rfl
    case cons.cons =>
      simp only [expand.go, tokens.go]
      split
      case isTrue =>
        rw [List.flatMap_cons, hi]
        split <;> rfl
      case isFalse =>
        rw [List.flatMap_cons, hi]
        rfl

theorem expand_eq (input : Bytes) (mapping : Bytes → Bytes) :
    expand input mapping = (tokens input).flatMap (Token.expanded mapping) :=
  expand_go_eq

namespace Stores

variable {st : Stores} {o : Orders} {pod : Kube.Pod} {ctr : Kube.Container} {env tmpEnv : Env}
    {before after : List Kube.EnvVar} {envVar : Kube.EnvVar} {pre post : List Token} {name v : Bytes}

def resolvedSoFar (st : Stores) (o : Orders) (pod : Kube.Pod) (ctr : Kube.Container) (entries : List Kube.EnvVar) :
    FetchM Env := do
  let tmpEnv ← ctr.envFrom.foldlM (st.addEnvFromCached o) ∅
  entries.foldlM (st.addEnvVarCached pod ctr) tmpEnv

theorem resolvedSoFar_eq {entries : List Kube.EnvVar} :
    (st.resolvedSoFar o pod ctr entries).run' {} =
      (ctr.envFrom.foldlM st.addEnvFrom ∅ >>= fun tmpEnv => entries.foldlM (st.addEnvVar pod ctr) tmpEnv) := by
  have ha : Agrees st.Coherent (st.resolvedSoFar o pod ctr entries) _ :=
    .bind (.foldlM fun _ _ => addEnvFromCached_agrees) fun _ => .foldlM fun _ _ => addEnvVarCached_agrees
  exact ha.run'_eq ⟨by simp, by simp⟩

def declared (st : Stores) (pod : Kube.Pod) (ctr : Kube.Container) (before : List Kube.EnvVar) (name : Bytes) :
    Bytes :=
  (lastOf (st.definitionsBefore pod ctr before) name).getD (syntaxWrap name)

-- An entry with a reference to a variable that is not defined before it, but for a service.
structure ServiceReference (st : Stores) (pod : Kube.Pod) (ctr : Kube.Container) (before : List Kube.EnvVar)
    (envVar : Kube.EnvVar) (pre : List Token) (name : Bytes) (post : List Token) (v : Bytes) : Prop where
  enabled : pod.enableServiceLinks ≠ some false
  entry : ∃ after, ctr.env = before ++ envVar :: after
  token : tokens envVar.value = pre ++ .reference name :: post
  unknown : lastOf (st.definitionsBefore pod ctr before) name = none
  service : (st.commonEnv pod)[name]? = some v

def Replaced (st : Stores) (o : Orders) (pod : Kube.Pod) (ctr : Kube.Container) (before : List Kube.EnvVar)
    (envVar : Kube.EnvVar) (pre post : List Token) (text : Bytes) : Prop :=
  ∃ tmpEnv, (st.resolvedSoFar o pod ctr (before ++ [envVar])).run' {} = .ok tmpEnv ∧
    tmpEnv[envVar.name]? = some (pre.flatMap (Token.expanded (st.declared pod ctr before)) ++ text ++
      post.flatMap (Token.expanded (st.declared pod ctr before)))

theorem resolvedSoFar_entry (h : st.resolveEnvCached o pod ctr = .ok env) (he : ctr.env = before ++ envVar :: after)
    (hv : envVar.value ≠ []) :
    ∃ tmpEnv, (st.resolvedSoFar o pod ctr (before ++ [envVar])).run' {} = .ok tmpEnv ∧
      tmpEnv[envVar.name]? = some (expand envVar.value (st.declared pod ctr before)) := by
  rw [resolveEnvCached_eq] at h
  obtain ⟨tmpEnv₁, h₁, h⟩ := Except.bind_eq_ok_iff.mp h
  obtain ⟨tmpEnv₂, h₂, h⟩ := Except.bind_eq_ok_iff.mp h
  rw [he, List.foldlM_append] at h₂
  obtain ⟨tmpEnv, h₃, h₄⟩ := Except.bind_eq_ok_iff.mp h₂
  have hm : mappingFuncFor tmpEnv = st.declared pod ctr before := funext fun name => by
    rw [mappingFuncFor, getElem?_definitionsBefore h₁ h₃]
    rfl
  refine ⟨tmpEnv.insert envVar.name (expand envVar.value (mappingFuncFor tmpEnv)), ?_, ?_⟩
  case refine_1 =>
    rw [resolvedSoFar_eq]
    refine Except.bind_eq_ok_iff.mpr ⟨tmpEnv₁, h₁, ?_⟩
    rw [List.foldlM_append]
    refine Except.bind_eq_ok_iff.mpr ⟨tmpEnv, h₃, ?_⟩
    rw [List.foldlM_cons, addEnvVar_of_value hv]
    rfl
  case refine_2 => rw [ExtTreeMap.getElem?_insert_self, hm]

theorem ServiceReference.replaced_iff (hr : st.ServiceReference pod ctr before envVar pre name post v)
    (h : st.resolveEnvCached o pod ctr = .ok env) :
    st.Replaced o pod ctr before envVar pre post v ↔ v = syntaxWrap name := by
  have hv : envVar.value ≠ [] := by
    intro hv
    have hm : Token.reference name ∈ tokens envVar.value := by simp [hr.token]
    rw [hv] at hm
    simp [tokens, tokens.go] at hm
  obtain ⟨after, he⟩ := hr.entry
  obtain ⟨tmpEnv, ht, hn⟩ := resolvedSoFar_entry h he hv
  have hw : st.declared pod ctr before name = syntaxWrap name := by simp [declared, hr.unknown]
  rw [expand_eq, hr.token, List.flatMap_append, List.flatMap_cons, Token.expanded, hw, ← List.append_assoc] at hn
  constructor
  case mp =>
    rintro ⟨tmpEnv', ht', hn'⟩
    cases ht.symm.trans ht'
    have hs := Option.some.inj <| hn.symm.trans hn'
    exact (List.append_cancel_left <| List.append_cancel_right hs).symm
  case mpr =>
    rintro rfl
    exact ⟨tmpEnv, ht, hn⟩

-- References to service variables are replaced iff the values of these are the references.
theorem serviceReferences_replaced_iff (st : Stores) (o : Orders) (pod : Kube.Pod) (ctr : Kube.Container)
    (env : Env) (h : st.resolveEnvCached o pod ctr = .ok env) :
    (∀ before envVar pre name post v, st.ServiceReference pod ctr before envVar pre name post v →
      st.Replaced o pod ctr before envVar pre post v) ↔
    ∀ before envVar pre name post v, st.ServiceReference pod ctr before envVar pre name post v →
      v = syntaxWrap name := by
  constructor
  case mp =>
    intro hr before envVar pre name post v hs
    exact (hs.replaced_iff h).mp <| hr before envVar pre name post v hs
  case mpr =>
    intro hv before envVar pre name post v hs
    exact (hs.replaced_iff h).mpr <| hv before envVar pre name post v hs

def sortedOrders : Orders where
  entries _ m := m.toList
  perm _ _ := .refl _

def linkedStores (host : Bytes) : Stores :=
  { Stores.empty with serviceEnv := [(str "DB_SERVICE_HOST", host)] }

def dbVariable : Kube.EnvVar where
  name := str "DB"
  value := str "$(DB_SERVICE_HOST)"

def linkedContainer : Kube.Container where
  name := str "main"
  image := str "main"
  env := [dbVariable]

def linkedPod : Kube.Pod where
  containers := [linkedContainer]

theorem serviceReference_db (host : Bytes) :
    (linkedStores host).ServiceReference linkedPod linkedContainer [] dbVariable [] (str "DB_SERVICE_HOST") []
      host where
  enabled := by decide
  entry := ⟨[], rfl⟩
  token := by decide
  unknown := rfl
  service := getElem?_store_of_mem (m := ∅) (l := [(_, host)]) (List.nodup_singleton _) List.mem_cons_self

theorem serviceReferences_replaced_self :
    ∃ env, (linkedStores (syntaxWrap (str "DB_SERVICE_HOST"))).resolveEnvCached sortedOrders linkedPod
        linkedContainer = .ok env ∧
      (linkedStores (syntaxWrap (str "DB_SERVICE_HOST"))).Replaced sortedOrders linkedPod linkedContainer []
        dbVariable [] [] (syntaxWrap (str "DB_SERVICE_HOST")) := by
  obtain ⟨env, h⟩ : ∃ env, (linkedStores (syntaxWrap (str "DB_SERVICE_HOST"))).resolveEnvCached sortedOrders
      linkedPod linkedContainer = .ok env := ⟨_, rfl⟩
  refine ⟨env, h, (serviceReferences_replaced_iff _ _ _ _ _ h).mpr ?_ _ _ _ _ _ _ (serviceReference_db _)⟩
  intro before envVar pre name post v hr
  have hm : (name, v) ∈ [(str "DB_SERVICE_HOST", syntaxWrap (str "DB_SERVICE_HOST"))] :=
    mem_of_getElem?_store hr.service
  cases List.mem_singleton.mp hm
  rfl

-- An address as services have them does not replace the reference.
theorem not_serviceReferences_replaced_db :
    ∃ env, (linkedStores (str "10.0.0.1")).resolveEnvCached sortedOrders linkedPod linkedContainer = .ok env ∧
      env[str "DB"]? = some (str "$(DB_SERVICE_HOST)") ∧
      (linkedStores (str "10.0.0.1")).ServiceReference linkedPod linkedContainer [] dbVariable []
        (str "DB_SERVICE_HOST") [] (str "10.0.0.1") ∧
      ¬(linkedStores (str "10.0.0.1")).Replaced sortedOrders linkedPod linkedContainer [] dbVariable [] []
        (str "10.0.0.1") := by
  obtain ⟨env, h, hd⟩ : ∃ env, (linkedStores (str "10.0.0.1")).resolveEnvCached sortedOrders linkedPod
      linkedContainer = .ok env ∧ env[str "DB"]? = some (str "$(DB_SERVICE_HOST)") := ⟨_, rfl, by decide⟩
  refine ⟨env, h, hd, serviceReference_db _, fun hr => ?_⟩
  have he := ((serviceReference_db _).replaced_iff h).mp hr
  revert he
  decide

end Stores
end Aranya.Pod
