import Aranya.Controller.FieldHooks
import Aranya.Lib.Except
import Aranya.Lib.List
import Aranya.Lib.TreeMap

namespace Aranya.EdgeDevice

open Std (ExtTreeMap)

variable {Q : Type} {e : Engine Q} {o : Nat → Visits} {ext : Kube.Labels × Kube.Labels}
    {node data : Kube.StatusNode Q} {u : Option (Kube.StatusNode Q)} {hooks : List FieldHook}
    {cs cs' : List FieldValue} {c : FieldValue} {f : MetaField} {m : Kube.Labels} {h : FieldHook}
    {pre post : List FieldHook} {k v : Bytes}

def FieldHook.applicable (e : Engine Q) (data : Kube.StatusNode Q) (h : FieldHook) : Bool :=
  (h.result e data).any fun r => h.value ≠ [] || h.valueExpression = [] || (e.jq h.valueExpression r).isOk

def wanted (e : Engine Q) (data : Kube.StatusNode Q) (hooks : List FieldHook) : List FieldValue :=
  (hooks.filter (·.applicable e data)).filterMap (·.change e data)

def written (e : Engine Q) (node data : Kube.StatusNode Q) (hooks : List FieldHook) : List FieldValue :=
  (hooks.filterMap (·.change e data)).filter (differs node)

def entriesOf (f : MetaField) (cs : List FieldValue) : List (Bytes × Bytes) :=
  (cs.filter (·.field = f)).map fun c => (c.key, c.value)

def lastValue (f : MetaField) (cs : List FieldValue) (k : Bytes) : Option Bytes :=
  ((entriesOf f cs).filter (·.fst = k)).getLast?.map Prod.snd

def MetaField.entries (node : Kube.StatusNode Q) (f : MetaField) : Kube.Labels :=
  (f.get node).getD ∅

def original (node : Kube.StatusNode Q) (f : MetaField) (k : Bytes) : Bytes :=
  (f.entries node).getD k []

namespace FieldHook

def Sets (e : Engine Q) (data : Kube.StatusNode Q) (f : MetaField) (k v : Bytes) (h : FieldHook) : Prop :=
  h.applicable e data ∧ h.change e data = some ⟨f, k, v⟩

-- The value expression fails, which gives the empty value.
def Fails (e : Engine Q) (data : Kube.StatusNode Q) (f : MetaField) (k : Bytes) (h : FieldHook) : Prop :=
  ¬h.applicable e data ∧ h.change e data = some ⟨f, k, []⟩

end FieldHook

-- Either the last hook that applies wants another value than the one which the node has, and no expression
-- fails after it, or all hooks for the key want the value which is there. An empty value is like none.
structure LastWins (e : Engine Q) (node data : Kube.StatusNode Q) (hooks : List FieldHook) (f : MetaField)
    (k : Bytes) : Prop where
  applied : ∀ pre h post v, hooks = pre ++ h :: post → h.Sets e data f k v →
    (∀ h' ∈ post, ∀ v', ¬h'.Sets e data f k v') →
    if v = original node f k then
      (f.entries data)[k]? = some v ∧ ∀ h' ∈ hooks, ∀ v', h'.change e data = some ⟨f, k, v'⟩ → v' = v
    else
      v = [] ∨ original node f k = [] ∨ ∀ h' ∈ post, ¬h'.Fails e data f k
  unapplied : (∀ h ∈ hooks, ∀ v, ¬h.Sets e data f k v) →
    (f.entries data)[k]? = some [] ∨ original node f k = [] ∨ ∀ h ∈ hooks, ¬h.Fails e data f k

-- The values of the hooks that apply are stored one after the other, over the metadata of the device.
def Sequential (e : Engine Q) (o : Nat → Visits) (hooks : List FieldHook) (ext : Kube.Labels × Kube.Labels)
    (node : Kube.StatusNode Q) : Prop :=
  let latest := (applyExtInfo o ext node).getD node
  ∃ u, evalNodeFiledHooksAndUpdateNode e o (some hooks) ext node = .ok u ∧
    ∀ f : MetaField, f.entries (u.getD node) = store (f.entries latest) (entriesOf f (wanted e latest hooks))

theorem store_entriesOf : store m (entriesOf f (c :: cs)) =
    store (if c.field = f then m.insert c.key c.value else m) (entriesOf f cs) := by
  rw [entriesOf, List.filter_cons]
  by_cases hf : c.field = f
  case pos => simp [hf, store, entriesOf]
  case neg => simp [hf, entriesOf]

theorem get_set {g : MetaField} : f.get (g.set node m) = if g = f then some m else f.get node := by
  cases f <;> cases g <;> rfl

theorem foldlM_evalHook : hooks.foldlM (evalHook e node data) u =
    (written e node data hooks).foldlM (fun u c => (assign (u.getD node) c).map some) u := by
  induction hooks generalizing u
  case nil => rfl
  case cons h hooks hi =>
    rw [List.foldlM_cons, evalHook, written, List.filterMap_cons]
    cases h.change e data
    case none => exact hi
    case some c =>
      simp only [List.filter_cons]
      split
      case isTrue => exact bind_congr fun _ => hi
      case isFalse => exact hi

theorem foldlM_assign_iff {P : MetaField → Kube.Labels → Prop} :
    (∃ u', cs.foldlM (fun u c => (assign (u.getD node) c).map some) u = .ok u' ∧
      ∀ f, P f (f.entries (u'.getD node))) ↔
    (∀ c ∈ cs, (c.field.get (u.getD node)).isSome) ∧
    ∀ f, P f (store (f.entries (u.getD node)) (entriesOf f cs)) := by
  induction cs generalizing u
  case nil =>
    constructor
    case mp =>
      rintro ⟨_, ⟨⟩, hf⟩
      exact ⟨by simp, hf⟩
    case mpr => exact fun h => ⟨u, rfl, h.right⟩
  case cons c cs hi =>
    rw [List.foldlM_cons, assign]
    cases hm : c.field.get (u.getD node)
    case none =>
      refine iff_of_false ?_ fun h => by simpa [hm] using h.left c List.mem_cons_self
      rintro ⟨_, ⟨⟩, _⟩
    case some m =>
      refine hi.trans (and_congr ?_ (forall_congr' fun f => ?_))
      case refine_1 =>
        rw [List.forall_mem_cons, and_iff_right (by simp [hm])]
        refine forall₂_congr fun d _ => ?_
        rw [Option.getD_some, get_set]
        split
        case isTrue hf => simp [← hf, hm]
        case isFalse => rfl
      case refine_2 =>
        rw [store_entriesOf, Option.getD_some, MetaField.entries, get_set]
        split
        case isTrue hf => simp [MetaField.entries, ← hf, hm]
        case isFalse hf => rfl

theorem sequential_iff_written (hn : hooks ≠ []) :
    let latest := (applyExtInfo o ext node).getD node
    Sequential e o hooks ext node ↔
      (∀ c ∈ written e node latest hooks, (c.field.get latest).isSome) ∧
      ∀ f : MetaField, store (f.entries latest) (entriesOf f (written e node latest hooks)) =
        store (f.entries latest) (entriesOf f (wanted e latest hooks)) := by
  intro latest
  rw [← foldlM_assign_iff (u := applyExtInfo o ext node) (P := fun f m => m = store (f.entries latest) _),
    ← foldlM_evalHook]
  cases hooks
  case nil => exact absurd rfl hn
  case cons => rfl

theorem store_eq_store_iff :
    store m (entriesOf f cs) = store m (entriesOf f cs') ↔
      ∀ k : Bytes, (lastValue f cs k).or m[k]? = (lastValue f cs' k).or m[k]? := by
  constructor
  case mp =>
    intro h k
    rw [lastValue, lastValue, ← getElem?_store, ← getElem?_store, h]
  case mpr =>
    intro h
    refine ExtTreeMap.ext_getElem? fun {k} => ?_
    rw [getElem?_store, getElem?_store]
    exact h k

theorem lastValue_append : lastValue f (cs ++ cs') k = (lastValue f cs' k).or (lastValue f cs k) := by
  simp [lastValue, entriesOf, List.filter_append, Option.map_or]

theorem mem_entriesOf : (k, v) ∈ entriesOf f cs ↔ ⟨f, k, v⟩ ∈ cs := by
  simp only [entriesOf, List.mem_map, List.mem_filter, decide_eq_true_iff, Prod.mk.injEq]
  constructor
  case mp =>
    rintro ⟨c, ⟨hc, rfl⟩, rfl, rfl⟩
    exact hc
  case mpr => exact fun hc => ⟨_, ⟨hc, rfl⟩, rfl, rfl⟩

theorem mem_of_lastValue (h : lastValue f cs k = some v) : ⟨f, k, v⟩ ∈ cs := by
  obtain ⟨e, he, rfl⟩ := Option.map_eq_some_iff.mp h
  obtain ⟨hm, hk⟩ := List.mem_filter.mp (List.mem_of_getLast? he)
  exact mem_entriesOf.mp (of_decide_eq_true hk ▸ hm)

theorem lastValue_ne_none (h : ⟨f, k, v⟩ ∈ cs) : lastValue f cs k ≠ none := by
  have hm : (k, v) ∈ (entriesOf f cs).filter (·.fst = k) :=
    List.mem_filter.mpr ⟨mem_entriesOf.mpr h, decide_eq_true rfl⟩
  rw [lastValue, ne_eq, Option.map_eq_none_iff, List.getLast?_eq_none_iff]
  exact List.ne_nil_of_mem hm

theorem lastValue_eq_none (h : ∀ v, ⟨f, k, v⟩ ∉ cs) : lastValue f cs k = none :=
  Option.eq_none_iff_forall_ne_some.mpr fun v hv => h v (mem_of_lastValue hv)

theorem lastValue_eq_some (hm : ⟨f, k, v⟩ ∈ cs) (h : ∀ v', ⟨f, k, v'⟩ ∈ cs → v' = v) :
    lastValue f cs k = some v := by
  obtain ⟨v', hv⟩ := Option.ne_none_iff_exists'.mp (lastValue_ne_none hm)
  rw [hv, h v' (mem_of_lastValue hv)]

theorem mem_wanted : ⟨f, k, v⟩ ∈ wanted e data hooks ↔ ∃ h ∈ hooks, h.Sets e data f k v := by
  simp [wanted, FieldHook.Sets, and_assoc]

theorem mem_written : c ∈ written e node data hooks ↔
    ∃ h ∈ hooks, h.change e data = some c ∧ original node c.field c.key ≠ c.value := by
  simp [written, differs, original, MetaField.entries, ← exists_and_right, and_assoc]

theorem value_of_not_applicable (hc : h.change e data = some c) (ha : ¬h.applicable e data) : c.value = [] := by
  simp only [FieldHook.change, Option.bind_eq_bind, Option.bind_eq_some_iff, Option.pure_def] at hc
  obtain ⟨r, hr, ⟨f, k⟩, -, hc⟩ := hc
  cases hc
  simp only [FieldHook.applicable, hr, Option.any_some, Bool.or_eq_true, decide_eq_true_iff, not_or] at ha
  obtain ⟨⟨hv, hx⟩, hj⟩ := ha
  cases he : e.jq h.valueExpression r
  case ok => simp [he, Except.isOk, Except.toBool] at hj
  case error => simp [FieldHook.targetValue, hv, hx, he, Except.toOption]

theorem mem_written_of_unset (hs : ∀ h ∈ hooks, ∀ v, ¬h.Sets e data f k v) :
    ⟨f, k, v⟩ ∈ written e node data hooks ↔
    v = [] ∧ original node f k ≠ [] ∧ ∃ h ∈ hooks, h.Fails e data f k := by
  rw [mem_written]
  constructor
  case mp =>
    rintro ⟨h, hm, hc, hv⟩
    have ha : ¬h.applicable e data := fun ha => hs h hm v ⟨ha, hc⟩
    obtain rfl : v = [] := value_of_not_applicable hc ha
    exact ⟨rfl, hv, h, hm, ha, hc⟩
  case mpr =>
    rintro ⟨rfl, hv, h, hm, hf⟩
    exact ⟨h, hm, hf.right, hv⟩

variable (node) in
theorem lastValue_of_unset (hs : ∀ h ∈ hooks, ∀ v, ¬h.Sets e data f k v) :
    lastValue f (wanted e data hooks) k = none ∧
    (original node f k = [] ∨ (∀ h ∈ hooks, ¬h.Fails e data f k) →
      lastValue f (written e node data hooks) k = none) ∧
    (original node f k ≠ [] → (∃ h ∈ hooks, h.Fails e data f k) →
      lastValue f (written e node data hooks) k = some []) := by
  refine ⟨?_, ?_, ?_⟩
  case refine_1 =>
    refine lastValue_eq_none fun v hv => ?_
    obtain ⟨h, hm, hv⟩ := mem_wanted.mp hv
    exact hs h hm v hv
  case refine_2 =>
    refine fun hn => lastValue_eq_none fun v hv => ?_
    obtain ⟨-, ho, h, hm, hf⟩ := (mem_written_of_unset hs).mp hv
    exact hn.elim ho fun hn => hn h hm hf
  case refine_3 =>
    refine fun ho hf => lastValue_eq_some ((mem_written_of_unset hs).mpr ⟨rfl, ho, hf⟩) fun v hv => ?_
    exact ((mem_written_of_unset hs).mp hv).left

theorem unapplied_iff (hs : ∀ h ∈ hooks, ∀ v, ¬h.Sets e data f k v) :
    (lastValue f (written e node data hooks) k).or (f.entries data)[k]? =
      (lastValue f (wanted e data hooks) k).or (f.entries data)[k]? ↔
    (f.entries data)[k]? = some [] ∨ original node f k = [] ∨ ∀ h ∈ hooks, ¬h.Fails e data f k := by
  obtain ⟨hw, h₁, h₂⟩ := lastValue_of_unset node hs
  by_cases hn : original node f k = [] ∨ ∀ h ∈ hooks, ¬h.Fails e data f k
  case pos => simp [hw, h₁ hn, hn]
  case neg =>
    obtain ⟨ho, hf⟩ := not_or.mp hn
    rw [hw, h₂ ho (by simpa using hf), Option.none_or, Option.some_or, or_iff_left hn]
    exact eq_comm

theorem applied_iff (hh : hooks = pre ++ h :: post) (hv : h.Sets e data f k v)
    (hs : ∀ h ∈ post, ∀ v, ¬h.Sets e data f k v) :
    (lastValue f (written e node data hooks) k).or (f.entries data)[k]? =
      (lastValue f (wanted e data hooks) k).or (f.entries data)[k]? ↔
    if v = original node f k then
      (f.entries data)[k]? = some v ∧ ∀ h' ∈ hooks, ∀ v', h'.change e data = some ⟨f, k, v'⟩ → v' = v
    else
      v = [] ∨ original node f k = [] ∨ ∀ h' ∈ post, ¬h'.Fails e data f k := by
  have hw : lastValue f (wanted e data hooks) k = some v := by
    have he : wanted e data hooks = (wanted e data pre ++ [⟨f, k, v⟩]) ++ wanted e data post := by
      simp [hh, wanted, hv.left, hv.right]
    rw [he, lastValue_append, (lastValue_of_unset node hs).left, lastValue_append,
      lastValue_eq_some (List.mem_singleton_self _) (by simp), Option.none_or, Option.some_or]
  rw [hw, Option.some_or]
  split
  case isTrue ho =>
    -- This value is not written, so none may be.
    by_cases hn : ∀ h' ∈ hooks, ∀ v', h'.change e data = some ⟨f, k, v'⟩ → v' = v
    case pos =>
      rw [and_iff_left hn, lastValue_eq_none, Option.none_or]
      intro v' hm
      obtain ⟨h', hm, hc, hd⟩ := mem_written.mp hm
      exact hd (ho ▸ (hn h' hm v' hc).symm)
    case neg =>
      refine iff_of_false (fun he => ?_) fun h => hn h.right
      simp only [not_forall] at hn
      obtain ⟨h', hm, v', hc, hd⟩ := hn
      obtain ⟨w, hw⟩ := Option.ne_none_iff_exists'.mp <|
        lastValue_ne_none (mem_written.mpr ⟨h', hm, hc, fun hd' => hd (hd'.symm.trans ho.symm)⟩)
      rw [hw, Option.some_or] at he
      cases he
      obtain ⟨-, -, -, hd⟩ := mem_written.mp (mem_of_lastValue hw)
      exact hd ho.symm
  case isFalse ho =>
    have he : written e node data hooks =
        (written e node data pre ++ [⟨f, k, v⟩]) ++ written e node data post := by
      have hd : differs node ⟨f, k, v⟩ = true := decide_eq_true (Ne.symm ho)
      simp [hh, written, hv.right, hd]
    have hl : lastValue f (written e node data pre ++ [⟨f, k, v⟩]) k = some v := by
      rw [lastValue_append, lastValue_eq_some (List.mem_singleton_self _) (by simp), Option.some_or]
    obtain ⟨-, h₁, h₂⟩ := lastValue_of_unset node hs
    rw [he, lastValue_append, hl]
    by_cases hn : original node f k = [] ∨ ∀ h' ∈ post, ¬h'.Fails e data f k
    case pos => simp [h₁ hn, hn]
    case neg =>
      obtain ⟨ho, hf⟩ := not_or.mp hn
      rw [h₂ ho (by simpa using hf), Option.some_or, Option.some_or, or_iff_left hn, Option.some.injEq]
      exact eq_comm

theorem lastWins_iff : (lastValue f (written e node data hooks) k).or (f.entries data)[k]? =
    (lastValue f (wanted e data hooks) k).or (f.entries data)[k]? ↔ LastWins e node data hooks f k := by
  constructor
  case mp =>
    intro he
    exact ⟨fun pre h post v hh hv hs => (applied_iff hh hv hs).mp he, fun hs => (unapplied_iff hs).mp he⟩
  case mpr =>
    intro hl
    by_cases hs : ∃ h ∈ hooks, ∃ v, h.Sets e data f k v
    case pos =>
      obtain ⟨pre, h, post, hh, ⟨v, hv⟩, hs⟩ := exists_last_of_mem hs
      have hs : ∀ h ∈ post, ∀ v, ¬h.Sets e data f k v := fun h hm v hv => hs h hm ⟨v, hv⟩
      exact (applied_iff hh hv hs).mpr (hl.applied pre h post v hh hv hs)
    case neg =>
      have hs : ∀ h ∈ hooks, ∀ v, ¬h.Sets e data f k v := fun h hm v hv => hs ⟨h, hm, v, hv⟩
      exact (unapplied_iff hs).mpr (hl.unapplied hs)

-- This fails if there are no hooks while metadata is missing, a hook writes to a `nil` map, or the last
-- hook which applies does not win for some key.
theorem fieldHooks_sequential_iff (e : Engine Q) (o : Nat → Visits) (hooks : List FieldHook)
    (ext : Kube.Labels × Kube.Labels) (node : Kube.StatusNode Q) :
    let latest := (applyExtInfo o ext node).getD node
    Sequential e o hooks ext node ↔
      (hooks = [] → ∀ f : MetaField, f.entries node = f.entries latest) ∧
      (∀ h ∈ hooks, ∀ c, h.change e latest = some c → original node c.field c.key ≠ c.value →
        (c.field.get latest).isSome) ∧
      ∀ (f : MetaField) (k : Bytes), LastWins e node latest hooks f k := by
  intro latest
  simp only [← lastWins_iff]
  by_cases hn : hooks = []
  case pos =>
    subst hn
    constructor
    case mp =>
      rintro ⟨_, ⟨⟩, hf⟩
      exact ⟨fun _ => hf, by simp, fun f k => rfl⟩
    case mpr =>
      intro h
      exact ⟨none, rfl, h.left rfl⟩
  case neg =>
    have hw : (∀ h ∈ hooks, ∀ c, h.change e latest = some c → original node c.field c.key ≠ c.value →
        (c.field.get latest).isSome) ↔
        ∀ c ∈ written e node latest hooks, (c.field.get latest).isSome := by
      simp only [mem_written]
      exact ⟨fun h c ⟨h', hm, hc, hd⟩ => h h' hm c hc hd, fun h h' hm c hc hd => h c ⟨h', hm, hc, hd⟩⟩
    simp only [hn, false_implies, true_and, ← store_eq_store_iff, hw]
    exact sequential_iff_written hn

def always : Engine Q where
  runQuery _ _ := .ok (some [])
  jq _ _ := .ok []

def setLabel (value : Bytes) : FieldHook where
  query := str "."
  targetFieldPath := str "metadata.labels['key']"
  value := value
  valueExpression := []

def labelled (value : Bytes) : Kube.StatusNode Q where
  labels := some ((∅ : Kube.Labels).insert (str "key") value)
  annotations := none
  status := {}

theorem change_setLabel {b : UInt8} : (setLabel [b]).change always data = some ⟨.labels, str "key", [b]⟩ := by
  have ht : (setLabel []).target = some (.labels, str "key") := by decide
  rw [FieldHook.change, show (setLabel [b]).target = _ from ht]
  rfl

-- The second hook sets the value which the node had before the first one, and is skipped.
theorem not_sequential_back :
    ¬Sequential (always : Engine Int) (fun _ => Visits.sorted) [setLabel [2], setLabel [1]] (∅, ∅)
      (labelled [1]) := by
  intro h
  have hs := store_eq_store_iff.mp ((sequential_iff_written (by simp)).mp h |>.right .labels) (str "key")
  have hd (b : UInt8) : differs (labelled [1] : Kube.StatusNode Int) ⟨.labels, str "key", [b]⟩ = (1 ≠ b) := by
    simp [differs, labelled, MetaField.get]
  have ha (data : Kube.StatusNode Int) (v : Bytes) : (setLabel v).applicable always data := by
    simp [FieldHook.applicable, FieldHook.result, always, setLabel]
  simp [written, wanted, change_setLabel, lastValue, entriesOf, hd, ha] at hs

end Aranya.EdgeDevice
