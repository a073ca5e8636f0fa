import Aranya.Lib.Execution
import Aranya.Lib.Except
import Aranya.Lib.List
import Aranya.VirtualNode.Theorems.NodeCache

namespace Aranya.VirtualNode

open Std (ExtTreeMap)

variable {Q F : Type} {b : BigFloats F} {c : Cached Q} {n n' : NodeCache Q} {info : Node.ExtInfo}
    {extInfo : List Node.ExtInfo} {ext ext' : Metadata} {target : Node.ExtInfo.Target} {key old : Bytes}

def Metadata.values (m : Metadata) : Node.ExtInfo.Target → Kube.Labels
  | .annotations => m.annotations
  | .labels => m.labels
  | .other _ => ∅

def Cached.previous (c : Cached Q) (target : Node.ExtInfo.Target) (key : Bytes) : Bytes :=
  NodeCache.oldValue (c.ext.values target) (c.node.values target) key

def resolved (b : BigFloats F) (old : Bytes) (info : Node.ExtInfo) : Option Bytes :=
  match (NodeCache.resolveValue b old info).run with
  | .ok (.ok value) => some value
  | _ => none

def lastEntry (target : Node.ExtInfo.Target) (key : Bytes) (extInfo : List Node.ExtInfo) : Option Node.ExtInfo :=
  (extInfo.filter fun info => info.target = target ∧ info.targetKey = key).getLast?

def Accepted (b : BigFloats F) (c : Cached Q) (info : Node.ExtInfo) : Prop :=
  (info.target = .annotations ∨ info.target = .labels) ∧
    ∃ value, resolved b (c.previous info.target info.targetKey) info = some value

theorem resolved_eq_some_iff {value : Bytes} :
    resolved b old info = some value ↔ (NodeCache.resolveValue b old info).run = .ok (.ok value) := by
  simp only [resolved]
  split
  case h_1 h => simp [h]
  case h_2 h => exact iff_of_false (by simp) fun he => h _ he

theorem applyExtInfo_ok (h : (NodeCache.applyExtInfo b c ext info).run = .ok (.ok ext')) :
    (info.target = .annotations ∨ info.target = .labels) ∧
    ∃ value, resolved b (c.previous info.target info.targetKey) info = some value ∧
      ∀ target (key : Bytes), (ext'.values target)[key]? =
        if info.target = target ∧ info.targetKey = key then some value else (ext.values target)[key]? := by
  simp only [NodeCache.applyExtInfo] at h
  split at h
  case h_1 ht =>
    obtain ⟨value, hv, h⟩ := Except.run_bind_eq_ok_iff.mp h
    cases h
    refine ⟨.inl ht, value, by rw [ht]; exact resolved_eq_some_iff.mpr hv, fun target key => ?_⟩
    cases target <;> simp [Metadata.values, ht, ExtTreeMap.getElem?_insert]
  case h_2 ht =>
    obtain ⟨value, hv, h⟩ := Except.run_bind_eq_ok_iff.mp h
    cases h
    refine ⟨.inr ht, value, by rw [ht]; exact resolved_eq_some_iff.mpr hv, fun target key => ?_⟩
    cases target <;> simp [Metadata.values, ht, ExtTreeMap.getElem?_insert]
  case h_3 => cases h

theorem applyExtInfo_accepts_iff (c : Cached Q) (ext : Metadata) (info : Node.ExtInfo) :
    (∃ ext', (NodeCache.applyExtInfo b c ext info).run = .ok (.ok ext')) ↔ Accepted b c info := by
  constructor
  case mp =>
    rintro ⟨ext', h⟩
    obtain ⟨ht, value, hv, -⟩ := applyExtInfo_ok h
    exact ⟨ht, value, hv⟩
  case mpr =>
    rintro ⟨ht | ht, value, hv⟩
    all_goals
      rw [ht] at hv
      simp only [NodeCache.applyExtInfo, ht]
      exact ⟨_, Except.run_bind_eq_ok_iff.mpr ⟨value, resolved_eq_some_iff.mp hv, rfl⟩⟩

theorem lastEntry_append :
    lastEntry target key (extInfo ++ [info]) =
      if info.target = target ∧ info.targetKey = key then some info else lastEntry target key extInfo := by
  rw [lastEntry, List.filter_append, List.filter_cons, List.filter_nil]
  by_cases hk : info.target = target ∧ info.targetKey = key
  case pos => rw [if_pos hk, if_pos (decide_eq_true hk), List.getLast?_concat]
  case neg => rw [if_neg hk, if_neg (by simpa using hk), List.append_nil, lastEntry]

theorem foldlM_applyExtInfo_ok (h : (extInfo.foldlM (NodeCache.applyExtInfo b c) {}).run = .ok (.ok ext)) :
    (∀ info ∈ extInfo, Accepted b c info) ∧
    ∀ target (key : Bytes), (ext.values target)[key]? =
      (lastEntry target key extInfo).bind (resolved b (c.previous target key)) := by
  induction extInfo using List.reverseRecOn generalizing ext
  case nil =>
    cases h
    refine ⟨by simp, fun target key => ?_⟩
    cases target <;> simp [Metadata.values, lastEntry]
  case append_singleton extInfo info hi =>
    rw [List.foldlM_append] at h
    obtain ⟨ext₁, h₁, h⟩ := Except.run_bind_eq_ok_iff.mp h
    rw [List.foldlM_cons] at h
    obtain ⟨ext₂, h₂, h⟩ := Except.run_bind_eq_ok_iff.mp h
    cases h
    obtain ⟨ha, hg⟩ := hi h₁
    obtain ⟨ht, value, hv, hs⟩ := applyExtInfo_ok h₂
    constructor
    case left =>
      intro info' hm
      cases List.mem_append.mp hm
      case inl hm => exact ha info' hm
      case inr hm =>
        cases List.mem_singleton.mp hm
        exact ⟨ht, value, hv⟩
    case right =>
      intro target key
      rw [hs, lastEntry_append]
      by_cases hk : info.target = target ∧ info.targetKey = key
      case pos => rw [if_pos hk, if_pos hk, Option.bind_some, ← hk.left, ← hk.right, hv]
      case neg => rw [if_neg hk, if_neg hk, hg]

theorem mem_ext_values_iff (target : Node.ExtInfo.Target)
    (h : (extInfo.foldlM (NodeCache.applyExtInfo b c) {}).run = .ok (.ok ext)) :
    key ∈ ext.values target ↔ ∃ info ∈ extInfo, info.target = target ∧ info.targetKey = key := by
  obtain ⟨ha, hg⟩ := foldlM_applyExtInfo_ok h
  rw [← ExtTreeMap.isSome_getElem?_iff_mem, hg]
  constructor
  case mp =>
    intro hs
    obtain ⟨value, hv⟩ := Option.isSome_iff_exists.mp hs
    obtain ⟨info, hl, -⟩ := Option.bind_eq_some_iff.mp hv
    obtain ⟨hm, hk⟩ := List.mem_filter.mp (List.mem_of_getLast? hl)
    exact ⟨info, hm, by simpa using hk⟩
  case mpr =>
    rintro ⟨info, hm, hk⟩
    obtain ⟨info', hl⟩ : ∃ info', lastEntry target key extInfo = some info' :=
      getLast?_of_mem (List.mem_filter.mpr ⟨hm, decide_eq_true hk⟩)
    obtain ⟨hm', hk'⟩ := List.mem_filter.mp (List.mem_of_getLast? hl)
    obtain ⟨rfl, rfl⟩ : info'.target = target ∧ info'.targetKey = key := by simpa using hk'
    obtain ⟨-, value, hv⟩ := ha info' hm'
    rw [hl, Option.bind_some, hv]
    rfl

namespace NodeCache

theorem updateExtInfo_cases {e : Option Bytes} (h : (updateExtInfo b extInfo).run n = (.ok e, n')) :
    (e ≠ none ∧ n'.val = n.val) ∨
    (e = none ∧ ∃ ext, (extInfo.foldlM (applyExtInfo b n.val) {}).run = .ok (.ok ext) ∧
      n'.val = { n.val with ext := ext }) := by
  have hr := (doExclusive_eq_ok h).right.right
  simp only [ExceptT.run] at hr
  split at hr
  all_goals obtain ⟨he, hn⟩ := Prod.mk.inj hr
  case h_1 => cases he
  case h_2 => exact .inl ⟨by simp [← Except.ok.inj he], hn.symm⟩
  case h_3 ext h => exact .inr ⟨(Except.ok.inj he).symm, ext, h, hn.symm⟩

-- An update with an error changes nothing. Otherwise the keys are those of the entries, only the metadata
-- of the device changes, and what there is for a key depends on the entries for it and on the value before.
theorem updateExtInfo_atomic (b : BigFloats F) (n n' : NodeCache Q) (extInfo : List Node.ExtInfo) :
    (∀ e, (updateExtInfo b extInfo).run n = (.ok (some e), n') → n'.val = n.val) ∧
    ((updateExtInfo b extInfo).run n = (.ok none, n') →
      (∀ key, key ∈ n'.val.ext.labels ↔ ∃ info ∈ extInfo, info.target = .labels ∧ info.targetKey = key) ∧
      (∀ key, key ∈ n'.val.ext.annotations ↔
        ∃ info ∈ extInfo, info.target = .annotations ∧ info.targetKey = key) ∧
      n'.val.node = n.val.node ∧ n'.val.status = n.val.status) ∧
    ∀ (m m' : NodeCache Q) (extInfo' : List Node.ExtInfo) (target : Node.ExtInfo.Target) (key : Bytes),
      (updateExtInfo b extInfo).run n = (.ok none, n') → (updateExtInfo b extInfo').run m = (.ok none, m') →
      extInfo.filter (fun info => info.target = target ∧ info.targetKey = key) =
        extInfo'.filter (fun info => info.target = target ∧ info.targetKey = key) →
      n.val.previous target key = m.val.previous target key →
      (n'.val.ext.values target)[key]? = (m'.val.ext.values target)[key]? := by
  refine ⟨fun e h => ?failed, fun h => ?updated, fun m m' extInfo' target key h h' hf hp => ?depends⟩
  case failed =>
    obtain ⟨-, hn⟩ | ⟨he, -⟩ := updateExtInfo_cases h
    case inl => exact hn
    case inr => cases he
  case updated =>
    obtain ⟨he, -⟩ | ⟨-, ext, hx, hn⟩ := updateExtInfo_cases h
    case inl => exact absurd rfl he
    case inr =>
      rw [hn]
      exact ⟨fun _ => mem_ext_values_iff .labels hx, fun _ => mem_ext_values_iff .annotations hx, rfl, rfl⟩
  case depends =>
    obtain ⟨he, -⟩ | ⟨-, ext, hx, hn⟩ := updateExtInfo_cases h
    case inl => exact absurd rfl he
    case inr =>
      obtain ⟨he, -⟩ | ⟨-, ext', hx', hm⟩ := updateExtInfo_cases h'
      case inl => exact absurd rfl he
      case inr =>
        rw [hn, hm]
        show (ext.values target)[key]? = (ext'.values target)[key]?
        rw [(foldlM_applyExtInfo_ok hx).right, (foldlM_applyExtInfo_ok hx').right, lastEntry, lastEntry, hf, hp]

end NodeCache

def Opposes (b : BigFloats F) (old : Bytes) (info : Node.ExtInfo) : Prop :=
  info.valueType = .number ∧ ∃ neg new,
    NodeCache.parseOld b old = .ok (.inf neg) ∧ b.parse info.value = .ok new ∧
    ((info.operator = .add ∧ new = .inf !neg) ∨ (info.operator = .minus ∧ b.neg new = .inf !neg))

def Panics (b : BigFloats F) (c : Cached Q) (extInfo : List Node.ExtInfo) : Prop :=
  ∃ pre info post, extInfo = pre ++ info :: post ∧ (∀ info' ∈ pre, Accepted b c info') ∧
    (info.target = .annotations ∨ info.target = .labels) ∧
    Opposes b (c.previous info.target info.targetKey) info

namespace NodeCache

variable {op : Node.ExtInfo.Operator}

theorem operate_panics_iff {oldNum newNum : BigFloat F} :
    (∃ f, (operate b oldNum newNum op).run = .error f) ↔
      ∃ neg, oldNum = .inf neg ∧
        ((op = .add ∧ newNum = .inf !neg) ∨ (op = .minus ∧ b.neg newNum = .inf !neg)) := by
  cases op
  case add => simp [operate, ExceptT.run_mk, Except.map_eq_error_iff, BigFloats.add_panics_iff]
  case minus => simp [operate, ExceptT.run_mk, Except.map_eq_error_iff, BigFloats.add_panics_iff]
  all_goals
    refine iff_of_false (fun h => ?_) (by simp)
    obtain ⟨f, h⟩ := h
    cases h

theorem calculateNumber_panics_iff {v : Bytes} :
    (∃ f, (calculateNumber b old v op).run = .error f) ↔
      ∃ neg new, parseOld b old = .ok (.inf neg) ∧ b.parse v = .ok new ∧
        ((op = .add ∧ new = .inf !neg) ∨ (op = .minus ∧ b.neg new = .inf !neg)) := by
  cases hv : b.parse v
  case error e =>
    have hr : (calculateNumber b old v op).run = .ok (.error e) := by
      simp only [calculateNumber, hv]
      rfl
    simp [hr]
  case ok newNum =>
    cases ho : parseOld b old
    case error e =>
      have hr : (calculateNumber b old v op).run = .ok (.error e) := by
        simp only [calculateNumber, hv, ho]
        rfl
      simp [hr]
    case ok oldNum =>
      have hr : (calculateNumber b old v op).run = (operate b oldNum newNum op).run := by
        simp only [calculateNumber, hv, ho]
        rfl
      simp [hr, operate_panics_iff]

theorem resolveValue_panics_iff : (∃ f, (resolveValue b old info).run = .error f) ↔ Opposes b old info := by
  cases ht : info.valueType
  case number =>
    have hr (f : BigFloat.Fault) : (resolveValue b old info).run = .error f ↔
        (calculateNumber b old info.value info.operator).run = .error f := by
      simp only [resolveValue, ht]
      exact Except.map_eq_error_iff
    simp only [hr, calculateNumber_panics_iff, Opposes, ht, true_and]
  case string | other =>
    refine iff_of_false (fun h => ?_) (by simp [Opposes, ht])
    obtain ⟨f, h⟩ := h
    simp only [resolveValue, ht] at h
    repeat split at h
    all_goals cases h

theorem applyExtInfo_panics_iff (c : Cached Q) (ext : Metadata) (info : Node.ExtInfo) :
    (∃ f, (applyExtInfo b c ext info).run = .error f) ↔
      (info.target = .annotations ∨ info.target = .labels) ∧
        Opposes b (c.previous info.target info.targetKey) info := by
  have hb {old : Bytes} {g : Bytes → ResultM Metadata} (hg : ∀ value f, (g value).run ≠ .error f) :
      (∃ f, (resolveValue b old info >>= g).run = .error f) ↔ Opposes b old info := by
    simp only [Except.run_bind_eq_error_iff, hg, and_false, exists_false, or_false, resolveValue_panics_iff]
  cases ht : info.target
  case annotations =>
    simp only [applyExtInfo, ht, true_or, true_and]
    refine hb ?_
    intro value f h
    cases h
  case labels =>
    simp only [applyExtInfo, ht, or_true, true_and]
    refine hb ?_
    intro value f h
    cases h
  case other k =>
    refine iff_of_false (fun h => ?_) (by simp)
    obtain ⟨f, h⟩ := h
    simp only [applyExtInfo, ht] at h
    cases h

theorem updateExtInfo_proceeds_iff (h : n.working = false) :
    (∃ e n', (updateExtInfo b extInfo).run n = (.ok e, n') ∧ n'.working = false) ↔ ¬Panics b n.val extInfo := by
  rw [updateExtInfo, doExclusive_proceeds_iff h]
  have hp : Panics b n.val extInfo ↔ ∃ f, (extInfo.foldlM (applyExtInfo b n.val) {}).run = .error f :=
    (Except.foldlM_run_eq_error_iff (applyExtInfo_accepts_iff n.val) (applyExtInfo_panics_iff n.val)
      extInfo {}).symm
  rw [hp]
  simp only [ExceptT.run]
  split
  case h_1 f h =>
    refine iff_of_false ?_ (fun hn => hn ⟨f, h⟩)
    rintro ⟨e, c, he⟩
    cases (Prod.mk.inj he).left
  case h_2 e h =>
    refine iff_of_true ⟨some e, n.val, rfl⟩ ?_
    rintro ⟨f, hf⟩
    cases h.symm.trans hf
  case h_3 ext h =>
    refine iff_of_true ⟨none, { n.val with ext := ext }, rfl⟩ ?_
    rintro ⟨f, hf⟩
    cases h.symm.trans hf

def extStep (b : BigFloats F) (n : NodeCache Q) (extInfo : List Node.ExtInfo) : Option (NodeCache Q) :=
  match (updateExtInfo b extInfo).run n with
  | (.ok _, n') => some n'
  | (.error _, _) => none

def Proceeds (b : BigFloats F) (n : NodeCache Q) (calls : List (List Node.ExtInfo)) : Prop :=
  ∀ pre call post n', calls = pre ++ call :: post → Execution (extStep b) n pre n' →
    ∃ e n'', (updateExtInfo b call).run n' = (.ok e, n'') ∧ n''.working = false

theorem extStep_eq_some (h : extStep b n extInfo = some n') :
    ∃ e, (updateExtInfo b extInfo).run n = (.ok e, n') := by
  simp only [extStep] at h
  split at h
  case h_1 e _ hr => exact ⟨e, Option.some.inj h ▸ hr⟩
  case h_2 => cases h

theorem extStep_free (h : extStep b n extInfo = some n') : n'.working = false := by
  obtain ⟨e, hr⟩ := extStep_eq_some h
  exact (doExclusive_eq_ok hr).right.left

-- This is so iff no call adds infinities of opposite sign, in the state in which it is made.
theorem proceeds_iff (b : BigFloats F) (n : NodeCache Q) (calls : List (List Node.ExtInfo))
    (h : n.working = false) :
    Proceeds b n calls ↔ Along (extStep b) (fun n' call => ¬Panics b n'.val call) n calls := by
  induction calls generalizing n
  case nil => simp [Proceeds, Along]
  case cons call calls hi =>
    constructor
    case mp =>
      intro hp
      refine ⟨(updateExtInfo_proceeds_iff h).mp <| hp [] call calls n rfl .refl, fun n' hs => ?_⟩
      refine (hi n' <| extStep_free hs).mp fun pre call' post n'' hc e => ?_
      exact hp (call :: pre) call' post n'' (by rw [hc, List.cons_append]) (e.trans hs)
    case mpr =>
      rintro ⟨hp, ha⟩ pre call' post n' hc e
      cases e
      case refl =>
        cases hc
        exact (updateExtInfo_proceeds_iff h).mpr hp
      case trans n₁ hs e =>
        cases hc
        exact (hi _ <| extStep_free hs).mpr (ha _ hs) _ _ _ _ rfl e

def addToLabel (value : String) : Node.ExtInfo where
  value := str value
  valueType := .number
  operator := .add
  target := .labels
  targetKey := str "k"

theorem proceeds_one_one :
    Proceeds .integers (newNodeCache none none : NodeCache Int) [[addToLabel "1"], [addToLabel "1"]] := by
  refine (proceeds_iff _ _ _ rfl).mpr ?_
  have h₁ : ¬Panics .integers (newNodeCache none none : NodeCache Int).val [addToLabel "1"] :=
    (updateExtInfo_proceeds_iff rfl).mp ⟨_, _, rfl, rfl⟩
  refine .cons h₁ rfl ?_
  refine .cons ((updateExtInfo_proceeds_iff rfl).mp ⟨_, _, rfl, rfl⟩) rfl ?_
  trivial

-- The second call panics, and whoever needs the cache after that waits forever.
theorem not_proceeds_infinities :
    ∃ n₁ n₂ : NodeCache Int,
      (updateExtInfo .integers [addToLabel "+Inf"]).run (newNodeCache none none) = (.ok none, n₁) ∧
      (updateExtInfo .integers [addToLabel "-Inf"]).run (newNodeCache none none) ≠ (.error (.panic .errNaN), n₂) ∧
      (updateExtInfo .integers [addToLabel "-Inf"]).run n₁ = (.error (.panic .errNaN), n₂) ∧
      n₂.working = true ∧ (∀ s, (retrieveStatus s).run n₂ = (.error .spins, n₂)) ∧
      ¬Proceeds .integers (newNodeCache none none : NodeCache Int)
        [[addToLabel "+Inf"], [addToLabel "-Inf"]] := by
  have h₁ : (updateExtInfo .integers [addToLabel "+Inf"]).run (newNodeCache none none : NodeCache Int) =
      (.ok none, _) := rfl
  refine ⟨_, _, h₁, ?_, rfl, rfl, fun s => doExclusive_of_working rfl, fun h => ?_⟩
  case refine_1 =>
    intro h
    cases (congrArg Prod.fst h : Except.ok none = _)
  case refine_2 =>
    obtain ⟨e, n', hr, -⟩ := h [_] _ [] _ rfl (.single rfl)
    cases (congrArg Prod.fst hr : Except.error _ = _)

end NodeCache
end Aranya.VirtualNode
