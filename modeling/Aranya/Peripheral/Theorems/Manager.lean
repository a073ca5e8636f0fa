import Aranya.Lib.Execution
import Aranya.Peripheral.Manager

namespace Aranya.Peripheral

open Std (ExtTreeMap)

namespace Cmds

variable {c c' : Cmds} {d e : PeripheralEnsureCmd} {name : Bytes}

theorem ext (h : c.map = c'.map) : c = c' := by
  cases c
  cases c'
  congr

theorem getElem?_set : (c.set d).map[name]? = if d.name = name then some d else c.map[name]? := by
  simp [set, ExtTreeMap.getElem?_insert]

theorem set_set : (c.set d).set d = c.set d := by
  refine ext <| ExtTreeMap.ext_getElem? fun name => ?_
  simp only [getElem?_set]
  split <;> rfl

theorem getElem?_of_isEmpty (h : c.map.isEmpty) : c.map[name]? = none := by
  simp [ExtTreeMap.isEmpty_iff.mp h]

theorem mem_cmds : d ∈ c.cmds ↔ c.map[d.name]? = some d := by
  simp only [cmds, List.mem_map, Prod.exists, exists_eq_right, ExtTreeMap.mem_toList_iff_getElem?_eq_some]
  constructor
  case mp =>
    rintro ⟨name, h⟩
    cases c.named h
    exact h
  case mpr => exact fun h => ⟨_, h⟩

def Sub (c c' : Cmds) : Prop :=
  ∀ {name : Bytes} {d : PeripheralEnsureCmd}, c.map[name]? = some d → c'.map[name]? = some d

theorem Sub.empty : Sub .empty c := by
  simp [Sub, Cmds.empty]

theorem Sub.set_iff (h : c.Sub c') (hd : c'.map[d.name]? = some d) :
    (c.set d).map[name]? = some e ↔ c.map[name]? = some e ∨ d.name = name ∧ d = e := by
  rw [getElem?_set]
  split
  case isFalse hn => simp [hn]
  case isTrue hn =>
    subst hn
    simp only [Option.some.injEq, true_and, iff_or_self]
    exact fun he => Option.some.inj <| hd.symm.trans (h he)

end Cmds

section Ensure

variable {failed next next' : Cmds} {d e : PeripheralEnsureCmd} {devs : List PeripheralEnsureCmd} {msg : Msg}
    {msgs : List Msg} {a : Answer} {answers : PeripheralEnsureCmd → Answer} {name : Bytes}

def Confirms (msg : Msg) : Prop :=
  ∃ status, msg.getPeripheralStatus = some status ∧ status.state = .connected

theorem Confirms.getError (h : Confirms msg) : msg.getError = none := by
  obtain ⟨status, hs, -⟩ := h
  simp only [Msg.getPeripheralStatus] at hs
  split at hs
  case isTrue hk => simp [Msg.getError, hk]
  case isFalse => cases hs

theorem onEnsureMsg_of_confirms (h : Confirms msg) : onEnsureMsg failed d next msg = (next, false) := by
  obtain ⟨status, hs, hc⟩ := h
  have he := Confirms.getError ⟨status, hs, hc⟩
  simp only [onEnsureMsg, he, hs, hc, if_true]

theorem onEnsureMsg_of_not_confirms (hd : failed.map[d.name]? = some d) (h : ¬Confirms msg) :
    (onEnsureMsg failed d next msg).fst = next.set d := by
  have hr : retry failed next d = next.set d := by simp only [retry, hd]
  simp only [onEnsureMsg]
  split
  case h_1 => exact hr
  case h_2 =>
    split
    case h_1 => exact hr
    case h_2 status hs => rw [if_neg fun hc => h ⟨status, hs, hc⟩, hr]

theorem handleMessages_of_confirms (h : ∀ msg ∈ msgs, Confirms msg) :
    handleMessages (onEnsureMsg failed d) next msgs = next := by
  rw [handleMessages_eq]
  induction msgs
  case nil => rfl
  case cons msg msgs hi =>
    obtain ⟨hm, h⟩ := List.forall_mem_cons.mp h
    rw [loop_of_continue (onEnsureMsg_of_confirms hm)]
    exact hi h

theorem onEnsureMsg_set (hd : failed.map[d.name]? = some d) :
    (onEnsureMsg failed d (next.set d) msg).fst = next.set d := by
  by_cases h : Confirms msg
  case pos => rw [onEnsureMsg_of_confirms h]
  case neg => rw [onEnsureMsg_of_not_confirms hd h, Cmds.set_set]

theorem handleMessages_of_not_confirms (hd : failed.map[d.name]? = some d) (h : ∃ msg ∈ msgs, ¬Confirms msg) :
    handleMessages (onEnsureMsg failed d) next msgs = next.set d := by
  rw [handleMessages_eq]
  induction msgs
  case nil => simp at h
  case cons msg msgs hi =>
    by_cases hm : Confirms msg
    case pos =>
      rw [loop_of_continue (onEnsureMsg_of_confirms hm)]
      exact hi (by simpa [hm] using h)
    case neg =>
      have hs : (onEnsureMsg failed d next msg).fst = next.set d := onEnsureMsg_of_not_confirms hd hm
      cases hb : onEnsureMsg failed d next msg
      case mk t exit =>
        obtain rfl : t = next.set d := by rw [← hs, hb]
        cases exit
        case true => rw [loop_of_exit hb]
        case false =>
          rw [loop_of_continue hb]
          exact loop_preserves (I := (· = next.set d)) rfl fun ht => ht ▸ onEnsureMsg_set hd

def Answer.Keeps (a : Answer) : Prop :=
  a.err.isSome ∨ ∃ msg ∈ a.msgs, ¬Confirms msg

theorem ensurePeripheral_eq_none (failed next : Cmds) :
    ensurePeripheral failed answers next d = none ↔ (answers d).closes = false := by
  simp [ensurePeripheral]

theorem ensurePeripheral_of_keeps (hd : failed.map[d.name]? = some d) (h : (answers d).Keeps)
    (hc : (answers d).closes = true) : ensurePeripheral failed answers next d = some (next.set d) := by
  have hr : retry failed next d = next.set d := by simp only [retry, hd]
  simp only [ensurePeripheral, hc, if_true, hr, Option.some.injEq]
  by_cases hm : ∀ msg ∈ (answers d).msgs, Confirms msg
  case pos =>
    have he : (answers d).err.isSome := h.resolve_right (by simpa using hm)
    rw [handleMessages_of_confirms hm, if_pos he]
  case neg =>
    rw [handleMessages_of_not_confirms hd (by simpa using hm)]
    split
    case isTrue => exact Cmds.set_set
    case isFalse => rfl

theorem ensurePeripheral_of_not_keeps (h : ¬(answers d).Keeps) (hc : (answers d).closes = true) :
    ensurePeripheral failed answers next d = some next := by
  obtain ⟨he, hm⟩ := not_or.mp h
  simp only [ensurePeripheral, hc, if_true, if_neg he, Option.some.injEq]
  exact handleMessages_of_confirms (by simpa using hm)

theorem ensurePeripheral_spec (hd : failed.map[d.name]? = some d) (hn : next.Sub failed)
    (h : ensurePeripheral failed answers next d = some next') :
    next'.map[name]? = some e ↔ next.map[name]? = some e ∨ d.name = name ∧ d = e ∧ (answers d).Keeps := by
  have hc : (answers d).closes = true := by
    by_contra hc
    simp [(ensurePeripheral_eq_none failed next).mpr (Bool.not_eq_true _ ▸ hc)] at h
  by_cases hk : (answers d).Keeps
  case pos =>
    cases (ensurePeripheral_of_keeps hd hk hc).symm.trans h
    simp only [hn.set_iff hd, hk, and_true]
  case neg =>
    cases (ensurePeripheral_of_not_keeps hk hc).symm.trans h
    simp only [hk, and_false, or_false]

theorem foldlM_eq_none : devs.foldlM (ensurePeripheral failed answers) next = none ↔
    ∃ d ∈ devs, (answers d).closes = false := by
  induction devs generalizing next
  case nil => simp
  case cons d devs hi =>
    rw [List.foldlM_cons, List.exists_mem_cons_iff, ← ensurePeripheral_eq_none failed next]
    cases hd : ensurePeripheral failed answers next d
    case none => simp
    case some next' => simpa using hi

theorem foldlM_spec (hd : ∀ d ∈ devs, failed.map[d.name]? = some d) (hn : next.Sub failed)
    (h : devs.foldlM (ensurePeripheral failed answers) next = some next') :
    next'.map[name]? = some e ↔
    next.map[name]? = some e ∨ ∃ d ∈ devs, d.name = name ∧ d = e ∧ (answers d).Keeps := by
  induction devs generalizing next
  case nil =>
    cases h
    simp
  case cons d devs hi =>
    obtain ⟨h₁, h₂⟩ := List.forall_mem_cons.mp hd
    rw [List.foldlM_cons, Option.bind_eq_bind, Option.bind_eq_some_iff] at h
    obtain ⟨next₁, h₃, h₄⟩ := h
    have hs : next₁.Sub failed := by
      intro name e he
      rcases (ensurePeripheral_spec h₁ hn h₃).mp he with he | ⟨rfl, rfl, _⟩
      case inl => exact hn he
      case inr => exact h₁
    rw [hi h₂ hs h₄, ensurePeripheral_spec h₁ hn h₃, List.exists_mem_cons_iff, or_assoc]

theorem ensurePeripherals_spec (hd : devs.Perm failed.cmds)
    (h : ensurePeripherals failed answers devs = some next) :
    next.map[name]? = some e ↔ failed.map[name]? = some e ∧ (answers e).Keeps := by
  have hm : ∀ d, d ∈ devs ↔ failed.map[d.name]? = some d := fun d => hd.mem_iff.trans Cmds.mem_cmds
  simp only [ensurePeripherals] at h
  split at h
  case isTrue he =>
    cases h
    simp [Cmds.getElem?_of_isEmpty he, Cmds.empty]
  case isFalse =>
    rw [foldlM_spec (fun d => (hm d).mp) Cmds.Sub.empty h]
    constructor
    case mp =>
      rintro (he | ⟨d, hd, rfl, rfl, hk⟩)
      case inl => simp [Cmds.empty] at he
      case inr => exact ⟨(hm d).mp hd, hk⟩
    case mpr =>
      rintro ⟨he, hk⟩
      cases failed.named he
      exact .inr ⟨e, (hm e).mpr he, rfl, rfl, hk⟩

theorem ensurePeripherals_eq_none (hd : devs.Perm failed.cmds) :
    ensurePeripherals failed answers devs = none ↔ ∃ d ∈ devs, (answers d).closes = false := by
  simp only [ensurePeripherals]
  split
  case isFalse => exact foldlM_eq_none
  case isTrue he =>
    simp only [reduceCtorEq, false_iff, not_exists, not_and]
    intro d hm
    have hf := Cmds.mem_cmds.mp (hd.mem_iff.mp hm)
    simp [Cmds.getElem?_of_isEmpty he] at hf

end Ensure

def Options.configured (options : Options) : PeripheralType → Cmds
  | .normal => options.peripherals
  | .metricsReporter => options.metricsReporters
  | .other _ => .empty

section List

variable {options : Options} {s : Listed} {kind : PeripheralType} {name : Bytes} {d : PeripheralEnsureCmd}
    {ds : PeripheralStatusMsg} {sl : List PeripheralStatusMsg} {msg : Msg} {msgs : List Msg}

namespace Listed

def failed (s : Listed) : PeripheralType → Cmds
  | .normal => s.failedPeripherals
  | .metricsReporter => s.failedMRs
  | .other _ => .empty

def Within (s : Listed) (options : Options) : Prop :=
  ∀ kind, (s.failed kind).Sub (options.configured kind)

def Fails (ds : PeripheralStatusMsg) (kind : PeripheralType) (name : Bytes) : Prop :=
  ds.kind = kind ∧ ds.name = name ∧ ds.state ≠ .connected

theorem classify_spec {configured failed : Cmds} (ds : PeripheralStatusMsg) (name : Bytes)
    (d : PeripheralEnsureCmd) (remove : Finset Bytes) (h : failed.Sub configured) :
    (classify configured failed remove ds).fst.map[name]? = some d ↔
    failed.map[name]? = some d ∨ configured.map[name]? = some d ∧ ds.name = name ∧ ds.state ≠ .connected := by
  simp only [classify]
  split
  case h_1 e he =>
    have hn := configured.named he
    split
    case isTrue hs =>
      simp only [hs.right, ne_eq, not_true_eq_false, and_false, or_false]
    case isFalse hs =>
      have hc : ds.state ≠ .connected := fun hc => hs ⟨hn.symm, hc⟩
      rw [h.set_iff (hn.symm ▸ he), hn]
      refine or_congr_right ⟨?_, ?_⟩
      case refine_1 =>
        rintro ⟨rfl, rfl⟩
        exact ⟨he, rfl, hc⟩
      case refine_2 =>
        rintro ⟨hd, rfl, -⟩
        exact ⟨rfl, Option.some.inj <| he.symm.trans hd⟩
  case h_2 he =>
    refine (or_iff_left ?_).symm
    rintro ⟨hd, rfl, -⟩
    simp [he] at hd

theorem onEntry_spec (h : s.Within options) :
    ((s.onEntry options ds).failed kind).map[name]? = some d ↔
    (s.failed kind).map[name]? = some d ∨
    (options.configured kind).map[name]? = some d ∧ Fails ds kind name := by
  have h₁ := classify_spec ds name d s.devicesToRemove (h .normal)
  have h₂ := classify_spec ds name d s.devicesToRemove (h .metricsReporter)
  simp only [onEntry, Fails]
  cases ds.kind <;> cases kind
  case normal.normal => simpa [failed, Options.configured] using h₁
  case metricsReporter.metricsReporter => simpa [failed, Options.configured] using h₂
  all_goals simp [failed, Options.configured, Cmds.empty]

theorem Within.onEntry (h : s.Within options) : (s.onEntry options ds).Within options := by
  intro kind name d hd
  rcases (onEntry_spec h).mp hd with hd | ⟨hd, -⟩
  case inl => exact h kind hd
  case inr => exact hd

theorem Within.foldl (h : s.Within options) : (sl.foldl (Listed.onEntry options) s).Within options := by
  induction sl generalizing s
  case nil => exact h
  case cons ds sl hi => exact hi h.onEntry

theorem foldl_onEntry_spec (h : s.Within options) :
    ((sl.foldl (onEntry options) s).failed kind).map[name]? = some d ↔
    (s.failed kind).map[name]? = some d ∨
    (options.configured kind).map[name]? = some d ∧ ∃ ds ∈ sl, Fails ds kind name := by
  induction sl generalizing s
  case nil => simp
  case cons ds sl hi =>
    rw [List.foldl_cons, hi h.onEntry, onEntry_spec h, List.exists_mem_cons_iff, or_assoc, ← and_or_left]

def handled (msgs : List Msg) : List PeripheralStatusMsg :=
  Connection.entries <| msgs.takeWhile fun msg => msg.getPeripheralStatusList.isSome

theorem mem_entries_of_handled (h : ds ∈ handled msgs) : ds ∈ Connection.entries msgs := by
  obtain ⟨msg, hm, hd⟩ := List.mem_flatMap.mp h
  exact List.mem_flatMap.mpr ⟨msg, (List.takeWhile_prefix _).subset hm, hd⟩

theorem onMsg_of_some (h : msg.getPeripheralStatusList = some sl) :
    s.onMsg options msg = (sl.foldl (onEntry options) s, false) := by
  have he : msg.getError = none := by
    simp only [Msg.getPeripheralStatusList] at h
    split at h
    case isTrue hk => simp [Msg.getError, hk]
    case isFalse => cases h
  simp only [onMsg, he, h]

theorem onMsg_of_none (s : Listed) (options : Options) (h : msg.getPeripheralStatusList = none) :
    (s.onMsg options msg).snd = true ∧ (s.onMsg options msg).fst.failed = s.failed := by
  simp only [onMsg, h]
  split <;> exact ⟨rfl, rfl⟩

theorem handleMessages_spec (kind : PeripheralType) (name : Bytes) (d : PeripheralEnsureCmd) (msgs : List Msg)
    (h : s.Within options) :
    ((handleMessages (onMsg options) s msgs).failed kind).map[name]? = some d ↔
    (s.failed kind).map[name]? = some d ∨
    (options.configured kind).map[name]? = some d ∧ ∃ ds ∈ handled msgs, Fails ds kind name := by
  rw [handleMessages_eq]
  induction msgs generalizing s
  case nil => simp [loop, handled, Connection.entries]
  case cons msg msgs hi =>
    cases hl : msg.getPeripheralStatusList
    case none =>
      obtain ⟨h₁, h₂⟩ := onMsg_of_none s options hl
      have hh : handled (msg :: msgs) = [] := by simp [handled, Connection.entries, hl]
      have hx : s.onMsg options msg = ((s.onMsg options msg).fst, true) := Prod.ext rfl h₁
      rw [loop_of_exit hx, h₂, hh]
      simp
    case some sl =>
      have hh : handled (msg :: msgs) = sl ++ handled msgs := by simp [handled, Connection.entries, hl]
      rw [loop_of_continue (onMsg_of_some hl), hi h.foldl, foldl_onEntry_spec h, hh]
      simp only [List.mem_append, or_and_right, exists_or, and_or_left, or_assoc]

end Listed
end List

namespace Connection

variable {options : Options} {s s' : Connection} {kind kind' : PeripheralType} {name : Bytes}
    {d : PeripheralEnsureCmd} {devs : List PeripheralEnsureCmd} {answers : PeripheralEnsureCmd → Answer}
    {a : Answer} {c : Cmds} {act : Action}

structure Converging (s : Connection) (options : Options) : Prop where
  running : s.stuck = false
  covered : ∀ {kind : PeripheralType} {name : Bytes} {d : PeripheralEnsureCmd},
    (options.configured kind).map[name]? = some d →
    (kind, name) ∈ s.reported ∨ (s.failed kind).map[name]? = some d

def Within (s : Connection) (options : Options) : Prop :=
  ∀ kind, (s.failed kind).Sub (options.configured kind)

theorem turn_cases (h : s.turn = some kind) : kind = .normal ∨ kind = .metricsReporter := by
  simp only [turn] at h
  split at h
  case isTrue => cases h; exact .inr rfl
  case isFalse =>
    split at h
    case isTrue => cases h; exact .inl rfl
    case isFalse => cases h

theorem failed_setFailed (h : kind = .normal ∨ kind = .metricsReporter) :
    (s.setFailed kind c).failed kind' = if kind = kind' then c else s.failed kind' := by
  rcases h with rfl | rfl <;> cases kind' <;> rfl

theorem stuck_setFailed : (s.setFailed kind c).stuck = s.stuck := by
  cases kind <;> rfl

theorem reported_setFailed : (s.setFailed kind c).reported = s.reported := by
  cases kind <;> rfl

structure Ensures (s s' : Connection) (kind : PeripheralType) (devs : List PeripheralEnsureCmd)
    (answers : PeripheralEnsureCmd → Answer) : Prop where
  mem_devs : ∀ d, d ∈ devs ↔ (s.failed kind).map[d.name]? = some d
  stuck : s'.stuck = true ↔ ∃ d ∈ devs, (answers d).closes = false
  reported : s'.reported = s.reported ∪ reports (replies devs answers)
  failed : s'.stuck = false → ∀ (kind' : PeripheralType) (name : Bytes) (d : PeripheralEnsureCmd),
    (s'.failed kind').map[name]? = some d ↔
    (s.failed kind').map[name]? = some d ∧ (kind = kind' → (answers d).Keeps)

theorem ensures_ensure (hk : s.turn = some kind) (hs : s.stuck = false) (hp : devs.Perm (s.failed kind).cmds) :
    s.Ensures (s.ensure kind devs answers) kind devs answers := by
  have hm : ∀ d, d ∈ devs ↔ (s.failed kind).map[d.name]? = some d :=
    fun d => hp.mem_iff.trans Cmds.mem_cmds
  -- The reports are recorded before the failed peripherals change.
  generalize hr : s.reported ∪ reports (replies devs answers) = r
  have hf : ({ s with reported := r } : Connection).failed = s.failed := by
    funext kind
    cases kind <;> rfl
  simp only [ensure, hr, hf]
  cases hn : ensurePeripherals (s.failed kind) answers devs
  case none =>
    exact {
      mem_devs := hm
      stuck := iff_of_true rfl <| (ensurePeripherals_eq_none hp).mp hn
      reported := hr.symm
      failed h := by simp at h
    }
  case some next =>
    have hc : ¬∃ d ∈ devs, (answers d).closes = false := fun hc => by
      simp [(ensurePeripherals_eq_none hp).mpr hc] at hn
    exact {
      mem_devs := hm
      stuck := iff_of_false (by simp [stuck_setFailed, hs]) hc
      reported := reported_setFailed.trans hr.symm
      failed _ := by
        intro kind' name d
        dsimp only
        rw [failed_setFailed (turn_cases hk), hf]
        split
        case isTrue h => subst h; simpa using ensurePeripherals_spec hp hn
        case isFalse h => simp [h]
    }

theorem step_ensure (h : s.step (.ensure devs answers) = some s') :
    ∃ kind, s.turn = some kind ∧ s.stuck = false ∧ s.Ensures s' kind devs answers := by
  simp only [step] at h
  split at h
  case h_1 => cases h
  case h_2 kind hk =>
    split at h
    case isTrue => cases h
    case isFalse hc =>
      obtain ⟨hs, hp⟩ := not_or.mp hc
      rw [Bool.not_eq_true] at hs
      cases h
      exact ⟨kind, hk, hs, ensures_ensure hk hs (not_not.mp hp)⟩

theorem step_remove (h : s.step (.remove a) = some s') :
    s'.stuck = s.stuck ∧ s'.reported = s.reported ∧ s'.failed = s.failed := by
  simp only [step] at h
  split at h
  case isTrue => cases h
  case isFalse =>
    obtain ⟨remove, -, rfl⟩ := Option.map_eq_some_iff.mp h
    refine ⟨rfl, rfl, ?_⟩
    funext kind
    cases kind <;> rfl

-- Every channel is closed in the end. If a command has been posted and all replies to it say that something
-- is connected, then this very peripheral was reported to be connected, in this round or before.
def Served (s : Connection) : Action → Prop
  | .ensure devs answers => ∀ kind, s.turn = some kind → ∀ d ∈ devs, (answers d).closes = true ∧
    ((answers d).err.isSome ∨ (∃ msg ∈ (answers d).msgs, ¬Confirms msg) ∨
      (kind, d.name) ∈ s.reported ∪ reports (replies devs answers))
  | .remove _ => True

theorem Within.step (h : s.Within options) (hs : s.step act = some s') (hr : s'.stuck = false) :
    s'.Within options := by
  intro kind name d hd
  cases act
  case ensure devs answers =>
    obtain ⟨_, -, -, he⟩ := step_ensure hs
    exact h kind ((he.failed hr kind name d).mp hd).left
  case remove =>
    rw [(step_remove hs).right.right] at hd
    exact h kind hd

theorem Converging.step (h : s.Converging options) (hs : s.step act = some s') (hp : s.Served act) :
    s'.Converging options := by
  cases act
  case remove =>
    obtain ⟨h₁, h₂, h₃⟩ := step_remove hs
    exact ⟨h₁.trans h.running, h₂ ▸ h₃ ▸ h.covered⟩
  case ensure devs answers =>
    obtain ⟨kind, hk, -, he⟩ := step_ensure hs
    have hr : s'.stuck = false := by
      rw [← Bool.not_eq_true, he.stuck]
      rintro ⟨d, hd, hc⟩
      simp [(hp kind hk d hd).left] at hc
    refine ⟨hr, fun {kind' name d} hd => ?_⟩
    rcases h.covered hd with hd | hd
    case inl => exact .inl <| he.reported ▸ Finset.mem_union_left _ hd
    case inr =>
      by_cases hc : kind = kind' → (answers d).Keeps
      case pos => exact .inr <| (he.failed hr kind' name d).mpr ⟨hd, hc⟩
      case neg =>
        -- The command is dropped because all replies say that something is connected.
        obtain ⟨rfl, hd'⟩ := Classical.not_imp.mp hc
        cases (s.failed kind).named hd
        have hp := (hp kind hk d ((he.mem_devs d).mpr hd)).right
        exact .inl <| he.reported ▸ (or_assoc.mpr hp).resolve_left hd'

theorem Converging.served (hw : s.Within options) (hs : s.step act = some s') (h : s'.Converging options) :
    s.Served act := by
  cases act
  case remove => trivial
  case ensure devs answers =>
    intro kind hk d hd
    obtain ⟨kind', hk', -, he⟩ := step_ensure hs
    cases hk.symm.trans hk'
    have hf := (he.mem_devs d).mp hd
    refine ⟨?_, ?_⟩
    case refine_1 =>
      by_contra hc
      have := he.stuck.mpr ⟨d, hd, by simpa using hc⟩
      simp [h.running] at this
    case refine_2 =>
      refine or_assoc.mp ?_
      rcases h.covered (hw kind hf) with hr | hr
      case inl => exact .inr (he.reported ▸ hr)
      case inr => exact .inl <| ((he.failed h.running kind d.name d).mp hr).right rfl

def Lists (msgs : List Msg) (kind : PeripheralType) (name : Bytes) : Prop :=
  (∃ ds ∈ Listed.handled msgs, ds.kind = kind ∧ ds.name = name) ∨
  ∃ ds ∈ entries msgs, ds.kind = kind ∧ ds.name = name ∧ ds.state = .connected

structure Starts (options : Options) (msgs : List Msg) (s : Connection) : Prop where
  running : s.stuck = false
  mem_reported : ∀ kind name, (kind, name) ∈ s.reported ↔
    ∃ ds ∈ entries msgs, ds.kind = kind ∧ ds.name = name ∧ ds.state = .connected
  failed : ∀ (kind : PeripheralType) (name : Bytes) (d : PeripheralEnsureCmd),
    (s.failed kind).map[name]? = some d ↔
    (options.configured kind).map[name]? = some d ∧ ∃ ds ∈ Listed.handled msgs, Listed.Fails ds kind name

theorem starts_of_start (h : start options a = some s) : Starts options a.msgs s := by
  obtain ⟨l, hl, rfl⟩ := Option.map_eq_some_iff.mp h
  have he : l = handleMessages (Listed.onMsg options) .empty a.msgs := by
    simp only [listPeripherals] at hl
    split at hl
    case isTrue => cases hl
    case isFalse =>
      split at hl
      case isTrue => cases hl
      case isFalse => exact (Option.some.inj hl).symm
  have hw : Listed.empty.Within options := by
    intro kind
    cases kind <;> exact Cmds.Sub.empty
  exact {
    running := rfl
    mem_reported := by simp [reports, and_assoc, and_comm, and_left_comm]
    failed kind name d := by
      have hs := Listed.handleMessages_spec kind name d a.msgs hw
      rw [← he] at hs
      cases kind <;> simpa [Connection.failed, Listed.failed, Listed.empty, Cmds.empty] using hs
  }

theorem Starts.within {msgs} (h : Starts options msgs s) : s.Within options :=
  fun kind name d hd => ((h.failed kind name d).mp hd).left

theorem Starts.converging_iff {msgs} (h : Starts options msgs s) : s.Converging options ↔
    ∀ kind name, (options.configured kind).map[name]?.isSome → Lists msgs kind name := by
  constructor
  case mp =>
    intro hc kind name hd
    obtain ⟨d, hd⟩ := Option.isSome_iff_exists.mp hd
    rcases hc.covered hd with hr | hr
    case inl => exact .inr <| (h.mem_reported kind name).mp hr
    case inr =>
      obtain ⟨-, ds, hm, hk, hn, -⟩ := (h.failed kind name d).mp hr
      exact .inl ⟨ds, hm, hk, hn⟩
  case mpr =>
    intro hl
    refine ⟨h.running, fun {kind name d} hd => ?_⟩
    rcases hl kind name (Option.isSome_of_eq_some hd) with ⟨ds, hm, hk, hn⟩ | hr
    case inr => exact .inl <| (h.mem_reported kind name).mpr hr
    case inl =>
      by_cases hc : ds.state = .connected
      case neg => exact .inr <| (h.failed kind name d).mpr ⟨hd, ds, hm, hk, hn, hc⟩
      case pos => exact .inl <| (h.mem_reported kind name).mpr ⟨ds, Listed.mem_entries_of_handled hm, hk, hn, hc⟩

-- This is so while a device is connected iff its list has an entry for each peripheral, and the commands by
-- which they are ensured get served.
theorem converging_iff_served {as} (hl : start options a = some s) (e : Execution step s as s') :
    (∀ pre t, pre <+: as → Execution step s pre t → t.Converging options) ↔
    (∀ kind name, (options.configured kind).map[name]?.isSome → Lists a.msgs kind name) ∧
    Along step Served s as := by
  have hs := starts_of_start hl
  rw [← hs.converging_iff]
  by_cases hc : s.Converging options
  case neg => exact iff_of_false (fun h => hc <| h [] s List.nil_prefix .refl) (fun h => hc h.left)
  case pos =>
    rw [and_iff_right hc]
    apply Execution.always_iff_along (J := fun t => t.Within options ∧ t.Converging options) _ _ _ e ⟨hs.within, hc⟩
    case _ => exact fun h => h.right
    case _ =>
      rintro t act t' ⟨hw, h⟩ hp ht
      have h' := h.step ht hp
      exact ⟨hw.step ht h'.running, h'⟩
    case _ =>
      rintro t act t' ⟨hw, -⟩ ht h'
      exact h'.served hw ht

def onePeripheral : Options where
  metricsReporters := .empty
  peripherals := Cmds.empty.set ⟨[1], []⟩

def listErrored : Answer where
  err := none
  msgs := [⟨.peripheralStatusList, 1, 0, true, [10, 7, 8, 1, 18, 1, 1, 24, 3]⟩]
  closes := true

def listNothing : Answer where
  err := none
  msgs := [⟨.peripheralStatusList, 1, 0, true, []⟩]
  closes := true

def statusAnswer (name state : UInt8) : Answer where
  err := none
  msgs := [⟨.peripheralStatus, 1, 0, true, [8, 1, 18, 1, name, 24, state]⟩]
  closes := true

def round (a : Answer) : Action :=
  .ensure [⟨[1], []⟩] fun _ => a

-- The peripheral is ensured twice until it is connected.
theorem converging_iff_served_retried :
    ∃ s s', start onePeripheral listErrored = some s ∧
      Execution step s [round (statusAnswer 1 1), round (statusAnswer 1 2)] s' ∧ s'.Converging onePeripheral := by
  have hr : ((start onePeripheral listErrored).any fun s => (s.step (round (statusAnswer 1 1))).any fun t =>
      t.turn = some .normal && (t.step (round (statusAnswer 1 2))).isSome) = true := by decide +kernel
  obtain ⟨s, hs, hr⟩ := Option.any_eq_true _ _ |>.mp hr
  obtain ⟨t, ht, hr⟩ := Option.any_eq_true _ _ |>.mp hr
  obtain ⟨hk, hr⟩ := Bool.and_eq_true_iff.mp hr
  obtain ⟨s', hs'⟩ := Option.isSome_iff_exists.mp hr
  have e : Execution step s [round (statusAnswer 1 1), round (statusAnswer 1 2)] s' := .trans ht <| .single hs'
  have hl : ∀ kind name, (onePeripheral.configured kind).map[name]?.isSome → Lists listErrored.msgs kind name := by
    have hh : Listed.handled listErrored.msgs = [⟨.normal, [1], .errored⟩] := by decide +kernel
    intro kind name hd
    refine .inl ⟨⟨.normal, [1], .errored⟩, by simp [hh], ?_⟩
    cases kind
    case normal => simpa [Options.configured, onePeripheral, Cmds.empty, Cmds.getElem?_set] using hd
    case metricsReporter | other => simp [Options.configured, onePeripheral, Cmds.empty] at hd
  have h₁ : s.Served (round (statusAnswer 1 1)) := by
    refine fun _ _ _ _ => ⟨rfl, .inr <| .inl ⟨_, List.mem_cons_self, ?_⟩⟩
    rintro ⟨status, hm, hc⟩
    have hs : Msg.getPeripheralStatus ⟨.peripheralStatus, 1, 0, true, [8, 1, 18, 1, 1, 24, 1]⟩ =
        some ⟨.normal, [1], .created⟩ := by decide +kernel
    cases hs.symm.trans hm
    cases hc
  have h₂ : t.Served (round (statusAnswer 1 2)) := by
    have hp : (.normal, [1]) ∈ reports (replies [⟨[1], []⟩] fun _ => statusAnswer 1 2) := by decide +kernel
    intro kind hk' d hd
    cases (of_decide_eq_true hk).symm.trans hk'
    cases List.mem_singleton.mp hd
    exact ⟨rfl, .inr <| .inr <| Finset.mem_union_right _ hp⟩
  exact ⟨s, s', hs, e, converging_iff_served hs e |>.mpr ⟨hl, .cons h₁ ht <| .cons h₂ hs' trivial⟩ _ _
    List.prefix_rfl e⟩

def lost (s : Connection) : Bool :=
  (s.failed .normal).map[([1] : Bytes)]?.isNone && decide ((.normal, [1]) ∉ s.reported)

theorem not_converging_of_lost (hs : s.lost) : ¬s.Converging onePeripheral := by
  intro h
  have hd : (onePeripheral.configured .normal).map[([1] : Bytes)]? = some ⟨[1], []⟩ := by
    simp [Options.configured, onePeripheral, Cmds.getElem?_set]
  rcases h.covered hd with hr | hr <;> simp [lost, hr] at hs

theorem not_converging_round
    (h : (start onePeripheral listErrored).any fun s => (s.step (round a)).any fun s' => !s'.stuck && s'.lost) :
    ∃ s s', start onePeripheral listErrored = some s ∧ s.step (round a) = some s' ∧ s'.stuck = false ∧
      ¬s'.Converging onePeripheral := by
  obtain ⟨s, hs, h⟩ := Option.any_eq_true _ _ |>.mp h
  obtain ⟨s', hs', h⟩ := Option.any_eq_true _ _ |>.mp h
  obtain ⟨h₁, h₂⟩ := Bool.and_eq_true_iff.mp h
  exact ⟨s, s', hs, hs', by simpa using h₁, not_converging_of_lost h₂⟩

-- The peripheral is not in the list, the channel of its command is closed without a reply, the reply is about
-- another peripheral, or there is no channel, for which the routine waits forever.
theorem not_converging_dropped :
    (∃ s, start onePeripheral listNothing = some s ∧ ¬s.Converging onePeripheral) ∧
    (∀ a ∈ [⟨none, [], true⟩, statusAnswer 2 2], ∃ s s', start onePeripheral listErrored = some s ∧
      s.step (round a) = some s' ∧ s'.stuck = false ∧ ¬s'.Converging onePeripheral) ∧
    ∃ s s', start onePeripheral listErrored = some s ∧
      s.step (round ⟨some errManagerClosed, [], false⟩) = some s' ∧ s'.stuck = true := by
  refine ⟨?unlisted, ?dropped, ?unposted⟩
  case unlisted =>
    have hr : (start onePeripheral listNothing).any lost := by decide +kernel
    obtain ⟨s, hs, h⟩ := Option.any_eq_true _ _ |>.mp hr
    exact ⟨s, hs, not_converging_of_lost h⟩
  case dropped =>
    rw [List.forall_mem_cons, List.forall_mem_singleton]
    exact ⟨not_converging_round (by decide +kernel), not_converging_round (by decide +kernel)⟩
  case unposted =>
    have hr : (start onePeripheral listErrored).any fun s =>
        (s.step (round ⟨some errManagerClosed, [], false⟩)).any fun s' => s'.stuck := by
      decide +kernel
    obtain ⟨s, hs, h⟩ := Option.any_eq_true _ _ |>.mp hr
    obtain ⟨s', hs', h⟩ := Option.any_eq_true _ _ |>.mp h
    exact ⟨s, s', hs, hs', h⟩

end Connection
end Aranya.Peripheral
