import Aranya.Connectivity.MQTT

namespace Aranya.MQTT

def Callback.report : Callback → Option Bool
  | handleNet err => err.map fun _ => false
  | handleConn _ (some _) => some false
  | handleConn code none => some (code == codeSuccess)
  | handleSub _ => none

def Routine.report (r : Routine) : Option Bool :=
  r.callback.bind Callback.report

def Pc.Holds : Pc → Prop
  | sendConn _ | closeConn => True
  | _ => False

def Routine.Fits (r : Routine) (started : Bool) (closes : Nat) : Prop :=
  match r.pc with
  | .loadSubscribing _ | .swapStarted _ => r.report = some false
  | .loadStarted _ => r.report = some false ∧ started
  | .isStarted => r.report = some true
  | .sendSub _ | .closeSub => False
  | .sendConn _ | .closeConn => closes = 0 ∧ (started = false → r.report = some true)
  | .subscribe _ | .sleep => started ∨ closes = 1
  | _ => True

namespace Client

variable {c c' : Client} {a : Action} {as : List Action} {i j : Nat} {r r₁ r₂ : Routine} {pc : Pc}
    {cb : Callback} {err : Option Err} {b : Bool} {n : Nat}

structure Safe (c : Client) : Prop where
  connOnce : c.connErrCh.closes ≤ 1
  connSends : c.connErrCh.lateSends = 0
  subOnce : c.subErrCh.closes ≤ 1
  subSends : c.subErrCh.lateSends = 0

-- Until the client is started, there are only failures, or there is a single success.
def ReportsOnce (c : Client) : Action → Prop
  | .callback cb => c.started = false →
    (cb.report = some true → ∀ r ∈ c.routines, r.report = none) ∧
    (cb.report = some false → ∀ r ∈ c.routines, r.report ≠ some true)
  | _ => True

instance : ∀ a, Decidable (c.ReportsOnce a)
  | .callback cb => inferInstanceAs <| Decidable <| c.started = false →
    (cb.report = some true → ∀ r ∈ c.routines, r.report = none) ∧
    (cb.report = some false → ∀ r ∈ c.routines, r.report ≠ some true)
  | .connectServer _ _ | .proceed _ | .quit _ | .pass _ _ | .receive _ | .sendLate _ | .disconnect | .stop =>
    isTrue trivial

def Unused (c : Client) : Prop :=
  ∀ (i : Nat) (r : Routine), c.routines[i]? = some r → ¬r.pc.Holds

def Succeeded (c : Client) : Prop :=
  ∃ (i : Nat) (r : Routine), c.routines[i]? = some r ∧ r.report = some true ∧ r.pc = .returned

structure Sound (c : Client) : Prop where
  subErrCh : c.subErrCh = .new
  connSends : c.connErrCh.lateSends = 0
  connOnce : c.connErrCh.closes ≤ 1
  fits : ∀ (i : Nat) (r : Routine), c.routines[i]? = some r → r.Fits c.started c.connErrCh.closes
  holder : ∀ (i j : Nat) (r₁ r₂ : Routine), c.routines[i]? = some r₁ → c.routines[j]? = some r₂ →
    r₁.pc.Holds → r₂.pc.Holds → i = j
  -- Before the client is started, a success is the only report.
  alone : c.started = false →
    ∀ (i j : Nat) (r₁ r₂ : Routine), c.routines[i]? = some r₁ → c.routines[j]? = some r₂ →
    r₁.report = some true → r₂.report ≠ none → i = j
  closer : c.started = false → c.connErrCh.closes = 1 → c.Succeeded
  -- Before the client is started, only the manager subscribes.
  claimed : c.subscribing → c.started = false → c.connErrCh.closes = 1

theorem Sound.safe (h : c.Sound) : c.Safe where
  connOnce := h.connOnce
  connSends := h.connSends
  subOnce := by simp [h.subErrCh, ErrCh.new]
  subSends := by simp [h.subErrCh, ErrCh.new]

theorem sound_new : new.Sound where
  subErrCh := rfl
  connSends := rfl
  connOnce := Nat.zero_le _
  fits i r h := by
    cases i
    case zero => cases h; trivial
    case succ i => simp [new] at h
  holder i j r₁ r₂ h₁ h₂ := by
    cases i
    case zero => cases h₁; exact False.elim
    case succ i => simp [new] at h₁
  alone _ i j r₁ r₂ h₁ h₂ hr := by
    cases i
    case zero => cases h₁; cases hr
    case succ i => simp [new] at h₁
  closer _ h := by cases h
  claimed h := by cases h

theorem getElem?_goto (h : (c.goto i r pc).routines[j]? = some r₁) :
    j = i ∧ r₁ = { r with pc := pc } ∨ j ≠ i ∧ c.routines[j]? = some r₁ := by
  simp only [goto, List.getElem?_set] at h
  split at h
  case isTrue hj =>
    split at h
    case isTrue => exact .inl ⟨hj.symm, by simpa using h.symm⟩
    case isFalse => cases h
  case isFalse hj => exact .inr ⟨Ne.symm hj, h⟩

theorem getElem?_goto_self (h : c.routines[i]? = some r) :
    (c.goto i r pc).routines[i]? = some { r with pc := pc } := by
  have hi := List.getElem?_eq_some_iff.mp h |>.fst
  simp [goto, hi]

theorem getElem?_goto_of_ne (hn : j ≠ i) : (c.goto i r pc).routines[j]? = c.routines[j]? := by
  simp [goto, hn.symm]

theorem getElem?_concat {rs : List Routine} (h : (rs ++ [r])[i]? = some r₁) :
    rs[i]? = some r₁ ∨ i = rs.length ∧ r₁ = r := by
  rcases Nat.lt_trichotomy i rs.length with hi | hi | hi
  case inl => exact .inl <| by rwa [List.getElem?_append_left hi] at h
  case inr.inl =>
    subst hi
    exact .inr ⟨rfl, by simpa using h.symm⟩
  case inr.inr =>
    rw [List.getElem?_eq_none (by simp; omega)] at h
    cases h

theorem fits_start (h : r.Fits b n) : r.Fits true n := by
  unfold Routine.Fits at *
  split at h <;> simp_all

theorem fits_close (h : r.Fits b n) (hp : ¬r.pc.Holds) : r.Fits b 1 := by
  unfold Routine.Fits at *
  split at h <;> simp_all [Pc.Holds]

theorem fits_of_holds (h : r.Fits b n) (hp : r.pc.Holds) : n = 0 ∧ (b = false → r.report = some true) := by
  unfold Routine.Fits at h
  split at h <;> simp_all [Pc.Holds]

theorem fits_dispatch (hc : r.callback = some cb) : Routine.Fits { r with pc := cb.dispatch } b n := by
  cases cb
  case handleNet err =>
    cases err
    case none => trivial
    case some err => simp [Routine.Fits, Callback.dispatch, Routine.report, hc, Callback.report]
  case handleConn code err =>
    cases err
    case some err => simp [Routine.Fits, Callback.dispatch, Routine.report, hc, Callback.report]
    case none =>
      by_cases h : code = Callback.codeSuccess
      case pos => simp [Routine.Fits, Callback.dispatch, Routine.report, hc, Callback.report, h]
      case neg => simp [Routine.Fits, Callback.dispatch, Routine.report, hc, Callback.report, h]
  case handleSub err => trivial

theorem not_holds_dispatch : ¬cb.dispatch.Holds := by
  cases cb
  case handleNet err => cases err <;> exact id
  case handleSub err => exact id
  case handleConn code err =>
    cases err
    case some => exact id
    case none =>
      simp only [Callback.dispatch]
      split <;> exact id

namespace Sound

theorem goto (h : c.Sound) (hi : c.routines[i]? = some r) (hr : r.pc ≠ .returned)
    (hf : Routine.Fits { r with pc := pc } c.started c.connErrCh.closes)
    (hh : pc.Holds → ∀ j r', c.routines[j]? = some r' → r'.pc.Holds → j = i) : (c.goto i r pc).Sound where
  subErrCh := h.subErrCh
  connSends := h.connSends
  connOnce := h.connOnce
  claimed := h.claimed
  fits j r' hj := by
    rcases getElem?_goto hj with ⟨_, rfl⟩ | ⟨_, hj⟩
    case inl => exact hf
    case inr => exact h.fits _ _ hj
  holder j k r₁ r₂ hj hk h₁ h₂ := by
    rcases getElem?_goto hj with ⟨ej, rfl⟩ | ⟨_, hj⟩ <;> rcases getElem?_goto hk with ⟨ek, rfl⟩ | ⟨_, hk⟩
    case inl.inl => rw [ej, ek]
    case inl.inr => rw [ej, hh h₁ _ _ hk h₂]
    case inr.inl => rw [ek, hh h₂ _ _ hj h₁]
    case inr.inr => exact h.holder _ _ _ _ hj hk h₁ h₂
  alone hs j k r₁ r₂ hj hk h₁ h₂ := by
    rcases getElem?_goto hj with ⟨ej, rfl⟩ | ⟨_, hj⟩ <;> rcases getElem?_goto hk with ⟨ek, rfl⟩ | ⟨_, hk⟩
    case inl.inl => rw [ej, ek]
    case inl.inr => rw [ej]; exact h.alone hs _ _ _ _ hi hk h₁ h₂
    case inr.inl => rw [ek]; exact h.alone hs _ _ _ _ hj hi h₁ h₂
    case inr.inr => exact h.alone hs _ _ _ _ hj hk h₁ h₂
  closer hs hc := by
    obtain ⟨j, r', hj, h₁, h₂⟩ := h.closer hs hc
    refine ⟨j, r', ?_, h₁, h₂⟩
    rw [getElem?_goto_of_ne, hj]
    rintro rfl
    cases hi.symm.trans hj
    exact hr h₂

theorem disconnect (h : c.Sound) : c.disconnect.Sound :=
  ⟨h.subErrCh, h.connSends, h.connOnce, h.fits, h.holder, h.alone, h.closer, h.claimed⟩

theorem stop (h : c.Sound) : { c with stopped := true }.Sound :=
  ⟨h.subErrCh, h.connSends, h.connOnce, h.fits, h.holder, h.alone, h.closer, h.claimed⟩

theorem start (h : c.Sound) : { c with started := true }.Sound where
  subErrCh := h.subErrCh
  connSends := h.connSends
  connOnce := h.connOnce
  fits i r hi := fits_start (h.fits i r hi)
  holder := h.holder
  alone hs := by cases hs
  closer hs := by cases hs
  claimed _ hs := by cases hs

theorem claim (h : c.Sound) (b : Bool) (hb : b → c.started = false → c.connErrCh.closes = 1) :
    { c with subscribing := b }.Sound :=
  ⟨h.subErrCh, h.connSends, h.connOnce, h.fits, h.holder, h.alone, h.closer, hb⟩

theorem close (h : c.Sound) (hh : c.Unused) (hc : c.connErrCh.closes = 0)
    (hs : c.started = false → c.Succeeded) : { c with connErrCh := c.connErrCh.close }.Sound where
  subErrCh := h.subErrCh
  connSends := h.connSends
  connOnce := by simp [ErrCh.close, hc]
  fits i r hi := by
    simp only [ErrCh.close, hc]
    exact fits_close (h.fits i r hi) (hh i r hi)
  holder := h.holder
  alone := h.alone
  closer hf _ := hs hf
  claimed _ _ := by simp [ErrCh.close, hc]

theorem invoke (h : c.Sound) (hp : c.ReportsOnce (.callback cb)) : (c.invoke cb).Sound where
  subErrCh := h.subErrCh
  connSends := h.connSends
  connOnce := h.connOnce
  claimed := h.claimed
  fits i r hi := by
    rcases getElem?_concat hi with hi | ⟨_, rfl⟩
    case inl => exact h.fits i r hi
    case inr => cases cb <;> trivial
  holder i j r₁ r₂ hi hj h₁ h₂ := by
    rcases getElem?_concat hi with hi | ⟨_, rfl⟩
    case inr => cases cb <;> cases h₁
    case inl =>
      rcases getElem?_concat hj with hj | ⟨_, rfl⟩
      case inl => exact h.holder i j r₁ r₂ hi hj h₁ h₂
      case inr => cases cb <;> cases h₂
  alone hs i j r₁ r₂ hi hj h₁ h₂ := by
    rcases getElem?_concat hi with hi | ⟨ei, rfl⟩ <;> rcases getElem?_concat hj with hj | ⟨ej, rfl⟩
    case inl.inl => exact h.alone hs i j r₁ r₂ hi hj h₁ h₂
    case inr.inr => rw [ei, ej]
    case inr.inl => exact absurd ((hp hs).left h₁ _ (List.mem_of_getElem? hj)) h₂
    case inl.inr =>
      have hm := List.mem_of_getElem? hi
      cases hr : cb.report
      case none => exact absurd hr h₂
      case some b =>
        cases b
        case false => exact absurd h₁ ((hp hs).right hr _ hm)
        case true => simp [(hp hs).left hr _ hm] at h₁
  closer hs hc := by
    obtain ⟨i, r, hi, h₁, h₂⟩ := h.closer hs hc
    have hl := List.getElem?_eq_some_iff.mp hi |>.fst
    exact ⟨i, r, by rw [Client.invoke, List.getElem?_append_left hl, hi], h₁, h₂⟩

theorem free (h : c.Sound) (hs : c.started = false) (hi : c.routines[i]? = some r) (hr : r.report ≠ none)
    (hh : ¬r.pc.Holds) (hp : r.pc ≠ .returned) : c.connErrCh.closes = 0 ∧ c.Unused := by
  constructor
  case left =>
    by_contra hc
    have hc : c.connErrCh.closes = 1 := by have := h.connOnce; omega
    obtain ⟨j, r', hj, h₁, h₂⟩ := h.closer hs hc
    cases h.alone hs j i r' r hj hi h₁ hr
    cases hi.symm.trans hj
    exact hp h₂
  case right =>
    intro j r' hj h'
    have h₁ := (fits_of_holds (h.fits j r' hj) h').right hs
    cases h.alone hs j i r' r hj hi h₁ hr
    cases hi.symm.trans hj
    exact hh h'

theorem goto_returned (h : c.Sound) (hi : c.routines[i]? = some r) (hr : r.pc ≠ .returned) :
    (c.goto i r .returned).Sound :=
  h.goto hi hr trivial False.elim

theorem goto_subscribe (h : c.Sound) (hi : c.routines[i]? = some r) (hr : r.pc ≠ .returned)
    (hs : c.started ∨ c.connErrCh.closes = 1) {p : SubscribePc} : (c.goto i r (.subscribe p)).Sound :=
  h.goto hi hr hs False.elim

theorem connected (h : c.Sound) (hi : c.routines[i]? = some r) (hr : r.pc ≠ .returned)
    (hs : err = none → c.connErrCh.closes = 1) : (c.connected i r err).Sound := by
  cases err
  case none => exact h.goto_subscribe hi hr <| .inr (hs rfl)
  case some err => exact h.disconnect.goto_returned hi hr

theorem subscribed (h : c.Sound) (hi : c.routines[i]? = some r) (hr : r.pc ≠ .returned)
    (hs : c.started ∨ c.connErrCh.closes = 1) : (c.subscribed i r err).Sound := by
  cases err
  case none => exact h.goto_returned hi hr
  case some err =>
    simp only [Client.subscribed]
    split
    case h_1 => exact h.disconnect.goto_returned hi hr
    case h_2 =>
      split
      case isTrue => exact h.goto_returned hi hr
      case isFalse => exact h.goto hi hr hs False.elim

theorem subscribe (h : c.Sound) (hi : c.routines[i]? = some r) {p : SubscribePc} (hr : r.pc = .subscribe p)
    (hc : c.subscribe i r p = some c') : c'.Sound := by
  have hn : r.pc ≠ .returned := by simp [hr]
  have hs : c.started ∨ c.connErrCh.closes = 1 := by
    have := h.fits i r hi
    simpa [Routine.Fits, hr] using this
  cases p
  case select => cases hc
  case loadClosed =>
    simp only [Client.subscribe] at hc
    split at hc <;> cases hc
    case isTrue => exact h.subscribed hi hn hs
    case isFalse => exact h.goto_subscribe hi hn hs
  case swapSubscribing =>
    simp only [Client.subscribe] at hc
    split at hc <;> cases hc
    case isTrue => exact h.subscribed hi hn hs
    case isFalse => exact (h.claim true fun _ hf => by simpa [hf] using hs).goto_subscribe hi hn hs
  case storeSubscribing err =>
    cases hc
    exact (h.claim false <| by simp).goto_subscribe hi hn hs
  case storeStarted err =>
    cases hc
    exact h.start.subscribed hi hn <| .inl rfl

theorem proceed (h : c.Sound) (hi : c.routines[i]? = some r) (hc : c.proceed i r = some c') : c'.Sound := by
  have hf := h.fits i r hi
  cases hp : r.pc <;> simp only [Client.proceed, hp, reduceCtorEq] at hc <;> simp only [Routine.Fits, hp] at hf
  all_goals have hn : r.pc ≠ .returned := by simp [hp]
  case loadClosed =>
    split at hc <;> cases hc
    case h_1 cb hcb =>
      split
      case isTrue => exact h.goto_returned hi hn
      case isFalse => exact h.goto hi hn (fits_dispatch hcb) fun hh => absurd hh not_holds_dispatch
  case loadSubscribing err =>
    cases hc
    split
    case isFalse => exact h.goto hi hn hf False.elim
    case isTrue hsb =>
      -- Otherwise the manager subscribes, and hence there is a success besides this failure.
      cases hs : c.started
      case true => exact h.goto hi hn ⟨hf, hs⟩ False.elim
      case false =>
        have := (h.free hs hi (by simp [hf]) (by simp [hp, Pc.Holds]) hn).left
        simp [h.claimed hsb hs] at this
  case loadStarted err =>
    cases hc
    rw [if_pos hf.right]
    exact h.goto hi hn hf.left False.elim
  case swapStarted err =>
    split at hc <;> cases hc
    case isTrue => exact h.goto_returned hi hn
    case isFalse hs =>
      have hu := h.free (by simpa using hs) hi (by simp [hf]) (by simp [hp, Pc.Holds]) hn
      exact h.start.goto hi hn ⟨hu.left, nofun⟩ fun _ j r' hj hh => absurd hh (hu.right j r' hj)
  case isStarted =>
    cases hc
    split
    case isTrue hs => exact h.goto_subscribe hi hn (.inl hs)
    case isFalse hs =>
      have hu := h.free (by simpa using hs) hi (by simp [hf]) (by simp [hp, Pc.Holds]) hn
      exact h.goto hi hn ⟨hu.left, fun _ => hf⟩ fun _ j r' hj hh => absurd hh (hu.right j r' hj)
  case closeConn =>
    cases hc
    have hg := h.goto_returned hi hn
    refine hg.close (fun j r' hj hh => ?_) hf.left fun hs => ⟨i, _, getElem?_goto_self hi, hf.right hs, rfl⟩
    rcases getElem?_goto hj with ⟨_, rfl⟩ | ⟨hne, hj⟩
    case inl => exact hh
    case inr => exact hne <| h.holder j i r' r hj hi hh (by simp [hp, Pc.Holds])
  case subscribe p => exact h.subscribe hi hp hc
  case sleep =>
    cases hc
    exact h.goto_subscribe hi hn hf

theorem quit (h : c.Sound) (hi : c.routines[i]? = some r) (hc : c.quit i r = some c') : c'.Sound := by
  have hf := h.fits i r hi
  simp only [Client.quit] at hc
  split at hc <;> cases hc
  case h_1 hp => exact h.connected hi (by simp [hp]) nofun
  case h_2 hp =>
    simp only [Routine.Fits, hp] at hf
    exact h.goto_subscribe hi (by simp [hp]) hf
  case h_3 hp => exact h.goto_returned hi (by simp [hp])
  case h_4 hp => exact h.goto_returned hi (by simp [hp])
  case h_5 hp => exact h.goto_returned hi (by simp [hp])

theorem pass (h : c.Sound) (hi : c.routines[i]? = some r₁) (hj : c.routines[j]? = some r₂)
    (hc : c.pass i j r₁ r₂ = some c') : c'.Sound := by
  have hf₁ := h.fits i r₁ hi
  have hf₂ := h.fits j r₂ hj
  simp only [Client.pass] at hc
  split at hc
  case h_4 => cases hc
  case h_1 err hp₁ hp₂ =>
    split at hc <;> cases hc
    simp only [Routine.Fits, hp₁] at hf₁
    have hne : j ≠ i := by rintro rfl; cases hi.symm.trans hj; simp [hp₁] at hp₂
    have hg : (c.goto i r₁ .closeConn).Sound := by
      refine h.goto hi (by simp [hp₁]) hf₁ fun _ k r' hk hh => ?_
      exact h.holder k i r' r₁ hk hi hh (by simp [hp₁, Pc.Holds])
    exact hg.connected (by rw [getElem?_goto_of_ne hne, hj]) (by simp [hp₂]) nofun
  case h_2 err hp₁ hp₂ =>
    simp only [Routine.Fits, hp₁] at hf₁
  case h_3 err hp₁ hp₂ =>
    split at hc <;> cases hc
    simp only [Routine.Fits, hp₂] at hf₂
    have hne : j ≠ i := by rintro rfl; cases hi.symm.trans hj; simp [hp₁] at hp₂
    have hg := h.goto_returned hi (by simp [hp₁])
    exact hg.goto_subscribe (by rw [getElem?_goto_of_ne hne, hj]) (by simp [hp₂]) hf₂

theorem receive (h : c.Sound) (hi : c.routines[i]? = some r) (hc : c.receive i r = some c') : c'.Sound := by
  have hf := h.fits i r hi
  simp only [Client.receive] at hc
  split at hc
  case h_3 => cases hc
  case h_1 hp =>
    split at hc <;> cases hc
    case isTrue hcl =>
      have ho := h.connOnce
      simp only [ErrCh.closed, bne_iff_ne] at hcl
      exact h.connected hi (by simp [hp]) fun _ => by omega
  case h_2 hp =>
    split at hc <;> cases hc
    simp only [Routine.Fits, hp] at hf
    exact h.goto_subscribe hi (by simp [hp]) hf

theorem sendLate (h : c.Sound) (hi : c.routines[i]? = some r) : c.sendLate i r = none := by
  have hf := h.fits i r hi
  simp only [Client.sendLate]
  split
  case h_1 hp =>
    simp only [Routine.Fits, hp] at hf
    simp [ErrCh.closed, hf.left]
  case h_2 => simp [h.subErrCh, ErrCh.closed, ErrCh.new]
  case h_3 => simp [h.subErrCh, ErrCh.closed, ErrCh.new]
  case h_4 => rfl

end Sound

theorem sound_step (h : c.Sound) (hp : c.ReportsOnce a) (hs : c.step a = some c') : c'.Sound := by
  cases a <;> simp only [step, Option.bind_eq_some_iff] at hs
  case connectServer i err =>
    obtain ⟨r, hi, hs⟩ := hs
    split at hs
    case isFalse => cases hs
    case isTrue hr =>
      have hn : r.pc ≠ .returned := by simp [hr]
      split at hs <;> cases hs
      case h_1 => exact h.connected hi hn nofun
      case h_2 => exact h.goto hi hn trivial False.elim
  case callback cb =>
    cases hs
    exact h.invoke hp
  case proceed i =>
    obtain ⟨r, hi, hs⟩ := hs
    exact h.proceed hi hs
  case quit i =>
    split at hs
    case isFalse => cases hs
    case isTrue =>
      obtain ⟨r, hi, hs⟩ := Option.bind_eq_some_iff.mp hs
      exact h.quit hi hs
  case pass i j =>
    obtain ⟨r₁, hi, r₂, hj, hs⟩ := hs
    exact h.pass hi hj hs
  case receive i =>
    obtain ⟨r, hi, hs⟩ := hs
    exact h.receive hi hs
  case sendLate i =>
    obtain ⟨r, hi, hs⟩ := hs
    simp [h.sendLate hi] at hs
  case disconnect =>
    cases hs
    exact h.disconnect
  case stop =>
    cases hs
    exact h.stop

-- If the library reports a single success, or else only failures, before the client is started, the
-- callbacks use the channels correctly.
theorem safe_of_reportsOnce (e : Execution step new as c) (h : Along step ReportsOnce new as) : c.Safe :=
  (e.preserves_along sound_step sound_new h).safe

def success : Callback :=
  .handleConn Callback.codeSuccess none

def networkError : Callback :=
  .handleNet (some .deadlineExceeded)

def reconnection : List Action :=
  [.connectServer 0 none,
   .callback success, .proceed 1, .proceed 1, .proceed 1, .receive 0,
   .proceed 0, .proceed 0, .callback (.handleSub none), .pass 2 0, .proceed 0, .proceed 0,
   .callback networkError, .proceed 3, .proceed 3, .proceed 3,
   .callback success, .proceed 4, .proceed 4, .proceed 4, .proceed 4]

theorem safe_of_reportsOnce_reconnection :
    ∃ c, Execution step new reconnection c ∧ Along step ReportsOnce new reconnection ∧
      c.routines[4]? = some ⟨some success, .subscribe .select⟩ ∧ c.Safe := by
  have hr : (reconnection.foldlM step new).any
    (·.routines[4]? == some ⟨some success, .subscribe .select⟩) := by decide
  have h : Along step ReportsOnce new reconnection := by decide
  obtain ⟨c, e, hc⟩ := Execution.exists_of_any hr
  exact ⟨c, e, h, by simpa using hc, safe_of_reportsOnce e h⟩

def connection : List Action :=
  [.connectServer 0 none, .callback success, .proceed 1, .proceed 1, .proceed 1]

def connectedTwice : List Action :=
  connection ++ [.callback success, .proceed 2, .proceed 2, .proceed 2]

def lostBefore : List Action :=
  connection ++ [.callback networkError, .proceed 2, .proceed 2, .proceed 2, .sendLate 2]

def lostMeanwhile : List Action :=
  connection ++
  [.receive 0, .proceed 0, .proceed 0, .callback networkError, .proceed 2, .proceed 2, .proceed 2, .pass 2 0,
   .proceed 2, .callback (.handleSub none), .sendLate 3]

-- A second success closes the channel again, a failure is sent on the closed channel, and a network error
-- closes the other one.
theorem not_safe_unstarted :
    (∃ c, Execution step new connectedTwice c ∧ c.connErrCh.closes = 2) ∧
    (∃ c, Execution step new lostBefore c ∧ c.connErrCh.lateSends = 1) ∧
    (∃ c, Execution step new lostMeanwhile c ∧ c.subErrCh.lateSends = 1) := by
  have h₁ : (connectedTwice.foldlM step new).any (·.connErrCh.closes == 2) := by decide
  have h₂ : (lostBefore.foldlM step new).any (·.connErrCh.lateSends == 1) := by decide
  have h₃ : (lostMeanwhile.foldlM step new).any (·.subErrCh.lateSends == 1) := by decide
  obtain ⟨c₁, e₁, h₁⟩ := Execution.exists_of_any h₁
  obtain ⟨c₂, e₂, h₂⟩ := Execution.exists_of_any h₂
  obtain ⟨c₃, e₃, h₃⟩ := Execution.exists_of_any h₃
  exact ⟨⟨c₁, e₁, by simpa using h₁⟩, ⟨c₂, e₂, by simpa using h₂⟩, ⟨c₃, e₃, by simpa using h₃⟩⟩

end Client
end Aranya.MQTT
