import Aranya.Connectivity.AMQP

namespace Aranya.AMQP

def ConnectAnswers.Ok (a : ConnectAnswers) : Prop :=
  a.dial = none ∧ a.channel = none ∧ a.exchangeDeclare = none

def QueueAnswers.Ok (a : QueueAnswers) : Prop :=
  a.queueDeclare = none ∧ a.queueBind = none ∧ a.consume = none

def ConnectAnswers.accepted : ConnectAnswers :=
  ⟨none, none, none⟩

def QueueAnswers.accepted : QueueAnswers :=
  ⟨none, none, none⟩

namespace Client

variable {delay : Nat → Nat} {c c' : Client} {a : Action} {as : List Action} {ca : ConnectAnswers}
    {msg will qa : QueueAnswers} {i j : Nat} {err : Bytes} {wait : Nat} {r : Routine} {k : Nat}

theorem connect_of_ok (h : ca.Ok) :
    c.connect ca =
    ({ c with session := some c.routines.length, routines := c.routines ++ [.watching] }, none) := by
  obtain ⟨h₁, h₂, h₃⟩ := h
  simp [connect, h₁, h₂, h₃]

theorem connect_of_not_ok (h : ¬ca.Ok) : ∃ err, c.connect ca = (c, some err) := by
  simp only [connect]
  split
  case h_1 => exact ⟨_, rfl⟩
  case h_2 h₁ =>
    split
    case h_1 => exact ⟨_, rfl⟩
    case h_2 h₂ =>
      split
      case h_1 => exact ⟨_, rfl⟩
      case h_2 h₃ => exact absurd ⟨h₁, h₂, h₃⟩ h

theorem doSubscribe_eq_none_iff {topic : Bytes} (hs : c.session = some k) :
    c.doSubscribe topic qa = none ↔ qa.Ok := by
  obtain ⟨d, b, m⟩ := qa
  cases d <;> cases b <;> cases m <;> simp [doSubscribe, hs, QueueAnswers.Ok]

theorem subscribe_of_ok (hs : c.session = some k) (h₁ : msg.Ok) (h₂ : will.Ok) :
    c.subscribe msg will = ({ c with receivers := c.receivers + 1 }, none) := by
  simp [subscribe, (doSubscribe_eq_none_iff hs).mpr h₁, (doSubscribe_eq_none_iff hs).mpr h₂]

theorem subscribe_of_not_ok (hs : c.session = some k) (h : ¬(msg.Ok ∧ will.Ok)) :
    ∃ err, c.subscribe msg will = (c, some err) := by
  simp only [subscribe]
  split
  case h_1 err _ => exact ⟨err, rfl⟩
  case h_2 h₁ =>
    split
    case h_1 err _ => exact ⟨err, rfl⟩
    case h_2 h₂ => exact absurd ⟨(doSubscribe_eq_none_iff hs).mp h₁, (doSubscribe_eq_none_iff hs).mp h₂⟩ h

def reconnected (c : Client) : Client :=
  { c with session := some c.routines.length, routines := c.routines ++ [.watching], connBackoff := 0 }

theorem reconnect_of_not_connected (h : ¬ca.Ok) :
    ∃ err, c.reconnect delay i ca msg will =
      (c.nextBackoff delay).fst.setRoutine i (.waiting err (delay c.connBackoff)) := by
  obtain ⟨err, he⟩ := connect_of_not_ok (c := c) h
  exact ⟨err, by simp [reconnect, he, nextBackoff, loop]⟩

theorem reconnect_of_not_subscribed (h : ca.Ok) (hs : ¬(msg.Ok ∧ will.Ok)) :
    c.reconnect delay i ca msg will = (c.reconnected.nextBackoff delay).fst.setRoutine i .returned := by
  obtain ⟨err, he⟩ := subscribe_of_not_ok (c := c.reconnected) rfl hs
  simp only [reconnected] at he
  simp [reconnect, connect_of_ok h, he, nextBackoff, loop, reconnected]

theorem reconnect_of_ok (h : ca.Ok) (hm : msg.Ok) (hw : will.Ok) :
    c.reconnect delay i ca msg will =
    { c.reconnected with
      receivers := c.receivers + 1
      rejections := c.rejections + 1 }.setRoutine i .returned := by
  have he := subscribe_of_ok (c := c.reconnected) rfl hm hw
  simp only [reconnected] at he
  simp [reconnect, connect_of_ok h, he, reconnected]

theorem getElem?_setRoutine_self (hi : i < c.routines.length) : (c.setRoutine i r).routines[i]? = some r := by
  simp [setRoutine, hi]

theorem getElem?_setRoutine_of_ne (hn : i ≠ j) : (c.setRoutine i r).routines[j]? = c.routines[j]? := by
  simp [setRoutine, hn]

theorem getElem?_reconnected (h : c.routines[j]? = some r) : c.reconnected.routines[j]? = some r := by
  have hj := (List.getElem?_eq_some_iff.mp h).fst
  rw [reconnected, List.getElem?_append_left hj, h]

theorem retries_of_not_connected (h : ¬ca.Ok) (hi : i < c.routines.length) :
    ∃ err, (c.reconnect delay i ca msg will).routines[i]? = some (.waiting err (delay c.connBackoff)) ∧
      (c.reconnect delay i ca msg will).rejections = c.rejections := by
  obtain ⟨err, he⟩ := reconnect_of_not_connected (c := c) h
  rw [he]
  exact ⟨err, getElem?_setRoutine_self hi, rfl⟩

theorem returns_of_not_subscribed (h : ca.Ok) (hs : ¬(msg.Ok ∧ will.Ok)) (hi : i < c.routines.length) :
    (c.reconnect delay i ca msg will).routines[i]? = some .returned := by
  rw [reconnect_of_not_subscribed h hs]
  apply getElem?_setRoutine_self
  simp only [nextBackoff, reconnected, List.length_append]
  omega

-- A routine that has lost its connection returns only after it has reconnected, subscribed and rejected the
-- agent. After a failure it waits for the next attempt.
structure Reconnects (delay : Nat → Nat) (c : Client) (a : Action) (c' : Client) : Prop where
  ended : ∀ i err wait, c.stopped = false → c.routines[i]? = some (.waiting err wait) →
    c'.routines[i]? = some .returned →
    ∃ ca msg will, a = .expired i ca msg will ∧ ca.Ok ∧ msg.Ok ∧ will.Ok ∧ c'.rejections = c.rejections + 1
  retried : ∀ i ca msg will, c.stopped = false → a = .expired i ca msg will → ¬(ca.Ok ∧ msg.Ok ∧ will.Ok) →
    ∃ err k, c'.routines[i]? = some (.waiting err (delay k)) ∧ c'.rejections = c.rejections

def Subscribes (c : Client) : Action → Prop
  | .expired _ ca msg will => c.stopped = false → ca.Ok → msg.Ok ∧ will.Ok
  | _ => True

theorem step_waiting (h : c.step delay a = some c') (hs : c.stopped = false)
    (hw : c.routines[j]? = some (.waiting err wait)) (ha : ∀ ca msg will, a ≠ .expired j ca msg will) :
    c'.routines[j]? = some (.waiting err wait) := by
  cases a
  case connect ca =>
    cases h
    by_cases hc : ca.Ok
    case pos => rw [connect_of_ok hc]; exact getElem?_reconnected hw
    case neg =>
      obtain ⟨err, he⟩ := connect_of_not_ok (c := c) hc
      rw [he]
      exact hw
  case subscribe msg will =>
    cases h
    simp only [subscribe]
    split
    case h_1 => exact hw
    case h_2 => split <;> exact hw
  case disconnect => cases h; exact hw
  case stop => cases h; exact hw
  case exit i => simp [step, hs] at h
  case closed i e =>
    simp only [step, Option.ite_none_right_eq_some, Option.some.injEq] at h
    obtain ⟨hi, rfl⟩ := h
    have hn : i ≠ j := by
      rintro rfl
      simp [hw] at hi
    simp only [onClosed]
    split
    case isTrue => rwa [getElem?_setRoutine_of_ne hn]
    case isFalse => rwa [getElem?_setRoutine_of_ne hn]
  case expired i ca msg will =>
    have hn : i ≠ j := by
      rintro rfl
      exact ha ca msg will rfl
    simp only [step] at h
    split at h <;> cases h
    by_cases hc : ca.Ok
    case neg =>
      obtain ⟨err, he⟩ := reconnect_of_not_connected (c := c) hc
      rw [he, getElem?_setRoutine_of_ne hn]
      exact hw
    case pos =>
      by_cases hq : msg.Ok ∧ will.Ok
      case pos =>
        rw [reconnect_of_ok hc hq.left hq.right, getElem?_setRoutine_of_ne hn]
        exact getElem?_reconnected hw
      case neg =>
        rw [reconnect_of_not_subscribed hc hq, getElem?_setRoutine_of_ne hn]
        exact getElem?_reconnected hw

theorem step_expired (h : c.step delay (.expired i ca msg will) = some c') :
    i < c.routines.length ∧ c' = c.reconnect delay i ca msg will := by
  simp only [step] at h
  split at h
  case h_2 => cases h
  case h_1 hi =>
    cases h
    exact ⟨(List.getElem?_eq_some_iff.mp hi).fst, rfl⟩

theorem step_reconnects_iff (h : c.step delay a = some c') : c.Reconnects delay a c' ↔ c.Subscribes a := by
  constructor
  case mp =>
    intro hr
    cases a
    case expired i ca msg will =>
      intro hs hc
      obtain ⟨hi, rfl⟩ := step_expired h
      by_contra hq
      obtain ⟨err, k, he, -⟩ := hr.retried i ca msg will hs rfl fun ho => hq ho.right
      rw [returns_of_not_subscribed hc hq hi] at he
      cases he
    all_goals trivial
  case mpr =>
    intro hp
    constructor
    case ended =>
      intro i err wait hs hw hr
      by_cases ha : ∀ ca msg will, a ≠ .expired i ca msg will
      case pos =>
        rw [step_waiting h hs hw ha] at hr
        cases hr
      case neg =>
        push Not at ha
        obtain ⟨ca, msg, will, rfl⟩ := ha
        obtain ⟨hi, rfl⟩ := step_expired h
        by_cases hc : ca.Ok
        case neg =>
          obtain ⟨err, he, -⟩ := retries_of_not_connected hc hi
          cases he.symm.trans hr
        case pos =>
          obtain ⟨hm, hw⟩ := hp hs hc
          exact ⟨ca, msg, will, rfl, hc, hm, hw, by rw [reconnect_of_ok hc hm hw]; rfl⟩
    case retried =>
      rintro i ca msg will hs rfl hn
      obtain ⟨hi, rfl⟩ := step_expired h
      have hc : ¬ca.Ok := fun hc => hn ⟨hc, hp hs hc⟩
      obtain ⟨err, he⟩ := retries_of_not_connected hc hi
      exact ⟨err, c.connBackoff, he⟩

-- All routines of a client reconnect as they should iff a new connection is never followed by a subscription
-- that fails.
theorem reconnects_iff (ex : Execution (step delay) c as c') :
    (∀ pre a s s', pre ++ [a] <+: as → Execution (step delay) c pre s → s.step delay a = some s' →
      s.Reconnects delay a s') ↔
    Along (step delay) Subscribes c as :=
  ex.steps_iff_along (J := fun _ => True) (fun _ _ _ => trivial) (fun _ => step_reconnects_iff) trivial

def lost : List Action :=
  [.connect .accepted, .subscribe .accepted .accepted, .closed 0 (some (str "EOF"))]

theorem reconnects_iff_retried :
    let as := lost ++ [.expired 0 ⟨some (str "refused"), none, none⟩ .accepted .accepted,
      .expired 0 .accepted .accepted .accepted]
    ∃ c, Execution (step id) (new [1] [2]) as c ∧ c.rejections = 1 ∧
      ∀ pre a s s', pre ++ [a] <+: as → Execution (step id) (new [1] [2]) pre s → s.step id a = some s' →
        s.Reconnects id a s' := by
  intro as
  obtain ⟨c, ex, hr⟩ : ∃ c, Execution (step id) (new [1] [2]) as c ∧ c.rejections = 1 :=
    ⟨_, .of_foldlM rfl, rfl⟩
  have hs : Along (step id) Subscribes (new [1] [2]) as :=
    .cons trivial rfl <| .cons trivial rfl <| .cons trivial rfl <|
    .cons (fun _ h => by simp [ConnectAnswers.Ok] at h) rfl <|
    .cons (fun _ _ => ⟨⟨rfl, rfl, rfl⟩, ⟨rfl, rfl, rfl⟩⟩) rfl trivial
  exact ⟨c, ex, hr, (reconnects_iff ex).mpr hs⟩

-- The subscriptions fail, and there is no further attempt.
theorem not_reconnects_unsubscribed :
    let failed : QueueAnswers := ⟨none, some (str "refused"), none⟩
    ∃ c c', Execution (step id) (new [1] [2]) lost c ∧ c.stopped = false ∧
      c.routines = [.waiting (str "EOF") 0] ∧
      c.step id (.expired 0 .accepted failed .accepted) = some c' ∧
      c'.routines = [.returned, .watching] ∧ c'.rejections = 0 ∧ c'.receivers = 1 ∧
      ¬c.Reconnects id (.expired 0 .accepted failed .accepted) c' := by
  intro failed
  refine ⟨_, _, .of_foldlM rfl, rfl, rfl, rfl, rfl, rfl, rfl, fun h => ?_⟩
  have hn : ¬failed.Ok := by simp [failed, QueueAnswers.Ok]
  obtain ⟨err, k, he, -⟩ := h.retried 0 _ _ _ rfl rfl fun ho => hn ho.right.left
  cases he

end Client
end Aranya.AMQP
