import Aranya.Connectivity.Theorems.SessionManager

namespace Aranya.SessionManager

open Std (ExtTreeMap)

variable {τ : Type*} {f : TimedSessionFuncs τ} {m m' m₁ m₂ m₃ : SessionManager τ} {s : Session} {a : Action}
    {as bs : List Action} {sid realSid i c : Nat} {msg : Msg} {l : List (Nat × Nat)}

structure Evolves (m m' : SessionManager τ) : Prop where
  sid : m.sid ≤ m'.sid
  msgNext : m.world.msgChs.next ≤ m'.world.msgChs.next
  sessions : ∀ {i : Nat} {s' : Session}, m'.sessions[i]? = some s' →
    ∃ s, m.sessions[i]? = some s ∧ s'.msgCh = s.msgCh

namespace Evolves

theorem refl : m.Evolves m where
  sid := le_rfl
  msgNext := le_rfl
  sessions h := ⟨_, h, rfl⟩

theorem trans (h₁ : m₁.Evolves m₂) (h₂ : m₂.Evolves m₃) : m₁.Evolves m₃ where
  sid := h₁.sid.trans h₂.sid
  msgNext := h₁.msgNext.trans h₂.msgNext
  sessions h :=
    have ⟨_, h', e'⟩ := h₂.sessions h
    have ⟨s, h, e⟩ := h₁.sessions h'
    ⟨s, h, e'.trans e⟩

theorem insert {s' : Session} {w : World} {x : τ} (hs : m.sessions[i]? = some s)
    (hc : s'.msgCh = s.msgCh) (hw : m.world.msgChs.next ≤ w.msgChs.next) :
    m.Evolves { m with sessions := m.sessions.insert i s', world := w, timed := x } where
  sid := le_rfl
  msgNext := hw
  sessions h := by
    simp only [ExtTreeMap.getElem?_insert, Nat.compare_eq_eq] at h
    split at h
    case isTrue hi => cases h; exact ⟨s, hi ▸ hs, hc⟩
    case isFalse => exact ⟨_, h, rfl⟩

theorem erase {w : World} {x : τ} (hw : m.world.msgChs.next ≤ w.msgChs.next) :
    m.Evolves { m with sessions := m.sessions.erase i, world := w, timed := x } where
  sid := le_rfl
  msgNext := hw
  sessions h := by
    simp only [ExtTreeMap.getElem?_erase, Nat.compare_eq_eq] at h
    split at h
    case isTrue => cases h
    case isFalse => exact ⟨_, h, rfl⟩

end Evolves

theorem delete_evolves : m.Evolves (m.delete f sid) := by
  simp only [delete]
  split
  case h_1 => exact .refl
  case h_2 => exact .erase Session.close_msgNext.ge

theorem setStream_evolves {dataOut errOut canWrite} :
    m.Evolves (m.setStream f sid dataOut errOut canWrite).fst := by
  rcases setStream_cases (f := f) (m := m) with h | h | ⟨s, hs, _, h⟩ <;> rw [h]
  case inl => exact .refl
  case inr.inl => exact { Evolves.refl with }
  case inr.inr => exact .insert hs rfl le_rfl

theorem dispatch_evolves {b} (v : m.Valid) (h : m.dispatch f msg = .ok (m', b)) : m.Evolves m' := by
  rcases dispatch_cases v h with ⟨_, rfl, _⟩ | ⟨s, s₁, w₁, hs, ha, hw, _, rfl, _⟩
  case inl => exact .refl
  case inr =>
    simp only [settled]
    split
    case isTrue => exact .erase (Session.close_msgNext.trans hw.msgNext).ge
    case isFalse => exact .insert hs ha.msgCh hw.msgNext.ge

theorem foldl_closeNonStream_msgNext {l : List (Nat × Session)} :
    (l.foldl (closeNonStream f) m).world.msgChs.next = m.world.msgChs.next := by
  induction l generalizing m
  case nil => rfl
  case cons e l hi =>
    rw [List.foldl_cons, hi, closeNonStream]
    split
    case isTrue => rfl
    case isFalse => exact Session.close_msgNext

theorem cleanup_evolves {now} : m.Evolves (m.cleanup f now) where
  sid := by simp only [cleanup]; split <;> omega
  msgNext := foldl_closeNonStream_msgNext.ge
  sessions h := ⟨_, (cleanup_getElem? h).left, rfl⟩

theorem handleTimeout_evolves {h : SessionTimeoutHandle} (v : m.Valid)
    (ht : m.handleTimeout f h = .ok m') : m.Evolves m' := by
  cases h <;> simp only [handleTimeout] at ht
  case session =>
    split at ht <;> cases ht
    case h_2.refl hd => exact (dispatch_evolves v hd).trans delete_evolves
  case streamCreation =>
    split at ht <;> cases ht
    case isTrue.refl => exact .refl
    case isFalse.refl => exact { Evolves.refl with }

def created (f : TimedSessionFuncs τ) (m : SessionManager τ) : Action → Option (Nat × Nat)
  | .call (.add sid stream keepPacket) =>
    if sid ∈ m.sessions then
      none
    else
      match m.add f sid stream keepPacket with
      | .ok (_, realSid, some ch) => some (realSid, ch)
      | _ => none
  | _ => none

def issued (f : TimedSessionFuncs τ) : SessionManager τ → List Action → List (Nat × Nat)
  | _, [] => []
  | m, a :: as =>
    (m.created f a).toList ++
    match m.step f a with
    | none => []
    | some m' => issued f m' as

theorem issued_concat (e : Execution (step f) m as m') :
    issued f m (as ++ [a]) = issued f m as ++ (m'.created f a).toList := by
  induction e
  case refl =>
    simp only [List.nil_append, issued]
    split <;> simp
  case trans h _ hi => simp [issued, h, hi]

theorem add_of_mem (hs : m.sessions[sid]? = some s) (stream keepPacket : Bool) :
    m.add f sid stream keepPacket = .ok (m, sid, s.msgCh) := by
  simp [add, hs]

theorem add_of_nextSid (hn : m.sessions[sid]? = none) (hr : m.nextSid = some realSid)
    (stream keepPacket : Bool) :
    m.add f sid stream keepPacket =
    .ok (m.added f sid realSid stream keepPacket, realSid, some m.world.msgChs.next) := by
  simp [add, hn, hr, added]

theorem step_evolves_or_creates (v : m.Valid) (h : m.step f a = some m') :
    (m.Evolves m' ∧ m.created f a = none) ∨
    (∃ sid stream keepPacket realSid, a = .call (.add sid stream keepPacket) ∧
      sid ∉ m.sessions ∧ m.nextSid = some realSid ∧
      m' = m.added f sid realSid stream keepPacket ∧
      m.created f a = some (realSid, m.world.msgChs.next)) := by
  cases a
  case timeout => exact .inl ⟨handleTimeout_evolves v (Except.toOption_eq_some_iff.mp h), rfl⟩
  case call =>
    cases call_moves (Except.toOption_eq_some_iff.mp h)
    case create hn hr =>
      have hn' := notMem_of_getElem? hn
      exact .inr ⟨_, _, _, _, rfl, hn', hr, rfl, by simp [created, hn', add_of_nextSid hn hr]⟩
    case reuse hs =>
      have hs := mem_of_getElem? hs
      exact .inl ⟨.refl, by simp [created, hs]⟩
    case setStream => exact .inl ⟨setStream_evolves, rfl⟩
    case dispatch hd => exact .inl ⟨dispatch_evolves v hd, rfl⟩
    case delete => exact .inl ⟨delete_evolves, rfl⟩
    case cleanup => exact .inl ⟨cleanup_evolves, rfl⟩
    case recv => exact .inl ⟨{ Evolves.refl with }, rfl⟩
    case signal => exact .inl ⟨{ Evolves.refl with }, rfl⟩

def NoWrap (m : SessionManager τ) : Action → Prop
  | .call (.add sid _ _) => sid ∉ m.sessions → m.sid + 1 < 2 ^ 64
  | _ => True

structure Issues (l : List (Nat × Nat)) (m : SessionManager τ) : Prop where
  valid : m.Valid
  bound : ∀ p ∈ l, p.fst ≤ m.sid ∧ p.snd < m.world.msgChs.next
  origin : ∀ {i : Nat} {s : Session}, m.sessions[i]? = some s → ∃ c, s.msgCh = some c ∧ (i, c) ∈ l

namespace Issues

theorem new {now world timed} : Issues [] (new now world timed : SessionManager τ) where
  valid := .new now
  bound := by simp
  origin h := by simp [SessionManager.new] at h

theorem evolves (h : Issues l m) (he : m.Evolves m') (v : m'.Valid) : Issues l m' where
  valid := v
  bound p h' :=
    have ⟨h₁, h₂⟩ := h.bound p h'
    ⟨h₁.trans he.sid, h₂.trans_le he.msgNext⟩
  origin hs :=
    have ⟨_, hs, hc⟩ := he.sessions hs
    have ⟨c, hc', h⟩ := h.origin hs
    ⟨c, hc.trans hc', h⟩

theorem le_sid (h : Issues l m) (hs : m.sessions[i]? = some s) : i ≤ m.sid :=
  have ⟨_, _, h'⟩ := h.origin hs
  (h.bound _ h').left

theorem nextSid (h : Issues l m) (hw : m.sid + 1 < 2 ^ 64) : m.nextSid = some (m.sid + 1) := by
  have hn : m.sid + 1 ∉ m.sessions := by
    intro hm
    have ⟨s, hs⟩ := Option.isSome_iff_exists.mp <| ExtTreeMap.mem_iff_isSome_getElem?.mp hm
    have := h.le_sid hs
    omega
  rw [SessionManager.nextSid, Nat.mod_eq_of_lt hw]
  cases m.sessions.size <;> simp [nextSid.go, hn]

theorem added {stream keepPacket} (h : Issues l m) :
    Issues (l ++ [(m.sid + 1, m.world.msgChs.next)])
      (m.added f sid (m.sid + 1) stream keepPacket) where
  valid := h.valid.added
  bound := by
    intro p hp
    rcases List.mem_append.mp hp with hp | hp
    case inl =>
      obtain ⟨h₁, h₂⟩ := h.bound p hp
      exact ⟨Nat.le_succ_of_le h₁, Nat.lt_succ_of_lt h₂⟩
    case inr => rw [List.mem_singleton.mp hp]; exact ⟨le_rfl, Nat.lt_succ_self _⟩
  origin {i _} hs := by
    simp only [SessionManager.added, ExtTreeMap.getElem?_insert, Nat.compare_eq_eq] at hs
    split at hs
    case isTrue hi => cases hs; cases hi; exact ⟨_, rfl, by simp⟩
    case isFalse =>
      obtain ⟨c, hc, h⟩ := h.origin hs
      exact ⟨c, hc, List.mem_append_left _ h⟩

theorem step (h : Issues l m) (hw : m.NoWrap a) (hs : m.step f a = some m') :
    Issues (l ++ (m.created f a).toList) m' := by
  rcases step_evolves_or_creates h.valid hs with
    ⟨he, hc⟩ | ⟨sid, stream, keepPacket, realSid, rfl, hn, hr, rfl, hc⟩ <;> rw [hc]
  case inl => simpa using h.evolves he (h.valid.step hs)
  case inr =>
    cases hr.symm.trans <| h.nextSid (hw hn)
    exact h.added

theorem execution (e : Execution (SessionManager.step f) m as m') (h : Issues [] m)
    (hw : Along (SessionManager.step f) NoWrap m as) : Issues (issued f m as) m' := by
  have hi := e.preserves_history
    (I := fun pre m₁ => Execution (SessionManager.step f) m pre m₁ ∧ Issues (issued f m pre) m₁)
    ?_ ⟨.refl, h⟩ hw
  case refine_1 =>
    intro pre m₁ a m₂ ⟨e, h⟩ hw hs
    exact ⟨e.append (.single hs), issued_concat e ▸ h.step hw hs⟩
  exact hi.right

end Issues

structure Adds (l : List (Nat × Nat)) (m m' : SessionManager τ) (sid realSid ch : Nat) : Prop where
  reuses : (∃ (i : Nat) (s : Session), m.sessions[i]? = some s ∧ s.msgCh = some ch) ↔ sid ∈ m.sessions
  reused : ∀ s : Session, m.sessions[sid]? = some s → m' = m ∧ realSid = sid ∧ s.msgCh = some ch
  fresh : sid ∉ m.sessions → ∀ p ∈ l, p.fst < realSid ∧ p.snd ≠ ch
  registered : ∃ s : Session, m'.sessions[realSid]? = some s ∧ s.msgCh = some ch

theorem adds_of_mem (hs : m.sessions[sid]? = some s) (hc : s.msgCh = some c) : Adds l m m sid sid c where
  reuses := iff_of_true ⟨sid, s, hs, hc⟩ (mem_of_getElem? hs)
  reused t ht := by cases hs ▸ ht; exact ⟨rfl, rfl, hc⟩
  fresh hn := absurd (mem_of_getElem? hs) hn
  registered := ⟨s, hs, hc⟩

theorem Issues.adds_of_notMem {stream keepPacket} (h : Issues l m) (hn : m.sessions[sid]? = none) :
    Adds l m (m.added f sid (m.sid + 1) stream keepPacket) sid (m.sid + 1) m.world.msgChs.next where
  reused s hs := by cases hn ▸ hs
  registered := ⟨_, ExtTreeMap.getElem?_insert_self, rfl⟩
  fresh _ p hp :=
    have ⟨h₁, h₂⟩ := h.bound p hp
    ⟨Nat.lt_succ_of_le h₁, h₂.ne⟩
  reuses := by
    refine iff_of_false ?_ (notMem_of_getElem? hn)
    intro ⟨i, s, hs, hc⟩
    have ⟨c, hc', hl⟩ := h.origin hs
    cases hc.symm.trans hc'
    exact (h.bound _ hl).right.false

theorem Issues.adds (h : Issues l m) (stream keepPacket : Bool)
    (hw : m.NoWrap (.call (.add sid stream keepPacket))) :
    ∃ m' realSid ch, m.add f sid stream keepPacket = .ok (m', realSid, some ch) ∧
      Adds l m m' sid realSid ch := by
  cases hs : m.sessions[sid]?
  case some s =>
    have ⟨c, hc, _⟩ := h.origin hs
    exact ⟨m, sid, c, hc ▸ add_of_mem hs stream keepPacket, adds_of_mem hs hc⟩
  case none =>
    have hr := h.nextSid <| hw (notMem_of_getElem? hs)
    exact ⟨_, _, _, add_of_nextSid hs hr stream keepPacket, h.adds_of_notMem hs⟩

theorem Issues.ended (h : Issues l m) (hl : (i, c) ∈ l) (hn : m.sessions[i]? = none)
    (e : Execution (SessionManager.step f) m bs m')
    (hw : Along (SessionManager.step f) NoWrap m bs) : m'.sessions[i]? = none := by
  have hi := e.preserves_along
    (I := fun m => ∃ l, Issues l m ∧ (i, c) ∈ l ∧ m.sessions[i]? = none) ?_ ⟨l, h, hl, hn⟩ hw
  case refine_1 =>
    rintro m a m' ⟨l, h, hl, hn⟩ hw hs
    refine ⟨_, h.step hw hs, List.mem_append_left _ hl, ?_⟩
    rcases step_evolves_or_creates h.valid hs with ⟨he, _⟩ | ⟨sid, _, _, realSid, rfl, hf, hr, rfl, _⟩
    case inl =>
      by_contra hc
      obtain ⟨_, hc⟩ := Option.ne_none_iff_exists'.mp hc
      obtain ⟨_, hs, _⟩ := he.sessions hc
      cases hn ▸ hs
    case inr =>
      cases hr.symm.trans <| h.nextSid (hw hf)
      have hi : m.sid + 1 ≠ i := by
        have := (h.bound _ hl).left
        simp at this
        omega
      simp [SessionManager.added, ExtTreeMap.getElem?_insert, hi, hn]
  obtain ⟨_, _, _, hn⟩ := hi
  exact hn

-- As long as the counter does not wrap around, messages for a session that has ended reach no other one.
theorem sids_increase {now world timed}
    (e : Execution (step f) (new now world timed : SessionManager τ) as m)
    (hw : Along (step f) NoWrap (new now world timed) as) :
    (∀ sid stream keepPacket, m.NoWrap (.call (.add sid stream keepPacket)) →
      ∃ m' realSid ch, m.add f sid stream keepPacket = .ok (m', realSid, some ch) ∧
        Adds (issued f (new now world timed) as) m m' sid realSid ch) ∧
    (∀ i c, (i, c) ∈ issued f (new now world timed) as → i ∉ m.sessions →
      ∀ bs m', Execution (step f) m bs m' → Along (step f) NoWrap m bs →
      ∀ msg : Msg, msg.sid = i → m'.dispatch f msg = .ok (m', false)) := by
  have h := Issues.new.execution e hw
  refine ⟨fun sid stream keepPacket hw => h.adds stream keepPacket hw, ?_⟩
  intro i c hl hn bs m' e' hw' msg hm
  have hn := h.ended hl (ExtTreeMap.getElem?_eq_none hn) e' hw'
  simp [dispatch, hm, hn]

theorem sids_increase_backwards :
    let m₀ := new 5 .empty ()
    let as : List Action := [.call (.add 0 false false), .call (.delete 6), .call (.cleanup 3)]
    let m := ((m₀.added .ignore 0 6 false false).delete .ignore 6).cleanup .ignore 3
    issued .ignore m₀ as = [(6, 0)] ∧
    (∀ sid stream keepPacket, m.NoWrap (.call (.add sid stream keepPacket)) →
      ∃ m' realSid ch, m.add .ignore sid stream keepPacket = .ok (m', realSid, some ch) ∧
        Adds (issued .ignore m₀ as) m m' sid realSid ch) ∧
    (∀ i c, (i, c) ∈ issued .ignore m₀ as → i ∉ m.sessions →
      ∀ bs m', Execution (step .ignore) m bs m' → Along (step .ignore) NoWrap m bs →
      ∀ msg : Msg, msg.sid = i → m'.dispatch .ignore msg = .ok (m', false)) := by
  intro m₀ as m
  have hw : Along (step .ignore) NoWrap m₀ as := by
    refine ⟨fun _ => by decide, fun m₁ _ => ⟨trivial, fun m₂ _ => ⟨trivial, fun m₃ _ => trivial⟩⟩⟩
  exact ⟨rfl, sids_increase (.of_foldlM rfl) hw⟩

end Aranya.SessionManager
