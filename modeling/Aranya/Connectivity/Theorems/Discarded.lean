import Aranya.Connectivity.Theorems.StreamDelivery

namespace Aranya

namespace Writer

variable {w w' : Writer} {data : Bytes} {err : Option Bytes}

theorem write_appends {n} (h : w.write data = (w', n, err)) :
    w.Appends w' (data.take n) ∧ (err = none → data ≠ [] → data.take n ≠ []) := by
  simp only [write] at h
  cases h
  refine ⟨⟨rfl, rfl⟩, fun he hd => ?_⟩
  rw [ne_eq, List.take_eq_nil_iff, not_or]
  exact ⟨(w.progress w.calls data hd he).ne', hd⟩

theorem writeAll_go_appends {k} (h : writeAll.go k w data = (w', err)) :
    ∃ l, w.Appends w' l ∧ (w.Reliable → data ≠ [] → 0 < k → l ≠ []) := by
  induction k generalizing w data
  case zero =>
    cases h
    exact ⟨[], .refl, by simp⟩
  case succ k hi =>
    cases data
    case nil =>
      cases h
      exact ⟨[], .refl, by simp⟩
    case cons b bs =>
      simp only [writeAll.go] at h
      split at h
      case h_1 w₁ n err' hw =>
        obtain ⟨h₁, h₂⟩ := write_appends hw
        cases h
        refine ⟨_, h₁, fun hr => ?_⟩
        have he := hr w.calls (b :: bs)
        simp only [write, he] at hw
        cases hw
      case h_2 w₁ n hw =>
        obtain ⟨h₁, h₂⟩ := write_appends hw
        obtain ⟨l, h₃, -⟩ := hi h
        exact ⟨_, h₁.trans h₃, fun _ hd _ hl => h₂ rfl hd (List.append_eq_nil_iff.mp hl).left⟩

theorem writePacket_grows {p} (h : w.writePacket p data = (w', err)) :
    ∃ l, w.Appends w' l ∧ (w.Reliable → p = true ∨ data ≠ [] → l ≠ []) := by
  simp only [writePacket] at h
  split at h
  case isFalse hp =>
    obtain ⟨l, h₁, h₂⟩ := writeAll_go_appends h
    refine ⟨l, h₁, fun hr hd => ?_⟩
    have hd := hd.resolve_left hp
    exact h₂ hr hd (List.length_pos_of_ne_nil hd)
  case isTrue =>
    have hs : Wire.encodeVarint data.length ≠ [] := by
      simp only [Wire.encodeVarint, Wire.encodeVarint.go]
      split <;> simp
    split at h
    case h_1 w₁ n err' hw =>
      obtain ⟨h₁, -⟩ := write_appends hw
      cases h
      refine ⟨_, h₁, fun hr => ?_⟩
      simp only [write, hr w.calls] at hw
      cases hw
    case h_2 w₁ n hw =>
      obtain ⟨h₁, h₂⟩ := write_appends hw
      obtain ⟨l, h₃, -⟩ := writeAll_go_appends h
      exact ⟨_, h₁.trans h₃, fun _ _ hl => h₂ rfl hs (List.append_eq_nil_iff.mp hl).left⟩

end Writer

def Data.Mute (p : Bool) (o e : WriterRef) (d : Data) : Prop :=
  (p = false ∧ d.payload = []) ∨ (if d.kind = .dataStderr then e else o) = .discard

namespace World

variable {w w' w'' : World} {o e : WriterRef} {mute mute' : Prop}

-- The output streams only get more data, and none if `mute` holds.
structure Shows (w w' : World) (o e : WriterRef) (mute : Prop) : Prop where
  appends : ∀ i, ∃ l, (w.writers i).Appends (w'.writers i) l
  silent : mute → ∀ i, (w'.writers i).written = (w.writers i).written
  loud : (∀ i, o = .out i ∨ e = .out i → (w.writers i).Reliable) →
    (∀ i, (w'.writers i).written = (w.writers i).written) → mute

namespace Shows

theorem of_writers_eq (h : w'.writers = w.writers) (hm : mute) : w.Shows w' o e mute where
  appends i := ⟨[], h ▸ .refl⟩
  silent _ i := by rw [h]
  loud _ _ := hm

theorem congr (h : w.Shows w' o e mute) (hm : mute ↔ mute') : w.Shows w' o e mute' where
  appends := h.appends
  silent h' := h.silent (hm.mpr h')
  loud hr h' := hm.mp (h.loud hr h')

theorem writers_eq (h : w.Shows w' o e mute) (hw : w''.writers = w'.writers) : w.Shows w'' o e mute where
  appends := by simpa [hw] using h.appends
  silent := by simpa [hw] using h.silent
  loud := by simpa [hw] using h.loud

theorem trans (h₁ : w.Shows w' o e mute) (h₂ : w'.Shows w'' o e mute') : w.Shows w'' o e (mute ∧ mute') where
  appends i := by
    obtain ⟨l₁, a₁⟩ := h₁.appends i
    obtain ⟨l₂, a₂⟩ := h₂.appends i
    exact ⟨l₁ ++ l₂, a₁.trans a₂⟩
  silent hm i := (h₂.silent hm.right i).trans (h₁.silent hm.left i)
  loud hr hw := by
    -- what is written later cannot undo what has been written before
    have hs : ∀ i, (w'.writers i).written = (w.writers i).written := by
      intro i
      obtain ⟨l₁, a₁⟩ := h₁.appends i
      obtain ⟨l₂, a₂⟩ := h₂.appends i
      have hl := hw i
      rw [a₂.written, a₁.written, List.append_assoc, List.append_right_eq_self] at hl
      rw [a₁.written, (List.append_eq_nil_iff.mp hl).left, List.append_nil]
    refine ⟨h₁.loud hr hs, h₂.loud (fun i hi => ?_) fun i => (hw i).trans (hs i).symm⟩
    obtain ⟨l₁, a₁⟩ := h₁.appends i
    exact a₁.reliable (hr i hi)

end Shows
end World

namespace Session

variable {s s' : Session} {w w' : World} {o e : WriterRef} {ret sid n i : Nat} {d : Data}

-- A stream for which someone else has told that it is ready.
structure Discarded (s : Session) (w : World) (o e : WriterRef) (ret : Nat) : Prop where
  opened : s._closed = false
  isStream : s.isStream = true
  dataOut : s.dataOut = some o
  errOut : s.errOut = some e
  streamReady : s.streamReady = some ret
  ready : (w.signals.chan ret).closed = true

theorem Discarded.writeTarget {err} (h : s.Discarded w o e ret)
    (hw : s.writeTarget w d.kind d.payload = .ok (s', w', err)) :
    w.Shows w' o e (d.Mute s.prependSize o e) ∧ w'.signals = w.signals := by
  simp only [Session.writeTarget, target_of_outputs h.dataOut h.errOut] at hw
  split at hw
  case isTrue hp =>
    cases hw
    exact ⟨.of_writers_eq rfl (.inl (by simpa using hp)), rfl⟩
  case isFalse hp =>
    generalize ht : (if d.kind = .dataStderr then e else o) = r at hw
    cases r
    case discard =>
      cases hw
      exact ⟨.of_writers_eq rfl (.inr ht), rfl⟩
    case out j =>
      simp only [World.write] at hw
      generalize hx : (w.writers j).writePacket s.prependSize d.payload = x at hw
      obtain ⟨x, err'⟩ := x
      obtain ⟨l, ha, hl⟩ := Writer.writePacket_grows hx
      cases hw
      have hj : o = .out j ∨ e = .out j := by
        split at ht
        case isTrue => exact .inr ht
        case isFalse => exact .inl ht
      have hn : ¬d.Mute s.prependSize o e := by
        simp only [Data.Mute, ht, reduceCtorEq, or_false]
        simpa using hp
      refine ⟨{ appends := fun i => ?_, silent := fun hm => absurd hm hn, loud := fun hr hw => ?_ }, rfl⟩
      case refine_1 =>
        by_cases hi : i = j
        case pos => exact ⟨l, by simpa [hi] using ha⟩
        case neg => exact ⟨[], by simpa [hi] using .refl⟩
      case refine_2 =>
        have hs := hw j
        simp only [Function.update_self, ha.written, List.append_right_eq_self] at hs
        refine absurd hs (hl (hr j hj) ?_)
        simpa [Classical.or_iff_not_imp_left] using hp

theorem Discarded.writeToStream {err} (h : s.Discarded w o e ret) (hr : s._streamReady = true)
    (hw : s.writeToStream w d.kind d.payload = .ok (s', w', err)) :
    s' = s ∧ w.Shows w' o e (d.Mute s.prependSize o e) ∧ w'.signals = w.signals := by
  simp only [Session.writeToStream, h.isStream, Session.notifyReady, hr, Bool.not_true, Bool.false_eq_true,
    if_false, if_true] at hw
  split at hw
  case h_1 => exact ⟨(writeTarget_spec hw).left, h.writeTarget hw⟩
  case h_2 =>
    split at hw
    case isTrue => exact ⟨(writeTarget_spec hw).left, h.writeTarget hw⟩
    case isFalse => simp [h.opened] at hw

theorem sendMsg_frame {msg} (h : s.sendMsg w msg = .ok w') : w'.writers = w.writers ∧ w'.signals = w.signals := by
  simp only [sendMsg] at h
  split at h
  case isTrue => cases h; exact ⟨rfl, rfl⟩
  case isFalse =>
    split at h
    case h_1 => cases h
    case h_2 => split at h <;> cases h; exact ⟨rfl, rfl⟩

theorem Discarded.writeData (h : s.Discarded w o e ret) (hw : s.writeData w sid d = .ok (s', w')) :
    s' = { s with _streamReady := true } ∧ s'.Discarded w' o e ret ∧
      w.Shows w' o e (s._streamReady = true → d.Mute s.prependSize o e) := by
  simp only [Session.writeData] at hw
  cases hs : s._streamReady
  case false =>
    have hd : s.writeToStream w d.kind d.payload =
        .ok ({ s with _streamReady := true }, w, some errNotSupported) := by
      simp [Session.writeToStream, h.isStream, Session.notifyReady, hs, h.streamReady, h.ready]
    simp only [hd] at hw
    split at hw <;> cases hw
    case h_2.refl hm =>
      obtain ⟨h₁, h₂⟩ := sendMsg_frame hm
      exact ⟨rfl, { h with ready := h₂ ▸ h.ready }, .of_writers_eq h₁ (by simp)⟩
  case true =>
    have he : { s with _streamReady := true } = s := by rw [← hs]
    simp only [true_implies, he]
    split at hw
    case h_1 => cases hw
    case h_2 hd =>
      cases hw
      obtain ⟨rfl, h₁, h₂⟩ := h.writeToStream hs hd
      exact ⟨rfl, { h with ready := h₂ ▸ h.ready }, h₁⟩
    case h_3 hd =>
      obtain ⟨rfl, h₁, h₂⟩ := h.writeToStream hs hd
      split at hw <;> cases hw
      case h_2.refl hm =>
        obtain ⟨h₃, h₄⟩ := sendMsg_frame hm
        refine ⟨rfl, { h with ready := h₄ ▸ h₂ ▸ h.ready }, ?_⟩
        exact h₁.trans (.of_writers_eq h₃ trivial) |>.congr (by simp)

theorem Discarded.handleAll {ds : List Data} (h : s.Discarded w o e ret) (hd : ∀ d ∈ ds, d.kind.isData = true)
    (hw : handleAll sid s w ds = .ok (s', w')) :
    s' = { s with _streamReady := s._streamReady || !ds.isEmpty } ∧ s'.Discarded w' o e ret ∧
      w.Shows w' o e (∀ d ∈ if s._streamReady then ds else ds.tail, d.Mute s.prependSize o e) := by
  induction ds generalizing s w
  case nil =>
    cases hw
    exact ⟨by simp, h, .of_writers_eq rfl (by simp)⟩
  case cons d ds hi =>
    obtain ⟨hk, hd⟩ := List.forall_mem_cons.mp hd
    simp only [Session.handleAll, handleData, hk, if_true] at hw
    split at hw
    case h_1 => cases hw
    case h_2 s₁ w₁ hw₁ =>
      obtain ⟨h₁, h₂, h₃⟩ := h.writeData hw₁
      obtain ⟨h₄, h₅, h₆⟩ := hi h₂ hd hw
      subst h₁
      refine ⟨by simp [h₄], h₅, h₃.trans h₆ |>.congr ?_⟩
      cases s._streamReady <;> simp

theorem forall_mem_handed_iff {d : Nat → Data} {P : Data → Prop} {a b : Nat} :
    (∀ x ∈ if decide (0 < a) = true then (List.range' a (b - a)).map d else ((List.range' a (b - a)).map d).tail,
      P x) ↔ ∀ j, a ≤ j → j < b → 0 < j → P (d j) := by
  by_cases ha : 0 < a
  case pos =>
    simp only [ha, decide_true, if_true, List.forall_mem_map, List.mem_range'_1]
    exact forall_congr' fun j => by grind
  case neg =>
    simp only [ha, decide_false, Bool.false_eq_true, if_false, ← List.map_tail, List.tail_range',
      List.forall_mem_map, List.mem_range'_1]
    exact forall_congr' fun j => by grind

theorem Discarded.deliverMsg {d : Nat → Data} {R : Finset ℕ} {x} (h : s.Discarded w o e ret)
    (hq : (s.seqQ.getD (.new sid)).Caches d n R) (hr : s._streamReady = decide (0 < gap R)) (hg : gap R < n)
    (hi : i < n) (hn : n ≤ maxUint64) (hk : ∀ j < n, (d j).kind.isData = true)
    (hm : s.deliverMsg w (.chunk sid n d i) = .ok x) :
    let R' := insert i R
    ∃ (s' : Session) (w' : World), x = s'.settle w' (gap R' = n) ∧ s'.Discarded w' o e ret ∧
      s'.prependSize = s.prependSize ∧
      w.Shows w' o e (∀ j, gap R ≤ j → j < gap R' → 0 < j → (d j).Mute s.prependSize o e) ∧
      s'._streamReady = decide (0 < gap R') ∧
      (gap R' < n → (s'.seqQ.getD (.new sid)).Caches d n R') := by
  intro R'
  obtain ⟨q, h₁, h₂⟩ := enqueue_chunk hq hg hi hn
  have hb : gap R' ≤ n := gap_le_of_forall_lt h₂.bound
  have hd := isData_handed (a := gap R) hk hb
  by_cases hw : i = 0 ∧ i + 1 = n
  case pos =>
    obtain ⟨rfl, rfl⟩ := hw
    have hR : gap R = 0 := by omega
    have hR' : gap R' = 1 := gap_insert_zero hb
    rw [deliverMsg_single h.opened (hk 0 hi)] at hm
    split at hm <;> cases hm
    case h_2.refl s₁ w₁ hm =>
      obtain ⟨h₃, h₄, h₅⟩ := h.writeData hm
      refine ⟨s₁, w₁, by simp [hR'], h₄, by rw [h₃], h₅.congr ?_, by simp [h₃, hR'], by omega⟩
      exact iff_of_true (by simp [hr, hR]) fun j _ _ _ => by omega
  case neg =>
    rw [deliverMsg_chunk h.opened hw] at hm
    generalize ht : Session.handleAll (s.enqueue (.chunk sid n d i)).fst.handleData
      { s with msgBuffer := some (s.msgBuffer.getD []), seqQ := some (s.enqueue (.chunk sid n d i)).fst } w
      (s.enqueue (.chunk sid n d i)).snd.fst = y
    cases y
    case error => simp [deliverChunk, ht] at hm
    case ok y =>
      obtain ⟨s₁, w₁⟩ := y
      rw [deliverChunk_of_handleAll h.opened ht] at hm
      cases hm
      rw [h₁] at ht ⊢
      have hs : ({ s with msgBuffer := some (s.msgBuffer.getD []), seqQ := some q } : Session).Discarded
        w o e ret := { h with }
      obtain ⟨h₃, h₄, h₅⟩ := hs.handleAll hd ht
      refine ⟨s₁, w₁, rfl, h₄, by rw [h₃], h₅.congr ?_, ?_, fun _ => by rw [h₃]; exact h₂⟩
      case refine_1 =>
        simp only [hr, forall_mem_handed_iff]
      case refine_2 =>
        have hle : gap R ≤ gap R' := gap_le_gap_insert
        simp only [h₃, hr, isEmpty_handed, Bool.not_not, ← Bool.decide_or, decide_eq_decide]
        omega

end Session

namespace SessionManager

variable {τ : Type*} {f : TimedSessionFuncs τ} {m₀ m m' : SessionManager τ} {s : Session} {p : Bool}
    {o e : WriterRef} {sid ret n i : Nat} {d : Nat → Data} {R : Finset ℕ} {arrivals : List Nat}

structure Discards (p : Bool) (m₀ : SessionManager τ) (o e : WriterRef) (sid ret n : Nat) (d : Nat → Data)
    (R : Finset ℕ) (m : SessionManager τ) : Prop where
  valid : m.Valid
  shows : m₀.world.Shows m.world o e (∀ j < gap R, 0 < j → (d j).Mute p o e)
  bound : ∀ i ∈ R, i < n
  running : gap R < n → ∃ s, m.sessions[sid]? = some s ∧ s.prependSize = p ∧
    s.Discarded m.world o e ret ∧ s._streamReady = decide (0 < gap R) ∧ (s.seqQ.getD (.new sid)).Caches d n R
  finished : gap R = n → m.sessions[sid]? = none

theorem dispatch_of_step {msg : Msg} (h : m.step f (.call (.dispatch msg)) = some m') :
    ∃ b, m.dispatch f msg = .ok (m', b) := by
  simp only [step, call] at h
  cases hd : m.dispatch f msg
  case error => simp [hd, Except.map, Except.toOption] at h
  case ok x =>
    simp only [hd, Except.map, Except.toOption, Option.some.injEq] at h
    exact ⟨x.snd, by rw [← h]⟩

theorem Discards.chunk (h : Discards p m₀ o e sid ret n d R m) (hi : i < n) (hn : n ≤ maxUint64)
    (hk : ∀ j < n, (d j).kind.isData = true) (hs : m.step f (.call (.dispatch (.chunk sid n d i))) = some m') :
    Discards p m₀ o e sid ret n d (insert i R) m' := by
  obtain ⟨b, hd⟩ := dispatch_of_step hs
  have hv := h.valid.dispatch hd
  by_cases hg : gap R < n
  case neg =>
    have hg : gap R = n := Nat.le_antisymm (gap_le_of_forall_lt h.bound) (by omega)
    have hR : insert i R = R := Finset.insert_eq_self.mpr <| mem_of_lt_gap (hg ▸ hi)
    have hm : m.dispatch f (.chunk sid n d i) = .ok (m, false) := dispatch_of_none (h.finished hg)
    cases hm.symm.trans hd
    exact hR.symm ▸ h
  case pos =>
    obtain ⟨s, hs, hp, hw, hr, hq⟩ := h.running hg
    have hb : ∀ j ∈ insert i R, j < n := hq.bound_insert hi
    have hs' : m.sessions[(Msg.chunk sid n d i).sid]? = some s := hs
    generalize hx : s.deliverMsg m.world (.chunk sid n d i) = x
    cases x
    case error =>
      simp only [dispatch, hs', if_neg (h.valid.current hs), hx] at hd
      cases hd
    case ok x =>
      obtain ⟨s₁, w₁, rfl, h₂, h₃, h₄, h₅, h₆⟩ := hw.deliverMsg hq hr hg hi hn hk hx
      cases (dispatch_of_deliverMsg h.valid hs' hx).symm.trans hd
      have hle : gap R ≤ gap (insert i R) := gap_le_gap_insert
      have hsh : m₀.world.Shows w₁ o e (∀ j < gap (insert i R), 0 < j → (d j).Mute p o e) := by
        apply h.shows.trans h₄ |>.congr
        constructor
        case mp =>
          intro h₇ j hj hz
          rcases Nat.lt_or_ge j (gap R) with hl | hl
          case inl => exact h₇.left j hl hz
          case inr => exact hp ▸ h₇.right j hl hj hz
        case mpr =>
          intro h₇
          exact ⟨fun j hj => h₇ j (by omega), fun j _ hj => hp ▸ h₇ j hj⟩
      by_cases hf : gap (insert i R) = n
      case pos =>
        simp only [hf, decide_true, settled, if_true] at hv ⊢
        exact {
          valid := hv
          shows := hf ▸ hsh.writers_eq Session.close_writers
          bound := hb
          running h := absurd h (by omega)
          finished _ := by simp [Msg.chunk]
        }
      case neg =>
        simp only [hf, decide_false, settled, Bool.false_eq_true, if_false] at hv ⊢
        exact {
          valid := hv
          shows := hsh
          bound := hb
          running hl := ⟨s₁, by simp [Msg.chunk], h₃.trans hp, h₂, h₅, h₆ hl⟩
          finished h := absurd h hf
        }

theorem Discards.run (h : Discards p m₀ o e sid ret n d R m) (hn : n ≤ maxUint64)
    (hk : ∀ j < n, (d j).kind.isData = true) (hi : ∀ i ∈ arrivals, i < n)
    (ex : Execution (step f) m (arrivals.map fun i => .call (.dispatch (.chunk sid n d i))) m') :
    Discards p m₀ o e sid ret n d (R ∪ arrivals.toFinset) m' := by
  induction arrivals generalizing m R
  case nil =>
    cases ex
    simpa using h
  case cons i is hi' =>
    obtain ⟨h₁, h₂⟩ := List.forall_mem_cons.mp hi
    cases ex
    case trans hs ex =>
      have hu : R ∪ (i :: is).toFinset = insert i R ∪ is.toFinset := by
        ext k
        simp
      exact hu ▸ hi' (h.chunk h₁ hn hk hs) h₂ ex

-- A stream whose creation timed out drops its first chunk. For others nothing is written only if there is
-- nothing to write, or they go nowhere.
theorem discarded_silent_iff (hr : m.Reached f) (hs : m.sessions[sid]? = some s)
    (hd : s.Discarded m.world o e ret) (hf : s._streamReady = false)
    (hq : (s.seqQ.getD (.new sid)).Caches d n R) (hz : 0 ∉ R) (h₀ : 0 < n) (hn : n ≤ maxUint64)
    (hk : ∀ j < n, (d j).kind.isData = true) (hi : ∀ i ∈ arrivals, i < n)
    (ex : Execution (step f) m (arrivals.map fun i => .call (.dispatch (.chunk sid n d i))) m') :
    ((∀ j < gap (R ∪ arrivals.toFinset), 0 < j → (d j).Mute s.prependSize o e) →
      ∀ i, (m'.world.writers i).written = (m.world.writers i).written) ∧
    ((∀ i, o = .out i ∨ e = .out i → (m.world.writers i).Reliable) →
      ((∀ i, (m'.world.writers i).written = (m.world.writers i).written) ↔
        ∀ j < gap (R ∪ arrivals.toFinset), 0 < j → (d j).Mute s.prependSize o e)) := by
  have hg : gap R = 0 := by
    by_contra hc
    exact hz <| mem_of_lt_gap (Nat.pos_of_ne_zero hc)
  have h : Discards s.prependSize m o e sid ret n d R m := {
    valid := hr.valid
    shows := .of_writers_eq rfl (by simp [hg])
    bound := hq.bound
    running _ := ⟨s, hs, rfl, hd, by simp [hf, hg], hq⟩
    finished h := by omega
  }
  have hsh := (h.run hn hk hi ex).shows
  exact ⟨hsh.silent, fun hr => ⟨hsh.loud hr, hsh.silent⟩⟩

-- A session whose creation timed out, with an output for data and one for errors.
def expiredStream : SessionManager Unit :=
  { oneStream with world := { oneStream.world with signals := oneStream.world.signals.close 0 } }

theorem expiredStream_reached : expiredStream.Reached .ignore :=
  ⟨0, .empty, (), [.call (.add 0 true false), .call (.setStream 1 (some (.out 0)) (some (.out 1)) none),
    .timeout (.streamCreation 0)], .of_foldlM rfl⟩

def expiredSession : Session :=
  { Session.new 0 0 true false with
    dataOut := some (.out 0)
    errOut := some (.out 1)
    streamReady := some 0 }

theorem expiredSession_discarded : expiredSession.Discarded expiredStream.world (.out 0) (.out 1) 0 :=
  ⟨rfl, rfl, rfl, rfl, rfl, rfl⟩

theorem discarded_silent_iff_empty :
    let d (i : Nat) : Data := if i = 0 then ⟨.data, [10]⟩ else ⟨.dataStderr, []⟩
    ∃ m', Execution (step .ignore) expiredStream
        ([1, 0].map fun i => .call (.dispatch (.chunk 1 3 d i))) m' ∧
      ∀ i, (m'.world.writers i).written = (expiredStream.world.writers i).written := by
  intro d
  have hs : expiredStream.sessions[1]? = some expiredSession := rfl
  obtain ⟨m', ex⟩ : ∃ m', Execution (step .ignore) expiredStream
    ([1, 0].map fun i => .call (.dispatch (.chunk 1 3 d i))) m' := ⟨_, .trans rfl <| .trans rfl .refl⟩
  refine ⟨m', ex, (discarded_silent_iff (R := ∅) expiredStream_reached hs expiredSession_discarded rfl
    (.new 1) (by simp) (by decide) (by decide) (by decide) (by decide) ex).left fun j _ hz => .inl ?_⟩
  simp [d, hz.ne', expiredSession, Session.new]

-- The second chunk is written.
theorem not_silent_second :
    let d (i : Nat) : Data := if i = 0 then ⟨.data, [10]⟩ else ⟨.dataStderr, [11]⟩
    expiredStream.sessions[1]? = some expiredSession ∧
    expiredSession.Discarded expiredStream.world (.out 0) (.out 1) 0 ∧ expiredSession._streamReady = false ∧
    ∃ m', Execution (step .ignore) expiredStream
        ([0, 1].map fun i => .call (.dispatch (.chunk 1 2 d i))) m' ∧
      (expiredStream.world.writers 1).written = [] ∧ (m'.world.writers 1).written = [11] :=
  ⟨rfl, expiredSession_discarded, rfl, _, .trans rfl <| .trans rfl .refl, rfl, rfl⟩

end SessionManager
end Aranya
