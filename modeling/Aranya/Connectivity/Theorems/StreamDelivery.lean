import Aranya.Connectivity.Theorems.Reassembly

namespace Aranya

namespace Writer

variable {w w' w'' : Writer} {data data' : Bytes}

def Reliable (w : Writer) : Prop :=
  ∀ k p, (w.accept k p).snd = none

structure Appends (w w' : Writer) (data : Bytes) : Prop where
  written : w'.written = w.written ++ data
  accept : w'.accept = w.accept

theorem Appends.refl : w.Appends w [] where
  written := by simp
  accept := rfl

theorem Appends.trans (h₁ : w.Appends w' data) (h₂ : w'.Appends w'' data') :
    w.Appends w'' (data ++ data') where
  written := by rw [h₂.written, h₁.written, List.append_assoc]
  accept := h₂.accept.trans h₁.accept

theorem Appends.reliable (h : w.Appends w' data) (hr : w.Reliable) : w'.Reliable := by
  simpa [Reliable, h.accept] using hr

theorem writeAll_go {k} (hr : w.Reliable) (hk : data.length ≤ k) :
    ∃ w', writeAll.go k w data = (w', none) ∧ w.Appends w' data := by
  induction k generalizing w data
  case zero =>
    cases List.length_eq_zero_iff.mp <| Nat.le_zero.mp hk
    exact ⟨w, rfl, .refl⟩
  case succ k hi =>
    cases data
    case nil => exact ⟨w, rfl, .refl⟩
    case cons b bs =>
      let n := (w.accept w.calls (b :: bs)).fst
      let w₁ : Writer :=
        { w with written := w.written ++ (b :: bs).take n, calls := w.calls + 1 }
      have hn : 0 < n := w.progress w.calls _ (List.cons_ne_nil b bs) (hr w.calls _)
      have ha : w.Appends w₁ ((b :: bs).take n) := ⟨rfl, rfl⟩
      have hl : ((b :: bs).drop n).length ≤ k := by
        rw [List.length_drop]
        omega
      have ⟨w', h₁, h₂⟩ := hi (ha.reliable hr) hl
      refine ⟨w', ?_, List.take_append_drop n (b :: bs) ▸ ha.trans h₂⟩
      have hw : w.write (b :: bs) = (w₁, n, none) := by
        simp only [write, hr w.calls, w₁, n]
      simp only [writeAll.go, hw]
      exact h₁

def Whole (w : Writer) : Prop :=
  ∀ k p, w.accept k p = (p.length, none)

theorem Appends.whole (h : w.Appends w' data) (hw : w.Whole) : w'.Whole := by
  simpa [Whole, h.accept] using hw

theorem Whole.reliable (h : w.Whole) : w.Reliable :=
  fun k p => by rw [h k p]

theorem Whole.write (h : w.Whole) (data : Bytes) :
    ∃ w', w.write data = (w', data.length, none) ∧ w.Appends w' data := by
  refine ⟨{ w with written := w.written ++ data, calls := w.calls + 1 }, ?_, rfl, rfl⟩
  simp [Writer.write, h w.calls data]

end Writer

def framed (prependSize : Bool) (data : Bytes) : Bytes :=
  if prependSize then Wire.encodeVarint data.length ++ data else data

theorem length_lt_framed (data : Bytes) : data.length < (framed true data).length := by
  have hp : 0 < (Wire.encodeVarint data.length).length := by
    simp only [Wire.encodeVarint, Wire.encodeVarint.go]
    split <;> simp
  simp only [framed, if_true, List.length_append]
  omega

theorem Writer.writePacket_appends {w : Writer} {p : Bool} (data : Bytes) (hr : w.Reliable)
    (hw : p = true → w.Whole) : ∃ w', w.writePacket p data = (w', none) ∧ w.Appends w' (framed p data) := by
  cases p
  case false => exact writeAll_go hr (Nat.le_refl data.length)
  case true =>
    obtain ⟨w₁, h₁, h₂⟩ := (hw rfl).write (Wire.encodeVarint data.length)
    obtain ⟨w₂, h₃, h₄⟩ := writeAll_go (h₂.reliable hr) (Nat.le_refl data.length)
    refine ⟨w₂, ?_, h₂.trans h₄⟩
    simp only [writePacket, if_true, h₁]
    exact h₃

def Data.framed (prependSize : Bool) (d : Data) : Data :=
  { d with payload := Aranya.framed prependSize d.payload }

def output (o e : WriterRef) (i : Nat) (ds : List Data) : Bytes :=
  (ds.filter fun d => (if d.kind = .dataStderr then e else o) = .out i).flatMap Data.payload

theorem output_singleton {o e i} {d : Data} :
    output o e i [d] = if (if d.kind = .dataStderr then e else o) = .out i then d.payload else [] := by
  by_cases h : (if d.kind = .dataStderr then e else o) = .out i <;> simp [output, h]

theorem output_append {o e i} {ds ds' : List Data} :
    output o e i (ds ++ ds') = output o e i ds ++ output o e i ds' := by
  simp [output]

def World.Writes (o e : WriterRef) (w w' : World) (ds : List Data) : Prop :=
  ∀ i, (w.writers i).Appends (w'.writers i) (output o e i ds)

namespace Session

variable {s : Session} {w w' : World} {o e : WriterRef} {ret : Nat} {d : Data} {R : Finset ℕ} {sid n i : Nat}

-- A session which writes its data to output streams that do not fail. Where sizes are prepended, they have to
-- accept them as a whole.
structure Sending (s : Session) (w : World) (o e : WriterRef) (ret : Nat) : Prop where
  isStream : s.isStream = true
  dataOut : s.dataOut = some o
  errOut : s.errOut = some e
  streamReady : s.streamReady = some ret
  canWrite : ∀ g, s.canWrite = some g → w.canWrite g = true
  reliable : ∀ i, o = .out i ∨ e = .out i → (w.writers i).Reliable
  whole : ∀ i, o = .out i ∨ e = .out i → s.prependSize = true → (w.writers i).Whole
  ready : (w.signals.chan ret).closed = s._streamReady

theorem notifyReady_of_ready (hs : s.streamReady = some ret) (hr : (w.signals.chan ret).closed = s._streamReady) :
    ∃ w', s.notifyReady w = .ok ({ s with _streamReady := true }, w', false) ∧
      (w'.signals.chan ret).closed = true ∧ w'.writers = w.writers ∧ w'.msgChs = w.msgChs ∧
      w'.canWrite = w.canWrite := by
  cases hc : s._streamReady
  case true =>
    have he : { s with _streamReady := true } = s := by rw [← hc]
    exact ⟨w, by simp [Session.notifyReady, hc, he], hr.trans hc, rfl, rfl, rfl⟩
  case false =>
    refine ⟨{ w with signals := w.signals.close ret }, ?_, by simp, rfl, rfl, rfl⟩
    simp [Session.notifyReady, hc, hs, hr]

theorem Sending.notifyReady (h : s.Sending w o e ret) :
    ∃ w', s.notifyReady w = .ok ({ s with _streamReady := true }, w', false) ∧
      ({ s with _streamReady := true } : Session).Sending w' o e ret ∧
      w'.writers = w.writers ∧ w'.msgChs = w.msgChs := by
  obtain ⟨w', h₁, h₂, h₃, h₄, h₅⟩ := notifyReady_of_ready h.streamReady h.ready
  exact ⟨w', h₁, { h with
    canWrite := by simpa [h₅] using h.canWrite
    reliable := by simpa [h₃] using h.reliable
    whole := by simpa [h₃] using h.whole
    ready := h₂ }, h₃, h₄⟩

theorem target_of_outputs (ho : s.dataOut = some o) (he : s.errOut = some e) (kind : MsgType) :
    s.target kind = some (if kind = .dataStderr then e else o) := by
  simp only [Session.target, ho, he]
  split <;> rfl

theorem Sending.writeTarget (h : s.Sending w o e ret) :
    ∃ w', s.writeTarget w d.kind d.payload = .ok (s, w', none) ∧ s.Sending w' o e ret ∧
      w.Writes o e w' [d.framed s.prependSize] ∧ w'.msgChs = w.msgChs := by
  simp only [Session.writeTarget, target_of_outputs h.dataOut h.errOut]
  split
  case isTrue he =>
    refine ⟨w, rfl, h, fun i => ?_, rfl⟩
    have hp : (d.framed s.prependSize).payload = [] := by
      simp only [Bool.and_eq_true, Bool.not_eq_true', List.isEmpty_iff] at he
      simp [Data.framed, framed, he]
    rw [output_singleton, hp, ite_self]
    exact .refl
  case isFalse =>
    generalize ht : (if d.kind = .dataStderr then e else o) = r
    have ht' : (if (d.framed s.prependSize).kind = .dataStderr then e else o) = r := ht
    cases r
    case discard =>
      refine ⟨w, rfl, h, fun i => ?_, rfl⟩
      rw [output_singleton, ht', if_neg (by simp)]
      exact .refl
    case out j =>
      have hj : o = .out j ∨ e = .out j := by
        split at ht
        case isTrue => exact .inr ht
        case isFalse => exact .inl ht
      obtain ⟨x, h₁, h₂⟩ := Writer.writePacket_appends d.payload (h.reliable j hj) (h.whole j hj)
      have hw : ∀ i, (w.writers i).Appends (Function.update w.writers j x i)
          (output o e i [d.framed s.prependSize]) := by
        intro i
        rw [output_singleton, ht']
        by_cases hi : j = i
        case pos => simpa [hi] using hi ▸ h₂
        case neg =>
          rw [if_neg (by simp [hi]), Function.update_of_ne (Ne.symm hi)]
          exact .refl
      refine ⟨{ w with writers := Function.update w.writers j x }, ?_, ?_, hw, rfl⟩
      case refine_1 => simp [World.write, h₁]
      case refine_2 =>
        exact { h with
          reliable := fun i hi => (hw i).reliable (h.reliable i hi)
          whole := fun i hi hp => (hw i).whole (h.whole i hi hp) }

theorem Sending.writeData (sid : Nat) (d : Data) (h : s.Sending w o e ret) :
    ∃ w', s.writeData w sid d = .ok ({ s with _streamReady := true }, w') ∧
      ({ s with _streamReady := true } : Session).Sending w' o e ret ∧
      w.Writes o e w' [d.framed s.prependSize] ∧ w'.msgChs = w.msgChs := by
  have ⟨w₁, h₁, h₂, h₃, h₄⟩ := h.notifyReady
  have ⟨w₂, h₅, h₆, h₇, h₈⟩ := h₂.writeTarget (d := d)
  have hw : s.writeToStream w d.kind d.payload = .ok ({ s with _streamReady := true }, w₂, none) := by
    rw [writeToStream, if_neg (by simp [h.isStream]), h₁]
    dsimp only
    split
    case h_1 => exact h₅
    case h_2 g hg => rw [if_pos (h₂.canWrite g hg)]; exact h₅
  exact ⟨w₂, by rw [Session.writeData, hw], h₆, fun i => h₃ ▸ h₇ i, h₈.trans h₄⟩

theorem Sending.handleAll {ds : List Data} (sid : Nat) (h : s.Sending w o e ret)
    (hd : ∀ d ∈ ds, d.kind.isData = true) :
    ∃ s' w', handleAll sid s w ds = .ok (s', w') ∧
      s' = { s with _streamReady := s._streamReady || !ds.isEmpty } ∧
      s'.Sending w' o e ret ∧ w.Writes o e w' (ds.map (Data.framed s.prependSize)) ∧
      w'.msgChs = w.msgChs := by
  induction ds generalizing s w
  case nil => exact ⟨s, w, rfl, by simp, h, fun i => .refl, rfl⟩
  case cons d ds hi =>
    have ⟨hk, hd⟩ := List.forall_mem_cons.mp hd
    have ⟨w₁, h₁, h₂, h₃, h₄⟩ := h.writeData sid d
    have ⟨s', w', h₅, h₆, h₇, h₈, h₉⟩ := hi h₂ hd
    refine ⟨s', w', ?_, by simp [h₆], h₇, fun i => ?_, h₉.trans h₄⟩
    case refine_1 => simp only [Session.handleAll, handleData, hk, if_true, h₁, h₅]
    case refine_2 =>
      rw [List.map_cons, ← List.singleton_append, output_append]
      exact (h₃ i).trans (h₈ i)

theorem enqueue_chunk {d : Nat → Data}
    (hq : (s.seqQ.getD (.new sid)).Caches d n R) (hg : gap R < n) (hi : i < n) (hn : n ≤ maxUint64) :
    let R' := insert i R
    ∃ q, s.enqueue (.chunk sid n d i) =
        (q, (List.range' (gap R) (gap R' - gap R)).map d, decide (gap R' = n)) ∧ q.Caches d n R' := by
  intro R'
  obtain ⟨q, h₁, h₂⟩ := hq.offer hg hi hn
  have hc : i + 1 = n ↔ i = n - 1 := by omega
  refine ⟨q, ?_, h₂⟩
  simp only [enqueue, Msg.chunk, hc, decide_eq_true_eq]
  exact h₁

theorem isData_handed {n a b : Nat} {d : Nat → Data} (hk : ∀ j < n, (d j).kind.isData = true) (hb : b ≤ n) :
    ∀ x ∈ (List.range' a (b - a)).map d, x.kind.isData = true := by
  intro x hx
  obtain ⟨j, hj, hx⟩ := List.mem_map.mp hx
  exact hx ▸ hk j (by have := List.mem_range'_1.mp hj; omega)

theorem isEmpty_handed {a b : Nat} {d : Nat → Data} :
    ((List.range' a (b - a)).map d).isEmpty = !decide (a < b) := by
  rw [Bool.eq_iff_iff]
  simp [Nat.sub_eq_zero_iff_le]

theorem deliverMsg_chunk {d : Nat → Data} (ho : s._closed = false) (hw : ¬(i = 0 ∧ i + 1 = n)) :
    s.deliverMsg w (.chunk sid n d i) = s.deliverChunk w (.chunk sid n d i) := by
  simp only [Session.deliverMsg, ho, Bool.false_eq_true, if_false, Msg.chunk, decide_eq_true_eq, if_neg hw]

theorem deliverMsg_single {sid : Nat} {d : Nat → Data} (ho : s._closed = false) (hk : (d 0).kind.isData = true) :
    s.deliverMsg w (.chunk sid 1 d 0) =
    match s.writeData w sid (d 0) with
    | .error f => .error f
    | .ok (s, w) => .ok (s.settle w true) := by
  simp only [Session.deliverMsg, ho, Bool.false_eq_true, if_false, Msg.chunk, deliverWhole, hk]
  rfl

theorem gap_insert_zero (h : gap (insert 0 R) ≤ 1) : gap (insert 0 R) = 1 := by
  have : gap (insert 0 R) ≠ 0 := by
    intro hc
    apply gap_notMem (insert 0 R)
    rw [hc]
    exact Finset.mem_insert_self 0 R
  omega

theorem Sending.deliverMsg {d : Nat → Data}
    (h : s.Sending w o e ret) (ho : s._closed = false)
    (hq : (s.seqQ.getD (.new sid)).Caches d n R) (hg : gap R < n) (hi : i < n) (hn : n ≤ maxUint64)
    (hk : ∀ j < n, (d j).kind.isData = true) :
    let R' := insert i R
    ∃ s' w', s.deliverMsg w (.chunk sid n d i) = .ok (s'.settle w' (gap R' = n)) ∧
      s.Accepts s' ∧ s'.Sending w' o e ret ∧ w'.msgChs = w.msgChs ∧
      w.Writes o e w' ((List.range' (gap R) (gap R' - gap R)).map fun j => (d j).framed s.prependSize) ∧
      s'._streamReady = (s._streamReady || decide (gap R < gap R')) ∧
      (gap R' < n → (s'.seqQ.getD (.new sid)).Caches d n R') := by
  intro R'
  obtain ⟨q, h₁, h₂⟩ := enqueue_chunk hq hg hi hn
  have hb : gap R' ≤ n := gap_le_of_forall_lt h₂.bound
  have hd := isData_handed (a := gap R) hk hb
  by_cases hw : i = 0 ∧ i + 1 = n
  case pos =>
    -- There is only one chunk, which does not go through the queue.
    obtain ⟨rfl, rfl⟩ := hw
    have hR : gap R = 0 := by omega
    have hR' : gap R' = 1 := gap_insert_zero hb
    obtain ⟨w', h₃, h₄, h₅, h₆⟩ := h.writeData sid (d 0)
    refine ⟨_, w', ?_, ?_, h₄, h₆, ?_, by simp [hR, hR'], by omega⟩
    case refine_1 => simp [deliverMsg_single ho (hk 0 hi), h₃, hR']
    case refine_2 => rfl
    case refine_3 => simpa [hR, hR'] using h₅
  case neg =>
    obtain ⟨s', w', h₃, h₄, h₅, h₆, h₇⟩ := Sending.handleAll q.handleData
      (s := { s with msgBuffer := some (s.msgBuffer.getD []), seqQ := some q }) { h with } hd
    have hr : s'._streamReady = (s._streamReady || decide (gap R < gap R')) := by
      simp only [h₄, isEmpty_handed, Bool.not_not]
    rw [List.map_map] at h₆
    refine ⟨s', w', ?_, by rw [h₄]; rfl, h₅, h₇, h₆, hr, fun _ => by rw [h₄]; exact h₂⟩
    rw [deliverMsg_chunk ho hw, deliverChunk_of_handleAll ho (by rw [h₁]; exact h₃), h₁]

end Session

inductive StreamEvent
  | chunk (i : Nat)
  | expire
  deriving DecidableEq, Repr

namespace StreamEvent

variable {es : List StreamEvent}

def action (sid ret n : Nat) (d : Nat → Data) : StreamEvent → SessionManager.Action
  | chunk i => .call (.dispatch (.chunk sid n d i))
  | expire => .timeout (.streamCreation ret)

def index? : StreamEvent → Option Nat
  | chunk i => some i
  | expire => none

def received (es : List StreamEvent) : Finset ℕ :=
  (es.filterMap index?).toFinset

theorem mem_received {i} : i ∈ received es ↔ chunk i ∈ es := by
  simp only [received, List.mem_toFinset, List.mem_filterMap]
  constructor
  case mp =>
    rintro ⟨e, he, h⟩
    cases e <;> cases h
    exact he
  case mpr => exact fun h => ⟨_, h, rfl⟩

theorem received_append_chunk {i} : received (es ++ [chunk i]) = insert i (received es) := by
  ext k
  simp [mem_received, or_comm]

theorem received_append_expire : received (es ++ [expire]) = received es := by
  ext k
  simp [mem_received]

theorem expire_after_first (h : ∀ l ∈ es.inits, l.getLast? = some .expire → .chunk 0 ∈ l) :
    ∀ pre, pre ++ [.expire] <+: es → .chunk 0 ∈ pre := by
  intro pre hp
  simpa using h _ ((List.mem_inits _ _).mpr hp) (by simp)

end StreamEvent

namespace SessionManager

variable {τ : Type*} {f : TimedSessionFuncs τ} {m₀ m m' : SessionManager τ} {s : Session} {o e : WriterRef}
    {sid ret c n i : Nat} {d : Nat → Data} {R : Finset ℕ}

-- Chunks before the first gap have been written, and the session lives until there is no gap.
structure Transfers (p : Bool) (m₀ : SessionManager τ) (o e : WriterRef) (sid ret c n : Nat) (d : Nat → Data)
    (R : Finset ℕ) (m : SessionManager τ) : Prop where
  valid : m.Valid
  writes : m₀.world.Writes o e m.world ((List.range (gap R)).map fun j => (d j).framed p)
  sent : (m.world.msgChs.chan c).sent = []
  bound : ∀ i ∈ R, i < n
  ready : 0 ∈ R → (m.world.signals.chan ret).closed = true
  running : gap R < n → ∃ s, m.sessions[sid]? = some s ∧ s.msgCh = some c ∧ s.prependSize = p ∧
    s.Sending m.world o e ret ∧ (s.seqQ.getD (.new sid)).Caches d n R
  finished : gap R = n → m.sessions[sid]? = none ∧ (m.world.msgChs.chan c).closed = true

namespace Transfers

variable {p : Bool}

theorem start (hv : m.Valid) (hs : m.sessions[sid]? = some s) (hf : s.seqQ = none) (hc : s.msgCh = some c)
    (h : s.Sending m.world o e ret) (hn : 0 < n) : Transfers s.prependSize m o e sid ret c n d ∅ m := by
  have ⟨c', hc', _, _, _, hq⟩ := (hv.session hs).msgCh
  cases hc.symm.trans hc'
  exact {
    valid := hv
    writes _ := by simpa using .refl
    sent := hq hf
    bound := by simp
    ready := by simp
    running _ := ⟨s, hs, hc, rfl, h, by simpa [hf] using .new sid⟩
    finished h := by simp at h; omega
  }

theorem chunk (h : Transfers p m₀ o e sid ret c n d R m) (hi : i < n) (hn : n ≤ maxUint64)
    (hk : ∀ j < n, (d j).kind.isData = true) :
    ∃ m', m.step f (.call (.dispatch (.chunk sid n d i))) = some m' ∧
      Transfers p m₀ o e sid ret c n d (insert i R) m' := by
  by_cases hg : gap R < n
  case neg =>
    -- All chunks have arrived before, so this one is a duplicate for which there is no session.
    have hg : gap R = n := Nat.le_antisymm (gap_le_of_forall_lt h.bound) (by omega)
    have hs := (h.finished hg).left
    have hR : insert i R = R := Finset.insert_eq_self.mpr <| mem_of_lt_gap (hg ▸ hi)
    exact ⟨m, step_dispatch <| dispatch_of_none hs, hR.symm ▸ h⟩
  case pos =>
    obtain ⟨s, hs, hc, hp, hw, hq⟩ := h.running hg
    have ho := (h.valid.session hs).opened
    have ⟨s₁, w₁, h₁, h₂, h₃, h₄, h₅, h₆, h₇⟩ := hw.deliverMsg ho hq hg hi hn hk
    have hd := dispatch_of_deliverMsg (f := f) h.valid hs h₁
    have hb : ∀ j ∈ insert i R, j < n := hq.bound_insert hi
    have hg' : gap (insert i R) ≤ n := gap_le_of_forall_lt hb
    have hr : 0 ∈ insert i R → s₁._streamReady = true := by
      intro h₀
      have hl : gap (insert i R) ≠ 0 := fun hc => gap_notMem (insert i R) (hc.symm ▸ h₀)
      by_cases hz : gap R = 0
      case pos => simp [h₆, hz, Nat.pos_of_ne_zero hl]
      case neg =>
        have h₀ := h.ready <| mem_of_lt_gap (Nat.pos_of_ne_zero hz)
        simp [h₆, ← hw.ready, h₀]
    have hm : m₀.world.Writes o e w₁ ((List.range (gap (insert i R))).map fun j => (d j).framed p) := by
      intro j
      have ⟨k, hk⟩ := Nat.exists_eq_add_of_le <| gap_le_gap_insert (R := R) (i := i)
      have hr : List.range (gap (insert i R)) =
          List.range (gap R) ++ List.range' (gap R) (gap (insert i R) - gap R) := by
        rw [hk, Nat.add_sub_cancel_left, List.range_add, List.range'_eq_map_range]
      rw [hr, List.map_append, output_append]
      exact (h.writes j).trans (hp ▸ h₅ j)
    by_cases hf : gap (insert i R) = n
    case pos =>
      have hz : s₁._streamReady = true := hr <| mem_of_lt_gap (by omega)
      simp only [hf, decide_true, settled, if_true] at hd
      have hcl := Session.close_msgChs (w := w₁) (h₂.opened.trans ho) (h₂.msgCh.trans hc)
      exact ⟨_, step_dispatch hd, {
        valid := h.valid.dispatch hd
        writes := by rw [World.Writes, Session.close_writers]; exact hf ▸ hm
        sent := by simpa [hcl, h₄] using h.sent
        bound := hb
        ready _ := by simp [Session.close_signals_of_ready hz, h₃.ready, hz]
        running h := absurd h (by omega)
        finished _ := by simp [Msg.chunk, hcl]
      }⟩
    case neg =>
      simp only [hf, decide_false, settled, Bool.false_eq_true, if_false] at hd
      exact ⟨_, step_dispatch hd, {
        valid := h.valid.dispatch hd
        writes := hm
        sent := by rw [h₄]; exact h.sent
        bound := hb
        ready h₀ := by rw [h₃.ready, hr h₀]
        running hl := ⟨s₁, by simp [Msg.chunk], h₂.msgCh.trans hc, h₂.prependSize.trans hp, h₃, h₇ hl⟩
        finished h := absurd h hf
      }⟩

theorem expire (h : Transfers p m₀ o e sid ret c n d R m) (h₀ : 0 ∈ R) :
    m.step f (.timeout (.streamCreation ret)) = some m := by
  simp [step, handleTimeout, h.ready h₀, Except.toOption]

theorem run {es : List StreamEvent} (h : Transfers p m₀ o e sid ret c n d ∅ m) (hn : n ≤ maxUint64)
    (hk : ∀ i < n, (d i).kind.isData = true) (hi : ∀ i, .chunk i ∈ es → i < n)
    (hx : ∀ pre, pre ++ [.expire] <+: es → .chunk 0 ∈ pre) :
    ∃ m', Execution (fun m e => m.step f (StreamEvent.action sid ret n d e)) m es m' ∧
      Transfers p m₀ o e sid ret c n d (StreamEvent.received es) m' := by
  refine Execution.progress
    (I := fun es => Transfers p m₀ o e sid ret c n d (StreamEvent.received es))
    (fun {pre a m'} hp h => ?_) h
  cases a
  case chunk i =>
    rw [StreamEvent.received_append_chunk]
    exact h.chunk (hi i <| hp.subset <| by simp) hn hk
  case expire =>
    rw [StreamEvent.received_append_expire]
    exact ⟨m', h.expire <| StreamEvent.mem_received.mpr <| hx pre hp, h⟩

end Transfers

structure Awaits (m : SessionManager τ) (sid ret : Nat) (s : Session) : Prop where
  session : m.sessions[sid]? = some s
  isStream : s.isStream = true
  plain : s.prependSize = false
  fresh : s.seqQ = none
  ready : s.streamReady = some ret
  waiting : (m.world.signals.chan ret).closed = false
  canWrite : ∀ g, s.canWrite = some g → m.world.canWrite g = true
  reliable : ∀ i, s.dataOut = some (.out i) ∨ s.errOut = some (.out i) →
    (m.world.writers i).Reliable

theorem Awaits.transfers (h : m.Awaits sid ret s) (hv : m.Valid) (ho : s.dataOut = some o)
    (he : s.errOut = some e) (hc : s.msgCh = some c) (hn : 0 < n) : Transfers false m o e sid ret c n d ∅ m := by
  have hr := (hv.session h.session).idle h.fresh
  refine h.plain ▸ .start hv h.session h.fresh hc ?_ hn
  exact {
    isStream := h.isStream
    dataOut := ho
    errOut := he
    streamReady := h.ready
    canWrite := h.canWrite
    reliable i hi := h.reliable i (by simpa [ho, he] using hi)
    whole _ _ hp := by simp [h.plain] at hp
    ready := h.waiting.trans hr.symm
  }

-- Whatever the order of the chunks is, those up to the first gap have been written, in order. An expiration
-- after the first chunk does no harm.
theorem stream_delivery {es : List StreamEvent} (hr : m.Reached f) (h : m.Awaits sid ret s)
    (ho : s.dataOut = some o) (he : s.errOut = some e) (hc : s.msgCh = some c)
    (hk : ∀ i < n, (d i).kind.isData = true) (h₀ : 0 < n) (hn : n ≤ maxUint64)
    (hi : ∀ i, .chunk i ∈ es → i < n) (hx : ∀ pre, pre ++ [.expire] <+: es → .chunk 0 ∈ pre) :
    ∃ m', Execution (step f) m (es.map (StreamEvent.action sid ret n d)) m' ∧
      (∀ i, (m'.world.writers i).written = (m.world.writers i).written ++
        output o e i ((List.range (gap (StreamEvent.received es))).map d)) ∧
      (m'.world.msgChs.chan c).sent = [] ∧
      ((∀ i < n, .chunk i ∈ es) →
        (∀ i, (m'.world.writers i).written =
          (m.world.writers i).written ++ output o e i ((List.range n).map d)) ∧
        m'.sessions[sid]? = none ∧ (m'.world.msgChs.chan c).closed = true) := by
  have ⟨m', ex, hd⟩ := (h.transfers hr.valid ho he hc h₀).run (f := f) hn hk hi hx
  refine ⟨m', ex.map, fun i => (hd.writes i).written, hd.sent, fun ha => ?_⟩
  have hg : gap (StreamEvent.received es) = n :=
    gap_eq_card_iff hd.bound |>.mpr fun i hi => StreamEvent.mem_received.mpr (ha i hi)
  exact ⟨fun i => hg ▸ (hd.writes i).written, hd.finished hg⟩

def oneStream : SessionManager Unit :=
  (added .ignore (new 0 .empty ()) 0 1 true false).setStream .ignore 1 (some (.out 0)) (some (.out 1)) none
    |>.fst

theorem stream_delivery_reversed :
    let d (i : Nat) : Data := if i = 0 then ⟨.data, [10]⟩ else ⟨.dataStderr, [11]⟩
    let es : List StreamEvent := [.chunk 1, .chunk 0, .expire, .chunk 1]
    ∃ m', Execution (step .ignore) oneStream (es.map (StreamEvent.action 1 0 2 d)) m' ∧
      (∀ i, (m'.world.writers i).written = (oneStream.world.writers i).written ++
        output (.out 0) (.out 1) i ((List.range (gap (StreamEvent.received es))).map d)) ∧
      (m'.world.msgChs.chan 0).sent = [] ∧
      ((∀ i < 2, .chunk i ∈ es) →
        (∀ i, (m'.world.writers i).written =
          (oneStream.world.writers i).written ++ output (.out 0) (.out 1) i ((List.range 2).map d)) ∧
        m'.sessions[1]? = none ∧ (m'.world.msgChs.chan 0).closed = true) := by
  intro d es
  have hr : oneStream.Reached .ignore := ⟨0, .empty, (),
    [.call (.add 0 true false), .call (.setStream 1 (some (.out 0)) (some (.out 1)) none)],
    .trans rfl <| .trans rfl .refl⟩
  exact stream_delivery hr ⟨rfl, rfl, rfl, rfl, rfl, rfl, nofun, fun _ _ _ _ => rfl⟩ rfl rfl rfl
    (by decide) (by decide) (by decide) (by simp [es]) (StreamEvent.expire_after_first (by decide))

end SessionManager
end Aranya
