import Aranya.Pod.Upload
import Aranya.Connectivity.Theorems.SessionManager

namespace Aranya

namespace BaseManager

variable {τ ρ : Type*} {f : TimedSessionFuncs τ} {m : BaseManager τ}
    {sendData : ρ → Bytes → Bool → ρ × Option Bytes} {r : ρ} {kind : CmdType} {sid seq : Nat} {complete : Bool}
    {payload : Bytes}

theorem doPostData_of_le (h : payload.length ≤ m.maxDataSize) :
    doPostData sendData m r kind sid seq complete payload =
    match sendData r (Cmd.marshal ⟨kind, sid, seq, complete, payload⟩) true with
    | (r, none) => (r, seq, none)
    | (r, some err) => (r, seq, some (str "failed to post cmd chunk: " ++ err)) := by
  simp only [doPostData]
  rcases hd : sendData r (Cmd.marshal ⟨kind, sid, seq, complete, payload⟩) true with ⟨r', _ | err⟩ <;>
    cases payload.length <;>
    simp [doPostData.go, Nat.not_lt.mpr h, doPostData.last, doPostData.post, hd]

theorem postData_dataUpstream :
    ∃ x, m.postData f sendData r sid .dataUpstream seq complete payload = .ok (m, x) := by
  simp only [postData]
  split
  case isTrue => exact ⟨_, rfl⟩
  case isFalse =>
    split
    case isTrue => exact ⟨_, rfl⟩
    case isFalse => exact ⟨_, rfl⟩

theorem postCmd_sessionClose (f : TimedSessionFuncs τ)
    (sendData : ρ → Bytes → Bool → ρ × Option Bytes) (m : BaseManager τ) (r : ρ) (sid : Nat)
    (payload : Bytes) :
    ∃ m' x, m.postCmd f sendData r sid .sessionClose payload = .ok (m', x) ∧
      m'.maxDataSize = m.maxDataSize := by
  simp only [postCmd, postData]
  split
  case isTrue => exact ⟨_, _, rfl, rfl⟩
  case isFalse => exact ⟨_, _, rfl, rfl⟩

end BaseManager

namespace Pod

theorem nextSeq_mod (n : Nat) : nextSeq (n % 2 ^ 64) = ((n + 1) % 2 ^ 64, n % 2 ^ 64) := by
  simp only [nextSeq, Prod.mk.injEq]
  omega

namespace Uploading

variable {τ ρ : Type*} {f : TimedSessionFuncs τ} {sendData : ρ → Bytes → Bool → ρ × Option Bytes}
    {s s' : Uploading τ ρ} {a : Action τ ρ} {as : List (Action τ ρ)} {sid n : Nat} {data : Bytes}
    {complete : Bool} {ds : List Bytes}

def reads (as : List (Action τ ρ)) : List (Bytes × Option ReadError) :=
  as.filterMap fun
    | .read data err => some (data, err)
    | _ => none

def payloads (as : List (Action τ ρ)) : List Bytes :=
  (reads as).filterMap fun (data, err) => if err.isSome ∧ data = [] then none else some data

def upstream (sid : Nat) (ds : List Bytes) : List Cmd :=
  ds.mapIdx fun j d => ⟨.dataUpstream, sid, j % 2 ^ 64, false, d⟩

def upstreamEnd (sid n : Nat) : Cmd :=
  ⟨.dataUpstream, sid, n % 2 ^ 64, true, []⟩

structure Sequenced (sid count : Nat) (data : Bytes) (cmds : List Cmd) : Prop where
  length : cmds.length = count + 1
  header : ∀ j cmd, cmds[j]? = some cmd → cmd.kind = .dataUpstream ∧ cmd.sid = sid ∧
    cmd.seq = j % 2 ^ 64 ∧ (cmd.complete = true ↔ j = count)
  last : ∃ cmd, cmds[count]? = some cmd ∧ cmd.payload = []
  payload : cmds.flatMap Cmd.payload = data

theorem upstream_concat {d : Bytes} :
    upstream sid (ds ++ [d]) = upstream sid ds ++ [⟨.dataUpstream, sid, ds.length % 2 ^ 64, false, d⟩] := by
  simp [upstream, List.mapIdx_concat]

theorem length_upstream : (upstream sid ds).length = ds.length := by
  simp [upstream]

theorem flatMap_upstream : (upstream sid ds).flatMap Cmd.payload = ds.flatten := by
  induction ds using List.reverseRecOn
  case nil => rfl
  case append_singleton ds d hi => simp [upstream_concat, hi]

theorem sequenced_upstream :
    Sequenced sid ds.length ds.flatten (upstream sid ds ++ [upstreamEnd sid ds.length]) where
  length := by simp [length_upstream]
  last := ⟨upstreamEnd sid ds.length, by simp [length_upstream], rfl⟩
  payload := by simp [flatMap_upstream, upstreamEnd]
  header := by
    intro j cmd h
    rcases Nat.lt_trichotomy j ds.length with hj | hj | hj
    case inl =>
      rw [List.getElem?_append_left (by rwa [length_upstream])] at h
      simp only [upstream, List.getElem?_mapIdx, List.getElem?_eq_getElem hj, Option.map_some] at h
      cases h
      exact ⟨rfl, rfl, rfl, by simp; omega⟩
    case inr.inl =>
      rw [List.getElem?_append_right (by simp [length_upstream, hj])] at h
      simp only [length_upstream, hj, Nat.sub_self, List.getElem?_cons_zero] at h
      cases h
      exact ⟨rfl, rfl, by rw [hj]; rfl, by simp [hj, upstreamEnd]⟩
    case inr.inr =>
      rw [List.getElem?_eq_none (by simp [length_upstream]; omega)] at h
      cases h

theorem post_sent (hd : data.length ≤ s.mgr.maxDataSize) (hn : s.upload.seq = n % 2 ^ 64)
    (h : s.post f sendData complete data = .ok (s', none)) :
    s'.sent = s.sent ++ [Cmd.marshal ⟨.dataUpstream, s.upload.sid, n % 2 ^ 64, complete, data⟩] ∧
    s'.upload = { s.upload with seq := (n + 1) % 2 ^ 64 } ∧ s'.mgr = s.mgr := by
  simp only [post, hn, nextSeq_mod, BaseManager.postData] at h
  split at h
  case h_1 => cases h
  case h_2 hp =>
    split at hp
    case isTrue => cases hp; cases h
    case isFalse =>
      split at hp
      case isTrue => cases hp; cases h
      case isFalse =>
        rw [BaseManager.doPostData_of_le hd] at hp
        rcases hs : sendData s.net (Cmd.marshal
          ⟨.dataUpstream, s.upload.sid, n % 2 ^ 64, complete, data⟩) true with ⟨net, _ | err⟩ <;>
          simp only [record, hs] at hp <;> cases hp <;> cases h
        exact ⟨rfl, rfl, rfl⟩

theorem post_enabled : ∃ x, s.post f sendData complete data = .ok x := by
  have ⟨x, h⟩ : ∃ x, s.mgr.postData f (record sendData) (s.net, s.sent) s.upload.sid .dataUpstream
      (nextSeq s.upload.seq).snd complete data = .ok (s.mgr, x) := BaseManager.postData_dataUpstream
  simp only [post, h]
  exact ⟨_, rfl⟩

def pending : Upload.Phase → List Bytes
  | .posting data => [data]
  | _ => []

def Ended (s : Uploading τ ρ) : Prop :=
  s.upload.phase = .ending ∨ s.upload.phase = .returned

def Succeeds (f : TimedSessionFuncs τ) (sendData : ρ → Bytes → Bool → ρ × Option Bytes)
    (s : Uploading τ ρ) : Action τ ρ → Prop
  | .post => ∀ data s' err, s.upload.phase = .posting data →
    s.post f sendData false data = .ok (s', err) → err = none
  | .close => ∀ s' err, s.post f sendData true [] = .ok (s', err) → err = none
  | _ => True

structure Recorded (sid : Nat) (as : List (Action τ ρ)) (s : Uploading τ ρ) (ds : List Bytes) : Prop where
  session : s.upload.sid = sid
  bounded : ∀ data, s.upload.phase = .posting data → data.length ≤ s.mgr.maxDataSize
  reads : payloads as = ds ++ pending s.upload.phase
  sent : ¬s.Ended → s.upload.seq = ds.length % 2 ^ 64 ∧ s.sent = (upstream sid ds).map Cmd.marshal
  ended : s.Ended → s.sent = (upstream sid ds ++ [upstreamEnd sid ds.length]).map Cmd.marshal

theorem payloads_concat_of_ne (ha : ∀ data err, a ≠ .read data err) : payloads (as ++ [a]) = payloads as := by
  cases a
  case read data err => exact absurd rfl (ha data err)
  all_goals simp [payloads, reads]

theorem payloads_concat_read {err} :
    payloads (as ++ [.read data err]) = payloads as ++ if err.isSome ∧ data = [] then [] else [data] := by
  by_cases h : err.isSome ∧ data = [] <;> simp [payloads, reads, h]

namespace Recorded

variable {u : Upload}

theorem start {mgr : BaseManager τ} {net : ρ} {routine} : Recorded sid [] (start mgr net routine sid) [] where
  session := rfl
  bounded _ := nofun
  reads := rfl
  sent _ := ⟨rfl, rfl⟩
  ended := by simp [Ended, Uploading.start, Upload.new]

theorem quiet (h : Recorded sid as s ds) (ha : ∀ data err, a ≠ .read data err)
    (hs : s'.sent = s.sent) (hi : s'.upload.sid = s.upload.sid) (hq : s'.upload.seq = s.upload.seq)
    (hm : s'.mgr.maxDataSize = s.mgr.maxDataSize)
    (hp : s'.upload.phase = s.upload.phase ∨
      pending s'.upload.phase = [] ∧ pending s.upload.phase = [] ∧ (s'.Ended ↔ s.Ended)) :
    Recorded sid (as ++ [a]) s' ds := by
  have he : s'.Ended ↔ s.Ended := by
    rcases hp with hp | hp
    case inl => simp [Ended, hp]
    case inr => exact hp.right.right
  have hp' : pending s'.upload.phase = pending s.upload.phase := by
    rcases hp with hp | ⟨h₁, h₂, _⟩
    case inl => rw [hp]
    case inr => rw [h₁, h₂]
  constructor
  case session => exact hi.trans h.session
  case reads => rw [payloads_concat_of_ne ha, hp', h.reads]
  case sent => rw [hs, hq, he]; exact h.sent
  case ended => rw [hs, he]; exact h.ended
  case bounded =>
    intro data hd
    rcases hp with hp | ⟨h₁, _⟩
    case inl => rw [hm]; exact h.bounded data (hp ▸ hd)
    case inr => simp [hd, pending] at h₁

theorem readFailed_eq {err} : ∃ l, u.readFailed err = { u with written := l } := by
  simp only [Upload.readFailed, Upload.writeErr]
  split
  case h_2 => exact ⟨_, rfl⟩
  case h_1 => split <;> exact ⟨_, rfl⟩

theorem posted_none : u.posted none = { u with phase := .reading } :=
  rfl

theorem read {err} (h : Recorded sid as s ds) (hp : s.upload.phase = .reading)
    (hl : data.length ≤ s.bufSize) :
    Recorded sid (as ++ [.read data err]) { s with upload := s.upload.read data err } ds := by
  have hn : ¬s.Ended := by simp [Ended, hp]
  have ⟨hq, hs⟩ := h.sent hn
  have hr : payloads as = ds := by simpa [hp, pending] using h.reads
  have ⟨l, hf⟩ : ∃ l, s.upload.readFailed err = { s.upload with written := l } := readFailed_eq
  have hd : data.length ≤ s.mgr.maxDataSize := by
    simp only [bufSize] at hl
    split at hl <;> omega
  simp only [Upload.read, hf]
  by_cases hc : err.isSome ∧ data = [] <;> simp only [hc, if_false]
  case pos =>
    refine ⟨h.session, nofun, ?_, fun _ => ⟨hq, hs⟩, by simp [Ended]⟩
    simp [payloads_concat_read, hc, hr, pending]
  case neg =>
    refine ⟨h.session, ?_, ?_, fun _ => ⟨hq, hs⟩, by simp [Ended]⟩
    case refine_1 => rintro _ ⟨⟩; exact hd
    case refine_2 => simp [payloads_concat_read, hc, hr, pending]

theorem post (h : Recorded sid as s ds) (hp : s.upload.phase = .posting data)
    (hs : s.post f sendData false data = .ok (s', none)) :
    Recorded sid (as ++ [.post]) { s' with upload := s'.upload.posted none } (ds ++ [data]) := by
  have ⟨hq, hl⟩ := h.sent (by simp [Ended, hp])
  have ⟨h₁, h₂, h₃⟩ := post_sent (h.bounded data hp) hq hs
  have hr : payloads as = ds ++ [data] := by simpa [hp, pending] using h.reads
  simp only [posted_none, h₂]
  refine ⟨h.session, nofun, ?_, fun _ => ⟨?_, ?_⟩, by simp [Ended]⟩
  case refine_1 => simp [payloads_concat_of_ne, hr, pending]
  case refine_2 => simp
  case refine_3 => simp [h₁, hl, upstream_concat, h.session]

theorem closed_eq : ∃ p, u.closed = { u with phase := p } ∧ (p = .ending ∨ p = .returned) := by
  simp only [Upload.closed]
  split
  case h_1 => exact ⟨_, rfl, .inr rfl⟩
  case h_2 => exact ⟨_, rfl, .inl rfl⟩

theorem close (h : Recorded sid as s ds) (hp : s.upload.phase = .closing)
    (hs : s.post f sendData true [] = .ok (s', none)) :
    Recorded sid (as ++ [.close]) { s' with upload := s'.upload.closed } ds := by
  have ⟨hq, hl⟩ := h.sent (by simp [Ended, hp])
  have ⟨h₁, h₂, h₃⟩ := post_sent (Nat.zero_le _) hq hs
  have hr : payloads as = ds := by simpa [hp, pending] using h.reads
  have ⟨p, hc, he⟩ : ∃ p, s'.upload.closed = { s'.upload with phase := p } ∧
      (p = .ending ∨ p = .returned) := closed_eq
  rw [hc, h₂]
  refine ⟨h.session, ?_, ?_, fun hn => absurd he hn, fun _ => ?_⟩
  case refine_1 => rintro _ rfl; simp at he
  case refine_2 =>
    have : pending p = [] := by rcases he with rfl | rfl <;> rfl
    simp [payloads_concat_of_ne, hr, this]
  case refine_3 => simp [h₁, hl, upstreamEnd, h.session]

theorem step (h : Recorded sid as s ds) (hp : s.Succeeds f sendData a)
    (hs : s.step f sendData a = some s') : ∃ ds, Recorded sid (as ++ [a]) s' ds := by
  cases a <;> simp only [Uploading.step] at hs
  case ready | canceled =>
    split at hs <;> cases hs
    case isTrue.refl hw =>
      exact ⟨ds, h.quiet nofun rfl rfl rfl rfl <| .inr ⟨rfl, by rw [hw]; rfl, by simp [Ended, hw]⟩⟩
  case read =>
    split at hs <;> cases hs
    case isTrue.refl hr => exact ⟨ds, h.read hr.left hr.right⟩
  case post =>
    split at hs
    case h_2 => cases hs
    case h_1 data hd =>
      split at hs <;> cases hs
      case h_2.refl err ho =>
        cases hp _ _ _ hd ho
        exact ⟨_, h.post hd ho⟩
  case close =>
    split at hs
    case isFalse => cases hs
    case isTrue hc =>
      split at hs <;> cases hs
      case h_2.refl err ho =>
        cases hp _ _ ho
        exact ⟨_, h.close hc ho⟩
  case finish =>
    split at hs
    case isFalse => cases hs
    case isTrue he =>
      have ⟨m, x, hx, hm⟩ := BaseManager.postCmd_sessionClose f sendData s.mgr s.net s.upload.sid
        (BaseManager.sessionCloseCmd s.upload.sid)
      simp only [hx] at hs
      cases hs
      exact ⟨ds, h.quiet nofun rfl rfl rfl hm <| .inr ⟨rfl, by rw [he]; rfl, by simp [Ended, he]⟩⟩
  case other =>
    split at hs <;> cases hs
    case isTrue.refl hm => exact ⟨ds, h.quiet nofun rfl rfl rfl hm (.inl rfl)⟩

end Recorded

theorem flatten_payloads : (payloads as).flatten = (reads as).flatMap Prod.fst := by
  simp only [payloads]
  induction reads as
  case nil => rfl
  case cons x l hi =>
    have ⟨data, err⟩ := x
    by_cases h : err.isSome ∧ data = [] <;> simp [h, hi]

def Turn (s : Uploading τ ρ) : Action τ ρ → Prop
  | .ready | .canceled => s.upload.phase = .waiting
  | .read data _ => s.upload.phase = .reading ∧ data.length ≤ s.bufSize
  | .post => ∃ data, s.upload.phase = .posting data
  | .close => s.upload.phase = .closing
  | .finish => s.upload.phase = .ending
  | .other _ _ => False

theorem Turn.enabled (h : s.Turn a) : ∃ s', s.step f sendData a = some s' := by
  cases a <;> simp only [Turn] at h
  case ready => simp [step, h]
  case canceled => simp [step, h]
  case read => simp [step, h]
  case post =>
    obtain ⟨data, h⟩ := h
    obtain ⟨x, hx⟩ : ∃ x, s.post f sendData false data = .ok x := post_enabled
    simp [step, h, hx]
  case close =>
    obtain ⟨x, hx⟩ : ∃ x, s.post f sendData true [] = .ok x := post_enabled
    simp [step, h, hx]
  case finish =>
    obtain ⟨m, x, hx, _⟩ := BaseManager.postCmd_sessionClose f sendData s.mgr s.net s.upload.sid
      (BaseManager.sessionCloseCmd s.upload.sid)
    simp [step, h, hx]

def Left (s : Uploading τ ρ) : Prop :=
  s.upload.phase = .closing ∨ s.Ended

theorem left_step (h : ∀ err, ([], some err) ∈ reads as → s.Left)
    (hs : s.step f sendData a = some s') : ∀ err, ([], some err) ∈ reads (as ++ [a]) → s'.Left := by
  intro err hr
  cases a <;> simp only [step] at hs
  case read data err' =>
    split at hs <;> cases hs
    case isTrue.refl hp =>
      have hn : ¬s.Left := by simp [Left, Ended, hp.left]
      simp only [reads, List.filterMap_append, List.mem_append] at hr
      rcases hr with hr | hr
      case inl => exact absurd (h err hr) hn
      case inr =>
        simp only [List.filterMap_cons, List.filterMap_nil, List.mem_singleton, Prod.mk.injEq] at hr
        simp [Left, Upload.read, ← hr.left, ← hr.right]
  all_goals
    have hl := h err (by simpa [reads] using hr)
  case ready => split at hs <;> cases hs; simp_all [Left, Ended]
  case canceled => split at hs <;> cases hs; simp [Left]
  case post => split at hs <;> [simp_all [Left, Ended]; cases hs]
  case other => split at hs <;> cases hs; exact hl
  case close =>
    split at hs
    case isFalse => cases hs
    case isTrue =>
      split at hs <;> cases hs
      case h_2.refl s₁ _ _ =>
        have ⟨p, hc, he⟩ : ∃ p, s₁.upload.closed = { s₁.upload with phase := p } ∧
          (p = .ending ∨ p = .returned) := Recorded.closed_eq
        exact .inr (hc ▸ he)
  case finish =>
    split at hs
    case isFalse => cases hs
    case isTrue => split at hs <;> cases hs; exact .inr (.inr rfl)

-- In every run in which no post fails, the routine never gets stuck. In the end one command has been sent
-- for each result of reading but the last, followed by the one which ends the data.
theorem upload_sequenced {mgr : BaseManager τ} {net : ρ} {routine}
    (e : Execution (step f sendData) (start mgr net routine sid) as s)
    (hp : Along (step f sendData) (Succeeds f sendData) (start mgr net routine sid) as) :
    (s.Ended → ∃ cmds, s.sent = cmds.map Cmd.marshal ∧
      Sequenced sid (payloads as).length ((reads as).flatMap Prod.fst) cmds) ∧
    (∀ err, ([], some err) ∈ reads as → s.Left) ∧
    (∀ a, s.Turn a → ∃ s', s.step f sendData a = some s') := by
  refine ⟨fun he => ?_, ?_, fun _ => Turn.enabled⟩
  case refine_1 =>
    have ⟨ds, h⟩ : ∃ ds, Recorded sid as s ds :=
      e.preserves_history (I := fun as s => ∃ ds, Recorded sid as s ds)
        (fun ⟨_, h⟩ hp hs => h.step hp hs) ⟨[], .start⟩ hp
    have hr : payloads as = ds := by
      have := h.reads
      rcases he with he | he <;> simpa [he, pending] using this
    refine ⟨_, h.ended he, ?_⟩
    rw [← flatten_payloads, hr]
    exact sequenced_upstream
  case refine_2 =>
    exact e.preserves_history (I := fun as s => ∀ err, ([], some err) ∈ reads as → s.Left)
      (fun h _ hs => left_step h hs) nofun hp

theorem upload_sequenced_eof :
    let sendData (r : Unit) (_ : Bytes) (_ : Bool) : Unit × Option Bytes := (r, none)
    let s₀ : Uploading Unit Unit := start (.initial (.new 0 .empty ()) 2 (by decide)) () .terminal 7
    let as : List (Action Unit Unit) :=
      [.ready, .read [1, 2] none, .post, .read [3] (some .eof), .post, .read [] (some .eof), .close]
    ∃ s, Execution (step .ignore sendData) s₀ as s ∧
      ∃ cmds, s.sent = cmds.map Cmd.marshal ∧ Sequenced 7 2 [1, 2, 3] cmds := by
  intro sendData s₀ as
  have ⟨s, e, he⟩ : ∃ s, Execution (step .ignore sendData) s₀ as s ∧ s.Ended :=
    ⟨_, .of_foldlM rfl, .inr rfl⟩
  have hp : Along (step .ignore sendData) (Succeeds .ignore sendData) s₀ as := by
    refine .cons trivial rfl <| .cons trivial rfl <| .cons ?first rfl <| .cons trivial rfl <|
      .cons ?last rfl <| .cons trivial rfl <| .cons ?close rfl trivial
    case first | last =>
      intro _ _ _ hp ho
      cases hp
      cases ho
      rfl
    case close =>
      intro _ _ ho
      cases ho
      rfl
  exact ⟨s, e, (upload_sequenced e hp).left he⟩

end Uploading
end Pod
end Aranya
