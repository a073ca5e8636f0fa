import Aranya.Connectivity.Manager

namespace Aranya.BaseManager

variable {τ ρ : Type*} {m : BaseManager τ} {sendData : ρ → Bytes → Bool → ρ × Option Bytes} {r r' r₁ : ρ}
    {kind : CmdType} {sid s n size : Nat} {complete : Bool} {payload : Bytes} {cmds : List Cmd}

structure Chunks (size : Nat) (kind : CmdType) (sid s : Nat) (complete : Bool) (payload : Bytes)
    (cmds : List Cmd) : Prop where
  length : cmds.length = (payload.length - 1) / size + 1
  header : ∀ j cmd, cmds[j]? = some cmd → cmd.kind = kind ∧ cmd.sid = sid ∧ cmd.seq = s + j
  bounded : ∀ cmd ∈ cmds, cmd.payload.length ≤ size
  full : ∀ j cmd, cmds[j]? = some cmd → j + 1 < cmds.length →
    cmd.payload.length = size ∧ cmd.complete = false
  last : ∀ cmd, cmds.getLast? = some cmd → cmd.complete = complete
  payload : cmds.flatMap Cmd.payload = payload

theorem Chunks.single (h : payload.length ≤ size) (hs : 0 < size) :
    Chunks size kind sid s complete payload [⟨kind, sid, s, complete, payload⟩] where
  length := by
    rw [Nat.div_eq_of_lt (by omega)]
    rfl
  header := by
    intro j cmd h
    cases j
    case zero => cases h; exact ⟨rfl, rfl, rfl⟩
    case succ => simp at h
  bounded := by simpa using h
  full := by simp
  last := by simp
  payload := by simp

theorem Chunks.cons (h : Chunks size kind sid (s + 1) complete (payload.drop size) cmds)
    (hl : size < payload.length) (hs : 0 < size) :
    Chunks size kind sid s complete payload
      (⟨kind, sid, s, false, payload.take size⟩ :: cmds) where
  length := by
    have hd : payload.length - 1 = payload.length - size - 1 + size := by omega
    rw [List.length_cons, h.length, List.length_drop, hd, Nat.add_div_right _ hs]
  header := by
    intro j cmd hj
    cases j
    case zero => cases hj; exact ⟨rfl, rfl, rfl⟩
    case succ j =>
      have ⟨h₁, h₂, h₃⟩ := h.header j cmd (by simpa using hj)
      exact ⟨h₁, h₂, by omega⟩
  bounded := by
    refine List.forall_mem_cons.mpr ⟨?_, h.bounded⟩
    simp
  full := by
    intro j cmd hj hn
    cases j
    case zero => cases hj; simp; omega
    case succ j => exact h.full j cmd (by simpa using hj) (by simpa using hn)
  last := by
    intro cmd hc
    have hn : cmds ≠ [] := by
      have := h.length
      intro hn
      simp [hn] at this
    rw [List.getLast?_cons, List.getLast?_eq_some_getLast hn] at hc
    exact h.last cmd (by simpa [List.getLast?_eq_some_getLast hn] using hc)
  payload := by rw [List.flatMap_cons, h.payload, List.take_append_drop]

def send (sendData : ρ → Bytes → Bool → ρ × Option Bytes) (r : ρ) (cmd : Cmd) : Option ρ :=
  match sendData r cmd.marshal true with
  | (r, none) => some r
  | (_, some _) => none

theorem send_eq_some {cmd} (h : send sendData r cmd = some r') : sendData r cmd.marshal true = (r', none) := by
  simp only [send] at h
  split at h <;> cases h
  assumption

structure Posts (sendData : ρ → Bytes → Bool → ρ × Option Bytes) (post : ρ → ρ × Nat × Option Bytes)
    (s : Nat) (cmds : List Cmd) : Prop where
  ok : ∀ r r', Execution (send sendData) r cmds r' → post r = (r', s + cmds.length - 1, none)
  error : ∀ r r₁ r' j cmd err, Execution (send sendData) r (cmds.take j) r₁ → cmds[j]? = some cmd →
    sendData r₁ cmd.marshal true = (r', some err) →
    post r = (r', cmd.seq, some (str "failed to post cmd chunk: " ++ err))

theorem posts_last :
    Posts sendData (doPostData.last sendData kind sid complete · s payload) s
      [⟨kind, sid, s, complete, payload⟩] where
  ok := by
    intro r r' e
    cases e
    case trans h e =>
      cases e
      simp [doPostData.last, doPostData.post, send_eq_some h]
  error := by
    intro r r₁ r' j cmd err e hj h
    cases j
    case succ => simp at hj
    case zero =>
      cases e
      cases hj
      simp [doPostData.last, doPostData.post, h]

theorem Posts.cons {post} (hp : Posts sendData post (s + 1) cmds) :
    Posts sendData (fun r =>
      match doPostData.post sendData kind sid r s false payload with
      | (r, some err) => (r, s, some err)
      | (r, none) => post r) s (⟨kind, sid, s, false, payload⟩ :: cmds) where
  ok := by
    intro r r' e
    cases e
    case trans h e =>
      simp only [doPostData.post, send_eq_some h, hp.ok _ _ e, List.length_cons]
      congr 2
      omega
  error := by
    intro r r₁ r' j cmd err e hj h
    cases j
    case zero =>
      cases e
      cases hj
      simp [doPostData.post, h]
    case succ j =>
      cases e
      case trans h' e =>
        simp only [doPostData.post, send_eq_some h']
        exact hp.error _ _ _ j cmd err e (by simpa using hj) h

theorem posts_go (hn : payload.length ≤ n)
    (hw : s + (payload.length - 1) / m.maxDataSize < 2 ^ 64) :
    ∃ cmds, Chunks m.maxDataSize kind sid s complete payload cmds ∧
      Posts sendData (doPostData.go sendData m kind sid complete n · s payload) s cmds := by
  have hs := m.maxDataSize_pos
  induction n generalizing s payload
  case zero => exact ⟨_, .single (by omega) hs, posts_last⟩
  case succ n hi =>
    by_cases hl : m.maxDataSize < payload.length
    case neg =>
      refine ⟨_, .single (by omega) hs, ?_⟩
      simp only [doPostData.go, if_neg hl]
      exact posts_last
    case pos =>
      have hd : payload.length - 1 = payload.length - m.maxDataSize - 1 + m.maxDataSize := by omega
      have hw' : s + 1 + ((payload.drop m.maxDataSize).length - 1) / m.maxDataSize < 2 ^ 64 := by
        rw [hd, Nat.add_div_right _ hs] at hw
        rw [List.length_drop]
        omega
      have hm : (s + 1) % 2 ^ 64 = s + 1 :=
        Nat.mod_eq_of_lt <| Nat.lt_of_le_of_lt (Nat.le_add_right ..) hw'
      have ⟨cmds, hc, hp⟩ := hi (by rw [List.length_drop]; omega) hw'
      refine ⟨_, hc.cons hl hs, ?_⟩
      simp only [doPostData.go, if_pos hl, hm]
      exact hp.cons

theorem doPostData_chunks (hw : s + (payload.length - 1) / m.maxDataSize < 2 ^ 64) :
    ∃ cmds, Chunks m.maxDataSize kind sid s complete payload cmds ∧
      (∀ r r', Execution (send sendData) r cmds r' →
        doPostData sendData m r kind sid s complete payload = (r', s + cmds.length - 1, none)) ∧
      (∀ r r₁ r' j cmd err, Execution (send sendData) r (cmds.take j) r₁ → cmds[j]? = some cmd →
        sendData r₁ cmd.marshal true = (r', some err) →
        doPostData sendData m r kind sid s complete payload =
          (r', cmd.seq, some (str "failed to post cmd chunk: " ++ err))) := by
  have ⟨cmds, hc, hp⟩ : ∃ cmds, Chunks m.maxDataSize kind sid s complete payload cmds ∧
      Posts sendData (doPostData.go sendData m kind sid complete payload.length · s payload) s cmds :=
    posts_go (Nat.le_refl payload.length) hw
  exact ⟨cmds, hc, hp.ok, hp.error⟩

theorem doPostData_chunks_five :
    let m : BaseManager Unit := initial (.new 0 .empty ()) 2 (by decide)
    let sendData (sent : List Bytes) (data : Bytes) (_ : Bool) : List Bytes × Option Bytes :=
      (sent ++ [data], none)
    ∃ cmds, Chunks 2 .runtime 1 7 true [1, 2, 3, 4, 5] cmds ∧
      (∀ r r', Execution (send sendData) r cmds r' →
        doPostData sendData m r .runtime 1 7 true [1, 2, 3, 4, 5] = (r', 7 + cmds.length - 1, none)) ∧
      (∀ r r₁ r' j cmd err, Execution (send sendData) r (cmds.take j) r₁ → cmds[j]? = some cmd →
        sendData r₁ cmd.marshal true = (r', some err) →
        doPostData sendData m r .runtime 1 7 true [1, 2, 3, 4, 5] =
          (r', cmd.seq, some (str "failed to post cmd chunk: " ++ err))) := by
  intro m sendData
  have hw : 7 + (([1, 2, 3, 4, 5] : Bytes).length - 1) / m.maxDataSize < 2 ^ 64 := by decide
  exact doPostData_chunks hw

end Aranya.BaseManager
