import Aranya.Lib.List
import Aranya.VirtualNode.Lease

namespace Aranya.VirtualNode

def renewedAt (now : Int) (lease : Kube.Lease) : Kube.Lease :=
  { lease with spec := { lease.spec with renewTime := some now } }

namespace LeaseAttempt

variable (o : LeaseOutcomes) (leases : Nat → Kube.Lease) (i : Nat) (a : LeaseAttempt)

def Succeeds : Prop :=
  a.sent ≠ none ∧ o.update i = none

def Conflicts : Prop :=
  a.sent ≠ none ∧ o.update i = some .conflict

def Reads (lease : Kube.Lease) : Prop :=
  if a.fetched then o.get i = .ok lease
  else ∃ addr, o.getLeaseFromCache i = some addr ∧ lease = leases addr

def SendsCopy : Prop :=
  ∀ lease, a.sent = some lease → ∃ read, a.Reads o leases i read ∧ lease = renewedAt (o.now i) read

end LeaseAttempt

namespace Renewal

variable {o : LeaseOutcomes} {leases : Nat → Kube.Lease} {s : Renewal} {n i : Nat} {a : LeaseAttempt}

structure Attempted (o : LeaseOutcomes) (i : Nat) (s : Renewal) (a : LeaseAttempt) (s' : Renewal) : Prop where
  leases : s'.leases = s.leases
  attempts : s'.attempts = s.attempts ++ [a]
  sends : a.SendsCopy o s.leases i
  fetched : s.requireLatestLease = true → a.fetched = true
  err : s'.err = none ↔ a.Succeeds o i
  latest : a.Conflicts o i → s'.requireLatestLease = true

theorem renew_attempted {fetched : Bool} (lease : Ptr Kube.Lease)
    (hr : LeaseAttempt.Reads o s.leases i ⟨fetched, some (renewedAt (o.now i) (lease.deref s.leases))⟩
      (lease.deref s.leases))
    (hf : s.requireLatestLease = true → fetched = true) :
    Attempted o i s ⟨fetched, some (renewedAt (o.now i) (lease.deref s.leases))⟩
      (s.renew o i fetched lease) := by
  constructor
  case leases => rfl
  case attempts => rfl
  case sends =>
    rintro _ ⟨⟩
    exact ⟨_, hr, rfl⟩
  case fetched => exact hf
  case err => simp [renew, LeaseAttempt.Succeeds]
  case latest =>
    rintro ⟨_, hc⟩
    simp [renew, hc]

theorem attempt_attempted : ∃ a, Attempted o i s a (s.attempt o i) := by
  rw [attempt]
  split
  case h_1 addr ha hl =>
    refine ⟨_, renew_attempted (.held addr) ?_ (by simp [hl])⟩
    exact ⟨addr, ha, rfl⟩
  case h_2 =>
    split
    case h_1 err hg =>
      refine ⟨⟨true, none⟩, rfl, rfl, ?_, fun _ => rfl, ?_, ?_⟩
      case refine_1 => rintro _ ⟨⟩
      case refine_2 => simp [LeaseAttempt.Succeeds]
      case refine_3 => exact fun hc => absurd rfl hc.left
    case h_2 lease hg =>
      exact ⟨_, renew_attempted (.own lease) hg fun _ => rfl⟩

structure Recorded (o : LeaseOutcomes) (leases : Nat → Kube.Lease) (n : Nat) (s : Renewal) : Prop where
  cached : s.leases = leases
  length : s.attempts.length = n
  sends : ∀ (i : Nat) (a : LeaseAttempt), s.attempts[i]? = some a → a.SendsCopy o leases i
  succeeded : ∀ (i : Nat) (a : LeaseAttempt), s.attempts[i]? = some a → a.Succeeds o i → s.err = none ∧ i + 1 = n
  nil : s.err = none → n = 0 ∨ ∃ (i : Nat) (a : LeaseAttempt), s.attempts[i]? = some a ∧ a.Succeeds o i
  conflict : ∀ (i : Nat) (a : LeaseAttempt), s.attempts[i]? = some a → a.Conflicts o i →
    (∃ a', s.attempts[i + 1]? = some a' ∧ a'.fetched = true) ∨ i + 1 = n ∧ s.requireLatestLease = true

theorem Recorded.start : Recorded o leases 0 ⟨leases, none, false, []⟩ := by
  constructor <;> simp

theorem Recorded.attempt (h : Recorded o leases n s) (he : n = 0 ∨ s.err ≠ none) :
    Recorded o leases (n + 1) (s.attempt o n) := by
  obtain ⟨a, ha⟩ := attempt_attempted (o := o) (s := s) (i := n)
  have hs {i b} : (s.attempt o n).attempts[i]? = some b ↔ s.attempts[i]? = some b ∨ i = n ∧ b = a := by
    rw [ha.attempts, getElem?_concat_eq_some_iff, h.length]
  constructor
  case cached => rw [ha.leases, h.cached]
  case length => simp [ha.attempts, h.length]
  case sends =>
    intro i b hb
    rcases hs.mp hb with hb | ⟨rfl, rfl⟩
    case inl => exact h.sends i b hb
    case inr => exact h.cached ▸ ha.sends
  case succeeded =>
    intro i b hb hc
    rcases hs.mp hb with hb | ⟨rfl, rfl⟩
    case inr => exact ⟨ha.err.mpr hc, rfl⟩
    case inl =>
      obtain ⟨h₁, h₂⟩ := h.succeeded i b hb hc
      rcases he with he | he
      case inl => omega
      case inr => exact absurd h₁ he
  case nil => exact fun he => .inr ⟨n, a, hs.mpr (.inr ⟨rfl, rfl⟩), ha.err.mp he⟩
  case conflict =>
    intro i b hb hc
    rcases hs.mp hb with hb | ⟨rfl, rfl⟩
    case inr => exact .inr ⟨rfl, ha.latest hc⟩
    case inl =>
      rcases h.conflict i b hb hc with ⟨b', hb', hf⟩ | ⟨rfl, hf⟩
      case inl => exact .inl ⟨b', hs.mpr (.inl hb'), hf⟩
      case inr => exact .inl ⟨a, hs.mpr (.inr ⟨rfl, rfl⟩), ha.fetched hf⟩

theorem loop_recorded (leases : Nat → Kube.Lease) {m : Nat} {exit : Bool}
    (h : loop (fun s i => (s.attempt o i, (s.attempt o i).err.isNone)) ⟨leases, none, false, []⟩ (.range m) =
      (s, exit)) :
    ∃ n ≤ m, Recorded o leases n s ∧
      (exit = true ∧ n ≠ 0 ∧ s.err = none ∨ exit = false ∧ n = m ∧ (n = 0 ∨ s.err ≠ none)) := by
  induction m generalizing s exit
  case zero =>
    cases h
    exact ⟨0, le_rfl, .start, .inr ⟨rfl, rfl, .inl rfl⟩⟩
  case succ m hi =>
    rw [List.range_succ] at h
    cases hl : loop _ _ (List.range m)
    case mk t exit' =>
      obtain ⟨n, hn, hr, ⟨rfl, he⟩ | ⟨rfl, rfl, he⟩⟩ := hi hl
      case inl =>
        cases (loop_append_of_exit hl).symm.trans h
        exact ⟨n, by omega, hr, .inl ⟨rfl, he⟩⟩
      case inr =>
        rw [loop_append_of_continue hl, loop_singleton] at h
        cases h
        refine ⟨n + 1, le_rfl, hr.attempt he, ?_⟩
        cases hb : (t.attempt o n).err <;> simp

end Renewal

-- A lease is renewed iff one of five attempts has updated it, after which none is made.
structure Renews (o : LeaseOutcomes) (leases : Nat → Kube.Lease) (s : Renewal) : Prop where
  nil_iff : s.err = none ↔ ∃ (i : Nat) (a : LeaseAttempt), s.attempts[i]? = some a ∧ a.Succeeds o i
  bound : s.attempts.length ≤ 5
  stops : ∀ (i : Nat) (a : LeaseAttempt), s.attempts[i]? = some a → a.Succeeds o i → s.attempts.length = i + 1
  sends : ∀ (i : Nat) (a : LeaseAttempt), s.attempts[i]? = some a → a.SendsCopy o leases i
  cached : s.leases = leases
  latest : ∀ (i : Nat) (a : LeaseAttempt), s.attempts[i]? = some a → a.Conflicts o i → i + 1 < 5 →
    ∃ a', s.attempts[i + 1]? = some a' ∧ a'.fetched = true

theorem updateLeaseWithRetry_renews (o : LeaseOutcomes) (leases : Nat → Kube.Lease) :
    Renews o leases (updateLeaseWithRetry o leases) := by
  obtain ⟨n, hn, hr, he⟩ := Renewal.loop_recorded leases (o := o) (m := 5) rfl
  have hz : n ≠ 0 := by omega
  have hl := hr.length
  constructor
  case nil_iff =>
    constructor
    case mp => exact fun he => (hr.nil he).resolve_left hz
    case mpr =>
      rintro ⟨i, a, ha, hs⟩
      exact (hr.succeeded i a ha hs).left
  case bound => exact hl.trans_le hn
  case stops => exact fun i a ha hs => hl.trans (hr.succeeded i a ha hs).right.symm
  case sends => exact hr.sends
  case cached => exact hr.cached
  case latest =>
    intro i a ha hc hi
    rcases hr.conflict i a ha hc with h | ⟨rfl, -⟩
    case inl => exact h
    case inr =>
      -- fewer than five attempts are made only if the last one has succeeded
      rcases he with ⟨_, _, he⟩ | ⟨_, hn, _⟩
      case inr => omega
      case inl =>
        obtain ⟨j, b, hb, hs⟩ := (hr.nil he).resolve_left hz
        obtain rfl : j = i := by
          have := (hr.succeeded j b hb hs).right
          omega
        exact absurd (hs.right.symm.trans hc.right) (by simp)

end Aranya.VirtualNode
