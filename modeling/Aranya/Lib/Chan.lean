import Mathlib.Logic.Function.Basic
import Mathlib.Data.List.Basic

namespace Aranya

-- The runtime panics, or the call waits for something that only another party can provide.
inductive Fault
  | closeOfNilChannel
  | sendOnClosedChannel
  | nilDereference
  | typeAssertion
  | blocked
  deriving DecidableEq, Repr

-- A channel with everything that ever happened to it: the values sent, how many were received, and how
-- often it was closed. The runtime panics at the second close.
structure Chan (α : Type*) where
  cap : Nat
  sent : List α
  taken : Nat
  closes : Nat
  deriving DecidableEq

namespace Chan

variable {α : Type*}

def new (cap : Nat) : Chan α where
  cap := cap
  sent := []
  taken := 0
  closes := 0

def closed (c : Chan α) : Bool :=
  c.closes != 0

def full (c : Chan α) : Bool :=
  c.cap ≤ c.sent.length - c.taken

def close (c : Chan α) : Chan α :=
  { c with closes := c.closes + 1 }

def send (c : Chan α) (a : α) : Except Fault (Chan α) :=
  if c.closed then .error .sendOnClosedChannel
  else if c.full then .error .blocked
  else .ok { c with sent := c.sent ++ [a] }

-- A receive that takes a value (as opposed to noticing that the channel is closed and empty).
def recv (c : Chan α) : Option (Chan α) :=
  if c.taken < c.sent.length then some { c with taken := c.taken + 1 } else none

@[simp]
theorem closed_new (cap : Nat) : (new cap : Chan α).closed = false :=
  rfl

@[simp]
theorem closes_new (cap : Nat) : (new cap : Chan α).closes = 0 :=
  rfl

@[simp]
theorem closed_close (c : Chan α) : c.close.closed = true := by
  simp [closed, close]

@[simp]
theorem sent_close (c : Chan α) : c.close.sent = c.sent :=
  rfl

theorem not_closed_iff {c : Chan α} : c.closed = false ↔ c.closes = 0 := by
  simp [closed]

theorem send_eq_ok {c c' : Chan α} {a : α} (h : c.send a = .ok c') :
    c.closes = 0 ∧ c' = { c with sent := c.sent ++ [a] } := by
  simp only [send] at h
  split at h
  case isTrue => cases h
  case isFalse hc =>
    split at h
    case isTrue => cases h
    case isFalse => exact ⟨not_closed_iff.mp (by simpa using hc), by cases h; rfl⟩

theorem send_first {c : Chan α} {a : α} (hc : c.closes = 0) (hp : 0 < c.cap) (hs : c.sent = []) :
    c.send a = .ok { c with sent := [a] } := by
  have hf : c.full = false := by simp [full, hs]; omega
  simp [send, not_closed_iff.mpr hc, hf, hs]

end Chan

-- Channels are referred to by number, and `make` hands out the numbers in order.
structure Chans (α : Type*) where
  next : Nat
  chan : Nat → Chan α

namespace Chans

variable {α : Type*}

def empty : Chans α where
  next := 0
  chan _ := .new 0

def make (h : Chans α) (cap : Nat) : Chans α where
  next := h.next + 1
  chan := Function.update h.chan h.next (.new cap)

def set (h : Chans α) (i : Nat) (c : Chan α) : Chans α :=
  { h with chan := Function.update h.chan i c }

def close (h : Chans α) (i : Nat) : Chans α :=
  h.set i (h.chan i).close

def closeOnce (h : Chans α) (i : Nat) : Chans α :=
  if (h.chan i).closed then h else h.close i

def send (h : Chans α) (i : Nat) (a : α) : Except Fault (Chans α) :=
  match (h.chan i).send a with
  | .ok c => .ok (h.set i c)
  | .error f => .error f

variable {h h' : Chans α} {i j : Nat} {a : α} {c : Chan α} {cap : Nat}

@[simp]
theorem next_make : (h.make cap).next = h.next + 1 :=
  rfl

@[simp]
theorem chan_make_next : (h.make cap).chan h.next = .new cap := by
  simp [make]

theorem chan_make_of_ne (hn : i ≠ h.next) : (h.make cap).chan i = h.chan i := by
  simp [make, hn]

theorem chan_make_of_lt (hl : i < h.next) : (h.make cap).chan i = h.chan i :=
  chan_make_of_ne (Nat.ne_of_lt hl)

@[simp]
theorem chan_set_self : (h.set i c).chan i = c := by
  simp [set]

theorem chan_set_of_ne (hn : j ≠ i) : (h.set i c).chan j = h.chan j := by
  simp [set, hn]

@[simp]
theorem chan_close_self : (h.close i).chan i = (h.chan i).close := by
  simp [close]

theorem chan_close_of_ne (hn : j ≠ i) : (h.close i).chan j = h.chan j :=
  chan_set_of_ne hn

theorem closed_close_of_closed (hc : (h.chan j).closed = true) : ((h.close i).chan j).closed = true := by
  by_cases hj : j = i
  case pos => simp [hj]
  case neg => rwa [chan_close_of_ne hj]

@[simp]
theorem next_closeOnce : (h.closeOnce i).next = h.next := by
  simp only [closeOnce]
  split <;> rfl

@[simp]
theorem closed_closeOnce_self : ((h.closeOnce i).chan i).closed = true := by
  simp only [closeOnce]
  split
  case isTrue hc => exact hc
  case isFalse => simp

theorem closed_closeOnce_of_closed (hc : (h.chan j).closed = true) :
    ((h.closeOnce i).chan j).closed = true := by
  simp only [closeOnce]
  split
  case isTrue => exact hc
  case isFalse => exact closed_close_of_closed hc

theorem chan_closeOnce_of_ne (hn : j ≠ i) : (h.closeOnce i).chan j = h.chan j := by
  simp only [closeOnce]
  split
  case isTrue => rfl
  case isFalse => exact chan_close_of_ne hn

def ClosedOnce (h : Chans α) : Prop :=
  ∀ c, (h.chan c).closes ≤ 1

theorem ClosedOnce.make (ho : h.ClosedOnce) : (h.make cap).ClosedOnce := by
  intro c
  by_cases hc : c = h.next
  case pos => simp [hc]
  case neg => rw [chan_make_of_ne hc]; exact ho c

theorem ClosedOnce.close (ho : h.ClosedOnce) (hi : (h.chan i).closed = false) : (h.close i).ClosedOnce := by
  intro c
  by_cases hc : c = i
  case pos => simp [hc, Chan.close, Chan.not_closed_iff.mp hi]
  case neg => rw [chan_close_of_ne hc]; exact ho c

theorem ClosedOnce.closeOnce (ho : h.ClosedOnce) : (h.closeOnce i).ClosedOnce := by
  simp only [Chans.closeOnce]
  split
  case isTrue => exact ho
  case isFalse hc => exact ho.close (by simpa using hc)

theorem send_eq_ok (hs : h.send i a = .ok h') :
    (h.chan i).closes = 0 ∧ h' = h.set i { h.chan i with sent := (h.chan i).sent ++ [a] } := by
  simp only [send] at hs
  split at hs
  case h_1 hc =>
    have ⟨h₁, h₂⟩ := Chan.send_eq_ok hc
    cases hs
    exact ⟨h₁, h₂ ▸ rfl⟩
  case h_2 => cases hs

theorem send_first (hc : (h.chan i).closes = 0) (hp : 0 < (h.chan i).cap)
    (hs : (h.chan i).sent = []) : h.send i a = .ok (h.set i { h.chan i with sent := [a] }) := by
  simp [send, Chan.send_first hc hp hs]

end Chans
end Aranya
