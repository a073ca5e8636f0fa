import Mathlib.Data.List.Basic

namespace Aranya.Base64

def alphabet : List UInt8 :=
  "ABCDEFGHIJKLMNOPQRSTUVWXYZabcdefghijklmnopqrstuvwxyz0123456789+/".toList.map fun c => .ofNat c.toNat

def digit (n : Nat) : UInt8 :=
  alphabet.getD n 61

def value (c : UInt8) : Option Nat :=
  alphabet.idxOf? c

-- Three bytes are four digits. Missing ones are padded with `=`.
def encode : List UInt8 → List UInt8
  | [] => []
  | [a] => [digit (a.toNat / 4), digit (a.toNat % 4 * 16), 61, 61]
  | [a, b] =>
    [digit (a.toNat / 4), digit (a.toNat % 4 * 16 + b.toNat / 16), digit (b.toNat % 16 * 4), 61]
  | a :: b :: c :: data =>
    digit (a.toNat / 4) :: digit (a.toNat % 4 * 16 + b.toNat / 16) ::
      digit (b.toNat % 16 * 4 + c.toNat / 64) :: digit (c.toNat % 64) :: encode data

def decodeQuanta : List UInt8 → Option (List UInt8)
  | [] => some []
  | a :: b :: c :: d :: text => do
    let w ← value a
    let x ← value b
    let first := UInt8.ofNat (w * 4 + x / 16)
    if c = 61 then
      if d = 61 ∧ text = [] then some [first] else none
    else
      let y ← value c
      let second := UInt8.ofNat (x % 16 * 16 + y / 4)
      if d = 61 then
        if text = [] then some [first, second] else none
      else
        let z ← value d
        let data ← decodeQuanta text
        return first :: second :: UInt8.ofNat (y % 4 * 64 + z) :: data
  | _ => none

-- Line breaks are skipped, wherever they are.
def decode (text : List UInt8) : Option (List UInt8) :=
  decodeQuanta (text.filter fun c => c ≠ 10 ∧ c ≠ 13)

variable {n : Nat} {c : UInt8} {data : List UInt8}

theorem value_digit (h : n < 64) : value (digit n) = some n := by
  revert n
  decide

theorem digit_ne_pad (h : n < 64) : digit n ≠ 61 := by
  revert n
  decide

theorem digit_mem : digit n ∈ alphabet ∨ digit n = 61 := by
  rw [digit, List.getD_eq_getElem?_getD]
  cases h : alphabet[n]?
  case none => exact .inr rfl
  case some c => exact .inl (List.mem_of_getElem? h)

theorem mem_encode (h : c ∈ encode data) : c ∈ alphabet ∨ c = 61 := by
  fun_induction encode data
  case case1 => cases h
  case case2 | case3 =>
    simp only [List.mem_cons, List.not_mem_nil, or_false] at h
    rcases h with rfl | rfl | rfl | rfl
    all_goals first | exact digit_mem | exact .inr rfl
  case case4 hi =>
    simp only [List.mem_cons] at h
    rcases h with rfl | rfl | rfl | rfl | h
    all_goals first | exact digit_mem | exact hi h

theorem not_mem_encode (h : c ∉ alphabet) (hp : c ≠ 61) : c ∉ encode data :=
  fun hc => (mem_encode hc).elim h hp

theorem decodeQuanta_encode : decodeQuanta (encode data) = some data := by
  fun_induction encode data
  case case1 => rfl
  case case2 a =>
    have ha := a.toNat_lt
    have hf : a.toNat / 4 * 4 + a.toNat % 4 * 16 / 16 = a.toNat := by omega
    simp (disch := omega) only [decodeQuanta, value_digit, Option.bind_eq_bind, Option.bind_some, and_self,
      if_true, hf, UInt8.ofNat_toNat]
  case case3 a b =>
    have ha := a.toNat_lt
    have hb := b.toNat_lt
    have hf : a.toNat / 4 * 4 + (a.toNat % 4 * 16 + b.toNat / 16) / 16 = a.toNat := by omega
    have hs : (a.toNat % 4 * 16 + b.toNat / 16) % 16 * 16 + b.toNat % 16 * 4 / 4 = b.toNat := by omega
    simp (disch := omega) only [decodeQuanta, value_digit, digit_ne_pad, Option.bind_eq_bind, Option.bind_some,
      if_true, if_false, hf, hs, UInt8.ofNat_toNat]
  case case4 a b c data hi =>
    have ha := a.toNat_lt
    have hb := b.toNat_lt
    have hc := c.toNat_lt
    have hf : a.toNat / 4 * 4 + (a.toNat % 4 * 16 + b.toNat / 16) / 16 = a.toNat := by omega
    have hs : (a.toNat % 4 * 16 + b.toNat / 16) % 16 * 16 + (b.toNat % 16 * 4 + c.toNat / 64) / 4 =
        b.toNat := by
      omega
    have ht : (b.toNat % 16 * 4 + c.toNat / 64) % 4 * 64 + c.toNat % 64 = c.toNat := by omega
    simp (disch := omega) only [decodeQuanta, value_digit, digit_ne_pad, Option.bind_eq_bind, Option.bind_some,
      if_false, hf, hs, ht, UInt8.ofNat_toNat, hi]
    rfl

theorem decode_encode : decode (encode data) = some data := by
  have hf : (encode data).filter (fun c => c ≠ 10 ∧ c ≠ 13) = encode data := by
    rw [List.filter_eq_self]
    intro c hc
    have h₁ : c ≠ 10 := fun h => not_mem_encode (by decide) (by decide) (h ▸ hc)
    have h₂ : c ≠ 13 := fun h => not_mem_encode (by decide) (by decide) (h ▸ hc)
    simp [h₁, h₂]
  rw [decode, hf, decodeQuanta_encode]

end Aranya.Base64
