import Aranya.IPAM.Manager
import Aranya.IPAM.Theorems.Block
import Aranya.Lib.Except
import Aranya.Lib.Execution

namespace Aranya.IPAM

open Net

namespace Block

variable {b b' c : Block} {ret : Option Bytes} {ipReq : Option Bytes} {ip : Bytes} {ok : Bool}
    {res : Except Bytes IPNet}

def shape (b : Block) : Nat × Nat × IPMask :=
  (b.startInt, b.endInt, b.mask)

theorem moveToNextUnused_cases (h : b.moveToNextUnused = .ok (b', ret)) :
    b' = b ∧ ret = none ∨ b'.shape = b.shape ∧ ret.isSome := by
  rw [moveToNextUnused] at h
  split at h
  case h_1 => cases h; exact .inl ⟨rfl, rfl⟩
  case h_2 =>
    obtain ⟨next, -, h⟩ := Except.bind_eq_ok_iff.mp h
    cases h
    exact .inr ⟨rfl, rfl⟩

theorem allocate_cases (h : b.allocate ipReq = .ok (b', res)) :
    b' = b ∨ b'.shape = b.shape ∧ ∃ ret, res = .ok ret := by
  cases ipReq
  case none =>
    obtain ⟨⟨b'', ret⟩, hm, h⟩ := Except.bind_eq_ok_iff.mp h
    cases moveToNextUnused_cases hm
    case inl hm =>
      obtain ⟨rfl, rfl⟩ := hm
      cases h
      exact .inl rfl
    case inr hm =>
      obtain ⟨ret, rfl⟩ := Option.isSome_iff_exists.mp hm.right
      cases h
      exact .inr ⟨hm.left, _, rfl⟩
  case some ip =>
    rw [allocate] at h
    split at h
    case isTrue => cases h; exact .inl rfl
    case isFalse =>
      split at h
      case isTrue => cases h; exact .inl rfl
      case isFalse =>
        split at h
        case h_1 => cases h
        case h_2 =>
          obtain ⟨⟨b'', ret⟩, hm, h⟩ := Except.bind_eq_ok_iff.mp h
          cases h
          refine .inr ⟨?_, _, rfl⟩
          split at hm
          case isFalse => cases hm; rfl
          case isTrue =>
            cases moveToNextUnused_cases hm
            case inl hm => exact hm.left ▸ rfl
            case inr hm => exact hm.left

theorem shape_allocate (h : b.allocate ipReq = .ok (b', res)) : b'.shape = b.shape := by
  cases allocate_cases h
  case inl h => rw [h]
  case inr h => exact h.left

theorem allocate_error {e : Bytes} (h : b.allocate ipReq = .ok (b', .error e)) : b' = b := by
  cases allocate_cases h
  case inl h => exact h
  case inr h => obtain ⟨_, _, h⟩ := h; cases h

theorem shape_putBack (h : b.putBack ip = .ok (b', ok)) : b'.shape = b.shape := by
  rw [putBack] at h
  split at h
  case isTrue => cases h; rfl
  case isFalse =>
    split at h
    case h_1 => cases h; rfl
    case h_2 =>
      split at h
      case isFalse => cases h; rfl
      case isTrue =>
        simp only at h
        split at h
        case h_1 => cases h
        case h_2 => cases h; split <;> rfl

def Disjoint (b c : Block) : Prop :=
  ∀ n, ¬(n ∈ b ∧ n ∈ c)

theorem overlapped_iff : b.overlapped c = true ↔ ∃ n, n ∈ b ∧ n ∈ c := by
  have hb := b.le
  have hc := c.le
  simp only [overlapped, mem_iff, Bool.not_eq_true', Bool.or_eq_false_iff, decide_eq_false_iff_not]
  constructor
  case mp => exact fun h => ⟨max b.startInt c.startInt, by omega⟩
  case mpr => rintro ⟨n, h₁, h₂⟩; omega

theorem Disjoint.symm (h : b.Disjoint c) : c.Disjoint b :=
  fun n hn => h n hn.symm

theorem lt_of_disjoint (hl : b.startInt ≤ c.startInt) (h : b.Disjoint c) : b.endInt < c.startInt := by
  by_contra hn
  exact h c.startInt ⟨⟨hl, not_lt.mp hn⟩, le_rfl, c.le⟩

end Block

namespace IPAddressManager

variable {net : Texts} {m m' : IPAddressManager} {b b' : Block} {i k : Nat} {ipReq : Option Bytes}
    {ip cidr start stop : Bytes} {res : Except Bytes IPNet} {a : Action} {as : List Action} {bs : List Block}

def shapes (m : IPAddressManager) : List (Nat × Nat × IPMask) :=
  m.blocks.map Block.shape

theorem map_shape_set (h : bs[i]? = some b) (hs : b'.shape = b.shape) :
    (bs.set i b').map Block.shape = bs.map Block.shape := by
  obtain ⟨hi, rfl⟩ := List.getElem?_eq_some_iff.mp h
  rw [List.map_set, hs, ← List.getElem_map Block.shape (h := by simpa using hi), List.set_getElem_self]

theorem allocateAt_eq_ok (h : m.allocateAt i ipReq = .ok (m', res)) :
    ∃ b b', m.blocks[i]? = some b ∧ b.allocate ipReq = .ok (b', res) ∧
      m' = { m with blocks := m.blocks.set i b' } := by
  rw [allocateAt] at h
  split at h
  case h_1 => cases h
  case h_2 b hb =>
    obtain ⟨⟨b', res'⟩, ha, h⟩ := Except.bind_eq_ok_iff.mp h
    cases h
    exact ⟨b, b', hb, ha, rfl⟩

theorem shapes_allocateAt (h : m.allocateAt i ipReq = .ok (m', res)) : m'.shapes = m.shapes := by
  obtain ⟨b, b', hb, ha, rfl⟩ := allocateAt_eq_ok h
  exact map_shape_set hb (Block.shape_allocate ha)

theorem allocateAt_error {e : Bytes} (h : m.allocateAt i ipReq = .ok (m', .error e)) : m' = m := by
  obtain ⟨b, b', hb, ha, rfl⟩ := allocateAt_eq_ok h
  obtain ⟨hi, rfl⟩ := List.getElem?_eq_some_iff.mp hb
  rw [Block.allocate_error ha, List.set_getElem_self]

def Asks (m : IPAddressManager) : Option Bytes → Nat → Prop
  | none, i => m.blockIndex ≤ i
  | some ipReq, i => i = search m.blocks.length fun i => m.blocks[i]?.any (·.contains ipReq)

inductive Allocates (m : IPAddressManager) (ipReq : Option Bytes) : IPAddressManager → Except Bytes IPNet → Prop
  | asked {i ret} {m₀ m' : IPAddressManager} : m.Asks ipReq i → m₀.blocks = m.blocks →
    m₀.allocateAt i ipReq = .ok (m', .ok ret) → Allocates m ipReq m' (.ok ret)
  | refused {e} {m' : IPAddressManager} : m'.blocks = m.blocks → Allocates m ipReq m' (.error e)

theorem allocateNext_allocates (h : allocateNext k m = .ok (m', res)) : m.Allocates none m' res := by
  induction k generalizing m
  case zero =>
    cases h
    exact .refused rfl
  case succ k hi =>
    obtain ⟨⟨m'', res'⟩, ha, h⟩ := Except.bind_eq_ok_iff.mp h
    cases res'
    case ok ret =>
      cases h
      have hb : ({ m with blockIndex := m.blockIndex + 1 } : IPAddressManager).blocks = m.blocks := rfl
      exact .asked (Nat.le_succ _) hb ha
    case error e =>
      cases allocateAt_error ha
      cases hi (m := { m with blockIndex := m.blockIndex + 1 }) h
      case asked hl hb ha _ => exact .asked ((Nat.le_succ _).trans hl) hb ha
      case refused hb _ => exact .refused hb

theorem allocate_allocates (h : m.allocate ipReq = .ok (m', res)) : m.Allocates ipReq m' res := by
  cases ipReq
  case none =>
    obtain ⟨⟨m'', res'⟩, ha, h⟩ := Except.bind_eq_ok_iff.mp h
    cases res'
    case ok ret =>
      cases h
      exact .asked le_rfl rfl ha
    case error e =>
      cases allocateAt_error ha
      exact allocateNext_allocates h
  case some ip =>
    obtain ⟨⟨m'', res'⟩, ha, h⟩ := Except.bind_eq_ok_iff.mp h
    cases res'
    case ok ret =>
      cases h
      exact .asked rfl rfl ha
    case error e =>
      cases allocateAt_error ha
      cases h
      exact .refused rfl

theorem blocks_allocate {e : Bytes} (h : m.allocate ipReq = .ok (m', .error e)) : m'.blocks = m.blocks := by
  cases allocate_allocates h
  case refused hb => exact hb

theorem shapes_allocate (h : m.allocate ipReq = .ok (m', res)) : m'.shapes = m.shapes := by
  cases allocate_allocates h
  case asked hb ha => rw [shapes_allocateAt ha, shapes, hb, shapes]
  case refused hb => rw [shapes, hb, shapes]

theorem shapes_putBackFrom (hb : m.blocks.drop i = bs)
    (h : m.putBackFrom ip i bs = .ok m') : m'.shapes = m.shapes := by
  induction bs generalizing m i
  case nil => cases h; rfl
  case cons b bs hi =>
    have hi' : m.blocks[i]? = some b := by
      rw [← List.head?_drop, hb, List.head?_cons]
    obtain ⟨⟨b', ok⟩, hp, h⟩ := Except.bind_eq_ok_iff.mp h
    have hs : { m with blocks := m.blocks.set i b' }.shapes = m.shapes :=
      map_shape_set hi' (Block.shape_putBack hp)
    cases ok
    case true =>
      cases h
      rw [← hs]
      split <;> rfl
    case false =>
      refine (hi ?_ h).trans hs
      show (m.blocks.set i b').drop (i + 1) = bs
      rw [List.drop_set_of_lt (Nat.lt_succ_self i), Nat.succ_eq_add_one, ← List.drop_drop, hb,
        List.drop_one, List.tail_cons]

theorem shapes_putBack (h : m.putBack ip = .ok m') : m'.shapes = m.shapes :=
  shapes_putBackFrom rfl h

def Ordered (m : IPAddressManager) : Prop :=
  m.blocks.Pairwise fun b c => b.endInt < c.startInt

theorem pairwise_of_shapes {R : Block → Block → Prop} {bs cs : List Block}
    (hr : ∀ {b c b' c'}, b'.shape = b.shape → c'.shape = c.shape → R b c → R b' c')
    (hs : cs.map Block.shape = bs.map Block.shape) (h : bs.Pairwise R) : cs.Pairwise R := by
  induction bs generalizing cs
  case nil =>
    cases List.map_eq_nil_iff.mp hs
    exact .nil
  case cons b bs hi =>
    obtain ⟨b', cs', rfl, hb, hcs⟩ := List.map_eq_cons_iff.mp hs
    refine .cons ?_ (hi hcs h.of_cons)
    intro c' hc'
    obtain ⟨c, hc, hs⟩ := List.mem_map.mp (hcs ▸ List.mem_map_of_mem hc')
    exact hr hb hs.symm (List.rel_of_pairwise_cons h hc)

theorem Ordered.of_shapes (o : m.Ordered) (h : m'.shapes = m.shapes) : m'.Ordered := by
  refine pairwise_of_shapes ?_ h o
  intro b c b' c' hb hc hlt
  simp only [Block.shape, Prod.mk.injEq] at hb hc
  omega

theorem Ordered.starts (o : m.Ordered) : m.blocks.Pairwise fun b c => b.startInt < c.startInt :=
  o.imp fun {b _} h => b.le.trans_lt h

theorem Ordered.disjoint (o : m.Ordered) : m.blocks.Pairwise Block.Disjoint :=
  o.imp fun h _ hn => absurd (hn.left.right.trans_lt h) (not_lt.mpr hn.right.left)

theorem Ordered.insert (o : m.Ordered) (hb : ∀ c ∈ m.blocks, c.Disjoint b) :
    { m with blocks := (m.blocks ++ [b]).insertionSort fun b₁ b₂ => b₁.startInt ≤ b₂.startInt }.Ordered := by
  have hd : (m.blocks ++ [b]).Pairwise Block.Disjoint := by
    refine List.pairwise_append.mpr ⟨o.disjoint, List.pairwise_singleton .., ?_⟩
    intro c hc d hd
    exact List.mem_singleton.mp hd ▸ hb c hc
  have : Std.Total fun b₁ b₂ : Block => b₁.startInt ≤ b₂.startInt := ⟨fun _ _ => le_total ..⟩
  have : IsTrans Block fun b₁ b₂ => b₁.startInt ≤ b₂.startInt := ⟨fun _ _ _ => le_trans⟩
  have hs := List.pairwise_insertionSort (fun b₁ b₂ : Block => b₁.startInt ≤ b₂.startInt) (m.blocks ++ [b])
  replace hd := (List.perm_insertionSort (fun b₁ b₂ : Block => b₁.startInt ≤ b₂.startInt) _).pairwise_iff
    Block.Disjoint.symm |>.mpr hd
  exact (hs.and hd).imp fun {b c} h => Block.lt_of_disjoint h.left h.right

theorem addAddressBlock_error (h : (m.addAddressBlock net cidr start stop).snd ≠ none) :
    (m.addAddressBlock net cidr start stop).fst = m := by
  rw [addAddressBlock] at h ⊢
  split
  case h_1 => rfl
  case h_2 b hb =>
    simp only [hb] at h
    split
    case isTrue => rfl
    case isFalse ho => simp [ho] at h

theorem addAddressBlock_rejects_iff (hb : newBlock net cidr start stop = .ok b) :
    (m.addAddressBlock net cidr start stop).snd ≠ none ↔ ∃ c ∈ m.blocks, ∃ n, n ∈ c ∧ n ∈ b := by
  have hm : (m.blocks.any (·.overlapped b)) = true ↔ ∃ c ∈ m.blocks, ∃ n, n ∈ c ∧ n ∈ b := by
    simp only [List.any_eq_true, Block.overlapped_iff]
  simp only [addAddressBlock, hb, ← hm]
  split
  case isTrue ho => simpa using ho
  case isFalse ho => simpa using ho

theorem Ordered.addAddressBlock (o : m.Ordered) : (m.addAddressBlock net cidr start stop).fst.Ordered := by
  rw [IPAddressManager.addAddressBlock]
  split
  case h_1 => exact o
  case h_2 b hb =>
    split
    case isTrue => exact o
    case isFalse ho =>
      refine o.insert fun c hc n hn => ho ?_
      exact List.any_eq_true.mpr ⟨c, hc, Block.overlapped_iff.mpr ⟨n, hn⟩⟩

theorem Ordered.step (o : m.Ordered) (h : m.step net a = some m') : m'.Ordered := by
  cases a
  case addAddressBlock cidr start stop => cases h; exact o.addAddressBlock
  case allocate ipReq =>
    obtain ⟨⟨m'', res⟩, ha, h⟩ := Option.map_eq_some_iff.mp h
    cases h
    exact o.of_shapes (shapes_allocate (Except.toOption_eq_some_iff.mp ha))
  case putBack ip => exact o.of_shapes (shapes_putBack (Except.toOption_eq_some_iff.mp h))

theorem Ordered.new : new.Ordered :=
  .nil

theorem blocks_disjoint (e : Execution (IPAddressManager.step net) IPAddressManager.new as m) :
    m.blocks.Pairwise (fun b c => b.startInt < c.startInt) ∧ m.blocks.Pairwise Block.Disjoint ∧
    (∀ cidr start stop b, newBlock net cidr start stop = .ok b →
      ((m.addAddressBlock net cidr start stop).snd ≠ none ↔ ∃ c ∈ m.blocks, ∃ n, n ∈ c ∧ n ∈ b)) ∧
    (∀ cidr start stop, (m.addAddressBlock net cidr start stop).snd ≠ none →
      (m.addAddressBlock net cidr start stop).fst = m) ∧
    ∀ ipReq m' text, m.allocate ipReq = .ok (m', .error text) → m'.blocks = m.blocks := by
  have o := e.preserves Ordered.step Ordered.new
  exact ⟨o.starts, o.disjoint, fun _ _ _ _ => addAddressBlock_rejects_iff,
    fun _ _ _ => addAddressBlock_error, fun _ _ _ => blocks_allocate⟩

def rawNetwork (ip : Bytes) (ones : Nat) (h : (ip.length = 4 ∨ ip.length = 16) ∧ ones ≤ 8 * ip.length) :
    CIDR where
  ip := Octets.ofNat ip.length (Octets.toNat ip / 2 ^ (8 * ip.length - ones) * 2 ^ (8 * ip.length - ones))
  ones := ones
  bits := 8 * ip.length
  family := h.left.imp (fun h => by rw [h]) fun h => by rw [h]
  length := by simp
  le := h.right
  masked := by
    have hl : Octets.toNat ip / 2 ^ (8 * ip.length - ones) * 2 ^ (8 * ip.length - ones) <
        256 ^ ip.length :=
      (Nat.div_mul_le_self ..).trans_lt (Octets.toNat_lt ip)
    rw [Octets.toNat_ofNat, Nat.mod_eq_of_lt hl, Nat.mul_mod_left]

def rawTexts : Texts where
  parseCIDR text :=
    if h : (text.dropLast.length = 4 ∨ text.dropLast.length = 16) ∧
        (text.getLastD 0).toNat ≤ 8 * text.dropLast.length then
      .ok (text.dropLast, rawNetwork text.dropLast (text.getLastD 0).toNat h)
    else
      .error (str "invalid CIDR address")
  parseIP := to16
  quote text := text
  length_parseIP := length_to16

-- Two blocks are added, a third one contains the first one.
theorem blocks_disjoint_rejected :
    let as : List Action := [.addAddressBlock [10, 0, 0, 0, 24] [] [], .allocate none,
      .addAddressBlock [10, 0, 2, 0, 24] [] [10, 0, 2, 9]]
    ∃ m, Execution (IPAddressManager.step rawTexts) IPAddressManager.new as m ∧ m.blocks.length = 2 ∧
      (m.addAddressBlock rawTexts [10, 0, 0, 0, 16] [] []).snd ≠ none ∧
      m.blocks.Pairwise Block.Disjoint := by
  obtain ⟨m, e, hl, hr⟩ : ∃ m, Execution (IPAddressManager.step rawTexts) IPAddressManager.new
      [.addAddressBlock [10, 0, 0, 0, 24] [] [], .allocate none,
       .addAddressBlock [10, 0, 2, 0, 24] [] [10, 0, 2, 9]] m ∧ m.blocks.length = 2 ∧
      (m.addAddressBlock rawTexts [10, 0, 0, 0, 16] [] []).snd ≠ none :=
    ⟨_, .of_foldlM rfl, rfl, by decide⟩
  exact ⟨m, e, hl, hr, (blocks_disjoint e).right.left⟩

end IPAddressManager
end Aranya.IPAM
