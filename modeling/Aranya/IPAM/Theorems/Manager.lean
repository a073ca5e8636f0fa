import Aranya.IPAM.Theorems.Ranges

namespace Aranya.IPAM

open Net

variable {net : Texts} {m m' : IPAddressManager} {b b' c c' : Block} {i j k n n' : Nat} {ipReq : Option Bytes}
    {ip cidr start stop : Bytes} {res : Except Bytes IPNet} {r : Option Nat} {held held' : Finset Bytes}

namespace Block

-- An IPv4 block and an IPv6 block with the long forms of its addresses share them as texts.
def Apart (b c : Block) : Prop :=
  ∀ n ∈ b, ∀ m ∈ c, b.key n ≠ c.key m

theorem Apart.symm (h : b.Apart c) : c.Apart b :=
  fun n hn m hm he => h m hm n hn he.symm

theorem apart_of_bits (hb : b.mask.bits = c.mask.bits) (h : b.Disjoint c) : b.Apart c := by
  intro n hn m hm hk
  refine h n ⟨hn, ?_⟩
  rw [key, key, hb] at hk
  exact ipString_intToIP_injective c.family (hb ▸ mem_lt hn) (mem_lt hm) hk ▸ hm

theorem Apart.of_shape (hb : b'.shape = b.shape) (hc : c'.shape = c.shape) (h : b.Apart c) : b'.Apart c' := by
  simp only [shape, Prod.mk.injEq] at hb hc
  simpa only [Apart, mem_iff, key, hb.left, hb.right.left, hb.right.right, hc.left, hc.right.left,
    hc.right.right] using h

end Block

namespace IPAddressManager

structure Valid (m : IPAddressManager) (held : Finset Bytes) : Prop where
  ordered : m.Ordered
  apart : m.blocks.Pairwise Block.Apart
  regular : ∀ {b : Block}, b ∈ m.blocks → b.Regular
  valid : ∀ {b : Block}, b ∈ m.blocks → b.Valid
  held : ∀ k, k ∈ held ↔ ∃ b ∈ m.blocks, k ∈ b.allocated

namespace Valid

theorem new : new.Valid ∅ where
  ordered := .new
  apart := .nil
  regular := nofun
  valid := nofun
  held := by simp [IPAddressManager.new]

theorem index_eq (v : m.Valid held) (hb : m.blocks[i]? = some b) (hc : m.blocks[j]? = some c) (hn : n ∈ b)
    (hn' : n' ∈ c) (hk : b.key n = c.key n') : i = j := by
  obtain ⟨hi, rfl⟩ := List.getElem?_eq_some_iff.mp hb
  obtain ⟨hj, rfl⟩ := List.getElem?_eq_some_iff.mp hc
  have ha := List.pairwise_iff_getElem.mp v.apart
  cases lt_trichotomy i j
  case inl hlt => exact absurd hk (ha i j hi hj hlt n hn n' hn')
  case inr hge =>
    cases hge
    case inl he => exact he
    case inr hgt => exact absurd hk ((ha j i hj hi hgt).symm n hn n' hn')

theorem allocated_eq (v : m.Valid held) (hb : m.blocks[i]? = some b) (hc : m.blocks[j]? = some c)
    {k : Bytes} (hk : k ∈ b.allocated) (hk' : k ∈ c.allocated) : i = j := by
  obtain ⟨n, hn, he⟩ := (v.valid (List.mem_of_getElem? hb)).allocated hk
  obtain ⟨n', hn', he'⟩ := (v.valid (List.mem_of_getElem? hc)).allocated hk'
  exact v.index_eq hb hc hn hn' (he.symm.trans he')

theorem mem_held_iff (v : m.Valid held) (hb : b ∈ m.blocks) (hn : n ∈ b) :
    b.key n ∈ held ↔ b.key n ∈ b.allocated := by
  rw [v.held]
  constructor
  case mpr => exact fun h => ⟨b, hb, h⟩
  case mp =>
    rintro ⟨c, hc, h⟩
    obtain ⟨n', hn', hk⟩ := (v.valid hc).allocated h
    obtain ⟨i, hi⟩ := List.getElem?_of_mem hb
    obtain ⟨j, hj⟩ := List.getElem?_of_mem hc
    cases v.index_eq hi hj hn hn' hk
    cases hi.symm.trans hj
    exact h

theorem mem_set_cases {bs : List Block} (h : c ∈ bs.set i b') : c = b' ∨ ∃ j, j ≠ i ∧ bs[j]? = some c := by
  obtain ⟨j, hj⟩ := List.getElem?_of_mem h
  rw [List.getElem?_set] at hj
  split at hj
  case isTrue =>
    split at hj
    case isTrue => exact .inl (Option.some.inj hj).symm
    case isFalse => cases hj
  case isFalse hne => exact .inr ⟨j, Ne.symm hne, hj⟩

theorem set (v : m.Valid held) (hb : m.blocks[i]? = some b) {allocated : Finset Bytes}
    (vb : { b with next := r, allocated := allocated }.Valid)
    (hh : ∀ k, k ∈ held' ↔ k ∈ allocated ∨ k ∈ held ∧ k ∉ b.allocated) :
    { m with blocks := m.blocks.set i { b with next := r, allocated := allocated } }.Valid held' where
  ordered := v.ordered.of_shapes (map_shape_set hb rfl)
  apart := pairwise_of_shapes Block.Apart.of_shape (map_shape_set hb rfl) v.apart
  regular hc := by
    cases mem_set_cases hc
    case inl he =>
      have hr : b.Regular := v.regular (List.mem_of_getElem? hb)
      subst he
      exact hr
    case inr he => obtain ⟨_, _, he⟩ := he; exact v.regular (List.mem_of_getElem? he)
  valid hc := by
    cases mem_set_cases hc
    case inl he => exact he ▸ vb
    case inr he => obtain ⟨_, _, he⟩ := he; exact v.valid (List.mem_of_getElem? he)
  held k := by
    obtain ⟨hi, -⟩ := List.getElem?_eq_some_iff.mp hb
    rw [hh]
    constructor
    case mp =>
      rintro (hk | ⟨hk, hn⟩)
      case inl => exact ⟨_, List.mem_set hi _, hk⟩
      case inr =>
        obtain ⟨c, hc, hk⟩ := (v.held k).mp hk
        obtain ⟨j, hj⟩ := List.getElem?_of_mem hc
        have hij : i ≠ j := by
          rintro rfl
          cases hb.symm.trans hj
          exact hn hk
        exact ⟨c, List.mem_of_getElem? ((List.getElem?_set_ne hij).trans hj), hk⟩
    case mpr =>
      rintro ⟨c, hc, hk⟩
      cases mem_set_cases hc
      case inl he => subst he; exact .inl hk
      case inr he =>
        obtain ⟨j, hne, hj⟩ := he
        refine .inr ⟨(v.held k).mpr ⟨c, List.mem_of_getElem? hj, hk⟩, fun hk' => hne ?_⟩
        exact v.allocated_eq hj hb hk hk'

theorem set_insert (v : m.Valid held) (hb : m.blocks[i]? = some b)
    (vb : { b with next := r, allocated := insert (b.key n) b.allocated }.Valid) :
    { m with
      blocks := m.blocks.set i { b with next := r, allocated := insert (b.key n) b.allocated } }.Valid
      (insert (b.key n) held) := by
  refine v.set hb vb fun k => ?_
  have hs (hk : k ∈ b.allocated) : k ∈ held := (v.held k).mpr ⟨b, List.mem_of_getElem? hb, hk⟩
  simp only [Finset.mem_insert]
  tauto

theorem set_erase (v : m.Valid held) (hb : m.blocks[i]? = some b) (hk : b.key n ∈ b.allocated)
    (vb : { b with next := r, allocated := b.allocated.erase (b.key n) }.Valid) :
    { m with
      blocks := m.blocks.set i { b with next := r, allocated := b.allocated.erase (b.key n) } }.Valid
      (held.erase (b.key n)) := by
  refine v.set hb vb fun k => ?_
  have hs (hk : k ∈ b.allocated) : k ∈ held := (v.held k).mpr ⟨b, List.mem_of_getElem? hb, hk⟩
  have hn (he : k = b.key n) : k ∈ b.allocated := he ▸ hk
  simp only [Finset.mem_erase]
  tauto

theorem setIndex (v : m.Valid held) : { m with blockIndex := i }.Valid held :=
  { v with }

end Valid

theorem set_getElem?_self {bs : List Block} (h : bs[i]? = some b) : bs.set i b = bs := by
  obtain ⟨hi, rfl⟩ := List.getElem?_eq_some_iff.mp h
  exact List.set_getElem_self hi

structure Granted (bs : List Block) (k : Nat) (m' : IPAddressManager) (ret : IPNet)
    (i : Nat) (b : Block) (n : Nat) (r : Option Nat) : Prop where
  le : k ≤ i
  block : bs[i]? = some b
  next : b.next = some n
  nextFree : b.NextFree n r
  exhausted : ∀ {j : Nat} {c : Block}, k ≤ j → j < i → bs[j]? = some c → c.next = none
  blocks : m'.blocks = bs.set i { b with next := r, allocated := insert (b.key n) b.allocated }
  index : m'.blockIndex = i
  result : ret = ⟨intToIP n b.mask.bits, b.mask⟩

structure Exhausted (bs : List Block) (k : Nat) (m' : IPAddressManager) : Prop where
  exhausted : ∀ {j : Nat} {c : Block}, k ≤ j → bs[j]? = some c → c.next = none
  blocks : m'.blocks = bs
  index : m'.blockIndex + 1 = bs.length

variable {bs : List Block} {ret : IPNet}

theorem Granted.cons (g : Granted bs (k + 1) m' ret i b n r) (hc : bs[k]? = some c) (hn : c.next = none) :
    Granted bs k m' ret i b n r :=
  { g with
    le := by have := g.le; omega
    exhausted := fun {j c'} hj hi hc' => by
      by_cases he : j = k
      case pos => subst he; cases hc.symm.trans hc'; exact hn
      case neg => exact g.exhausted (by omega) hi hc' }

theorem Exhausted.cons (x : Exhausted bs (k + 1) m') (hc : bs[k]? = some c) (hn : c.next = none) :
    Exhausted bs k m' :=
  { x with
    exhausted := fun {j c'} hj hc' => by
      by_cases he : j = k
      case pos => subst he; cases hc.symm.trans hc'; exact hn
      case neg => exact x.exhausted (by omega) hc' }

def Finds (bs : List Block) (k : Nat) (x : Except Fault (IPAddressManager × Except Bytes IPNet)) : Prop :=
  (∃ m' ret, x = .ok (m', .ok ret) ∧ ∃ i b n r, Granted bs k m' ret i b n r) ∨
  ∃ m' e, x = .ok (m', .error e) ∧ Exhausted bs k m'

theorem Finds.cons {x : Except Fault (IPAddressManager × Except Bytes IPNet)} (h : Finds bs (k + 1) x)
    (hc : bs[k]? = some c) (hn : c.next = none) : Finds bs k x := by
  refine h.imp ?_ ?_
  case refine_1 => rintro ⟨m', ret, hx, i, b, n, r, g⟩; exact ⟨m', ret, hx, i, b, n, r, g.cons hc hn⟩
  case refine_2 => rintro ⟨m', e, hx, x⟩; exact ⟨m', e, hx, x.cons hc hn⟩

theorem allocateAt_none (hb : m.blocks[i]? = some b) (hn : b.next = none) :
    m.allocateAt i none = .ok (m, .error (str "no ip available")) := by
  simp only [allocateAt, hb, Block.allocate_nil_none hn]
  show Except.ok ({ m with blocks := m.blocks.set i b }, _) = _
  rw [set_getElem?_self hb]

theorem allocateAt_some (v : m.Valid held) (hb : m.blocks[i]? = some b) (hn : b.next = some n) :
    ∃ r, b.NextFree n r ∧ m.allocateAt i none = .ok (
      { m with blocks := m.blocks.set i { b with next := r, allocated := insert (b.key n) b.allocated } },
      .ok ⟨intToIP n b.mask.bits, b.mask⟩) := by
  have hm := List.mem_of_getElem? hb
  obtain ⟨r, hf, ha⟩ := Block.allocate_nil_some (v.regular hm) ((v.valid hm).next hn).left hn
  refine ⟨r, hf, ?_⟩
  simp only [allocateAt, hb, ha]
  rfl

theorem granted_of_allocateAt (v : m.Valid held) (hb : m.blocks[m.blockIndex]? = some b)
    (hn : b.next = some n) :
    ∃ m' ret, m.allocateAt m.blockIndex none = .ok (m', .ok ret) ∧
      ∃ i b n r, Granted m.blocks m.blockIndex m' ret i b n r := by
  obtain ⟨r, hf, ha⟩ := allocateAt_some v hb hn
  exact ⟨_, _, ha, m.blockIndex, b, n, r, le_rfl, hb, hn, hf, fun _ _ => by omega, rfl, rfl, rfl⟩

theorem allocateNext_finds (v : m.Valid held) (hk : m.blockIndex + k + 1 = m.blocks.length) :
    Finds m.blocks (m.blockIndex + 1) (allocateNext k m) := by
  induction k generalizing m
  case zero =>
    refine .inr ⟨m, _, rfl, fun {j c} hj hc => ?_, rfl, hk⟩
    obtain ⟨hj', -⟩ := List.getElem?_eq_some_iff.mp hc
    omega
  case succ k hi =>
    obtain ⟨b, hb⟩ : ∃ b, m.blocks[m.blockIndex + 1]? = some b :=
      ⟨_, List.getElem?_eq_getElem (by omega)⟩
    let m₁ : IPAddressManager := { m with blockIndex := m.blockIndex + 1 }
    have v₁ : m₁.Valid held := v.setIndex
    cases hn : b.next
    case some n =>
      obtain ⟨m', ret, ha, hg⟩ := granted_of_allocateAt v₁ hb hn
      exact .inl ⟨m', ret, Except.bind_eq_ok_iff.mpr ⟨_, ha, rfl⟩, hg⟩
    case none =>
      have he : allocateNext (k + 1) m = allocateNext k m₁ := by
        show (m₁.allocateAt m₁.blockIndex none >>= _) = _
        rw [allocateAt_none (m := m₁) hb hn]
        rfl
      rw [he]
      exact (hi v₁ (by simp only [m₁]; omega)).cons hb hn

theorem allocate_nil_finds (v : m.Valid held) (hi : m.blockIndex < m.blocks.length) :
    Finds m.blocks m.blockIndex (m.allocate none) := by
  have hb := List.getElem?_eq_getElem hi
  cases hn : m.blocks[m.blockIndex].next
  case some n =>
    obtain ⟨m', ret, ha, hg⟩ := granted_of_allocateAt v hb hn
    exact .inl ⟨m', ret, Except.bind_eq_ok_iff.mpr ⟨_, ha, rfl⟩, hg⟩
  case none =>
    have he : m.allocate none = allocateNext (m.blocks.length - (m.blockIndex + 1)) m := by
      show (m.allocateAt m.blockIndex none >>= _) = _
      rw [allocateAt_none hb hn]
      rfl
    rw [he]
    exact (allocateNext_finds v (by omega)).cons hb hn

theorem allocate_nil_panics (hi : m.blocks.length ≤ m.blockIndex) :
    m.allocate none = .error .indexOutOfRange := by
  show (m.allocateAt m.blockIndex none >>= _) = _
  rw [allocateAt, List.getElem?_eq_none hi]
  rfl

def Known (m : IPAddressManager) (ip : Bytes) : Prop :=
  ∀ b ∈ m.blocks, b.Known ip

def Holds (m : IPAddressManager) (ip : Bytes) (i : Nat) (b : Block) (n : Nat) : Prop :=
  m.blocks[i]? = some b ∧ n ∈ b ∧ ipString ip = b.key n

theorem search_holds (v : m.Valid held) (hk : m.Known ip) (h : m.Holds ip i b n) :
    search m.blocks.length (fun i => m.blocks[i]?.any (·.contains ip)) =
      if i ∈ search.probes m.blocks.length then i else m.blocks.length := by
  obtain ⟨hb, hn, he⟩ := h
  obtain ⟨hi, -⟩ := List.getElem?_eq_some_iff.mp hb
  apply search.of_single
  case hk => simp [hb, Block.contains_of_key hn he]
  case hn => exact hi
  case hf =>
    intro j hj hne
    rw [List.getElem?_eq_getElem hj, Option.any_some, Bool.eq_false_iff]
    intro hc
    obtain ⟨n', hn', he'⟩ := (Block.contains_iff_key (hk _ (List.getElem_mem hj))).mp hc
    exact hne (v.index_eq (List.getElem?_eq_getElem hj) hb hn' hn (he'.symm.trans he))

theorem search_none (hk : m.Known ip) (h : ∀ i b n, ¬m.Holds ip i b n) :
    search m.blocks.length (fun i => m.blocks[i]?.any (·.contains ip)) = m.blocks.length := by
  apply search.of_none
  intro j hj
  rw [List.getElem?_eq_getElem hj, Option.any_some, Bool.eq_false_iff]
  intro hc
  obtain ⟨n, hn, he⟩ := (Block.contains_iff_key (hk _ (List.getElem_mem hj))).mp hc
  exact h j _ n ⟨List.getElem?_eq_getElem hj, hn, he⟩

theorem allocate_panics
    (h : search m.blocks.length (fun i => m.blocks[i]?.any (·.contains ip)) = m.blocks.length) :
    m.allocate (some ip) = .error .indexOutOfRange := by
  show (m.allocateAt (search _ _) (some ip) >>= _) = _
  rw [h, allocateAt, List.getElem?_eq_none le_rfl]
  rfl

theorem allocate_used (v : m.Valid held) (hk : m.Known ip) (h : m.Holds ip i b n)
    (hp : i ∈ search.probes m.blocks.length) (hu : b.key n ∈ held) :
    m.allocate (some ip) = .ok (m, .error (str "failed to allocate specific ip")) := by
  show (m.allocateAt (search _ _) (some ip) >>= _) = _
  rw [search_holds v hk h, if_pos hp]
  obtain ⟨hb, hn, he⟩ := h
  replace hu := (v.mem_held_iff (List.mem_of_getElem? hb) hn).mp hu
  simp only [allocateAt, hb, Block.allocate_used hn he hu]
  show Except.ok ({ m with blocks := m.blocks.set i b }, _) = _
  rw [set_getElem?_self hb]

theorem allocate_free (v : m.Valid held) (hk : m.Known ip) (h : m.Holds ip i b n)
    (hp : i ∈ search.probes m.blocks.length) (hu : b.key n ∉ held) :
    ∃ r, { b with next := r, allocated := insert (b.key n) b.allocated }.Valid ∧
      m.allocate (some ip) = .ok (
        { m with blocks := m.blocks.set i { b with next := r, allocated := insert (b.key n) b.allocated } },
        .ok ⟨ip, b.mask⟩) := by
  have hs := search_holds v hk h
  obtain ⟨hb, hn, he⟩ := h
  have hm := List.mem_of_getElem? hb
  replace hu := (v.mem_held_iff hm hn).not.mp hu
  obtain ⟨r, vb, ha⟩ := Block.allocate_free (v.valid hm) (v.regular hm) hn he hu
  refine ⟨r, vb, ?_⟩
  show (m.allocateAt (search _ _) (some ip) >>= _) = _
  rw [hs, if_pos hp]
  simp only [allocateAt, hb, ha]
  rfl

theorem putBackFrom_unused {bs : List Block} (hb : m.blocks.drop i = c :: bs)
    (h : ∀ n ∈ c, ipString ip = c.key n → c.key n ∉ c.allocated) :
    m.putBackFrom ip i (c :: bs) = m.putBackFrom ip (i + 1) bs ∧ m.blocks.drop (i + 1) = bs := by
  have hc : m.blocks[i]? = some c := by rw [← List.head?_drop, hb, List.head?_cons]
  constructor
  case left =>
    rw [putBackFrom, Block.putBack_unused h]
    show ({ m with blocks := m.blocks.set i c } : IPAddressManager).putBackFrom ip (i + 1) bs = _
    rw [set_getElem?_self hc]
  case right => rw [← List.drop_drop, hb, List.drop_one, List.tail_cons]

theorem putBack_skip (h : ∀ c ∈ m.blocks, ∀ n ∈ c, ipString ip = c.key n → c.key n ∉ c.allocated) :
    m.putBack ip = .ok m := by
  suffices hs : ∀ bs i, m.blocks.drop i = bs → m.putBackFrom ip i bs = .ok m from hs _ 0 rfl
  intro bs
  induction bs
  case nil => exact fun _ _ => rfl
  case cons c bs hi =>
    intro i hb
    obtain ⟨he, hd⟩ := putBackFrom_unused hb (h c (List.mem_of_mem_drop (hb ▸ List.mem_cons_self)))
    rw [he]
    exact hi _ hd

theorem putBack_holds (v : m.Valid held) (h : m.Holds ip i b n) :
    ∃ bs, m.putBack ip = m.putBackFrom ip i (b :: bs) := by
  obtain ⟨hb, hn, hk⟩ := h
  suffices hs : ∀ bs j, m.blocks.drop j = bs → j ≤ i →
      ∃ bs', m.putBackFrom ip j bs = m.putBackFrom ip i (b :: bs') from hs _ 0 rfl i.zero_le
  intro bs
  induction bs
  case nil =>
    intro j hd hj
    obtain ⟨hi, -⟩ := List.getElem?_eq_some_iff.mp hb
    have := List.drop_eq_nil_iff.mp hd
    omega
  case cons c bs hi =>
    intro j hd hj
    have hc : m.blocks[j]? = some c := by rw [← List.head?_drop, hd, List.head?_cons]
    by_cases he : j = i
    case pos =>
      subst he
      cases hb.symm.trans hc
      exact ⟨bs, rfl⟩
    case neg =>
      have hu : ∀ n' ∈ c, ipString ip = c.key n' → c.key n' ∉ c.allocated := fun n' hn' hk' =>
        absurd (v.index_eq hc hb hn' hn (hk'.symm.trans hk)) he
      obtain ⟨hs, hd⟩ := putBackFrom_unused hd hu
      rw [hs]
      exact hi _ hd (by omega)

theorem putBack_panics (v : m.Valid held) (h : m.Holds ip i b n) (ha : b.key n ∈ b.allocated)
    (hx : b.next = none) : m.putBack ip = .error .nilDereference := by
  obtain ⟨bs, hp⟩ := putBack_holds v h
  rw [hp, putBackFrom, Block.putBack_none h.right.left h.right.right ha hx]
  rfl

theorem putBack_frees (v : m.Valid held) (h : m.Holds ip i b n) (ha : b.key n ∈ b.allocated)
    (hx : b.next = some k) :
    m.putBack ip = .ok {
      blocks := m.blocks.set i
        { b with next := if n < k then some n else b.next, allocated := b.allocated.erase (b.key n) }
      blockIndex := if i < m.blockIndex then i else m.blockIndex } := by
  obtain ⟨bs, hp⟩ := putBack_holds v h
  rw [hp, putBackFrom, Block.putBack_some h.right.left h.right.right ha hx]
  show Except.ok (if i < m.blockIndex then _ else _) = _
  split <;> rfl

end IPAddressManager

theorem newBlock_fresh (h : newBlock net cidr start stop = .ok b) :
    b.next = some b.startInt ∧ b.allocated = ∅ := by
  rw [newBlock] at h
  split at h
  case h_1 => cases h
  case h_2 ipNet _ =>
    split at h
    case isTrue => cases h
    case isFalse =>
      obtain ⟨startIP, -, h⟩ := Except.bind_eq_ok_iff.mp h
      obtain ⟨endIP, -, h⟩ := Except.bind_eq_ok_iff.mp h
      split at h
      case isTrue => cases h; exact ⟨rfl, rfl⟩
      case isFalse => cases h

namespace IPAddressManager

theorem Valid.insert (v : m.Valid held) (hb : b.Valid) (hr : b.Regular) (he : b.allocated = ∅)
    (hd : ∀ c ∈ m.blocks, c.Disjoint b) (ha : ∀ c ∈ m.blocks, c.Apart b) :
    { m with blocks := (m.blocks ++ [b]).insertionSort fun b₁ b₂ => b₁.startInt ≤ b₂.startInt }.Valid
      held := by
  have hp := List.perm_insertionSort (fun b₁ b₂ : Block => b₁.startInt ≤ b₂.startInt) (m.blocks ++ [b])
  have hm {c : Block} (hc : c ∈ (m.blocks ++ [b]).insertionSort fun b₁ b₂ => b₁.startInt ≤ b₂.startInt) :
      c ∈ m.blocks ∨ c = b := by
    simpa using hp.mem_iff.mp hc
  refine ⟨v.ordered.insert hd, ?apart, ?regular, ?valid, ?held⟩
  case apart =>
    refine (hp.pairwise_iff Block.Apart.symm).mpr <|
      List.pairwise_append.mpr ⟨v.apart, List.pairwise_singleton .., ?_⟩
    intro c hc d hd
    exact List.mem_singleton.mp hd ▸ ha c hc
  case regular =>
    intro c hc
    cases hm hc
    case inl hc => exact v.regular hc
    case inr hc => exact hc ▸ hr
  case valid =>
    intro c hc
    cases hm hc
    case inl hc => exact v.valid hc
    case inr hc => exact hc ▸ hb
  case held =>
    intro k
    rw [v.held]
    constructor
    case mp =>
      rintro ⟨c, hc, hk⟩
      exact ⟨c, hp.mem_iff.mpr (List.mem_append_left _ hc), hk⟩
    case mpr =>
      rintro ⟨c, hc, hk⟩
      cases hm hc
      case inl hc => exact ⟨c, hc, hk⟩
      case inr hc => simp [hc, he] at hk

structure Hands (m : IPAddressManager) (held : Finset Bytes) (m' : IPAddressManager) (ret : IPNet)
    (i : Nat) (b : Block) (n : Nat) (r : Option Nat) : Prop where
  block : m.blocks[i]? = some b
  mem : n ∈ b
  free : b.key n ∉ held
  valid : { b with next := r, allocated := insert (b.key n) b.allocated }.Valid
  blocks : m'.blocks = m.blocks.set i { b with next := r, allocated := insert (b.key n) b.allocated }
  ip : ipString ret.ip = b.key n
  mask : ret.mask = b.mask

theorem Granted.hands {ret : IPNet} (v : m.Valid held) (g : Granted m.blocks k m' ret i b n r) :
    m.Hands held m' ret i b n r := by
  have hm := List.mem_of_getElem? g.block
  obtain ⟨hn, ha⟩ := (v.valid hm).next g.next
  exact {
    block := g.block
    mem := hn
    free := (v.mem_held_iff hm hn).not.mpr ha
    valid := (v.valid hm).move g.next g.nextFree
    blocks := g.blocks
    ip := g.result ▸ rfl
    mask := g.result ▸ rfl }

theorem allocate_some_cases (v : m.Valid held) (hk : m.Known ip)
    (h : m.allocate (some ip) = .ok (m', res)) :
    (m' = m ∧ ∃ text, res = .error text) ∨
    ∃ ret i b n r, res = .ok ret ∧ m.Hands held m' ret i b n r ∧ m'.blockIndex = m.blockIndex := by
  by_cases hh : ∃ i b n, m.Holds ip i b n
  case neg =>
    rw [allocate_panics (search_none hk (by simpa using hh))] at h
    cases h
  case pos =>
    obtain ⟨i, b, n, hh⟩ := hh
    by_cases hp : i ∈ search.probes m.blocks.length
    case neg => rw [allocate_panics (by rw [search_holds v hk hh, if_neg hp])] at h; cases h
    case pos =>
      by_cases hu : b.key n ∈ held
      case pos =>
        rw [allocate_used v hk hh hp hu] at h
        cases h
        exact .inl ⟨rfl, _, rfl⟩
      case neg =>
        obtain ⟨r, vb, ha⟩ := allocate_free v hk hh hp hu
        cases h.symm.trans ha
        exact .inr ⟨_, i, b, n, r, rfl,
          ⟨hh.left, hh.right.left, hu, vb, rfl, hh.right.right, rfl⟩, rfl⟩

theorem hands_of_allocate {ret : IPNet} (v : m.Valid held) (hk : ∀ ip, ipReq = some ip → m.Known ip)
    (h : m.allocate ipReq = .ok (m', .ok ret)) : ∃ i b n r, m.Hands held m' ret i b n r := by
  cases ipReq
  case none =>
    by_cases hi : m.blockIndex < m.blocks.length
    case neg => rw [allocate_nil_panics (not_lt.mp hi)] at h; cases h
    case pos =>
      cases allocate_nil_finds v hi
      case inr hf => obtain ⟨_, _, hf, _⟩ := hf; cases h.symm.trans hf
      case inl hf =>
        obtain ⟨_, _, hf, i, b, n, r, g⟩ := hf
        cases h.symm.trans hf
        exact ⟨i, b, n, r, g.hands v⟩
  case some ip =>
    cases allocate_some_cases v (hk ip rfl) h
    case inl he => obtain ⟨_, _, he⟩ := he; cases he
    case inr hh =>
      obtain ⟨_, i, b, n, r, hr, hh, -⟩ := hh
      cases hr
      exact ⟨i, b, n, r, hh⟩

theorem Valid.of_blocks (v : m.Valid held) (h : m'.blocks = m.blocks) : m'.Valid held := by
  cases m
  cases m'
  cases h
  exact v.setIndex

theorem Hands.valid' {ret : IPNet} (v : m.Valid held) (h : m.Hands held m' ret i b n r) :
    m'.Valid (insert (ipString ret.ip) held) := by
  rw [h.ip]
  exact (v.set_insert h.block h.valid).of_blocks h.blocks

-- An address which nobody holds is ignored. The block of another one would panic if it were exhausted.
theorem putBack_cases (v : m.Valid held) (h : m.putBack ip = .ok m') :
    (m' = m ∧ ipString ip ∉ held) ∨
    ∃ i b n k, m.Holds ip i b n ∧ b.key n ∈ b.allocated ∧ b.next = some k ∧ m' = {
      blocks := m.blocks.set i
        { b with next := if n < k then some n else b.next, allocated := b.allocated.erase (b.key n) }
      blockIndex := if i < m.blockIndex then i else m.blockIndex } := by
  by_cases ha : ∃ i b n, m.Holds ip i b n ∧ b.key n ∈ b.allocated
  case pos =>
    obtain ⟨i, b, n, hh, ha⟩ := ha
    cases hx : b.next
    case none => rw [putBack_panics v hh ha hx] at h; cases h
    case some k =>
      rw [putBack_frees v hh ha hx] at h
      cases h
      exact .inr ⟨i, b, n, k, hh, ha, hx, rfl⟩
  case neg =>
    have hs : ∀ c ∈ m.blocks, ∀ n ∈ c, ipString ip = c.key n → c.key n ∉ c.allocated := by
      intro c hc n hn hk hu
      obtain ⟨i, hi⟩ := List.getElem?_of_mem hc
      exact ha ⟨i, c, n, ⟨hi, hn, hk⟩, hu⟩
    rw [putBack_skip hs] at h
    cases h
    refine .inl ⟨rfl, fun hk => ?_⟩
    obtain ⟨c, hc, hu⟩ := (v.held _).mp hk
    obtain ⟨n, hn, he⟩ := (v.valid hc).allocated hu
    exact hs c hc n hn he (he ▸ hu)

theorem Valid.putBack (v : m.Valid held) (h : m.putBack ip = .ok m') :
    m'.Valid (held.erase (ipString ip)) := by
  cases putBack_cases v h
  case inl hs =>
    obtain ⟨rfl, hn⟩ := hs
    rwa [Finset.erase_eq_of_notMem hn]
  case inr hs =>
    obtain ⟨i, b, n, k, hh, ha, hx, rfl⟩ := hs
    have vb := v.valid (List.mem_of_getElem? hh.left)
    rw [hh.right.right]
    exact (v.set_erase hh.left ha (vb.erase hh.right.left ha hx)).of_blocks rfl

end IPAddressManager

end Aranya.IPAM
