import Aranya.IPAM.Theorems.Manager

namespace Aranya.IPAM

open Net

variable {net : Texts} {m m' : IPAddressManager} {b b' c : Block} {i k n : Nat} {ipReq : Option Bytes}
    {ip cidr start stop : Bytes} {r : Option Nat} {held : Finset Bytes}

structure Traced where
  manager : IPAddressManager
  held : Finset Bytes

namespace Traced

def new : Traced where
  manager := .new
  held := ∅

def step (net : Texts) (s : Traced) : IPAddressManager.Action → Option Traced
  | .addAddressBlock cidr start stop =>
    some { s with manager := (s.manager.addAddressBlock net cidr start stop).fst }
  | .allocate ipReq =>
    match s.manager.allocate ipReq with
    | .ok (m, .ok ret) => some ⟨m, insert (ipString ret.ip) s.held⟩
    | .ok (m, .error _) => some ⟨m, s.held⟩
    | .error _ => none
  | .putBack ip =>
    match s.manager.putBack ip with
    | .ok m => some ⟨m, s.held.erase (ipString ip)⟩
    | .error _ => none

-- A block that is added has no address after which the bytes are all 0 again, nor the long form of one in
-- another block. No request is taken for the address 0.
def Orderly (net : Texts) (s : Traced) : IPAddressManager.Action → Prop
  | .addAddressBlock cidr start stop =>
    ∀ b, newBlock net cidr start stop = .ok b → (∀ c ∈ s.manager.blocks, c.Disjoint b) →
      b.Regular ∧ ∀ c ∈ s.manager.blocks, c.mask.bits ≠ b.mask.bits → c.Apart b
  | .allocate ipReq => ∀ ip, ipReq = some ip → s.manager.Known ip
  | .putBack _ => True

variable {s s' : Traced} {a : IPAddressManager.Action} {as : List IPAddressManager.Action}

def Valid (s : Traced) : Prop :=
  s.manager.Valid s.held

theorem forall_disjoint {bs : List Block} {b : Block} (h : ¬bs.any (·.overlapped b)) : ∀ c ∈ bs, c.Disjoint b :=
  fun c hc n hn => h <| List.any_eq_true.mpr ⟨c, hc, Block.overlapped_iff.mpr ⟨n, hn⟩⟩

theorem Valid.addAddressBlock (v : s.Valid) (ho : s.Orderly net (.addAddressBlock cidr start stop)) :
    (s.manager.addAddressBlock net cidr start stop).fst.Valid s.held := by
  rw [IPAddressManager.addAddressBlock]
  split
  case h_1 => exact v
  case h_2 b hb =>
    split
    case isTrue => exact v
    case isFalse hn =>
      have hd := forall_disjoint hn
      obtain ⟨hx, he⟩ := newBlock_fresh hb
      obtain ⟨hr, ha⟩ := ho b hb hd
      refine v.insert (.new hx he) hr he hd fun c hc => ?_
      by_cases hf : c.mask.bits = b.mask.bits
      case pos => exact Block.apart_of_bits hf (hd c hc)
      case neg => exact ha c hc hf

theorem Valid.step (v : s.Valid) (ho : s.Orderly net a) (h : s.step net a = some s') : s'.Valid := by
  cases a
  case addAddressBlock cidr start stop => cases h; exact v.addAddressBlock ho
  case allocate ipReq =>
    rw [Traced.step] at h
    split at h
    case h_1 hr =>
      cases h
      obtain ⟨i, b, n, r, hh⟩ := IPAddressManager.hands_of_allocate v ho hr
      exact hh.valid' v
    case h_2 hr =>
      cases h
      exact v.of_blocks (IPAddressManager.blocks_allocate hr)
    case h_3 => cases h
  case putBack ip =>
    rw [Traced.step] at h
    split at h
    case h_1 hr => cases h; exact v.putBack hr
    case h_2 => cases h

theorem allocate_unique {ret : IPNet} (e : Execution (Traced.step net) Traced.new as s)
    (ho : Along (Traced.step net) (Orderly net) Traced.new as) (ha : s.Orderly net (.allocate ipReq))
    (h : s.manager.allocate ipReq = .ok (m', .ok ret)) :
    (∃ b ∈ s.manager.blocks, ∃ n ∈ b, ipString ret.ip = b.key n) ∧ ipString ret.ip ∉ s.held := by
  have v := e.preserves_along Valid.step IPAddressManager.Valid.new ho
  obtain ⟨i, b, n, r, hh⟩ := IPAddressManager.hands_of_allocate v ha h
  exact ⟨⟨b, List.mem_of_getElem? hh.block, n, hh.mem, hh.ip⟩, hh.ip ▸ hh.free⟩

theorem Orderly.of_newBlock {b : Block} (hb : newBlock net cidr start stop = .ok b) (hr : b.Regular)
    (hc : ∀ c ∈ s.manager.blocks, c.mask.bits = b.mask.bits) :
    s.Orderly net (.addAddressBlock cidr start stop) := by
  rintro b' hb' -
  cases hb.symm.trans hb'
  exact ⟨hr, fun c hm hne => absurd (hc c hm) hne⟩

theorem allocate_unique_requested :
    let as : List IPAddressManager.Action := [.addAddressBlock [10, 0, 0, 0, 29] [] [], .allocate none]
    ∃ s m' ret, Execution (Traced.step IPAddressManager.rawTexts) Traced.new as s ∧
      s.manager.allocate (some [10, 0, 0, 2]) = .ok (m', .ok ret) ∧ ret.ip = [10, 0, 0, 2] ∧
      (∃ b ∈ s.manager.blocks, ∃ n ∈ b, ipString ret.ip = b.key n) ∧ ipString ret.ip ∉ s.held := by
  intro as
  obtain ⟨s, m', ret, e, ha, hr, hk⟩ : ∃ s m' ret, Execution (Traced.step IPAddressManager.rawTexts) Traced.new
        as s ∧
      s.manager.allocate (some [10, 0, 0, 2]) = .ok (m', .ok ret) ∧ ret.ip = [10, 0, 0, 2] ∧
      ∀ b ∈ s.manager.blocks, b.startInt ≠ 0 :=
    ⟨_, _, _, .of_foldlM rfl, rfl, rfl, by decide⟩
  have ho : Along (Traced.step IPAddressManager.rawTexts) (Orderly IPAddressManager.rawTexts) Traced.new as :=
    .cons (.of_newBlock rfl (Block.regular_of_lt rfl (by decide)) nofun) rfl <| .cons nofun rfl trivial
  refine ⟨s, m', ret, e, ha, hr, allocate_unique e ho ?_ ha⟩
  rintro ip ⟨⟩ b hb
  exact .inr (hk b hb)

-- The second address of the block with the only address 255.255.255.255 is 0.0.0.0.
theorem not_unique_broadcast :
    let as : List IPAddressManager.Action := [.addAddressBlock [255, 255, 255, 255, 32] [] [], .allocate none]
    ∃ s m' ret, Execution (Traced.step IPAddressManager.rawTexts) Traced.new as s ∧
      s.manager.allocate none = .ok (m', .ok ret) ∧ ret.ip = [0, 0, 0, 0] ∧
      ¬∃ b ∈ s.manager.blocks, ∃ n ∈ b, ipString ret.ip = b.key n := by
  intro as
  obtain ⟨s, m', ret, e, ha, hr, hb⟩ : ∃ s m' ret,
      Execution (Traced.step IPAddressManager.rawTexts) Traced.new as s ∧
      s.manager.allocate none = .ok (m', .ok ret) ∧ ret.ip = [0, 0, 0, 0] ∧
      ∀ b ∈ s.manager.blocks, b.contains [0, 0, 0, 0] = false :=
    ⟨_, _, _, .of_foldlM rfl, rfl, rfl, by decide⟩
  refine ⟨s, m', ret, e, ha, hr, ?_⟩
  rintro ⟨b, hm, n, hn, hk⟩
  rw [hr] at hk
  have hc := Block.contains_of_key hn hk
  rw [hb b hm] at hc
  cases hc

end Traced

namespace IPAddressManager

structure Indexed (m : IPAddressManager) : Prop where
  bound : m.blockIndex < m.blocks.length ∨ m.blocks = [] ∧ m.blockIndex = 0
  exhausted : ∀ {i : Nat} {b : Block}, i < m.blockIndex → m.blocks[i]? = some b → b.next = none

theorem Indexed.new : new.Indexed where
  bound := .inr ⟨rfl, rfl⟩
  exhausted := nofun

theorem orderedInsert_of_le {bs : List Block} (h : ∀ c ∈ bs, b.startInt ≤ c.startInt) :
    bs.orderedInsert (fun b₁ b₂ => b₁.startInt ≤ b₂.startInt) b = b :: bs := by
  cases bs
  case nil => rfl
  case cons c bs => simp [h c List.mem_cons_self]

theorem insertionSort_append {bs cs : List Block} (hb : bs.Pairwise fun b c => b.startInt ≤ c.startInt)
    (hc : ∀ b ∈ bs, ∀ c ∈ cs, b.startInt ≤ c.startInt) :
    (bs ++ cs).insertionSort (fun b₁ b₂ => b₁.startInt ≤ b₂.startInt) =
      bs ++ cs.insertionSort fun b₁ b₂ => b₁.startInt ≤ b₂.startInt := by
  induction bs
  case nil => rfl
  case cons b bs hi =>
    rw [List.cons_append, List.insertionSort_cons, hi hb.of_cons fun b' hb' => hc b' (.tail _ hb')]
    refine orderedInsert_of_le fun c hc' => ?_
    cases List.mem_append.mp hc'
    case inl hm => exact List.rel_of_pairwise_cons hb hm
    case inr hm => exact hc b List.mem_cons_self c ((List.mem_insertionSort _).mp hm)

theorem getElem?_insertionSort (o : m.Ordered) (hk : k ≤ m.blocks.length)
    (hb : ∀ i c, i < k → m.blocks[i]? = some c → c.startInt < b.startInt) (hi : i < k) :
    ((m.blocks ++ [b]).insertionSort fun b₁ b₂ => b₁.startInt ≤ b₂.startInt)[i]? = m.blocks[i]? := by
  have hs : m.blocks.take k ++ (m.blocks.drop k ++ [b]) = m.blocks ++ [b] := by
    rw [← List.append_assoc, List.take_append_drop]
  have ho : (m.blocks.take k ++ m.blocks.drop k).Pairwise fun b c => b.startInt ≤ c.startInt := by
    rw [List.take_append_drop]
    exact o.starts.imp le_of_lt
  obtain ⟨ht, -, htd⟩ := List.pairwise_append.mp ho
  have hc : ∀ c ∈ m.blocks.take k, ∀ d ∈ m.blocks.drop k ++ [b], c.startInt ≤ d.startInt := by
    intro c hc d hd
    cases List.mem_append.mp hd
    case inl hd => exact htd c hc d hd
    case inr hd =>
      obtain ⟨j, hj⟩ := List.getElem?_of_mem hc
      rw [List.getElem?_take] at hj
      split at hj
      case isTrue hlt => exact List.mem_singleton.mp hd ▸ (hb j c hlt hj).le
      case isFalse => cases hj
  rw [← hs, insertionSort_append ht hc, List.getElem?_append_left (by simp; omega),
    List.getElem?_take_of_lt hi]

theorem Indexed.le (x : m.Indexed) : m.blockIndex ≤ m.blocks.length := by
  cases x.bound
  case inl h => exact h.le
  case inr h => simp [h]

theorem Indexed.add (x : m.Indexed) (o : m.Ordered)
    (hb : ∀ i c, i < m.blockIndex → m.blocks[i]? = some c → c.startInt < b.startInt) :
    { m with blocks := (m.blocks ++ [b]).insertionSort fun b₁ b₂ => b₁.startInt ≤ b₂.startInt }.Indexed where
  bound := by
    left
    have := x.le
    show m.blockIndex < ((m.blocks ++ [b]).insertionSort _).length
    rw [List.length_insertionSort, List.length_append, List.length_singleton]
    omega
  exhausted hi hc := x.exhausted hi (getElem?_insertionSort o x.le hb hi ▸ hc)

theorem Indexed.set (x : m.Indexed) (hi : m.blockIndex ≤ i) :
    { m with blocks := m.blocks.set i b }.Indexed where
  bound := by
    refine x.bound.imp (fun h => ?_) fun h => ?_
    case refine_1 => simpa using h
    case refine_2 => simp [h]
  exhausted {j c} hj hc := by
    have hij : i ≠ j := (hj.trans_le hi).ne'
    exact x.exhausted hj ((List.getElem?_set_ne hij).symm.trans hc)

theorem Indexed.of_eq (x : m.Indexed) (hb : m'.blocks = m.blocks) (hi : m'.blockIndex = m.blockIndex) :
    m'.Indexed := by
  cases m
  cases m'
  cases hb
  cases hi
  exact x

theorem Indexed.granted {ret : IPNet} (x : m.Indexed) (g : Granted m.blocks m.blockIndex m' ret i b n r) :
    m'.Indexed where
  bound := by
    obtain ⟨hi, -⟩ := List.getElem?_eq_some_iff.mp g.block
    left
    rwa [g.blocks, g.index, List.length_set]
  exhausted {j c} hj hc := by
    rw [g.index] at hj
    rw [g.blocks, List.getElem?_set_ne (by omega)] at hc
    by_cases hlt : j < m.blockIndex
    case pos => exact x.exhausted hlt hc
    case neg => exact g.exhausted (not_lt.mp hlt) hj hc

theorem Indexed.all_exhausted (x : m.Indexed) (h : Exhausted m.blocks m.blockIndex m')
    (hc : m.blocks[i]? = some c) : c.next = none := by
  by_cases hlt : i < m.blockIndex
  case pos => exact x.exhausted hlt hc
  case neg => exact h.exhausted (not_lt.mp hlt) hc

theorem Indexed.exhaust (x : m.Indexed) (h : Exhausted m.blocks m.blockIndex m') : m'.Indexed where
  bound := by
    have := h.index
    left
    rw [h.blocks]
    omega
  exhausted _ hc := x.all_exhausted h (h.blocks ▸ hc)

theorem Indexed.hands {ret : IPNet} (x : m.Indexed) (v : m.Valid held) (h : m.Hands held m' ret i b n r)
    (hi : m'.blockIndex = m.blockIndex) : m'.Indexed := by
  have hm := List.mem_of_getElem? h.block
  refine (x.set (b := { b with next := r, allocated := insert (b.key n) b.allocated }) ?_).of_eq h.blocks hi
  by_contra hlt
  have hx := x.exhausted (not_le.mp hlt) h.block
  have ha := (v.valid hm).below h.mem fun k hk => by simp [hx] at hk
  exact h.free ((v.mem_held_iff hm h.mem).mpr ha)

theorem Indexed.putBack (x : m.Indexed) (v : m.Valid held) (h : m.putBack ip = .ok m') : m'.Indexed := by
  cases putBack_cases v h
  case inl hs => exact hs.left ▸ x
  case inr hs =>
    obtain ⟨i, b, n, k, hh, ha, hx, rfl⟩ := hs
    have hi : ¬i < m.blockIndex := fun hlt => nomatch (x.exhausted hlt hh.left).symm.trans hx
    rw [if_neg hi]
    exact x.set (not_lt.mp hi)

end IPAddressManager

namespace Traced

variable {s s' : Traced} {a : IPAddressManager.Action} {as : List IPAddressManager.Action}

def Forward (net : Texts) (s : Traced) (a : IPAddressManager.Action) : Prop :=
  s.Orderly net a ∧
  ∀ cidr start stop b, a = .addAddressBlock cidr start stop → newBlock net cidr start stop = .ok b →
    (∀ c ∈ s.manager.blocks, c.Disjoint b) →
    ∀ i c, i < s.manager.blockIndex → s.manager.blocks[i]? = some c → c.startInt < b.startInt

structure ValidIndexed (s : Traced) : Prop where
  valid : s.Valid
  indexed : s.manager.Indexed

theorem ValidIndexed.addAddressBlock (v : s.ValidIndexed)
    (hf : s.Forward net (.addAddressBlock cidr start stop)) :
    (s.manager.addAddressBlock net cidr start stop).fst.Indexed := by
  rw [IPAddressManager.addAddressBlock]
  split
  case h_1 => exact v.indexed
  case h_2 b hb =>
    split
    case isTrue => exact v.indexed
    case isFalse hn =>
      exact v.indexed.add v.valid.ordered (hf.right cidr start stop b rfl hb (forall_disjoint hn))

theorem ValidIndexed.allocate {res : Except Bytes IPNet} (v : s.ValidIndexed)
    (ho : s.Orderly net (.allocate ipReq)) (h : s.manager.allocate ipReq = .ok (m', res)) : m'.Indexed := by
  cases ipReq
  case none =>
    cases v.indexed.bound
    case inr hb => rw [IPAddressManager.allocate_nil_panics (by simp [hb])] at h; cases h
    case inl hb =>
      cases IPAddressManager.allocate_nil_finds v.valid hb
      case inl hf =>
        obtain ⟨_, _, hf, i, b, n, r, g⟩ := hf
        cases h.symm.trans hf
        exact v.indexed.granted g
      case inr hf =>
        obtain ⟨_, _, hf, x⟩ := hf
        cases h.symm.trans hf
        exact v.indexed.exhaust x
  case some ip =>
    cases IPAddressManager.allocate_some_cases v.valid (ho ip rfl) h
    case inl he => exact he.left ▸ v.indexed
    case inr hh =>
      obtain ⟨_, i, b, n, r, -, hh, hi⟩ := hh
      exact v.indexed.hands v.valid hh hi

theorem ValidIndexed.step (v : s.ValidIndexed) (hf : s.Forward net a) (h : s.step net a = some s') :
    s'.ValidIndexed := by
  refine ⟨v.valid.step hf.left h, ?_⟩
  cases a
  case addAddressBlock cidr start stop => cases h; exact v.addAddressBlock hf
  case allocate ipReq =>
    rw [Traced.step] at h
    split at h
    case h_1 hr => cases h; exact v.allocate hf.left hr
    case h_2 hr => cases h; exact v.allocate hf.left hr
    case h_3 => cases h
  case putBack ip =>
    rw [Traced.step] at h
    split at h
    case h_1 hr => cases h; exact v.indexed.putBack v.valid hr
    case h_2 => cases h

def Complete (s : Traced) : Prop :=
  ∃ m' res, s.manager.allocate none = .ok (m', res) ∧
    (∀ text, res = .error text → ∀ b ∈ s.manager.blocks, ∀ n ∈ b, b.key n ∈ s.held) ∧
    ∀ ret, res = .ok ret → ∃ b ∈ s.manager.blocks, ∃ n ∈ b, ipString ret.ip = b.key n ∧ b.key n ∉ s.held

theorem complete_iff_blocks (e : Execution (Traced.step net) Traced.new as s)
    (hf : Along (Traced.step net) (Forward net) Traced.new as) : s.Complete ↔ s.manager.blocks ≠ [] := by
  have v := e.preserves_along ValidIndexed.step ⟨IPAddressManager.Valid.new, .new⟩ hf
  cases v.indexed.bound
  case inr hb =>
    refine iff_of_false ?_ (· hb.left)
    rintro ⟨m', res, ha, -⟩
    rw [IPAddressManager.allocate_nil_panics (by simp [hb])] at ha
    cases ha
  case inl hb =>
    refine iff_of_true ?_ (List.ne_nil_of_length_pos (Nat.zero_lt_of_lt hb))
    cases IPAddressManager.allocate_nil_finds v.valid hb
    case inl hg =>
      obtain ⟨m', ret, ha, i, b, n, r, g⟩ := hg
      have hh := g.hands v.valid
      refine ⟨m', _, ha, nofun, ?_⟩
      rintro _ ⟨⟩
      exact ⟨b, List.mem_of_getElem? hh.block, n, hh.mem, hh.ip, hh.free⟩
    case inr hx =>
      obtain ⟨m', text, ha, x⟩ := hx
      refine ⟨m', _, ha, fun _ _ b hb n hn => ?_, nofun⟩
      obtain ⟨i, hi⟩ := List.getElem?_of_mem hb
      have hx := v.indexed.all_exhausted x hi
      refine (v.valid.mem_held_iff hb hn).mpr <| (v.valid.valid hb).below hn fun k hk => ?_
      rw [hx] at hk
      cases hk

theorem complete_iff_blocks_forward :
    let as : List IPAddressManager.Action := [.addAddressBlock [10, 0, 1, 1, 32] [] [], .allocate none,
      .addAddressBlock [10, 0, 2, 1, 32] [] []]
    ∃ s, Execution (Traced.step IPAddressManager.rawTexts) Traced.new as s ∧
      s.manager.blocks.length = 2 ∧ (s.Complete ↔ s.manager.blocks ≠ []) := by
  intro as
  obtain ⟨s, e, hl⟩ : ∃ s, Execution (Traced.step IPAddressManager.rawTexts) Traced.new as s ∧
      s.manager.blocks.length = 2 :=
    ⟨_, .of_foldlM rfl, rfl⟩
  refine ⟨s, e, hl, complete_iff_blocks e ?_⟩
  refine .cons ⟨?first, ?before₁⟩ rfl <| .cons ⟨nofun, nofun⟩ rfl <| .cons ⟨?second, ?before₂⟩ rfl trivial
  case first => exact .of_newBlock rfl (Block.regular_of_lt rfl (by decide)) nofun
  case second => exact .of_newBlock rfl (Block.regular_of_lt rfl (by decide)) (by decide)
  -- The index is 0 all the time.
  case before₁ | before₂ => exact fun _ _ _ _ _ _ _ i _ hi => absurd hi (Nat.not_lt_zero i)

-- The block that is added last gets before the current one.
theorem not_complete_backward :
    let as : List IPAddressManager.Action :=
      [.addAddressBlock [10, 0, 2, 1, 32] [] [], .allocate none,
       .addAddressBlock [10, 0, 3, 1, 32] [] [], .allocate none,
       .addAddressBlock [10, 0, 1, 1, 32] [] []]
    ∃ s m' text, Execution (Traced.step IPAddressManager.rawTexts) Traced.new as s ∧
      s.manager.allocate none = .ok (m', .error text) ∧ ¬s.Complete := by
  intro as
  obtain ⟨s, m', text, e, ha, b, hb, n, hn, hf⟩ : ∃ s m' text,
      Execution (Traced.step IPAddressManager.rawTexts) Traced.new as s ∧
      s.manager.allocate none = .ok (m', .error text) ∧
      ∃ b ∈ s.manager.blocks, ∃ n ∈ b, b.key n ∉ s.held :=
    ⟨_, _, _, .of_foldlM rfl, rfl,
      _, List.mem_cons_self, 167772417, ⟨by decide, by decide⟩, by decide⟩
  refine ⟨s, m', text, e, ha, ?_⟩
  rintro ⟨_, _, ha', h, -⟩
  cases ha.symm.trans ha'
  exact hf (h text rfl b hb n hn)

def Exact (s : Traced) (ip : Bytes) : Prop :=
  (∀ b ∈ s.manager.blocks, ∀ n ∈ b, ipString ip = b.key n → b.key n ∉ s.held →
    ∃ m', s.manager.allocate (some ip) = .ok (m', .ok ⟨ip, b.mask⟩)) ∧
  ((∀ b ∈ s.manager.blocks, ∀ n ∈ b, ipString ip = b.key n → b.key n ∈ s.held) →
    ∃ text, s.manager.allocate (some ip) = .ok (s.manager, .error text))

theorem exact_iff_probed (e : Execution (Traced.step net) Traced.new as s)
    (ho : Along (Traced.step net) (Orderly net) Traced.new as) (hk : s.manager.Known ip) :
    s.Exact ip ↔
      ∃ i b n, s.manager.Holds ip i b n ∧ i ∈ search.probes s.manager.blocks.length := by
  have v := e.preserves_along Valid.step IPAddressManager.Valid.new ho
  constructor
  case mp =>
    intro hx
    by_contra hn
    -- The block is not found, and the index is out of range.
    have hp : s.manager.allocate (some ip) = .error .indexOutOfRange := by
      apply IPAddressManager.allocate_panics
      by_cases hh : ∃ i b n, s.manager.Holds ip i b n
      case neg => exact IPAddressManager.search_none hk (by simpa using hh)
      case pos =>
        obtain ⟨i, b, n, hh⟩ := hh
        rw [IPAddressManager.search_holds v hk hh, if_neg fun hp => hn ⟨i, b, n, hh, hp⟩]
    by_cases hf : ∃ b ∈ s.manager.blocks, ∃ n ∈ b, ipString ip = b.key n ∧ b.key n ∉ s.held
    case pos =>
      obtain ⟨b, hb, n, hn, he, hf⟩ := hf
      obtain ⟨_, ha⟩ := hx.left b hb n hn he hf
      cases hp.symm.trans ha
    case neg =>
      obtain ⟨_, ha⟩ := hx.right fun b hb n hn he => by_contra fun hf' => hf ⟨b, hb, n, hn, he, hf'⟩
      cases hp.symm.trans ha
  case mpr =>
    rintro ⟨i, b, n, hh, hp⟩
    constructor
    case left =>
      intro b' hb' n' hn' he hf
      obtain ⟨j, hj⟩ := List.getElem?_of_mem hb'
      cases v.index_eq hj hh.left hn' hh.right.left (he.symm.trans hh.right.right)
      cases hj.symm.trans hh.left
      cases Block.key_injective hn' hh.right.left (he.symm.trans hh.right.right)
      obtain ⟨r, -, ha⟩ := IPAddressManager.allocate_free v hk hh hp hf
      exact ⟨_, ha⟩
    case right =>
      intro hf
      have hu := hf b (List.mem_of_getElem? hh.left) n hh.right.left hh.right.right
      exact ⟨_, IPAddressManager.allocate_used v hk hh hp hu⟩

theorem exact_iff_probed_second :
    let as : List IPAddressManager.Action :=
      [.addAddressBlock [10, 0, 1, 0, 24] [] [], .addAddressBlock [10, 0, 2, 0, 24] [] []]
    ∃ s, Execution (Traced.step IPAddressManager.rawTexts) Traced.new as s ∧ s.manager.blocks.length = 2 ∧
      (s.Exact [10, 0, 2, 5] ↔
        ∃ i b n, s.manager.Holds [10, 0, 2, 5] i b n ∧ i ∈ search.probes s.manager.blocks.length) := by
  intro as
  obtain ⟨s, e, hl, hk⟩ : ∃ s, Execution (Traced.step IPAddressManager.rawTexts) Traced.new as s ∧
      s.manager.blocks.length = 2 ∧ ∀ b ∈ s.manager.blocks, b.startInt ≠ 0 :=
    ⟨_, .of_foldlM rfl, rfl, by decide⟩
  refine ⟨s, e, hl, exact_iff_probed e (.cons ?_ rfl <| .cons ?_ rfl trivial) fun b hb => .inr (hk b hb)⟩
  all_goals exact .of_newBlock rfl (Block.regular_of_lt rfl (by decide)) (by decide)

theorem not_exact_first :
    let as : List IPAddressManager.Action :=
      [.addAddressBlock [10, 0, 1, 0, 24] [] [], .addAddressBlock [10, 0, 2, 0, 24] [] []]
    ∃ s, Execution (Traced.step IPAddressManager.rawTexts) Traced.new as s ∧
      s.manager.allocate (some [10, 0, 1, 5]) = .error .indexOutOfRange ∧ ¬s.Exact [10, 0, 1, 5] := by
  intro as
  obtain ⟨s, e, ha, b, hb, n, hn, hk, hf⟩ : ∃ s,
      Execution (Traced.step IPAddressManager.rawTexts) Traced.new as s ∧
      s.manager.allocate (some [10, 0, 1, 5]) = .error .indexOutOfRange ∧
      ∃ b ∈ s.manager.blocks, ∃ n ∈ b, ipString [10, 0, 1, 5] = b.key n ∧ b.key n ∉ s.held :=
    ⟨_, .of_foldlM rfl, rfl, _, List.mem_cons_self, 167772421, ⟨by decide, by decide⟩, rfl,
      by decide⟩
  refine ⟨s, e, ha, fun hx => ?_⟩
  obtain ⟨_, ha'⟩ := hx.left b hb n hn hk hf
  cases ha.symm.trans ha'

end Traced
end Aranya.IPAM
