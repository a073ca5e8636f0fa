import Aranya.IPAM.Theorems.Manager
import Aranya.IPAM.Theorems.NewBlock
import Aranya.IPAM.Theorems.Ranges
import Mathlib.Order.Bounds.Basic

namespace Aranya.IPAM

open Net

namespace Block

inductive Action
  | allocate (ipReq : Option Bytes)
  | putBack (ip : Bytes)
  deriving DecidableEq, Repr

inductive Drawn : Block → Bytes → Prop
  | now {b b' : Block} {ret : IPNet} :
    (b.allocate none = .ok (b', .ok ret)) → Drawn b (ipString ret.ip)
  | later {b b' : Block} {ret : IPNet} {key : Bytes} :
    (b.allocate none = .ok (b', .ok ret)) → Drawn b' key → Drawn b key

def Granted (b : Block) (ip : Bytes) : Prop :=
  ∃ b', b.allocate (some ip) = .ok (b', .ok ⟨ip, b.mask⟩)

variable {b b' : Block} {n k : Nat} {ip key : Bytes} {r : Option Nat}

theorem Regular.of_shape (hr : b.Regular) (h₁ : b'.startInt = b.startInt) (h₂ : b'.endInt = b.endInt)
    (h₃ : b'.mask = b.mask) : b'.Regular := by
  intro n hn
  rw [mem_iff, h₁, h₂] at hn
  rw [h₃]
  exact hr n hn

theorem free_of_drawn (v : b.Valid) (hr : b.Regular) (h : b.Drawn key) :
    ∃ n ∈ b, key = b.key n ∧ b.key n ∉ b.allocated := by
  induction h
  case now b b' ret ha =>
    cases hx : b.next
    case none => rw [allocate_nil_none hx] at ha; cases ha
    case some n =>
      obtain ⟨hn, hf⟩ := v.next hx
      obtain ⟨r, -, ha'⟩ := allocate_nil_some hr hn hx
      cases ha.symm.trans ha'
      exact ⟨n, hn, rfl, hf⟩
  case later b b' ret key ha _ hi =>
    cases hx : b.next
    case none => rw [allocate_nil_none hx] at ha; cases ha
    case some n =>
      obtain ⟨hn, -⟩ := v.next hx
      obtain ⟨r, hf, ha'⟩ := allocate_nil_some hr hn hx
      cases ha.symm.trans ha'
      obtain ⟨m, hm, hk, hf⟩ := hi (v.move hx hf) (hr.of_shape rfl rfl rfl)
      exact ⟨m, hm, hk, fun ha => hf (Finset.mem_insert_of_mem ha)⟩

theorem free_of_allocate {ret : IPNet} (h : b.allocate (some ip) = .ok (b', .ok ret)) :
    b.contains ip = true ∧ ipString ip ∉ b.allocated := by
  rw [allocate] at h
  split at h
  case isTrue => cases h
  case isFalse hc =>
    split at h
    case isTrue => cases h
    case isFalse ha => exact ⟨by simpa using hc, ha⟩

theorem Valid.next_le (v : b.Valid) (hn : n ∈ b) (hf : b.key n ∉ b.allocated) :
    ∃ k, b.next = some k ∧ k ≤ n := by
  by_contra hk
  refine hf (v.below hn fun k hx => ?_)
  by_contra hle
  exact hk ⟨k, hx, not_lt.mp hle⟩

theorem drawn_of_free (v : b.Valid) (hr : b.Regular) (hn : n ∈ b) (hf : b.key n ∉ b.allocated) :
    b.Drawn (b.key n) := by
  obtain ⟨k, hx, hle⟩ := v.next_le hn hf
  induction hd : n - k using Nat.strong_induction_on generalizing b k
  case _ d hi =>
    obtain ⟨hk, -⟩ := v.next hx
    obtain ⟨r, hr', ha⟩ := allocate_nil_some hr hk hx
    by_cases he : k = n
    case pos => subst he; exact .now ha
    case neg =>
      have hf' : b.key n ∉ insert (b.key k) b.allocated := by
        intro hm
        cases Finset.mem_insert.mp hm
        case inl hm => exact he (key_injective hn hk hm).symm
        case inr hm => exact hf hm
      have v' := v.move hx hr'
      obtain ⟨k', hx', hle'⟩ := v'.next_le hn hf'
      obtain ⟨-, hlt, -⟩ := hr'.found hx'
      exact .later ha <| hi (n - k') (by omega) v' (hr.of_shape rfl rfl rfl) hn hf' k' hx' hle' rfl

theorem drawn_iff (v : b.Valid) (hr : b.Regular) :
    b.Drawn key ↔ ∃ n ∈ b, key = b.key n ∧ b.key n ∉ b.allocated := by
  constructor
  case mp => exact free_of_drawn v hr
  case mpr => rintro ⟨n, hn, rfl, hf⟩; exact drawn_of_free v hr hn hf

theorem granted_iff (v : b.Valid) (hr : b.Regular) (hx : b.next ≠ none) :
    b.Granted ip ↔ b.contains ip = true ∧ ipString ip ∉ b.allocated := by
  constructor
  case mp =>
    rintro ⟨b', ha⟩
    exact free_of_allocate ha
  case mpr =>
    rintro ⟨hc, ha⟩
    obtain ⟨n, hx⟩ := Option.ne_none_iff_exists'.mp hx
    obtain ⟨r, hm, -⟩ := moveToNextUnused_some hr (v.next hx).left hx
    rw [Granted, allocate, hc, if_neg (by simp), if_neg ha, hx]
    by_cases he : equal ip (intToIP n b.mask.bits) = true
    case pos => simp only [he, hm]; exact ⟨_, rfl⟩
    case neg => simp only [he]; exact ⟨_, rfl⟩

end Block

structure TracedBlock where
  block : Block
  held : Finset Bytes

namespace TracedBlock

def new (b : Block) : TracedBlock where
  block := b
  held := ∅

def step (s : TracedBlock) : Block.Action → Option TracedBlock
  | .allocate ipReq =>
    match s.block.allocate ipReq with
    | .ok (b, .ok ret) => some ⟨b, insert (ipString ret.ip) s.held⟩
    | .ok (b, .error _) => some ⟨b, s.held⟩
    | .error _ => none
  | .putBack ip =>
    match s.block.putBack ip with
    | .ok (b, _) => some ⟨b, s.held.erase (ipString ip)⟩
    | .error _ => none

variable {s s' : TracedBlock} {a : Block.Action} {as : List Block.Action} {b : Block} {n : Nat}
    {ip cidr start stop : Bytes} {ipReq : Option Bytes} {net : Texts}

def Orderly (s : TracedBlock) : Block.Action → Prop
  | .allocate ipReq => ∀ ip, ipReq = some ip → s.block.Known ip
  | .putBack _ => True

structure Valid (b : Block) (s : TracedBlock) : Prop where
  valid : s.block.Valid
  regular : s.block.Regular
  shape : s.block.shape = b.shape
  held : s.held = s.block.allocated

theorem Valid.new (hb : newBlock net cidr start stop = .ok b) (hr : b.Regular) : Valid b (new b) where
  valid := .new (newBlock_fresh hb).left (newBlock_fresh hb).right
  regular := hr
  shape := rfl
  held := (newBlock_fresh hb).right.symm

theorem Valid.refused (v : Valid b s) (hk : s.block.Known ip)
    (h : ∀ n ∈ s.block, ipString ip = s.block.key n → s.block.key n ∈ s.held) :
    ∃ text, s.block.allocate (some ip) = .ok (s.block, .error text) := by
  by_cases hc : s.block.contains ip = true
  case neg => exact ⟨_, by simp [Block.allocate, hc]; rfl⟩
  case pos =>
    obtain ⟨n, hn, hi⟩ := (Block.contains_iff_key hk).mp hc
    exact ⟨_, Block.allocate_used hn hi (v.held ▸ h n hn hi)⟩

theorem Valid.allocate (v : Valid b s) (ho : s.Orderly (.allocate ipReq)) :
    (∃ n r ret, n ∈ s.block ∧ s.block.key n ∉ s.held ∧ ipString ret.ip = s.block.key n ∧
      { s.block with next := r, allocated := insert (s.block.key n) s.block.allocated }.Valid ∧
      s.block.allocate ipReq =
        .ok ({ s.block with next := r, allocated := insert (s.block.key n) s.block.allocated }, .ok ret)) ∨
    ∃ text, s.block.allocate ipReq = .ok (s.block, .error text) := by
  cases ipReq
  case none =>
    cases hx : s.block.next
    case none => exact .inr ⟨_, Block.allocate_nil_none hx⟩
    case some n =>
      obtain ⟨hn, hf⟩ := v.valid.next hx
      obtain ⟨r, hr, ha⟩ := Block.allocate_nil_some v.regular hn hx
      exact .inl ⟨n, r, _, hn, v.held ▸ hf, rfl, v.valid.move hx hr, ha⟩
  case some ip =>
    by_cases h : ∃ n ∈ s.block, ipString ip = s.block.key n ∧ s.block.key n ∉ s.held
    case pos =>
      obtain ⟨n, hn, hk, hf⟩ := h
      obtain ⟨r, hv, hr⟩ := Block.allocate_free v.valid v.regular hn hk (v.held ▸ hf)
      exact .inl ⟨n, r, _, hn, hf, hk, hv, hr⟩
    case neg => exact .inr <| v.refused (ho ip rfl) fun n hn hk => by_contra fun hf => h ⟨n, hn, hk, hf⟩

theorem Valid.mem_held (v : Valid b s) (h : ipString ip ∈ s.held) :
    ∃ n ∈ s.block, ipString ip = s.block.key n ∧ s.block.key n ∈ s.block.allocated := by
  rw [v.held] at h
  obtain ⟨n, hn, hk⟩ := v.valid.allocated h
  exact ⟨n, hn, hk, hk ▸ h⟩

theorem Valid.putBack_unused (v : Valid b s) (h : ipString ip ∉ s.held) :
    s.block.putBack ip = .ok (s.block, false) :=
  Block.putBack_unused fun _ _ hk ha => h (v.held ▸ hk ▸ ha)

theorem Valid.step_allocate (v : Valid b s) (ho : s.Orderly (.allocate ipReq))
    (h : s.step (.allocate ipReq) = some s') : Valid b s' := by
  cases v.allocate ho
  case inl ha =>
    obtain ⟨n, r, ret, hn, hf, hk, hv, ha⟩ := ha
    simp only [TracedBlock.step, ha] at h
    cases h
    exact ⟨hv, v.regular.of_shape rfl rfl rfl, v.shape, by rw [hk, v.held]⟩
  case inr ha =>
    obtain ⟨text, ha⟩ := ha
    simp only [TracedBlock.step, ha] at h
    cases h
    exact v

theorem Valid.step_putBack (v : Valid b s) (h : s.step (.putBack ip) = some s') : Valid b s' := by
  by_cases hh : ipString ip ∈ s.held
  case pos =>
    obtain ⟨n, hn, hk, ha⟩ := v.mem_held hh
    cases hx : s.block.next
    case none =>
      simp only [TracedBlock.step, Block.putBack_none hn hk ha hx] at h
      cases h
    case some m =>
      simp only [TracedBlock.step, Block.putBack_some hn hk ha hx] at h
      cases h
      exact ⟨v.valid.erase hn ha hx, v.regular.of_shape rfl rfl rfl, v.shape, by rw [hk, v.held]⟩
  case neg =>
    simp only [TracedBlock.step, v.putBack_unused hh] at h
    cases h
    exact ⟨v.valid, v.regular, v.shape, (Finset.erase_eq_of_notMem hh).trans v.held⟩

theorem Valid.step (v : Valid b s) (ho : s.Orderly a) (h : s.step a = some s') : Valid b s' := by
  cases a
  case allocate ipReq => exact v.step_allocate ho h
  case putBack ip => exact v.step_putBack h

structure Releases (s : TracedBlock) (ip : Bytes) : Prop where
  outstanding : ipString ip ∈ s.held →
    ∃ b', s.block.putBack ip = .ok (b', true) ∧
      (∀ key, b'.Drawn key ↔ s.block.Drawn key ∨ key = ipString ip) ∧
      ∀ ip', b'.Granted ip' ↔ s.block.Granted ip' ∨ ipString ip' = ipString ip
  other : ipString ip ∉ s.held → s.block.putBack ip = .ok (s.block, false)

theorem Valid.next_eq_none_iff (v : Valid b s) :
    s.block.next = none ↔ ∀ n ∈ s.block, s.block.key n ∈ s.held := by
  rw [v.held]
  constructor
  case mp => exact fun hx n hn => v.valid.below hn fun k hk => by simp [hx] at hk
  case mpr =>
    intro ha
    cases hx : s.block.next
    case none => rfl
    case some n => exact absurd (ha n (v.valid.next hx).left) (v.valid.next hx).right

theorem Valid.putBack (v : Valid b s) {m : Nat} (hn : n ∈ s.block) (hk : ipString ip = s.block.key n)
    (ha : s.block.key n ∈ s.block.allocated) (hx : s.block.next = some m) : s.Releases ip where
  other h := absurd (v.held ▸ hk ▸ ha) h
  outstanding _ := by
    have v' := v.valid.erase hn ha hx
    have hr : Block.Regular { s.block with
        next := if n < m then some n else s.block.next
        allocated := s.block.allocated.erase (s.block.key n) } := v.regular.of_shape rfl rfl rfl
    refine ⟨_, Block.putBack_some hn hk ha hx, fun key => ?drawn, fun ip' => ?granted⟩
    case drawn =>
      rw [Block.drawn_iff v' hr, Block.drawn_iff v.valid v.regular, hk]
      constructor
      case mp =>
        rintro ⟨m', hm, rfl, hf⟩
        by_cases he : s.block.key m' = s.block.key n
        case pos => exact .inr he
        case neg => exact .inl ⟨m', hm, rfl, fun ha => hf (Finset.mem_erase_of_ne_of_mem he ha)⟩
      case mpr =>
        rintro (⟨m', hm, rfl, hf⟩ | rfl)
        case inl => exact ⟨m', hm, rfl, fun ha => hf (Finset.mem_of_mem_erase ha)⟩
        case inr => exact ⟨n, hn, rfl, Finset.notMem_erase _ _⟩
    case granted =>
      have hx' : (if n < m then some n else s.block.next) ≠ none := by
        split
        case isTrue => exact Option.some_ne_none n
        case isFalse => simp [hx]
      rw [Block.granted_iff v' hr hx', Block.granted_iff v.valid v.regular (by simp [hx]), hk]
      show s.block.contains ip' = true ∧ ipString ip' ∉ s.block.allocated.erase (s.block.key n) ↔ _
      rw [Finset.mem_erase, not_and_or, not_not, and_or_left, or_comm]
      exact or_congr_right (and_iff_right_of_imp (Block.contains_of_key hn))

theorem releases_iff_not_exhausted (hb : newBlock net cidr start stop = .ok b) (hr : b.Regular)
    (e : Execution TracedBlock.step (new b) as s) (ho : Along TracedBlock.step Orderly (new b) as) :
    s.Releases ip ↔ (ipString ip ∈ s.held → ∃ n ∈ s.block, s.block.key n ∉ s.held) := by
  have v := e.preserves_along Valid.step (.new hb hr) ho
  by_cases hh : ipString ip ∈ s.held
  case neg => exact iff_of_true ⟨(absurd · hh), fun _ => v.putBack_unused hh⟩ (absurd · hh)
  case pos =>
    obtain ⟨n, hn, hk, ha⟩ := v.mem_held hh
    cases hx : s.block.next
    case none =>
      refine iff_of_false (fun h => ?_) fun h => ?_
      case refine_1 =>
        obtain ⟨b', hp, -⟩ := h.outstanding hh
        cases (Block.putBack_none hn hk ha hx).symm.trans hp
      case refine_2 =>
        obtain ⟨m, hm, hf⟩ := h hh
        exact hf (v.next_eq_none_iff.mp hx m hm)
    case some m =>
      refine iff_of_true (v.putBack hn hk ha hx) fun _ => ⟨m, (v.valid.next hx).left, ?_⟩
      exact v.held ▸ (v.valid.next hx).right

theorem releases_iff_not_exhausted_partly :
    ∃ b s, newBlock IPAddressManager.rawTexts [10, 0, 0, 0, 29] [] [] = .ok b ∧
      Execution TracedBlock.step (new b) [.allocate none] s ∧ ipString [10, 0, 0, 1] ∈ s.held ∧
      (s.Releases [10, 0, 0, 1] ↔
        (ipString [10, 0, 0, 1] ∈ s.held → ∃ n ∈ s.block, s.block.key n ∉ s.held)) := by
  obtain ⟨b, s, hb, e, hh, hr⟩ : ∃ b s, newBlock IPAddressManager.rawTexts [10, 0, 0, 0, 29] [] [] = .ok b ∧
      Execution TracedBlock.step (new b) [.allocate none] s ∧ ipString [10, 0, 0, 1] ∈ s.held ∧ b.Regular :=
    ⟨_, _, rfl, .of_foldlM rfl, by decide, Block.regular_of_lt rfl (by decide)⟩
  exact ⟨b, s, hb, e, hh, releases_iff_not_exhausted hb hr e ⟨by simp [Orderly], fun _ _ => trivial⟩⟩

theorem not_releases_exhausted :
    ∃ b s, newBlock IPAddressManager.rawTexts [10, 0, 0, 1, 32] [] [] = .ok b ∧
      Execution TracedBlock.step (new b) [.allocate none] s ∧ ipString [10, 0, 0, 1] ∈ s.held ∧
      s.block.putBack [10, 0, 0, 1] = .error .nilDereference ∧ ¬s.Releases [10, 0, 0, 1] := by
  obtain ⟨b, s, hb, e, hh, hp⟩ : ∃ b s, newBlock IPAddressManager.rawTexts [10, 0, 0, 1, 32] [] [] = .ok b ∧
      Execution TracedBlock.step (new b) [.allocate none] s ∧ ipString [10, 0, 0, 1] ∈ s.held ∧
      s.block.putBack [10, 0, 0, 1] = .error .nilDereference :=
    ⟨_, _, rfl, .of_foldlM rfl, by decide, rfl⟩
  refine ⟨b, s, hb, e, hh, hp, fun h => ?_⟩
  obtain ⟨b', hp', -⟩ := h.outstanding hh
  cases hp.symm.trans hp'

def free (s : TracedBlock) : Set Nat :=
  { n | n ∈ s.block ∧ s.block.key n ∉ s.held }

structure LowestFree (s : TracedBlock) : Prop where
  first : ∀ n, IsLeast s.free n →
    ∃ b', s.block.allocate none = .ok (b', .ok ⟨intToIP n s.block.mask.bits, s.block.mask⟩)
  full : s.free = ∅ → ∃ text, s.block.allocate none = .ok (s.block, .error text)
  granted : ∀ ip n, n ∈ s.free → ipString ip = s.block.key n → s.block.Granted ip
  refused : ∀ ip, (∀ n ∈ s.free, ipString ip ≠ s.block.key n) →
    ∃ text, s.block.allocate (some ip) = .ok (s.block, .error text)
  next_none : s.block.next = none ↔ s.free = ∅
  next_some : ∀ n, s.block.next = some n ↔ IsLeast s.free n

theorem Valid.free_eq_empty_iff (v : Valid b s) : s.block.next = none ↔ s.free = ∅ := by
  rw [v.next_eq_none_iff, Set.eq_empty_iff_forall_notMem]
  exact forall_congr' fun n => by simp [free]

theorem Valid.isLeast_iff (v : Valid b s) : s.block.next = some n ↔ IsLeast s.free n := by
  have hl {k : Nat} (hx : s.block.next = some k) : IsLeast s.free k := by
    obtain ⟨hk, hf⟩ := v.valid.next hx
    refine ⟨⟨hk, v.held ▸ hf⟩, fun m hm => ?_⟩
    obtain ⟨k', hx', hle⟩ := v.valid.next_le hm.left (v.held ▸ hm.right)
    cases hx.symm.trans hx'
    exact hle
  constructor
  case mp => exact hl
  case mpr =>
    intro hn
    cases hx : s.block.next
    case none => exact absurd hn.left (v.free_eq_empty_iff.mp hx ▸ Set.notMem_empty n)
    case some k => rw [(hl hx).unique hn]

theorem Valid.lowestFree (v : Valid b s) (hk : ∀ ip, s.block.Known ip) : s.LowestFree where
  next_none := v.free_eq_empty_iff
  next_some := fun _ => v.isLeast_iff
  first n hn := by
    have hx := v.isLeast_iff.mpr hn
    obtain ⟨r, -, ha⟩ := Block.allocate_nil_some v.regular hn.left.left hx
    exact ⟨_, ha⟩
  full he := ⟨_, Block.allocate_nil_none (v.free_eq_empty_iff.mpr he)⟩
  granted ip n hn hi := by
    obtain ⟨r, -, ha⟩ := Block.allocate_free v.valid v.regular hn.left hi (v.held ▸ hn.right)
    exact ⟨_, ha⟩
  refused ip hn := v.refused (hk ip) fun n hm hi => by_contra fun hf => hn n ⟨hm, hf⟩ hi

theorem Valid.progress (v : Valid b s) (ho : s.Orderly (.allocate ipReq)) :
    ∃ s', s.step (.allocate ipReq) = some s' ∧ Valid b s' := by
  have hs : ∃ s', s.step (.allocate ipReq) = some s' := by
    rw [TracedBlock.step]
    cases v.allocate ho
    case inl ha => obtain ⟨n, r, ret, -, -, -, -, ha⟩ := ha; rw [ha]; exact ⟨_, rfl⟩
    case inr ha => obtain ⟨text, ha⟩ := ha; rw [ha]; exact ⟨_, rfl⟩
  obtain ⟨s', hs⟩ := hs
  exact ⟨s', hs, v.step ho hs⟩

theorem interior (hb : newBlock net cidr start stop = .ok b) (h₄ : b.mask.bits = ipv4Bits)
    (h₃₀ : b.mask.ones ≤ 30) : b.startInt ≠ 0 ∧ b.Regular := by
  obtain ⟨n, h⟩ := Built.of_newBlock hb
  have hm := h.mask
  have hn : n.bits = 32 := by rw [hm] at h₄; exact h₄
  have hn' : n.ones ≤ 30 := by rw [hm] at h₃₀; exact h₃₀
  obtain ⟨h₁, h₂⟩ := h.interior (by omega)
  have hl := CIDR.last_lt (n := n)
  have := h.inside
  rw [hn] at hl
  exact ⟨by omega, Block.regular_of_lt h₄ (by omega)⟩

theorem Valid.known (v : Valid b s) (h₀ : b.startInt ≠ 0) : s.block.Known ip :=
  .inr fun h => h₀ <| (congrArg Prod.fst v.shape).symm.trans h

theorem lowest_free (hb : newBlock net cidr start stop = .ok b) (h₄ : b.mask.bits = ipv4Bits)
    (h₃₀ : b.mask.ones ≤ 30) (reqs : List (Option Bytes)) :
    ∃ s, Execution TracedBlock.step (new b) (reqs.map .allocate) s ∧ s.LowestFree := by
  obtain ⟨h₀, hr⟩ := interior hb h₄ h₃₀
  have hp : ∃ s, Execution TracedBlock.step (new b) (reqs.map .allocate) s ∧ Valid b s := by
    refine Execution.progress (I := fun _ s => Valid b s) (fun {pre a s} ha v => ?_) (.new hb hr)
    obtain ⟨ipReq, -, rfl⟩ := List.mem_map.mp (ha.subset List.mem_concat_self)
    exact v.progress fun _ _ => v.known h₀
  obtain ⟨s, e, v⟩ := hp
  exact ⟨s, e, v.lowestFree fun _ => v.known h₀⟩

theorem lowest_free_requested :
    ∃ b s, newBlock IPAddressManager.rawTexts [10, 0, 0, 0, 29] [] [] = .ok b ∧
      Execution TracedBlock.step (new b) [.allocate (some [10, 0, 0, 1]), .allocate none] s ∧
      s.LowestFree := by
  obtain ⟨b, hb, h₄, h₃₀⟩ : ∃ b, newBlock IPAddressManager.rawTexts [10, 0, 0, 0, 29] [] [] = .ok b ∧
      b.mask.bits = ipv4Bits ∧ b.mask.ones ≤ 30 :=
    ⟨_, rfl, rfl, by decide⟩
  obtain ⟨s, e, h⟩ := lowest_free hb h₄ h₃₀ [some [10, 0, 0, 1], none]
  exact ⟨b, s, hb, e, h⟩

end TracedBlock
end Aranya.IPAM
