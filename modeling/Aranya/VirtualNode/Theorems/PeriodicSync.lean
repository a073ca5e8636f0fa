import Aranya.Connectivity.Theorems.Signals
import Aranya.VirtualNode.PeriodicSync

namespace Aranya.VirtualNode

def held (l : List (Bytes × Int)) (name : Bytes) : Nat :=
  l.countP (·.fst = name)

variable {l : List (Bytes × Int)} {x : Bytes × Int} {name : Bytes} {k : Nat}

theorem held_cons : held (x :: l) name = held l name + if x.fst = name then 1 else 0 := by
  simp [held, List.countP_cons]

theorem held_concat : held (l ++ [x]) name = held l name + if x.fst = name then 1 else 0 := by
  simp [held, List.countP_append, List.countP_cons]

theorem held_eraseIdx (h : l[k]? = some x) :
    held l name = held (l.eraseIdx k) name + if x.fst = name then 1 else 0 := by
  have ⟨hk, hx⟩ := List.getElem?_eq_some_iff.mp h
  have hp := List.getElem_cons_eraseIdx_perm hk
  rw [hx] at hp
  rw [← held_cons]
  exact (hp.countP_eq _).symm

theorem held_eraseP {key : Bytes} :
    held (l.eraseP (·.fst = key)) name = held l name - if key = name then 1 else 0 := by
  induction l
  case nil => simp [held]
  case cons x l hi =>
    by_cases hx : x.fst = key
    case pos =>
      rw [List.eraseP_cons_of_pos (by simpa using hx), held_cons, hx]
      split <;> omega
    case neg =>
      rw [List.eraseP_cons_of_neg (by simpa using hx), held_cons, held_cons, hi]
      by_cases hk : key = name
      case pos => simp [hk ▸ hx]
      case neg => simp [hk]

def OnlineCheck.Todo (check : OnlineCheck) (q : SyncQueue) : Prop :=
  match check with
  | .node _ | .pods _ => True
  | .offering _ os => q ∈ os.map Offer.queue
  | .idle | .failed => False

namespace PeriodicSync

variable {τ ρ : Type*} {f : TimedSessionFuncs τ} {sendData : ρ → Bytes → Bool → ρ × Option Bytes}
    {reject : RejectionReason → Bytes → ρ → ρ} {c : SyncConfig} {s s' : PeriodicSync τ ρ} {n n' : SyncNode τ ρ}
    {q : SyncQueue} {a : Action τ ρ} {as : List (Action τ ρ)} {m : Bytes} {p : SyncQueue}
    {xs : List (Bytes × Int)}

def pending (s : PeriodicSync τ ρ) (q : SyncQueue) (name : Bytes) : Nat :=
  held (s.queues q).data name

def total (s : PeriodicSync τ ρ) (q : SyncQueue) (name : Bytes) : Nat :=
  s.pending q name + held (s.expired q) name + held (s.syncing q) name

structure Shrinks (s s' : PeriodicSync τ ρ) : Prop where
  total : ∀ q name, s'.total q name ≤ s.total q name
  pending : ∀ q name, name ∈ (s.queues q).blackList → s'.pending q name ≤ s.pending q name

theorem Shrinks.refl : Shrinks s s where
  total _ _ := le_rfl
  pending _ _ _ := le_rfl

structure Bounded (s : PeriodicSync τ ρ) : Prop where
  total : ∀ q name, s.total q name ≤ 1
  settled : ∀ name n, s.nodes name = some n → n.settled = true → ∀ q,
    name ∈ (s.queues q).blackList ∧ s.pending q name = 0
  check : ∀ name n, s.nodes name = some n → ∀ q, n.check.Todo q → s.total q name = 0
  nodup : ∀ name n id os, s.nodes name = some n → n.check = .offering id os →
    (os.map Offer.queue).Nodup

theorem Bounded.new : (new : PeriodicSync τ ρ).Bounded where
  total _ _ := by simp [PeriodicSync.total, PeriodicSync.pending, PeriodicSync.new, GuardedQueue.new, held]
  settled _ _ h := nomatch h
  check _ _ h := nomatch h
  nodup _ _ _ _ h := nomatch h

theorem nodes_setNode : (s.setNode name n).nodes m = if m = name then some n else s.nodes m := by
  simp [setNode, Function.update_apply]

theorem Bounded.update (h : s.Bounded) (hs : s.Shrinks s')
    (hb : ∀ q m, m ≠ name → m ∈ (s.queues q).blackList → m ∈ (s'.queues q).blackList)
    (hw : n.settled = true → ∀ q, name ∈ (s'.queues q).blackList ∧ s'.pending q name = 0)
    (hc : ∀ q, n.check.Todo q → s'.total q name = 0)
    (hd : ∀ id os, n.check = .offering id os → (os.map Offer.queue).Nodup)
    (hn : s'.nodes = s.nodes) : (s'.setNode name n).Bounded where
  total q m := (hs.total q m).trans (h.total q m)
  settled m n' hm hx q := by
    rw [nodes_setNode] at hm
    split at hm
    case isTrue he => cases hm; exact he ▸ hw hx q
    case isFalse hne =>
      have ⟨h₁, h₂⟩ := h.settled m n' (hn ▸ hm) hx q
      exact ⟨hb q m hne h₁, Nat.le_zero.mp (h₂ ▸ hs.pending q m h₁)⟩
  check m n' hm q hx := by
    rw [nodes_setNode] at hm
    split at hm
    case isTrue he => cases hm; exact he ▸ hc q hx
    case isFalse => exact Nat.le_zero.mp (h.check m n' (hn ▸ hm) q hx ▸ hs.total q m)
  nodup m n' id os hm hx := by
    rw [nodes_setNode] at hm
    split at hm
    case isTrue => cases hm; exact hd id os hx
    case isFalse => exact h.nodup m n' id os (hn ▸ hm) hx

theorem Bounded.setNode (h : s.Bounded) (hn : s.nodes name = some n) (hs : n'.settled = n.settled)
    (hc : ∀ q, n'.check.Todo q → n.check.Todo q)
    (hd : ∀ id os, n'.check = .offering id os → (os.map Offer.queue).Nodup) : (s.setNode name n').Bounded :=
  h.update .refl (fun _ _ _ => id) (fun hx => h.settled name n hn (hs ▸ hx))
    (fun q hx => h.check name n hn q (hc q hx)) hd rfl

theorem Bounded.keepNode (h : s.Bounded) (hn : s.nodes name = some n) (hs : n'.settled = n.settled)
    (hc : n'.check = n.check) : (s.setNode name n').Bounded :=
  h.setNode hn hs (fun _ => hc ▸ id) (fun id os ho => h.nodup name n id os hn (hc ▸ ho))

theorem Bounded.move (h : s.Bounded) (hn : s'.nodes = s.nodes)
    (ho : ∀ p ≠ q, s'.queues p = s.queues p ∧ s'.expired p = s.expired p ∧ s'.syncing p = s.syncing p)
    (hb : (s'.queues q).blackList = (s.queues q).blackList)
    (hp : ∀ m, s'.pending q m ≤ s.pending q m) (ht : ∀ m, s'.total q m ≤ s.total q m) : s'.Bounded := by
  have ht' : ∀ p m, s'.total p m ≤ s.total p m := by
    intro p m
    by_cases hq : p = q
    case pos => exact hq ▸ ht m
    case neg => simp only [PeriodicSync.total, PeriodicSync.pending, ho p hq, le_refl]
  constructor
  case total => exact fun p m => (ht' p m).trans (h.total p m)
  case settled =>
    intro m n hm hx p
    have ⟨h₁, h₂⟩ := h.settled m n (hn ▸ hm) hx p
    by_cases hq : p = q
    case pos => subst hq; exact ⟨hb ▸ h₁, Nat.le_zero.mp (h₂ ▸ hp m)⟩
    case neg =>
      have ho := (ho p hq).left
      exact ⟨ho ▸ h₁, by rw [PeriodicSync.pending, ho]; exact h₂⟩
  case check => exact fun m n hm p hx => Nat.le_zero.mp (h.check m n (hn ▸ hm) p hx ▸ ht' p m)
  case nodup => exact fun m n id os hm => h.nodup m n id os (hn ▸ hm)

theorem pending_disableAll : (s.disableAll name).pending q m = s.pending q m - if name = m then 1 else 0 :=
  held_eraseP

theorem shrinks_disableAll : s.Shrinks (s.disableAll name) where
  pending q m _ := by rw [pending_disableAll]; omega
  total q m := by
    have h : (s.disableAll name).pending q m ≤ s.pending q m := by rw [pending_disableAll]; omega
    exact Nat.add_le_add_right (Nat.add_le_add_right h _) _

theorem Bounded.disableAll (h : s.Bounded) (hc : ∀ q, n.check.Todo q → s.total q name = 0)
    (hd : ∀ id os, n.check = .offering id os → (os.map Offer.queue).Nodup) :
    ((s.disableAll name).setNode name n).Bounded := by
  refine h.update shrinks_disableAll ?_ (fun _ q => ⟨?_, ?_⟩) ?_ hd rfl
  case refine_1 => exact fun q m _ hm => Finset.mem_insert_of_mem hm
  case refine_2 => exact Finset.mem_insert_self name _
  case refine_3 =>
    have := h.total q name
    rw [pending_disableAll, if_pos rfl]
    simp only [PeriodicSync.total] at this
    omega
  case refine_4 => exact fun q hx => Nat.le_zero.mp (hc q hx ▸ shrinks_disableAll.total q name)

theorem queues_setQueue {x : GuardedQueue Bytes Int} :
    (s.setQueue q x).queues p = if p = q then x else s.queues p := by
  simp [setQueue, Function.update_apply]

theorem pending_disable :
    (s.disable name q).pending p m = s.pending p m - if p = q ∧ name = m then 1 else 0 := by
  simp only [PeriodicSync.pending, disable, queues_setQueue]
  by_cases hp : p = q
  case pos =>
    simp only [hp, if_true, true_and]
    exact held_eraseP
  case neg => simp [hp]

theorem shrinks_disable : s.Shrinks (s.disable name q) where
  pending p m _ := by rw [pending_disable]; omega
  total p m := by
    have h : (s.disable name q).pending p m ≤ s.pending p m := by rw [pending_disable]; omega
    exact Nat.add_le_add_right (Nat.add_le_add_right h _) _

theorem mem_blackList_disable (h : m ∈ (s.queues p).blackList) :
    m ∈ ((s.disable name q).queues p).blackList := by
  simp only [disable, queues_setQueue]
  split
  case isTrue hp => exact Finset.mem_insert_of_mem (hp ▸ h)
  case isFalse => exact h

section Offer

variable {x : GuardedQueue Bytes Int} {val : Int}

theorem offerWithDelay_eq_some (h : (s.queues q).offerWithDelay name val = some x) :
    name ∉ (s.queues q).blackList ∧ x.blackList = (s.queues q).blackList ∧
    x.data = (name, val) :: (s.queues q).data := by
  simp only [GuardedQueue.offerWithDelay] at h
  split at h
  case isTrue => cases h
  case isFalse hb =>
    cases h
    exact ⟨hb, rfl, rfl⟩

theorem pending_offer {p : SyncQueue} {m : Bytes}
    (h : (s.queues q).offerWithDelay name val = some x) :
    (s.setQueue q x).pending p m = s.pending p m + if p = q ∧ name = m then 1 else 0 := by
  have ⟨_, _, hx⟩ := offerWithDelay_eq_some h
  simp only [PeriodicSync.pending, queues_setQueue]
  by_cases hp : p = q
  case pos => simp [hp, hx, held_cons]
  case neg => simp [hp]

theorem total_offer {p : SyncQueue} {m : Bytes}
    (h : (s.queues q).offerWithDelay name val = some x) :
    (s.setQueue q x).total p m = s.total p m + if p = q ∧ name = m then 1 else 0 := by
  have := pending_offer (p := p) (m := m) h
  simp only [PeriodicSync.total, setQueue] at this ⊢
  omega

theorem Bounded.offer (h : s.Bounded) (hx : (s.queues q).offerWithDelay name val = some x)
    (ht : s.total q name = 0) (hc : ∀ n, s.nodes name = some n → ¬n.check.Todo q) :
    (s.setQueue q x).Bounded where
  total p m := by
    rw [total_offer hx]
    split
    case isTrue hm => rw [hm.left, ← hm.right, ht]
    case isFalse => exact h.total p m
  settled m n hm hw p := by
    have ⟨hb, he, _⟩ := offerWithDelay_eq_some hx
    have ⟨h₁, h₂⟩ := h.settled m n hm hw p
    have hne : ¬(p = q ∧ name = m) := by
      intro ⟨hp, hn⟩
      exact hb (hn ▸ hp ▸ h₁)
    rw [pending_offer hx, if_neg hne, queues_setQueue]
    split
    case isTrue hp => exact ⟨he ▸ hp ▸ h₁, h₂⟩
    case isFalse => exact ⟨h₁, h₂⟩
  check m n hm p ht := by
    have hne : ¬(p = q ∧ name = m) := by
      intro ⟨hp, hn⟩
      exact hc n (hn ▸ hm) (hp ▸ ht)
    rw [total_offer hx, if_neg hne]
    exact h.check m n hm p ht
  nodup m n id os hm := h.nodup m n id os hm

end Offer

theorem offers_nodup {b : Bool} : ((offers c name b).map Offer.queue).Nodup := by
  simp only [offers]
  split <;> split <;> split <;> simp

def Free (s : PeriodicSync τ ρ) : Action τ ρ → Prop
  | .node name (.online _) => ∀ q, s.total q name = 0
  | _ => True

theorem Bounded.online (h : s.Bounded) (hn : n.settled = false) (ht : ∀ q, s.total q name = 0)
    (hd : ∀ id os, n.check ≠ .offering id os) : ((s.doPerQueue (·.allow name)).setNode name n).Bounded := by
  have hs : s.Shrinks (s.doPerQueue (·.allow name)) := ⟨fun _ _ => le_rfl, fun _ _ _ => le_rfl⟩
  apply h.update hs
  case hb => exact fun q m hm hx => Finset.mem_erase_of_ne_of_mem hm hx
  case hw => exact fun hx => absurd hx (by simp [hn])
  case hc => exact fun q _ => ht q
  case hd => exact fun id os hx => absurd hx (hd id os)
  case hn => rfl

theorem disabled_spec (s : PeriodicSync τ ρ) (name : Bytes) (o : Option SyncQueue) :
    s.Shrinks (o.elim s (s.disable name)) ∧ (o.elim s (s.disable name)).nodes = s.nodes ∧
    (∀ q m, m ∈ (s.queues q).blackList → m ∈ ((o.elim s (s.disable name)).queues q).blackList) := by
  cases o
  case none => exact ⟨.refl, rfl, fun _ _ => id⟩
  case some q => exact ⟨shrinks_disable, rfl, fun _ _ => mem_blackList_disable⟩

theorem Bounded.setNode_disabled {o : Option SyncQueue} (h : s.Bounded)
    (hn : s.nodes name = some n) (hs : n'.settled = n.settled)
    (hc : ∀ q, n'.check.Todo q → n.check.Todo q)
    (hd : ∀ id os, n'.check = .offering id os → (os.map Offer.queue).Nodup) :
    ((o.elim s (s.disable name)).setNode name n').Bounded := by
  have ⟨h₁, h₂, h₃⟩ := disabled_spec s name o
  apply h.update h₁
  case hb => exact fun q m _ => h₃ q m
  case hw =>
    intro hx q
    have ⟨h₄, h₅⟩ := h.settled name n hn (hs ▸ hx) q
    exact ⟨h₃ q name h₄, Nat.le_zero.mp (h₅ ▸ h₁.pending q name h₄)⟩
  case hc => exact fun q hx => Nat.le_zero.mp (h.check name n hn q (hc q hx) ▸ h₁.total q name)
  case hd => exact hd
  case hn => exact h₂

theorem Bounded.offer_step {id : Bytes} {o : Offer} {os : List Offer} (h : s.Bounded)
    (hn : s.nodes name = some n) (hc : n.check = .offering id (o :: os)) :
    (s.offer reject name n id o os).Bounded := by
  have hd := h.nodup name n id _ hn hc
  have ht := h.check name n hn o.queue (by simp [hc, OnlineCheck.Todo])
  rw [List.map_cons, List.nodup_cons] at hd
  simp only [PeriodicSync.offer]
  split
  case h_1 => exact h.setNode_disabled hn rfl nofun nofun
  case h_2 x hx =>
    -- First the handler moves on to the remaining updates, then the one is added to its queue.
    let n' : SyncNode τ ρ := { n with check := .offering id os }
    have h' : ((o.disabled.elim s (s.disable name)).setNode name n').Bounded := by
      apply h.setNode_disabled hn
      case hs => rfl
      case hc => exact fun q hq => hc ▸ List.mem_cons_of_mem _ hq
      case hd => intro _ _ he; cases he; exact hd.right
    apply h'.offer hx
    case ht => exact Nat.le_zero.mp (ht ▸ (disabled_spec s name o.disabled).left.total o.queue name)
    case hc =>
      intro n'' hn'
      rw [nodes_setNode, if_pos rfl] at hn'
      cases hn'
      exact hd.left

theorem Bounded.nodeStep {b : NodeAction} (h : s.Bounded) (hn : s.nodes name = some n)
    (hf : s.Free (.node name b)) (hs : s.nodeStep f sendData reject c name n b = some s') : s'.Bounded := by
  cases b <;> simp only [PeriodicSync.nodeStep] at hs
  case online id =>
    split at hs <;> cases hs
    exact h.online rfl hf nofun
  case nodeSynced ok =>
    split at hs <;> cases hs
    case h_1 id hc =>
      cases ok
      case false => exact h.setNode hn rfl nofun nofun
      case true => exact h.setNode hn rfl (fun _ _ => hc ▸ trivial) nofun
  case podsSynced supportPod =>
    split at hs <;> cases hs
    case h_1 id hc =>
      cases supportPod
      case none => exact h.setNode hn rfl nofun nofun
      case some b =>
        have hd : ∀ id' os, OnlineCheck.offering id (offers c name b) = .offering id' os →
            (os.map Offer.queue).Nodup := by
          intro _ _ he
          cases he
          exact offers_nodup
        exact h.setNode hn rfl (fun _ _ => hc ▸ trivial) hd
  case offer =>
    split at hs <;> cases hs
    case h_1 id o os hc => exact h.offer_step hn hc
  case initialized =>
    split at hs <;> cases hs
    case h_1 => exact h.setNode hn rfl nofun nofun
  case abort =>
    split at hs <;> cases hs
    exact h.disableAll nofun nofun
  case offline deviceId now =>
    split at hs <;> cases hs
    exact h.keepNode hn rfl rfl
  case connected =>
    split at hs <;> cases hs
    exact h.keepNode hn rfl rfl
  case scheduled ok =>
    split at hs <;> cases hs
    cases ok <;> exact h.keepNode hn rfl rfl
  case disconnected =>
    split at hs
    case h_1 ch _ =>
      split at hs <;> cases hs
      exact h.disableAll (h.check name n hn) (h.nodup name n · · hn)
    case h_2 => cases hs
  case quit =>
    split at hs <;> cases hs
    case h_1 => exact h.keepNode hn rfl rfl
    case h_2 => exact h.disableAll (h.check name n hn) (h.nodup name n · · hn)
  case other call =>
    have ⟨_, _, hs⟩ := Option.map_eq_some_iff.mp hs
    cases hs
    exact h.keepNode hn rfl rfl

theorem Bounded.expire {key : Bytes} {val : Int} {x : TimeoutQueue Bytes Int} (h : s.Bounded)
    (hx : (s.queues q).expire k = some (key, val, x)) :
    Bounded { s with
      queues := Function.update s.queues q { s.queues q with toTimeoutQueue := x }
      expired := Function.update s.expired q (s.expired q ++ [(key, val)]) } := by
  have ⟨hk, hx⟩ := TimeoutQueue.expire_eq_some hx
  subst hx
  apply h.move (q := q)
  case hn => rfl
  case ho => simp +contextual
  case hb => simp
  case hp | ht =>
    intro m
    have : held _ m = _ + if key = m then 1 else 0 := held_eraseIdx hk
    simp only [PeriodicSync.total, PeriodicSync.pending, Function.update_self, held_concat]
    omega

theorem Bounded.drop (h : s.Bounded) (hx : s.expired q = x :: xs) :
    Bounded { s with expired := Function.update s.expired q xs } := by
  apply h.move (q := q)
  case hn => rfl
  case ho => simp +contextual
  case hb => rfl
  case hp => exact fun _ => le_rfl
  case ht =>
    intro m
    simp only [PeriodicSync.total, PeriodicSync.pending, Function.update_self, hx, held_cons]
    omega

theorem Bounded.take (h : s.Bounded) (hx : s.expired q = x :: xs) : (s.take q x xs).Bounded := by
  simp only [PeriodicSync.take]
  split
  case h_1 => exact h.drop hx
  case h_2 =>
    split
    case isFalse => exact h.drop hx
    case isTrue =>
      apply h.move (q := q)
      case hn => rfl
      case ho => simp +contextual
      case hb => rfl
      case hp => exact fun _ => le_rfl
      case ht =>
        intro m
        simp only [PeriodicSync.total, PeriodicSync.pending, Function.update_self, hx, held_cons]
        omega

theorem Bounded.synced {err : Option Bytes} (h : s.Bounded) (hx : (s.syncing q)[k]? = some x) :
    (s.synced reject c q x ((s.syncing q).eraseIdx k) err).Bounded := by
  have ht : ∀ m, s.total q m =
      PeriodicSync.total { s with syncing := Function.update s.syncing q ((s.syncing q).eraseIdx k) } q m +
        if x.fst = m then 1 else 0 := by
    intro m
    have : held _ m = _ := held_eraseIdx hx
    simp only [PeriodicSync.total, PeriodicSync.pending, Function.update_self]
    omega
  have h' : Bounded { s with syncing := Function.update s.syncing q ((s.syncing q).eraseIdx k) } := by
    apply h.move (q := q)
    case hn => rfl
    case ho => simp +contextual
    case hb => rfl
    case hp => exact fun _ => le_rfl
    case ht => exact fun m => (ht m).symm ▸ Nat.le_add_right ..
  -- The update was the only one in its queue, so its virtual node has none in the queue now.
  have hm := ht x.fst
  rw [if_pos rfl] at hm
  simp only [PeriodicSync.synced]
  split
  case h_1 =>
    split
    case h_1 => exact h'
    case h_2 n hn => exact h'.keepNode hn rfl rfl
  case h_2 =>
    split
    case h_1 => exact h'
    case h_2 y hy =>
      apply h'.offer hy
      case ht => have := h.total q x.fst; omega
      case hc =>
        intro n hn hc
        have := h.check x.fst n hn q hc
        omega

theorem Bounded.step (h : s.Bounded) (hf : s.Free a) (hs : s.step f sendData reject c a = some s') :
    s'.Bounded := by
  cases a <;> simp only [PeriodicSync.step] at hs
  case add name base net =>
    split at hs <;> cases hs
    exact h.disableAll nofun nofun
  case node name b =>
    split at hs
    case h_1 => cases hs
    case h_2 n hn => exact h.nodeStep hn hf hs
  case expire q k =>
    have ⟨_, hx, hs⟩ := Option.map_eq_some_iff.mp hs
    cases hs
    exact h.expire hx
  case take q =>
    split at hs
    case h_1 => cases hs
    case h_2 x xs hx =>
      split at hs <;> cases hs
      exact h.take hx
  case synced q k err =>
    have ⟨_, hx, hs⟩ := Option.map_eq_some_iff.mp hs
    cases hs
    exact h.synced hx

-- If online messages are handled while no update of their virtual node is left, there is at most one update
-- of it in each queue, and none is pending after it has been disconnected.
theorem periodic_sync (e : Execution (PeriodicSync.step f sendData reject c) new as s)
    (hf : Along (PeriodicSync.step f sendData reject c) Free new as) (q : SyncQueue) (name : Bytes) :
    s.total q name ≤ 1 ∧ ∀ n, s.nodes name = some n → n.settled = true → s.pending q name = 0 := by
  have h := e.preserves_along Bounded.step .new hf
  exact ⟨h.total q name, fun n hn hs => (h.settled name n hn hs q).right⟩

def mirrored : SyncConfig where
  leaseEnabled := false
  nodeUpdateInterval := 1
  leaseUpdateInterval := 1
  nodeForceSyncInterval _ := 0
  podForceSyncInterval _ := 0

def initialization (name deviceId : Bytes) : List (Action Unit Unit) :=
  [.node name (.online deviceId), .node name (.nodeSynced true), .node name (.podsSynced (some true)),
   .node name .offer, .node name .initialized]

abbrev mirroredStep : PeriodicSync Unit Unit → Action Unit Unit → Option (PeriodicSync Unit Unit) :=
  PeriodicSync.step .ignore (fun r _ _ => (r, none)) (fun _ _ r => r) mirrored

-- A device is online, and goes offline while its update is in flight.
theorem periodic_sync_offline :
    let as := .add [1] .grpc () :: initialization [1] [2] ++
      [.node [1] .connected, .node [1] (.scheduled true), .expire .mirrorUpdate 0, .take .mirrorUpdate,
       .node [1] (.offline [2] 0), .node [1] .disconnected, .synced .mirrorUpdate 0 none]
    ∃ s n, Execution mirroredStep new as s ∧ s.nodes [1] = some n ∧ n.settled = true ∧
      s.total .mirrorUpdate [1] ≤ 1 ∧ s.pending .mirrorUpdate [1] = 0 := by
  intro as
  have ⟨s, n, e, hn, hs⟩ : ∃ s n, Execution mirroredStep new as s ∧ s.nodes [1] = some n ∧
      n.settled = true :=
    ⟨_, _, .of_foldlM rfl, rfl, rfl⟩
  have hf : Along mirroredStep Free new as :=
    .cons trivial rfl <| .cons (fun q => rfl) rfl <| .cons trivial rfl <| .cons trivial rfl <|
      .cons trivial rfl <| .cons trivial rfl <| .cons trivial rfl <| .cons trivial rfl <|
      .cons trivial rfl <| .cons trivial rfl <| .cons trivial rfl <| .cons trivial rfl <|
      .cons trivial rfl trivial
  have ⟨h₁, h₂⟩ := periodic_sync e hf .mirrorUpdate [1]
  exact ⟨s, n, e, hn, hs, h₁, h₂ n hn hs⟩

-- There are two updates, one of which is still pending after both devices have been disconnected.
theorem not_bounded_second :
    ∃ s₁ s₂ n,
      Execution mirroredStep new
        (.add [1] .grpc () :: initialization [1] [2] ++ initialization [1] [3]) s₁ ∧
      s₁.pending .mirrorUpdate [1] = 2 ∧
      Execution mirroredStep s₁
        [.node [1] .connected, .node [1] (.scheduled true), .node [1] (.offline [2] 0),
         .node [1] (.offline [3] 0), .node [1] .disconnected] s₂ ∧
      s₂.nodes [1] = some n ∧ n.settled = true ∧ n.base.connectedDevices = ∅ ∧
      s₂.pending .mirrorUpdate [1] = 1 :=
  ⟨_, _, _, .of_foldlM rfl, rfl,
    .of_foldlM rfl, rfl, rfl, rfl, rfl⟩

end PeriodicSync
end Aranya.VirtualNode
