import Aranya.VirtualNode.Manager

namespace Aranya.VirtualNode.Manager

open Std (ExtTreeMap)

variable {m m' : Manager} {a : Action} {as : List Action} {i j : Nat} {name : Bytes} {vn : VirtualNode}
    {r : Routine} {vn' : VirtualNode}

def Valid (m : Manager) : Prop :=
  ∀ (name : Bytes) i, m.nodes[name]? = some i → ∃ vn, m.vns i = some vn ∧ vn.name = name

def Spares (m : Manager) (a : Action) (m' : Manager) : Prop :=
  ∀ (name : Bytes) i, m.nodes[name]? = some i → a ≠ .delete name → a ≠ .forceClose i →
    (∀ r, a ≠ .exit i r) →
    m'.nodes[name]? = some i ∧ (m'.vns i).map closed = (m.vns i).map closed

-- When a goroutine ends, no other virtual node is registered under the name.
def Timely (m : Manager) (a : Action) : Prop :=
  ∀ i r vn j, a = .exit i r → m.vns i = some vn → m.nodes[vn.name]? = some j → j = i

theorem set_vns_self : (m.set i vn).vns i = some vn := by
  simp [set]

theorem set_vns_of_ne {vn : VirtualNode} (h : j ≠ i) : (m.set i vn).vns j = m.vns j := by
  simp [set, h]

theorem Valid.new : Valid new := by
  intro name i h
  simp [Manager.new] at h

theorem Valid.set (v : m.Valid) (h : ∀ vn, m.vns i = some vn → vn'.name = vn.name) : (m.set i vn').Valid := by
  intro name j hj
  have ⟨vn, hv, hn⟩ := v name j hj
  by_cases hi : j = i
  case pos => subst hi; exact ⟨vn', set_vns_self, (h vn hv).trans hn⟩
  case neg => exact ⟨vn, (set_vns_of_ne hi).trans hv, hn⟩

theorem Valid.add (v : m.Valid) (hv : m.vns i = some vn) (h : m.add i vn = .ok m') : m'.Valid := by
  simp only [Manager.add] at h
  split at h <;> cases h
  case h_2.refl hn =>
    intro name j hj
    rw [ExtTreeMap.getElem?_insert] at hj
    split at hj
    case isTrue he => cases hj; exact ⟨vn, hv, by simpa using he⟩
    case isFalse => exact v name j hj

theorem delete_getElem? {n : Bytes} : (m.delete name).nodes[n]? = if name = n then none else m.nodes[n]? := by
  simp only [delete]
  split
  case h_1 hn =>
    split
    case isTrue he => exact he ▸ hn
    case isFalse => rfl
  case h_2 => simp [ExtTreeMap.getElem?_erase]

theorem delete_vns (h : m.nodes[name]? ≠ some j) : (m.delete name).vns j = m.vns j := by
  simp only [delete]
  split
  case h_1 => rfl
  case h_2 i hi =>
    have hn : j ≠ i := fun he => h (he ▸ hi)
    simp [hn]

theorem delete_vns_name : ((m.delete name).vns j).map VirtualNode.name = (m.vns j).map VirtualNode.name := by
  simp only [delete]
  split
  case h_1 => rfl
  case h_2 i hi =>
    by_cases hn : j = i
    case pos => subst hn; cases hv : m.vns j <;> simp [forceClose]
    case neg => simp [hn]

theorem Valid.delete (v : m.Valid) : (m.delete name).Valid := by
  intro n j hj
  rw [delete_getElem?] at hj
  split at hj
  case isTrue => cases hj
  case isFalse =>
    have ⟨vn, hv, hn⟩ := v n j hj
    have h : ((m.delete name).vns j).map VirtualNode.name = some n := by
      rw [delete_vns_name, hv, ← hn]
      rfl
    simpa [Option.map_eq_some_iff] using h

theorem Valid.step (v : m.Valid) (h : m.step a = some m') : m'.Valid := by
  cases a <;> simp only [Manager.step] at h
  case create =>
    split at h <;> cases h
    case isFalse.refl hn => exact v.set fun vn hv => by simp [hv] at hn
  case add i =>
    have ⟨vn, hv, h⟩ := Option.map_eq_some_iff.mp h
    cases ha : m.add i vn <;> simp only [ha, Except.toOption, Option.getD] at h
    case error => exact h ▸ v
    case ok => exact h ▸ v.add hv ha
  case start i =>
    have ⟨vn, hv, h⟩ := Option.map_eq_some_iff.mp h
    refine h ▸ v.set fun vn' hv' => ?_
    cases hv ▸ hv'
    simp only [VirtualNode.start]
    split <;> rfl
  case delete => cases h; exact v.delete
  case forceClose i =>
    have ⟨vn, hv, h⟩ := Option.map_eq_some_iff.mp h
    exact h ▸ v.set fun vn' hv' => by cases hv ▸ hv'; rfl
  case exit i r =>
    split at h
    case h_1 => cases h
    case h_2 vn hv =>
      split at h <;> cases h
      case isTrue.refl =>
        have hs : (m.set i { vn with running := vn.running.erase r }).Valid :=
          v.set fun vn' hv' => by cases hv ▸ hv'; rfl
        exact hs.delete

theorem set_closed (h : ∀ vn, m.vns i = some vn → vn'.closed = vn.closed)
    (hj : m.vns j = some vn) : ((m.set i vn').vns j).map closed = (m.vns j).map closed := by
  by_cases hi : j = i
  case pos => subst hi; simp [set_vns_self, hj, h vn hj]
  case neg => rw [set_vns_of_ne hi]

theorem Valid.delete_spares {n : Bytes} (v : m.Valid) (hj : m.nodes[n]? = some j) (hn : name ≠ n) :
    (m.delete name).nodes[n]? = some j ∧ (m.delete name).vns j = m.vns j := by
  refine ⟨by rw [delete_getElem?, if_neg hn, hj], delete_vns fun hd => hn ?_⟩
  have ⟨vn₁, h₁, e₁⟩ := v n j hj
  have ⟨vn₂, h₂, e₂⟩ := v name j hd
  cases h₁ ▸ h₂
  exact e₂.symm.trans e₁

theorem spares_of_ne_exit (v : m.Valid) (ha : ∀ i r, a ≠ .exit i r) (h : m.step a = some m') :
    m.Spares a m' := by
  intro name j hj hd hf hx
  have ⟨vn', hv', hn'⟩ := v name j hj
  cases a <;> simp only [Manager.step] at h
  case exit i r => exact absurd rfl (ha i r)
  case create i _ _ =>
    split at h <;> cases h
    case isFalse.refl hn => exact ⟨hj, set_closed (fun vn hv => by simp [hv] at hn) hv'⟩
  case add i =>
    have ⟨vn, hv, h⟩ := Option.map_eq_some_iff.mp h
    subst h
    simp only [Manager.add]
    split
    case h_1 => exact ⟨hj, rfl⟩
    case h_2 hn =>
      refine ⟨?_, rfl⟩
      have hne : vn.name ≠ name := fun he => by simp [he, hj] at hn
      simpa [Except.toOption, ExtTreeMap.getElem?_insert, hne] using hj
  case start i =>
    have ⟨vn, hv, h⟩ := Option.map_eq_some_iff.mp h
    subst h
    refine ⟨hj, set_closed (fun vn₁ hv₁ => ?_) hv'⟩
    cases hv ▸ hv₁
    simp only [VirtualNode.start]
    split <;> rfl
  case delete n =>
    cases h
    have ⟨h₁, h₂⟩ := v.delete_spares hj fun he => hd (he ▸ rfl)
    exact ⟨h₁, by rw [h₂]⟩
  case forceClose i =>
    have ⟨vn, hv, h⟩ := Option.map_eq_some_iff.mp h
    subst h
    have hn : j ≠ i := fun he => hf (he ▸ rfl)
    exact ⟨hj, by rw [set_vns_of_ne hn]⟩

theorem exit_spares_iff (v : m.Valid) (hv : m.vns i = some vn) :
    m.Spares (.exit i r) (m.exit i vn r) ↔ ∀ j, m.nodes[vn.name]? = some j → j = i := by
  have hs : (m.set i { vn with running := vn.running.erase r }).Valid :=
    v.set fun vn' hv' => by cases hv ▸ hv'; rfl
  constructor
  case mp =>
    intro h j hj
    by_contra hn
    have ⟨h', _⟩ := h vn.name j hj nofun nofun fun r he => hn (Action.exit.inj he).left.symm
    rw [Manager.exit, delete_getElem?, if_pos rfl] at h'
    cases h'
  case mpr =>
    intro h name j hj _ _ hr
    have hn : vn.name ≠ name := by
      rintro rfl
      exact hr r (h j hj ▸ rfl)
    have ⟨vn', hv', _⟩ := v name j hj
    have ⟨h₁, h₂⟩ := hs.delete_spares hj hn
    refine ⟨h₁, ?_⟩
    rw [Manager.exit, h₂]
    exact set_closed (fun vn₁ hv₁ => by cases hv ▸ hv₁; rfl) hv'

theorem spares_iff_timely (v : m.Valid) (h : m.step a = some m') : m.Spares a m' ↔ m.Timely a := by
  by_cases ha : ∃ i r, a = .exit i r
  case neg =>
    have ha : ∀ i r, a ≠ .exit i r := fun i r he => ha ⟨i, r, he⟩
    exact iff_of_true (spares_of_ne_exit v ha h) fun i r _ _ he => absurd he (ha i r)
  case pos =>
    have ⟨i, r, ha⟩ := ha
    subst ha
    simp only [Manager.step] at h
    split at h
    case h_1 => cases h
    case h_2 vn hv =>
      split at h <;> cases h
      case isTrue.refl =>
        rw [exit_spares_iff v hv]
        constructor
        case mp =>
          rintro h i r vn' j ⟨⟩ hv' hj
          cases hv ▸ hv'
          exact h j hj
        case mpr => exact fun h j hj => h i r vn j rfl hv hj

-- In a run no step harms a registered virtual node iff every goroutine ends before another one is
-- registered under the name.
theorem replacement_iff_timely (e : Execution step new as m) :
    (∀ pre a m₁ m₂, pre ++ [a] <+: as → Execution step new pre m₁ → m₁.step a = some m₂ →
      m₁.Spares a m₂) ↔
    Along step Timely new as :=
  e.steps_iff_along (R := Spares) (J := Valid) (fun v _ h => v.step h) spares_iff_timely .new

theorem replacement_iff_timely_ended :
    let as : List Action := [.create 0 [1] false, .add 0, .start 0, .exit 0 .kubelet,
      .create 1 [1] false, .add 1]
    (∀ pre a m₁ m₂, pre ++ [a] <+: as → Execution step new pre m₁ → m₁.step a = some m₂ →
      m₁.Spares a m₂) ↔
    Along step Timely new as :=
  replacement_iff_timely <| .of_foldlM rfl

-- The controller replaces a virtual node, then a goroutine of the old one ends.
theorem not_spares_replaced :
    ∃ m m', Execution step new [.create 0 [1] false, .add 0, .start 0, .delete [1],
        .create 1 [1] false, .add 1, .start 1] m ∧
      m.nodes[([1] : Bytes)]? = some 1 ∧ m.step (.exit 0 .kubelet) = some m' ∧
      m'.nodes[([1] : Bytes)]? = none ∧ (m'.vns 1).map closed = some true ∧
      ¬m.Spares (.exit 0 .kubelet) m' := by
  refine ⟨_, _, .of_foldlM rfl, rfl, rfl, rfl, rfl, fun h => ?_⟩
  have ⟨h, _⟩ := h [1] 1 rfl nofun nofun nofun
  cases h

end Aranya.VirtualNode.Manager
