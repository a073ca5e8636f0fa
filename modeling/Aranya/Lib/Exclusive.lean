import Aranya.Lib.Frame

namespace Aranya

-- A value which is only read and written in a section that one at a time may enter.
structure Exclusive (σ : Type) where
  working : Bool
  val : σ

-- A program panics, or it waits for a section that is never left.
inductive Halt (ε : Type)
  | panic (e : ε)
  | spins
  deriving DecidableEq, Repr

variable {σ ε α : Type}

-- A section is not left when the program in it panics.
def doExclusive (f : ExceptT ε (StateM σ) α) : ExceptT (Halt ε) (StateM (Exclusive σ)) α :=
  fun x : Exclusive σ =>
    if x.working then
      (.error .spins, x)
    else
      match f.run x.val with
      | (.ok a, s) => (.ok a, ⟨false, s⟩)
      | (.error e, s) => (.error (.panic e), ⟨true, s⟩)

variable {f : ExceptT ε (StateM σ) α} {x x' : Exclusive σ} {s : σ} {a : α} {e : ε}

theorem doExclusive_of_working (h : x.working) : (doExclusive f).run x = (.error .spins, x) :=
  if_pos h

theorem doExclusive_of_ok (h : x.working = false) (hf : f.run x.val = (.ok a, s)) :
    (doExclusive f).run x = (.ok a, ⟨false, s⟩) := by
  show doExclusive f x = _
  simp only [doExclusive, h, hf, Bool.false_eq_true, if_false]

theorem doExclusive_of_error (h : x.working = false) (hf : f.run x.val = (.error e, s)) :
    (doExclusive f).run x = (.error (.panic e), ⟨true, s⟩) := by
  show doExclusive f x = _
  simp only [doExclusive, h, hf, Bool.false_eq_true, if_false]

theorem doExclusive_eq_ok (h : (doExclusive f).run x = (.ok a, x')) :
    x.working = false ∧ x'.working = false ∧ f.run x.val = (.ok a, x'.val) := by
  cases hw : x.working
  case true => cases (doExclusive_of_working hw).symm.trans h
  case false =>
    cases hf : f.run x.val
    case mk r s =>
      cases r
      case error e => cases (doExclusive_of_error hw hf).symm.trans h
      case ok b =>
        cases (doExclusive_of_ok hw hf).symm.trans h
        exact ⟨rfl, rfl, rfl⟩

-- From a free section, a program comes to its end iff it does not panic. Then the section is free again.
theorem doExclusive_proceeds_iff (h : x.working = false) :
    (∃ a x', (doExclusive f).run x = (.ok a, x') ∧ x'.working = false) ↔ ∃ a s, f.run x.val = (.ok a, s) := by
  constructor
  case mp =>
    rintro ⟨a, x', hr, -⟩
    exact ⟨a, x'.val, (doExclusive_eq_ok hr).right.right⟩
  case mpr =>
    rintro ⟨a, s, hf⟩
    exact ⟨a, ⟨false, s⟩, doExclusive_of_ok h hf, rfl⟩

end Aranya
