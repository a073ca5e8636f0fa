import Aranya.Conf.Virtualnode

namespace Aranya.EdgeDevice

inductive Write
  | patch
  | update
  | delete
  | create
  deriving DecidableEq, Repr

-- What the API server answers to them: `none` if a request is accepted.
abbrev Answers := Write → Option Kube.RequestError

def requestErrorText : Kube.RequestError → Bytes
  | .notFound => str "not found"
  | .conflict => str "conflict"
  | .other text => text

structure Texts where
  delete : Bytes
  create : Bytes

structure Ensured (α : Type) where
  stored : Option α
  writes : List Write
  err : Option Bytes

variable {α : Type} (texts : Texts) (a : Answers)

def createObject (writes : List Write) (object : α) : Ensured α :=
  match a .create with
  | none => ⟨some object, writes ++ [.create], none⟩
  | some e => ⟨none, writes ++ [.create], some (texts.create ++ requestErrorText e)⟩

-- An object that is not as it should be is changed by `how old`. If this fails without a conflict, it is
-- deleted and created anew.
def ensureObject (upToDate : α → Bool) (how : α → Write) (change : α → α) (object : α)
    (stored : Option α) : Ensured α :=
  match stored with
  | none => createObject texts a [] object
  | some old =>
    if upToDate old then
      ⟨some old, [], none⟩
    else
      match a (how old) with
      | none => ⟨some (change old), [how old], none⟩
      | some .conflict => ⟨some old, [how old], some (requestErrorText .conflict)⟩
      | some _ =>
        match a .delete with
        | none | some .notFound => createObject texts a [how old, .delete] object
        | some e =>
          ⟨some old, [how old, .delete], some (texts.delete ++ requestErrorText e)⟩

-- Why a call returns no error, and what is stored then.
inductive Outcome (upToDate : α → Bool) (how : α → Write) (change : α → α) (object : α)
    (stored : Option α) : Ensured α → Prop
  | kept {old} : stored = some old → upToDate old →
    Outcome upToDate how change object stored ⟨some old, [], none⟩
  | changed {old} : stored = some old → upToDate old = false → a (how old) = none →
    Outcome upToDate how change object stored ⟨some (change old), [how old], none⟩
  | created {writes} : (∀ old, stored = some old → upToDate old = false ∧ a (how old) ≠ none) →
    Outcome upToDate how change object stored ⟨some object, writes ++ [.create], none⟩

variable {texts a} {upToDate : α → Bool} {how : α → Write} {change : α → α} {object : α} {stored : Option α}
    {writes : List Write}

theorem createObject_eq (h : (createObject texts a writes object).err = none) :
    createObject texts a writes object = ⟨some object, writes ++ [.create], none⟩ := by
  simp only [createObject] at h ⊢
  split at h
  case h_1 => rfl
  case h_2 => cases h

theorem ensureObject_cases {e : Ensured α}
    (he : ensureObject texts a upToDate how change object stored = e) (h : e.err = none) :
    Outcome a upToDate how change object stored e := by
  subst he
  simp only [ensureObject] at h ⊢
  split at h
  case h_1 =>
    rw [createObject_eq h]
    exact .created nofun
  case h_2 old =>
    cases hu : upToDate old
    case true => exact .kept rfl hu
    case false =>
      rw [hu] at h
      simp only [Bool.false_eq_true, if_false] at h ⊢
      split at h
      case h_1 ha => exact .changed rfl hu ha
      case h_2 => cases h
      case h_3 ha =>
        split at h
        case h_1 | h_2 =>
          rw [createObject_eq h]
          refine .created fun old' ho => ?_
          cases ho
          exact ⟨hu, by simp [ha]⟩
        case h_3 => cases h

end Aranya.EdgeDevice
