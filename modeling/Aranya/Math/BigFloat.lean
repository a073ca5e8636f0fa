import Aranya.Proto.Wire

namespace Aranya

-- Floating point numbers with infinities, and without anything that is not a number.
inductive BigFloat (F : Type)
  | inf (neg : Bool)
  | finite (x : F)
  deriving DecidableEq, Repr

inductive BigFloat.Fault
  | errNaN
  deriving DecidableEq, Inhabited, Repr

-- How finite numbers are parsed, printed and computed with is left open. Sums and rounded numbers can be
-- infinite.
structure BigFloats (F : Type) where
  zero : F
  addFinite : F → F → BigFloat F
  negFinite : F → BigFloat F
  parse : Bytes → Except Bytes (BigFloat F)
  text : BigFloat F → Bytes
  text_inf : ∀ neg, text (.inf neg) = if neg then str "-Inf" else str "+Inf"
  parse_text : ∀ neg, parse (text (.inf neg)) = .ok (.inf neg)

namespace BigFloats

variable {F : Type} (b : BigFloats F)

-- The sum of infinities of opposite sign is not a number.
def add : BigFloat F → BigFloat F → Except BigFloat.Fault (BigFloat F)
  | .inf neg, .inf neg' => if neg = neg' then .ok (.inf neg) else .error .errNaN
  | .inf neg, .finite _ => .ok (.inf neg)
  | .finite _, .inf neg => .ok (.inf neg)
  | .finite x, .finite y => .ok (b.addFinite x y)

def neg : BigFloat F → BigFloat F
  | .inf neg => .inf !neg
  | .finite x => b.negFinite x

variable {b} {x y : BigFloat F}

theorem add_panics_iff : (∃ e, b.add x y = .error e) ↔ ∃ n, x = .inf n ∧ y = .inf !n := by
  cases x
  case finite x => cases y <;> simp [add]
  case inf n =>
    cases y
    case finite y => simp [add]
    case inf n' => cases n <;> cases n' <;> simp [add]

-- Numbers without fractions, of which only those without sign are parsed.
def integers : BigFloats Int where
  zero := 0
  addFinite x y := .finite (x + y)
  negFinite x := .finite (-x)
  parse v :=
    if v = str "+Inf" then .ok (.inf false)
    else if v = str "-Inf" then .ok (.inf true)
    else if v ≠ [] ∧ v.all (fun c => 48 ≤ c ∧ c ≤ 57) then
      .ok (.finite (v.foldl (fun x c => 10 * x + (c.toNat - 48 : Nat)) 0))
    else .error (str "syntax error")
  text := fun
    | .inf neg => if neg then str "-Inf" else str "+Inf"
    | .finite x => str (toString x)
  text_inf _ := rfl
  parse_text neg := by cases neg <;> rfl

end BigFloats
end Aranya
