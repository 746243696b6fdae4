import SealedPost.Number.Real

/-!
# Quantities

A quantity, such as a time in seconds, is a whole number or a double. Whole numbers are added
exactly, and a sum with a double is a double; it does not exist where a whole number in it is beyond
all doubles. Comparison is exact whatever the kinds.
-/

namespace SealedPost

/-! ### Sums that need not exist -/

/-- A sum that need not exist. Where every two numbers have a sum, that sum is the partial one
too. -/
class PartialAdd (τ : Type) where
  add? : τ → τ → Option τ

export PartialAdd (add?)

instance (priority := low) {τ : Type} [Add τ] : PartialAdd τ := ⟨fun x y => some (x + y)⟩

theorem add?_eq_some {τ : Type} [Add τ] (x y : τ) : add? x y = some (x + y) := rfl

/-! ### Whole numbers and doubles -/

inductive Quantity where
  | whole (n : Int)
  | real (x : Float)

namespace Quantity

instance (n : Nat) : OfNat Quantity n := ⟨.whole n⟩

/-- The double nearest to a quantity; none where a whole number is beyond all doubles. -/
def toFloat? : Quantity → Option Float
  | .whole n => Binary64.ofInt? n
  | .real x  => some x

instance : PartialAdd Quantity where
  add?
    | .whole m, .whole n => some (.whole (m + n))
    | x,        y        => do pure (.real ((← x.toFloat?) + (← y.toFloat?)))

/-- A quantity taken apart. -/
def kind : Quantity → Binary64.Kind
  | .whole n => .finite (n < 0) n.natAbs 0
  | .real x  => Binary64.decode x

/-- A signed mantissa over the smaller of two exponents. -/
def mantissaOver (negative : Bool) (m : Nat) (q base : Int) : Int :=
  (if negative then -1 else 1) * (m <<< (q - base).toNat : Nat)

/-- Is the first quantity at most the second? -/
def le (x y : Quantity) : Bool :=
  match x.kind, y.kind with
  | .notANumber,     _               => false
  | _,               .notANumber     => false
  | .infinite true,  _               => true
  | _,               .infinite false => true
  | .infinite false, _               => false
  | _,               .infinite true  => false
  | .finite s m p,   .finite t n q   =>
    mantissaOver s m p (min p q) ≤ mantissaOver t n q (min p q)

instance : LE Quantity := ⟨fun x y => x.le y = true⟩

instance : DecidableLE Quantity := fun x y => inferInstanceAs (Decidable (x.le y = true))

/-- Is the quantity below zero? -/
def isNegative (x : Quantity) : Bool := x.le 0 && !(le 0 x)

/-- The text of a quantity; a whole number has no point. -/
def write : Quantity → String
  | .whole n => toString n
  | .real x  => Real.write x

end Quantity

end SealedPost
