/-!
# Double-precision numbers in exact arithmetic

A finite double is a mantissa times a power of two. `decode` takes a double apart, and `nearest`
gives the double nearest to a quotient of natural numbers; half-way cases go to the even mantissa.
-/

namespace SealedPost.Binary64

/-! ### Taking a double apart -/

/-- What a double is. -/
inductive Kind where
  | finite (negative : Bool) (mantissa : Nat) (exponent : Int)
  | infinite (negative : Bool)
  | notANumber
  deriving DecidableEq, Repr

/-- The exponent of the smallest doubles. -/
def minExponent : Int := -1074

/-- The high bit of a mantissa. The smallest doubles lack it; the others have it unwritten. -/
def highBit : Nat := 1 <<< 52

def decode (x : Float) : Kind :=
  let bits := x.toBits.toNat
  let negative := bits.testBit 63
  let field : Nat := (bits >>> 52) % 2048
  let fraction : Nat := bits % highBit
  if field = 2047 then (if fraction = 0 then .infinite negative else .notANumber)
  else if field = 0 then .finite negative fraction minExponent
  else .finite negative (highBit + fraction) ((field : Int) - 1075)

/-! ### The nearest double -/

/-- The quotient with a power of two moved to its other side. -/
def scaled (num den : Nat) (e : Int) : Nat × Nat :=
  (num <<< (-e).toNat, den <<< e.toNat)

/-- A quotient to the nearest whole number, half-way cases to the even one. -/
def roundQuotient (num den : Nat) : Nat :=
  let q := num / den
  let twice := 2 * (num % den)
  if den < twice || (twice == den && q % 2 == 1) then q + 1 else q

/-- The bits of infinity, its sign left out. -/
def infinityBits : Nat := 2047 * highBit

/-- The bits of the double nearest to a positive quotient, its sign left out. -/
def nearestBits (num den : Nat) : Nat :=
  let guess : Int := max minExponent ((num.log2 : Int) - den.log2 - 53)
  let (n, d) := scaled num den guess
  let e := if 2 * highBit ≤ n / d then guess + 1 else guess
  let (n, d) := scaled num den e
  min ((e - minExponent).toNat * highBit + roundQuotient n d) infinityBits

/-- The double with the given bits after its sign. -/
def withSign (negative : Bool) (bits : Nat) : Float :=
  Float.ofBits (UInt64.ofNat (if negative then (1 <<< 63) + bits else bits))

/-- The double beyond all finite ones on its side. -/
def infinity (negative : Bool) : Float := withSign negative infinityBits

/-- The double nearest to a quotient. -/
def nearest (negative : Bool) (num den : Nat) : Float :=
  withSign negative (if num = 0 then 0 else nearestBits num den)

/-- The double nearest to a whole number; none where that is beyond all finite doubles. -/
def ofInt? (n : Int) : Option Float :=
  if nearestBits n.natAbs 1 < infinityBits then some (nearest (n < 0) n.natAbs 1) else none

end SealedPost.Binary64
