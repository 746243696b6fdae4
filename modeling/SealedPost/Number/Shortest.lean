import SealedPost.Number.Binary64

/-!
# The shortest decimal that reads back

All decimals between the half-way points to the neighbours of a double read back as that double;
the half-way points themselves do if its mantissa is even. On the grid of one, two, … seventeen
digits the two points next to the double are tried, and the first grid with a hit is taken, with
the nearer of two hits.
-/

namespace SealedPost.Shortest

/-- The number `digits * 10 ^ exponent`. -/
structure Decimal where
  digits : Nat
  exponent : Int
  deriving DecidableEq, Repr

/-- Compares `a * 10 ^ x` with `b * 2 ^ q`. -/
def compareScaled (a : Nat) (x : Int) (b : Nat) (q : Int) : Ordering :=
  compare ((a * Nat.pow 10 x.toNat) <<< (-q).toNat) ((b * Nat.pow 10 (-x).toNat) <<< q.toNat)

/-- The exponent of the first decimal digit of `m * 2 ^ q`. -/
def leadingExponent (m : Nat) (q : Int) : Int :=
  let guess := ((m.log2 : Int) + q) * 30103 / 100000
  if compareScaled 1 guess m q == .gt then guess - 1
  else if compareScaled 1 (guess + 1) m q == .gt then guess
  else guess + 1

/-- Does `c * 10 ^ x` read back as `m * 2 ^ q`? Quarters of the last place are whole here. -/
def readsBack (m : Nat) (q : Int) (c : Nat) (x : Int) : Bool :=
  let below := if m = Binary64.highBit && Binary64.minExponent < q then 4 * m - 1 else 4 * m - 2
  let low := compareScaled c x below (q - 2)
  let high := compareScaled c x (4 * m + 2) (q - 2)
  if m % 2 = 0 then low != .lt && high != .gt else low == .gt && high == .lt

/-- The point of the grid `10 ^ x` that reads back as `m * 2 ^ q` and is nearest to it. -/
def onGrid (m : Nat) (q : Int) (x : Int) : Option Nat :=
  let c := ((m * Nat.pow 10 (-x).toNat) <<< q.toNat) / (Nat.pow 10 x.toNat <<< (-q).toNat)
  match readsBack m q c x, readsBack m q (c + 1) x with
  | true,  false => some c
  | false, true  => some (c + 1)
  | false, false => none
  | true,  true  =>
    match compareScaled (2 * c + 1) x (2 * m) q with
    | .lt => some (c + 1)
    | .gt => some c
    | .eq => some (if c % 2 = 0 then c else c + 1)

/-- Drops at most `fuel` zeros at the end of the digits. -/
def dropZeros : Nat → Decimal → Decimal
  | 0,        d => d
  | fuel + 1, d =>
    if d.digits % 10 = 0 then dropZeros fuel ⟨d.digits / 10, d.exponent + 1⟩ else d

/-- The shortest decimal that reads back as the positive double `m * 2 ^ q`. -/
def ofDouble (m : Nat) (q : Int) : Decimal :=
  let first := leadingExponent m q
  let hit := (List.range 17).findSome? fun (n : Nat) =>
    (onGrid m q (first - n)).map fun digits => ⟨digits, first - n⟩
  dropZeros 17 (hit.getD ⟨m, q⟩)

end SealedPost.Shortest
