/-!
# Octet strings

Octets are kept in lists, so that every codec of the library is a function by recursion on its
input. Numbers are written with a fixed number of octets, the low one first (`LE`) or the high one
first (`BE`).
-/

namespace SealedPost

/-- A string of octets. -/
abbrev Bytes := List UInt8

namespace Bytes

/-! ### Numbers -/

/-- The lowest `k` octets of a number, low octet first. -/
def ofNatLE : Nat → Nat → Bytes
  | 0,     _ => []
  | k + 1, n => UInt8.ofNat n :: ofNatLE k (n / 256)

/-- The number that an octet string spells, low octet first. -/
def toNatLE : Bytes → Nat
  | []      => 0
  | b :: bs => b.toNat + 256 * toNatLE bs

/-- The lowest `k` octets of a number, high octet first. -/
def ofNatBE (k n : Nat) : Bytes := (ofNatLE k n).reverse

/-- The number that an octet string spells, high octet first. -/
def toNatBE (bs : Bytes) : Nat := toNatLE bs.reverse

@[simp] theorem length_ofNatLE (k n : Nat) : (ofNatLE k n).length = k := by
  induction k generalizing n with
  | zero => rfl
  | succ k ih => simp [ofNatLE, ih]

@[simp] theorem length_ofNatBE (k n : Nat) : (ofNatBE k n).length = k := by
  simp [ofNatBE]

/-! ### Pieces -/

/-- At most `count` pieces of `size` octets from the front; the last piece may be shorter. -/
def pieces (size : Nat) : Nat → Bytes → List Bytes
  | 0,         _  => []
  | _ + 1,     [] => []
  | count + 1, bs => bs.take size :: pieces size count (bs.drop size)

/-- An octet string cut into pieces of `size` octets; the last piece may be shorter. -/
def blocks (size : Nat) (bs : Bytes) : List Bytes := pieces size bs.length bs

/-- Octet by octet exclusive or, as long as the shorter argument. -/
def xor (as bs : Bytes) : Bytes := List.zipWith (· ^^^ ·) as bs

@[simp] theorem length_xor (as bs : Bytes) : (xor as bs).length = min as.length bs.length := by
  simp [xor]

end Bytes

end SealedPost
