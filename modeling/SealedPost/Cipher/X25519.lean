import SealedPost.Cipher.Salsa20

/-!
# Key agreement on Curve25519

Points are carried by their first coordinate alone, as fractions over the prime field. A ladder
over the bits of the scalar keeps two multiples that differ by the point. A point of low order has
no agreement: every scalar takes it to zero.
-/

namespace SealedPost.X25519

/-- The prime of the field. -/
def prime : Nat := Nat.pow 2 255 - 19

-- The zero is named, for it is the one that numerals in `Fin` are about.
instance : @NeZero Nat Zero.ofOfNat0 prime := ⟨Nat.succ_ne_zero _⟩

abbrev Field := Fin prime

/-- The bits of a number below `2 ^ 255`, high bit first. -/
def bits (n : Nat) : List Bool := (List.range 255).reverse.map n.testBit

/-- A power in the field, by squaring. -/
def power (x : Field) (n : Nat) : Field :=
  (bits n).foldl (fun acc bit => if bit then acc * acc * x else acc * acc) 1

/-- A first coordinate as a fraction. -/
structure Fraction where
  x : Field
  z : Field

/-- Twice a point. -/
def Fraction.double (p : Fraction) : Fraction :=
  let s := (p.x + p.z) * (p.x + p.z)
  let d := (p.x - p.z) * (p.x - p.z)
  let e := s - d
  ⟨s * d, e * (s + 121665 * e)⟩

/-- The sum of two points whose difference has the first coordinate `u`. -/
def Fraction.add (u : Field) (p q : Fraction) : Fraction :=
  let m := (q.x - q.z) * (p.x + p.z)
  let n := (q.x + q.z) * (p.x - p.z)
  ⟨(m + n) * (m + n), u * ((m - n) * (m - n))⟩

/-- One step of the ladder: of the multiples `k` and `k + 1` it keeps `2k` and `2k + 1`, or
`2k + 1` and `2k + 2`. -/
def step (u : Field) (pq : Fraction × Fraction) (bit : Bool) : Fraction × Fraction :=
  let (p, q) := pq
  if bit then (.add u p q, q.double) else (p.double, .add u p q)

/-- The scalar of a private key: a multiple of eight, with its high bit set. -/
def scalar (key : Bytes) : Nat :=
  let n := Bytes.toNatLE key % Nat.pow 2 255
  let high := Nat.pow 2 254
  n - n % 8 + (if n < high then high else 0)

/-- The first coordinate that a public key spells; its last bit is not looked at. -/
def coordinate (key : Bytes) : Field := Fin.ofNat prime (Bytes.toNatLE key % Nat.pow 2 255)

/-- The multiple of a point by a private key, as 32 octets. -/
def multiply (privateKey point : Bytes) : Bytes :=
  let u := coordinate point
  let p := ((bits (scalar privateKey)).foldl (step u) (⟨1, 0⟩, ⟨u, 1⟩)).1
  Bytes.ofNatLE 32 (p.x * power p.z (prime - 2)).val

/-- The public key of a private key: its multiple of the base point. -/
def publicKey (privateKey : Bytes) : Bytes := multiply privateKey (Bytes.ofNatLE 32 9)

/-- The key that two parties share; none when the public key is a point of low order. -/
def agree? (privateKey publicKey : Bytes) : Option Bytes :=
  let shared := multiply privateKey publicKey
  if shared.all (· == 0) then none else some (Salsa20.derive shared (List.replicate 16 0))

@[simp] theorem length_multiply (privateKey point : Bytes) :
    (multiply privateKey point).length = 32 := by
  simp [multiply]

@[simp] theorem length_publicKey (privateKey : Bytes) : (publicKey privateKey).length = 32 := by
  simp [publicKey]

end SealedPost.X25519
