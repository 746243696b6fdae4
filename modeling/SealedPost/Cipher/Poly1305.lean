import SealedPost.Bytes

/-!
# The Poly1305 tag

A text is read as the coefficients of a polynomial, sixteen octets at a time, and evaluated at a
secret point modulo a prime; the second half of the one-time key is added to the value.
-/

namespace SealedPost.Poly1305

/-- The prime that the polynomial is evaluated modulo. -/
def prime : Nat := Nat.pow 2 130 - 5

/-- The point of evaluation: some bits of the key's first half are cleared. -/
def point (key : Bytes) : Nat :=
  Bytes.toNatLE (key.take 16) &&& 0x0ffffffc0ffffffc0ffffffc0fffffff

/-- The coefficient of a piece: its octets with a one written after them. -/
def coefficient (piece : Bytes) : Nat := Bytes.toNatLE (piece ++ [1])

/-- The polynomial of a text at a point. -/
def evaluate (r : Nat) (text : Bytes) : Nat :=
  (Bytes.blocks 16 text).foldl (fun value piece => (value + coefficient piece) * r % prime) 0

/-- The 16-octet tag of a text under a 32-octet one-time key. -/
def tag (key text : Bytes) : Bytes :=
  Bytes.ofNatLE 16 (evaluate (point key) text + Bytes.toNatLE ((key.drop 16).take 16))

@[simp] theorem length_tag (key text : Bytes) : (tag key text).length = 16 := by
  simp [tag]

end SealedPost.Poly1305
