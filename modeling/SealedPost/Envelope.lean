import SealedPost.Failure
import SealedPost.Text.Hex

/-!
# Envelopes

An envelope is a nonce of 24 octets and a box. It travels as octets, the nonce first, or as a pair
of hexadecimal texts.
-/

namespace SealedPost

/-- The octets in a nonce. -/
def nonceSize : Nat := 24

/-- The octets that a box has more than its text. -/
def tagSize : Nat := 16

/-- A sealed message. -/
structure Envelope where
  nonce : Bytes
  box : Bytes
  length_nonce : nonce.length = nonceSize
  deriving DecidableEq

namespace Envelope

/-- The envelope of a nonce and a box. -/
def ofParts (nonce box : Bytes) : Except Failure Envelope :=
  if h : nonce.length = nonceSize then .ok ⟨nonce, box, h⟩ else .error (.nonceLength nonce.length)

/-! ### As octets -/

def encode (e : Envelope) : Bytes := e.nonce ++ e.box

/-- The envelope that an octet string holds; there must be a nonce and a tag at least. -/
def decode (bs : Bytes) : Except Failure Envelope :=
  if nonceSize + tagSize ≤ bs.length then ofParts (bs.take nonceSize) (bs.drop nonceSize)
  else .error (.envelopeTooShort bs.length)

/-! ### As hexadecimal texts -/

/-- The texts of the nonce and the box. -/
def toHex (e : Envelope) : String × String := (Hex.encode e.nonce, Hex.encode e.box)

/-- The envelope that two texts spell; both are read before the nonce is measured. -/
def ofHex (nonce box : String) : Except Failure Envelope := do
  let nonce ← (Hex.decode nonce).mapError .envelopeNotHex
  let box ← (Hex.decode box).mapError .envelopeNotHex
  ofParts nonce box

end Envelope

end SealedPost
