import SealedPost.Cipher.Poly1305
import SealedPost.Cipher.Salsa20

/-!
# Secret boxes

A secret box is the tag of a ciphertext followed by the ciphertext, which is the plaintext under
the keystream. The first 32 octets of the keystream are the one-time key of the tag.
-/

namespace SealedPost

/-- The 32-octet one-time key of the tag, and `length` octets of pad for the text. -/
def SecretBox.pads (key nonce : Bytes) (length : Nat) : Bytes × Bytes :=
  (Salsa20.keystream key nonce (32 + length)).splitAt 32

/-- Seals a plaintext under a 32-octet key and a 24-octet nonce. -/
def SecretBox.seal (key nonce plaintext : Bytes) : Bytes :=
  let (tagKey, pad) := pads key nonce plaintext.length
  let ciphertext := Bytes.xor plaintext pad
  Poly1305.tag tagKey ciphertext ++ ciphertext

/-- Opens a box; none when the box is too short for a tag or its tag is not that of its text. -/
def SecretBox.open? (key nonce box : Bytes) : Option Bytes :=
  if box.length < 16 then none
  else
    let ciphertext := box.drop 16
    let (tagKey, pad) := pads key nonce ciphertext.length
    if box.take 16 = Poly1305.tag tagKey ciphertext then some (Bytes.xor ciphertext pad) else none

end SealedPost
