import SealedPost.Cipher.Sha256
import SealedPost.Cipher.X25519
import SealedPost.RandomSource
import SealedPost.Text.Hex

/-!
# Keys and key pairs

Every key has 32 octets. A key pair is made from its two halves, from a private key alone, or from
a seed of 32 octets. Private keys are kept as they are given and are never shown.
-/

namespace SealedPost

/-! ### Single keys -/

namespace Key

/-- The octets in all keys, public, private and symmetric. -/
def size : Nat := 32

/-- The octets that material consists of, if it has the length that a key of this name must
have. No key has a negative length. -/
def check (name : String) (expected : Int) : Material → Except Failure Bytes
  | .octets bs =>
    if bs.length = expected then .ok bs else .error (.keyLength name expected bs.length)
  | other      => .error (.keyNotOctets name other)

theorem check_eq_ok_iff {name : String} {expected : Int} {m : Material} {bs : Bytes} :
    check name expected m = .ok bs ↔ m = .octets bs ∧ bs.length = expected := by
  cases m with
  | octets b => by_cases h : (b.length : Int) = expected <;> simp [check, h] <;> grind
  | absent => simp [check]
  | text s => simp [check]

/-- The key that a text spells in hexadecimal, with white space around it. -/
def ofHex (text : String) : Except Failure Bytes :=
  match Hex.decode (strip text) with
  | .error _ => .error (.keyNotHex text)
  | .ok bs   => check "Public key" size (.octets bs)

end Key

/-! ### Pairs -/

/-- A public key and the private key it belongs to. -/
structure KeyPair where
  publicKey : Bytes
  privateKey : Bytes
  length_publicKey : publicKey.length = Key.size
  length_privateKey : privateKey.length = Key.size

namespace KeyPair

/-- A pair of two halves; they need not belong together. -/
def ofHalves (publicKey privateKey : Material) : Except Failure KeyPair :=
  match publicKey, privateKey with
  | .octets p, .octets s =>
    if hp : p.length = Key.size then
      if hs : s.length = Key.size then .ok ⟨p, s, hp, hs⟩
      else .error (.keyLength "Private key" Key.size s.length)
    else .error (.keyLength "Public key" Key.size p.length)
  | .octets p, found =>
    if p.length = Key.size then .error (.keyNotOctets "Private key" found)
    else .error (.keyLength "Public key" Key.size p.length)
  | found, _ => .error (.keyNotOctets "Public key" found)

/-- The pair of a private key of 32 octets. -/
def ofPrivate (privateKey : Bytes) (h : privateKey.length = Key.size) : KeyPair :=
  ⟨X25519.publicKey privateKey, privateKey, by simp [Key.size], h⟩

/-- The pair of a private key. -/
def ofPrivateKey : Material → Except Failure KeyPair
  | .octets s =>
    if h : s.length = Key.size then .ok (ofPrivate s h)
    else .error (.keyLength "Private key" Key.size s.length)
  | found => .error (.keyNotOctets "Private key" found)

/-- The salt and the label of the keys that are derived from a seed. -/
def derivation : String × String := ("E2EGateway-v1-encryption", "x25519-key")

/-- The pair whose private key is derived from a seed of 32 octets. -/
def ofSeed (seed : Bytes) : Except Failure KeyPair :=
  if seed.length = 32 then
    .ok (ofPrivate (Sha256.deriveKey (Utf8.encode derivation.1) (Utf8.encode derivation.2) seed)
      (by simp [Key.size]))
  else .error (.seedLength seed.length)

/-- A pair with a private key from a random source. -/
def generate {ω : Type} (source : RandomSource ω) : Action ω KeyPair := do
  Action.ofExcept (ofPrivateKey (← source.draw Key.size))

/-- The text of a pair; its private key is left out. -/
def redacted (keys : KeyPair) : String :=
  "KeyPair(public_key=" ++ Hex.encode keys.publicKey ++ ", private_key=<redacted>)"

end KeyPair

end SealedPost
