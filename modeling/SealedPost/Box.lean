import SealedPost.Cipher.SecretBox
import SealedPost.Envelope
import SealedPost.KeyPair

/-!
# Sealing and opening

Keys are checked before a nonce is drawn, and the nonce before anything is sealed with it. A box
between two parties is a secret box under the key that the parties share. What cannot be opened has
one cause only, whatever is wrong with it.
-/

namespace SealedPost

variable {ω : Type}

/-! ### Nonces and keys -/

/-- A nonce: 24 octets. -/
abbrev Nonce := { bs : Bytes // bs.length = nonceSize }

/-- The nonce that material is, if it has the length of one. -/
def Nonce.check : Material → Except Failure Nonce
  | .octets bs => if h : bs.length = nonceSize then .ok ⟨bs, h⟩ else .error (.nonceLength bs.length)
  | .absent    => .error .nothingMeasured
  | .text s    => .error (if s.length = nonceSize then .textUnencoded else .nonceLength s.length)

theorem Nonce.check_eq_ok_iff {m : Material} {n : Nonce} : check m = .ok n ↔ m = .octets n := by
  obtain ⟨bs, hn⟩ := n
  cases m with
  | octets b =>
    by_cases h : b.length = nonceSize
    · simp [check, h]
    · simp only [check, h, dite_false, Material.octets.injEq, reduceCtorEq, false_iff]
      rintro rfl
      exact h hn
  | absent => simp [check]
  | text s => simp [check]

/-- A nonce from a random source. -/
def Nonce.fresh (source : RandomSource ω) : Action ω Nonce := do
  Action.ofExcept (check (← source.draw nonceSize))

/-- A symmetric key from a random source. -/
def Key.fresh (source : RandomSource ω) : Action ω Bytes := do
  Action.ofExcept (check "Symmetric key" size (← source.draw size))

/-! ### Between two parties -/

/-- Seals a plaintext from a sender for a recipient. -/
def Box.seal (source : RandomSource ω) (plaintext : Bytes)
    (recipientPublic senderPrivate : Material) : Action ω Envelope := do
  let recipientPublic ← Action.ofExcept (Key.check "Recipient public key" Key.size recipientPublic)
  let senderPrivate ← Action.ofExcept (Key.check "Sender private key" Key.size senderPrivate)
  let nonce ← Nonce.fresh source
  match X25519.agree? senderPrivate recipientPublic with
  | none     => throw .encryptionRefused
  | some key => pure ⟨nonce, SecretBox.seal key nonce plaintext, nonce.property⟩

/-- Opens an envelope from a sender to a recipient. -/
def Box.open (envelope : Envelope) (senderPublic recipientPrivate : Material) :
    Except Failure Bytes := do
  let senderPublic ← Key.check "Sender public key" Key.size senderPublic
  let recipientPrivate ← Key.check "Recipient private key" Key.size recipientPrivate
  match X25519.agree? recipientPrivate senderPublic with
  | none     => throw .authentication
  | some key =>
    match SecretBox.open? key envelope.nonce envelope.box with
    | none           => throw .authentication
    | some plaintext => pure plaintext

/-! ### Under one key -/

/-- Seals a plaintext under a symmetric key; gives the nonce and the box. -/
def Box.sealSymmetric (source : RandomSource ω) (plaintext : Bytes) (key : Material) :
    Action ω (Bytes × Bytes) := do
  let key ← Action.ofExcept (Key.check "Symmetric key" Key.size key)
  let nonce ← Nonce.fresh source
  pure (nonce, SecretBox.seal key nonce plaintext)

/-- Opens a box under a symmetric key. -/
def Box.openSymmetric (nonce : Material) (box : Bytes) (key : Material) :
    Except Failure Bytes := do
  let key ← Key.check "Symmetric key" Key.size key
  let nonce ← Nonce.check nonce
  match SecretBox.open? key nonce box with
  | none           => throw .authentication
  | some plaintext => pure plaintext

end SealedPost
