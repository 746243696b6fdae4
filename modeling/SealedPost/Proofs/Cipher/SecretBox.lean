import SealedPost.Cipher.SecretBox
import SealedPost.Proofs.Octets

/-!
# Opening what was sealed

The tag of a box is that of its ciphertext, and the pad taken off is the pad put on, for both
depend on the key, the nonce and the length alone. So a box that opens is the one that was sealed
around what it opens to.
-/

namespace SealedPost

@[simp] theorem SecretBox.length_pad (key nonce : Bytes) (length : Nat) :
    (pads key nonce length).2.length = length := by
  simp [pads]

/-- What is sealed under a key and a nonce is opened under them. -/
@[simp] theorem SecretBox.open?_seal (key nonce plaintext : Bytes) :
    SecretBox.open? key nonce (SecretBox.seal key nonce plaintext) = some plaintext := by
  simp [SecretBox.seal, SecretBox.open?, Bytes.xor_cancel]

@[simp] theorem SecretBox.length_seal (key nonce plaintext : Bytes) :
    (SecretBox.seal key nonce plaintext).length = plaintext.length + 16 := by
  simp [SecretBox.seal]
  omega

/-- Nothing opens under a key and a nonce but what is sealed under them. -/
theorem SecretBox.open?_eq_some_iff {key nonce box plaintext : Bytes} :
    open? key nonce box = some plaintext ↔ box = SecretBox.seal key nonce plaintext := by
  constructor
  · intro h
    simp only [open?] at h
    split at h
    · cases h
    · split at h
      · rename_i htag
        cases h
        have hpad : (box.drop 16).length ≤ (pads key nonce (box.drop 16).length).2.length := by
          simp
        have hlength : (Bytes.xor (box.drop 16) (pads key nonce (box.drop 16).length).2).length =
            (box.drop 16).length := by
          simp
        simp only [SecretBox.seal, hlength, Bytes.xor_cancel hpad]
        rw [← htag, List.take_append_drop]
      · cases h
  · rintro rfl
    exact open?_seal key nonce plaintext

end SealedPost
