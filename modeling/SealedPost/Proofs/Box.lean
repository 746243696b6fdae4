import SealedPost.Box
import SealedPost.Proofs.Cipher.SecretBox
import SealedPost.Proofs.RandomSource

/-!
# Sealing over a reliable source

With a reliable source nothing is sealed in vain: keys and nonces drawn have the right length, and
what is sealed is opened under the same key, or by the other party where the two agree on one.
-/

namespace SealedPost

variable {ω : Type}

/-! ### Checks -/

theorem Key.check_octets {name : String} {bs : Bytes} (h : bs.length = size) :
    check name size (.octets bs) = .ok bs :=
  check_eq_ok_iff.mpr ⟨rfl, by simp [h]⟩

theorem Nonce.check_octets {bs : Bytes} (h : bs.length = nonceSize) :
    check (.octets bs) = .ok ⟨bs, h⟩ :=
  check_eq_ok_iff.mpr rfl

/-! ### Fresh keys and nonces -/

section Fresh

variable {source : RandomSource ω} {P : ω → Prop} {w : ω}

theorem Key.fresh_yields (hs : source.IsReliable) (hk : source.Keeps P) (hw : P w) :
    (fresh source).Yields w fun key w' =>
      key.length = size ∧ P w' := by
  apply (source.draw_yields hs hk hw size).bind
  rintro _ w' ⟨bs, rfl, hl, hw'⟩
  exact Action.Yields.ofExcept (check_octets hl) ⟨hl, hw'⟩

theorem Nonce.fresh_yields (hs : source.IsReliable) (hk : source.Keeps P) (hw : P w) :
    (fresh source).Yields w fun _ w' => P w' := by
  apply (source.draw_yields hs hk hw nonceSize).bind
  rintro _ w' ⟨bs, rfl, hl, hw'⟩
  exact Action.Yields.ofExcept (check_octets hl) hw'

theorem Box.sealSymmetric_yields (hs : source.IsReliable) (hk : source.Keeps P) (hw : P w)
    (plaintext : Bytes) {key : Bytes} (hl : key.length = Key.size) :
    (sealSymmetric source plaintext key).Yields w fun r w' =>
      ∃ nonce : Nonce, r = (nonce.val, SecretBox.seal key nonce plaintext) ∧ P w' := by
  rw [sealSymmetric, Key.check_octets hl, Action.ofExcept_ok_bind]
  apply (Nonce.fresh_yields hs hk hw).bind
  intro nonce w' hw'
  exact Action.Yields.pure ⟨nonce, rfl, hw'⟩

end Fresh

theorem Box.openSymmetric_seal {key nonce : Bytes} (hk : key.length = Key.size)
    (hn : nonce.length = nonceSize) (plaintext : Bytes) :
    openSymmetric nonce (SecretBox.seal key nonce plaintext) key = .ok plaintext := by
  simp [openSymmetric, Key.check_octets hk, Nonce.check_octets hn, bind, Except.bind, pure,
    Except.pure]

/-! ### Sources that may fail -/

section Leaves

variable {source : RandomSource ω} {P : ω → Prop} {w : ω}

theorem Key.fresh_ensures (hs : source.Leaves P) (hw : P w) :
    (fresh source).Ensures w P fun key => key.length = size := by
  apply (hs size w hw).bind
  intro m w' hw' _
  refine Action.Ensures.ofExcept hw' fun key hk => ?_
  simpa using (check_eq_ok_iff.mp hk).2

theorem Nonce.fresh_ensures (hs : source.Leaves P) (hw : P w) :
    (fresh source).Ensures w P fun _ => True := by
  apply (hs nonceSize w hw).bind
  intro m w' hw' _
  exact Action.Ensures.ofExcept hw' fun _ _ => trivial

theorem Box.sealSymmetric_ensures (hs : source.Leaves P) (hw : P w) (plaintext : Bytes)
    {key : Bytes} (hl : key.length = Key.size) :
    (sealSymmetric source plaintext key).Ensures w P fun r =>
      ∃ nonce : Nonce, r = (nonce.val, SecretBox.seal key nonce plaintext) := by
  rw [sealSymmetric, Key.check_octets hl, Action.ofExcept_ok_bind]
  apply (Nonce.fresh_ensures hs hw).bind
  intro nonce w' hw' _
  exact Action.Ensures.pure hw' ⟨nonce, rfl⟩

end Leaves

/-! ### What does not open -/

theorem Key.kind_of_check {name : String} {expected : Int} {bs : Bytes} {e : Failure}
    (h : check name expected (.octets bs) = .error e) : e.kind = .invalidKeyLength := by
  rw [check] at h
  split at h <;> cases h
  rfl

/-- Octets that are no keys are told as such; whatever else is wrong with an envelope has one
cause. -/
theorem Box.kind_of_open {envelope : Envelope} {senderPublic recipientPrivate : Bytes} {e : Failure}
    (h : Box.open envelope senderPublic recipientPrivate = .error e) :
    e.kind = .invalidKeyLength ∨ e.kind = .authenticationFailed := by
  rcases Check.bind_eq_error_iff.mp h with h | ⟨publicKey, -, h⟩
  · exact .inl (Key.kind_of_check h)
  rcases Check.bind_eq_error_iff.mp h with h | ⟨privateKey, -, h⟩
  · exact .inl (Key.kind_of_check h)
  right
  split at h
  · cases h; rfl
  · split at h <;> cases h
    rfl

/-- Under a key and a nonce of their lengths a box opens or is not authentic. -/
theorem Box.kind_of_openSymmetric {key nonce box : Bytes} {e : Failure}
    (hk : key.length = Key.size) (hn : nonce.length = nonceSize)
    (h : openSymmetric nonce box key = .error e) : e.kind = .authenticationFailed := by
  rw [openSymmetric, Key.check_octets hk, Nonce.check_octets hn] at h
  simp only [bind, Except.bind] at h
  split at h <;> cases h
  rfl

/-! ### Between two parties -/

/-- Do both parties come to one shared key? -/
def KeyPair.Agrees (a b : KeyPair) : Prop :=
  ∃ key, X25519.agree? a.privateKey b.publicKey = some key ∧
    X25519.agree? b.privateKey a.publicKey = some key

theorem KeyPair.agrees_of_eq {a b : KeyPair}
    (hs : (X25519.agree? a.privateKey b.publicKey).isSome = true)
    (h : X25519.agree? a.privateKey b.publicKey = X25519.agree? b.privateKey a.publicKey) :
    a.Agrees b := by
  obtain ⟨key, hkey⟩ := Option.isSome_iff_exists.mp hs
  exact ⟨key, hkey, h ▸ hkey⟩

theorem KeyPair.Agrees.symm {a b : KeyPair} (h : a.Agrees b) : b.Agrees a := by
  obtain ⟨key, ha, hb⟩ := h
  exact ⟨key, hb, ha⟩

/-- The pair of a private key whose octets are all the same. -/
def KeyPair.uniform (octet : UInt8) : KeyPair :=
  ofPrivate (List.replicate Key.size octet) List.length_replicate

theorem KeyPair.agrees_uniform : (uniform 1).Agrees (uniform 2) :=
  agrees_of_eq (by decide +kernel) (by decide +kernel)

/-- An envelope whose box was sealed under the shared key is opened by the recipient. -/
theorem Box.open_seal {sender recipient : KeyPair} {key nonce : Bytes}
    (h : X25519.agree? recipient.privateKey sender.publicKey = some key)
    (hn : nonce.length = nonceSize) (plaintext : Bytes) :
    Box.open ⟨nonce, SecretBox.seal key nonce plaintext, hn⟩ sender.publicKey
      recipient.privateKey = .ok plaintext := by
  simp [Box.open, Key.check_octets sender.length_publicKey,
    Key.check_octets recipient.length_privateKey, h, bind, Except.bind, pure, Except.pure]

/-- What is sealed for a recipient is opened by the recipient. -/
theorem Box.seal_yields {source : RandomSource ω} {P : ω → Prop} {w : ω} (hs : source.IsReliable)
    (hk : source.Keeps P) (hw : P w) {sender recipient : KeyPair} (h : sender.Agrees recipient)
    (plaintext : Bytes) :
    (Box.seal source plaintext recipient.publicKey sender.privateKey).Yields w fun envelope w' =>
      Box.open envelope sender.publicKey recipient.privateKey = .ok plaintext ∧ P w' := by
  obtain ⟨key, hSender, hRecipient⟩ := h
  rw [Box.seal, Key.check_octets recipient.length_publicKey, Action.ofExcept_ok_bind,
    Key.check_octets sender.length_privateKey, Action.ofExcept_ok_bind]
  apply (Nonce.fresh_yields hs hk hw).bind
  intro nonce w' hw'
  rw [hSender]
  exact Action.Yields.pure ⟨Box.open_seal hRecipient nonce.property plaintext, hw'⟩

/-- Was the envelope sealed, with the keys of a recipient and a sender, around a plaintext? -/
def Envelope.IsSealed (recipientPublic senderPrivate plaintext : Bytes) (e : Envelope) : Prop :=
  ∃ shared, X25519.agree? senderPrivate recipientPublic = some shared ∧
    e.box = SecretBox.seal shared e.nonce plaintext

theorem Envelope.IsSealed.open_eq {sender recipient : KeyPair} {plaintext : Bytes} {e : Envelope}
    (h : e.IsSealed recipient.publicKey sender.privateKey plaintext)
    (ha : sender.Agrees recipient) :
    Box.open e sender.publicKey recipient.privateKey = .ok plaintext := by
  obtain ⟨nonce, box, hn⟩ := e
  obtain ⟨shared, hshared, hbox⟩ := h
  obtain ⟨key, hsender, hrecipient⟩ := ha
  cases hshared.symm.trans hsender
  simp only at hbox
  subst hbox
  exact Box.open_seal hrecipient hn plaintext

/-- Whatever is sealed, it is sealed with the keys that were given. -/
theorem Box.seal_ensures_isSealed {source : RandomSource ω} {P : ω → Prop} {w : ω}
    (hs : source.Leaves P) (hw : P w) (plaintext : Bytes)
    (recipientPublic senderPrivate : Material) :
    (Box.seal source plaintext recipientPublic senderPrivate).Ensures w P fun envelope =>
      ∃ publicKey privateKey, recipientPublic = .octets publicKey ∧
        senderPrivate = .octets privateKey ∧ envelope.IsSealed publicKey privateKey plaintext := by
  rw [Box.seal]
  refine (Action.Ensures.ofExcept hw fun _ => id).bind fun publicKey w₁ hw₁ hpublic => ?_
  refine (Action.Ensures.ofExcept hw₁ fun _ => id).bind fun privateKey w₂ hw₂ hprivate => ?_
  refine (Nonce.fresh_ensures hs hw₂).bind fun nonce w₃ hw₃ _ => ?_
  cases hk : X25519.agree? privateKey publicKey with
  | none => exact Action.Ensures.throw hw₃ _
  | some key =>
    exact Action.Ensures.pure hw₃ ⟨publicKey, privateKey, (Key.check_eq_ok_iff.mp hpublic).1,
      (Key.check_eq_ok_iff.mp hprivate).1, key, hk, rfl⟩

/-- An envelope that was sealed with the keys of two parties that agree is opened by the
recipient. -/
theorem Box.seal_ensures {source : RandomSource ω} {P : ω → Prop} {w : ω} (hs : source.Leaves P)
    (hw : P w) (plaintext : Bytes) (recipientPublic senderPrivate : Material) :
    (Box.seal source plaintext recipientPublic senderPrivate).Ensures w P fun envelope =>
      ∀ sender recipient : KeyPair, sender.Agrees recipient →
        recipientPublic = .octets recipient.publicKey →
        senderPrivate = .octets sender.privateKey →
        Box.open envelope sender.publicKey recipient.privateKey = .ok plaintext := by
  apply (seal_ensures_isSealed hs hw plaintext recipientPublic senderPrivate).mono
  rintro envelope ⟨publicKey, privateKey, rfl, rfl, hsealed⟩ sender recipient hagrees hp hq
  cases hp
  cases hq
  exact hsealed.open_eq hagrees

end SealedPost
