import SealedPost.Proofs.Box
import SealedPost.Proofs.Text.Hex

/-!
# The two forms of an envelope on its way

Octets stand for an envelope if there are enough of them for a nonce and a tag, whatever they are,
and for one only. As texts an envelope may be spelled in many ways, of which one is written, and
here its box may be shorter than a tag. A box that was sealed has its tag, so that what is sealed
keeps both forms.
-/

namespace SealedPost

namespace Envelope

/-! ### As octets -/

theorem ofParts_encode (e : Envelope) :
    ofParts (e.encode.take nonceSize) (e.encode.drop nonceSize) = .ok e := by
  have hn := e.length_nonce
  simp [ofParts, encode, ← hn]

/-- Octets are read exactly if they are the octets of an envelope whose box has room for a tag. -/
theorem decode_eq_ok_iff {bs : Bytes} {e : Envelope} :
    decode bs = .ok e ↔ tagSize ≤ e.box.length ∧ e.encode = bs := by
  constructor
  · intro h
    rw [decode] at h
    split at h
    · rename_i hl
      rw [ofParts] at h
      split at h <;> cases h
      refine ⟨?_, List.take_append_drop ..⟩
      rw [List.length_drop]
      omega
    · cases h
  · rintro ⟨hb, rfl⟩
    have hl : nonceSize + tagSize ≤ e.encode.length := by
      simp [encode, e.length_nonce, hb]
    rw [decode, if_pos hl, ofParts_encode]

theorem exists_decode_eq_ok {bs : Bytes} (h : nonceSize + tagSize ≤ bs.length) :
    ∃ e, decode bs = .ok e := by
  have hn : (bs.take nonceSize).length = nonceSize := by
    rw [List.length_take]
    omega
  exact ⟨⟨_, bs.drop nonceSize, hn⟩, by rw [decode, if_pos h, ofParts, dif_pos hn]⟩

/-- What is too short is malformed, and nothing else. -/
theorem decode_failsAs_iff {bs : Bytes} :
    FailsAs (decode bs) .malformedFrame ↔ bs.length < nonceSize + tagSize := by
  constructor
  · rintro ⟨e, h, -⟩
    by_contra hl
    obtain ⟨e', h'⟩ := exists_decode_eq_ok (Nat.le_of_not_lt hl)
    cases h'.symm.trans h
  · intro hl
    exact ⟨.envelopeTooShort bs.length, by rw [decode, if_neg (by omega)], rfl⟩

/-! ### As texts -/

variable {nonce box : String} {bs bs' : Bytes}

theorem ofHex_of_spells (hn : Hex.Spells nonce.toList bs) (hb : Hex.Spells box.toList bs') :
    ofHex nonce box = ofParts bs bs' := by
  rw [ofHex, Hex.decode_eq_ok_iff.mpr hn, Hex.decode_eq_ok_iff.mpr hb]
  rfl

theorem ofHex_of_not_isHex (h : ¬ Hex.IsHex nonce ∨ ¬ Hex.IsHex box) :
    ∃ place, ofHex nonce box = .error (.envelopeNotHex place) := by
  cases hn : Hex.decode nonce with
  | error place => exact ⟨place, by rw [ofHex, hn]; rfl⟩
  | ok bs =>
    have hbox := h.resolve_left (not_not_intro ⟨bs, Hex.decode_eq_ok_iff.mp hn⟩)
    obtain ⟨place, hb⟩ := Hex.exists_decode_eq_error hbox
    exact ⟨place, by rw [ofHex, hn, hb]; rfl⟩

/-- The nonce is measured if both texts are read, and at no other time. -/
theorem ofHex_cases (nonce box : String) :
    (∃ bs bs', Hex.Spells nonce.toList bs ∧ Hex.Spells box.toList bs' ∧
      ofHex nonce box = ofParts bs bs') ∨
    (¬ Hex.IsHex nonce ∨ ¬ Hex.IsHex box) ∧
      ∃ place, ofHex nonce box = .error (.envelopeNotHex place) := by
  by_cases h : Hex.IsHex nonce ∧ Hex.IsHex box
  · obtain ⟨⟨bs, hbs⟩, bs', hbs'⟩ := h
    exact .inl ⟨bs, bs', hbs, hbs', ofHex_of_spells hbs hbs'⟩
  · have h' := not_and_or.mp h
    exact .inr ⟨h', ofHex_of_not_isHex h'⟩

theorem ofHex_eq_ok_iff {e : Envelope} :
    ofHex nonce box = .ok e ↔ Hex.Spells nonce.toList e.nonce ∧ Hex.Spells box.toList e.box := by
  constructor
  · intro h
    rcases ofHex_cases nonce box with ⟨bs, bs', hbs, hbs', hparts⟩ | ⟨-, place, hplace⟩
    · rw [hparts, ofParts] at h
      split at h <;> cases h
      exact ⟨hbs, hbs'⟩
    · cases hplace.symm.trans h
  · rintro ⟨hn, hb⟩
    rw [ofHex_of_spells hn hb, ofParts, dif_pos e.length_nonce]

/-- An envelope is read back from its texts. -/
theorem ofHex_toHex (e : Envelope) : ofHex e.toHex.1 e.toHex.2 = .ok e :=
  ofHex_eq_ok_iff.mpr ⟨Hex.spells_encode e.nonce, Hex.spells_encode e.box⟩

/-- What is written for an envelope is the normal form of all texts that it is read from. -/
theorem toHex_eq_of_ofHex {e : Envelope} (h : ofHex nonce box = .ok e) :
    e.toHex = (Hex.normal nonce, Hex.normal box) := by
  obtain ⟨hn, hb⟩ := ofHex_eq_ok_iff.mp h
  rw [toHex, hn.encode_eq, hb.encode_eq]

theorem ofHex_failsAs_malformedFrame_iff :
    FailsAs (ofHex nonce box) .malformedFrame ↔ ¬ Hex.IsHex nonce ∨ ¬ Hex.IsHex box := by
  rcases ofHex_cases nonce box with ⟨bs, bs', hbs, hbs', hparts⟩ | ⟨h, place, hplace⟩
  · refine iff_of_false ?_ (not_or.mpr ⟨not_not_intro ⟨bs, hbs⟩, not_not_intro ⟨bs', hbs'⟩⟩)
    rintro ⟨e, he, hkind⟩
    rw [hparts, ofParts] at he
    split at he <;> cases he
    cases hkind
  · exact iff_of_true ⟨_, hplace, rfl⟩ h

theorem ofHex_failsAs_invalidNonceLength_iff :
    FailsAs (ofHex nonce box) .invalidNonceLength ↔
      ∃ bs bs', Hex.Spells nonce.toList bs ∧ Hex.Spells box.toList bs' ∧
        bs.length ≠ nonceSize := by
  constructor
  · rintro ⟨e, he, hkind⟩
    rcases ofHex_cases nonce box with ⟨bs, bs', hbs, hbs', hparts⟩ | ⟨-, place, hplace⟩
    · refine ⟨bs, bs', hbs, hbs', fun hl => ?_⟩
      rw [hparts, ofParts, dif_pos hl] at he
      cases he
    · cases hplace.symm.trans he
      cases hkind
  · rintro ⟨bs, bs', hbs, hbs', hl⟩
    exact ⟨.nonceLength bs.length, by rw [ofHex_of_spells hbs hbs', ofParts, dif_neg hl], rfl⟩

/-! ### What is sealed -/

/-- A box that was sealed has room for its tag. -/
theorem IsSealed.tagSize_le {recipientPublic senderPrivate plaintext : Bytes} {e : Envelope}
    (h : e.IsSealed recipientPublic senderPrivate plaintext) : tagSize ≤ e.box.length := by
  obtain ⟨shared, -, hbox⟩ := h
  rw [hbox, SecretBox.length_seal]
  exact Nat.le_add_left ..

/-- Both forms of an envelope, and what each of their readers takes. As octets an envelope needs
room for a tag; as texts it is read in any case and with blanks, and written in normal form. What
is sealed keeps both forms. -/
theorem wire_forms :
    (∀ e : Envelope, ofHex e.toHex.1 e.toHex.2 = .ok e ∧
      (16 ≤ e.box.length → decode e.encode = .ok e) ∧
      (e.box.length < 16 → FailsAs (decode e.encode) .malformedFrame)) ∧
    (∀ bs : Bytes, (FailsAs (decode bs) .malformedFrame ↔ bs.length < 40) ∧
      (40 ≤ bs.length → ∃ e, decode bs = .ok e ∧ e.encode = bs)) ∧
    (∀ nonce box : String,
      (∀ e, ofHex nonce box = .ok e ↔
        Hex.Spells nonce.toList e.nonce ∧ Hex.Spells box.toList e.box) ∧
      (∀ e, ofHex nonce box = .ok e → e.toHex = (Hex.normal nonce, Hex.normal box)) ∧
      (FailsAs (ofHex nonce box) .malformedFrame ↔ ¬ Hex.IsHex nonce ∨ ¬ Hex.IsHex box) ∧
      (FailsAs (ofHex nonce box) .invalidNonceLength ↔
        ∃ bs bs', Hex.Spells nonce.toList bs ∧ Hex.Spells box.toList bs' ∧ bs.length ≠ 24)) ∧
    ∀ (ω : Type) (source : RandomSource ω) (plaintext : Bytes)
      (recipientPublic senderPrivate : Material) (w w' : ω) (e : Envelope),
      Box.seal source plaintext recipientPublic senderPrivate w = .ok e w' →
        decode e.encode = .ok e ∧ ofHex e.toHex.1 e.toHex.2 = .ok e := by
  refine ⟨fun e => ⟨ofHex_toHex e, fun h => decode_eq_ok_iff.mpr ⟨h, rfl⟩, fun h => ?_⟩,
    fun bs => ⟨decode_failsAs_iff, fun h => ?_⟩,
    fun nonce box => ⟨fun e => ofHex_eq_ok_iff, fun e => toHex_eq_of_ofHex,
      ofHex_failsAs_malformedFrame_iff, ofHex_failsAs_invalidNonceLength_iff⟩,
    fun ω source plaintext recipientPublic senderPrivate w w' e h => ?_⟩
  · rw [decode_failsAs_iff, encode, List.length_append, e.length_nonce]
    exact Nat.add_lt_add_left h nonceSize
  · obtain ⟨e, he⟩ := exists_decode_eq_ok h
    exact ⟨e, he, (decode_eq_ok_iff.mp he).2⟩
  · obtain ⟨-, publicKey, privateKey, -, -, hsealed⟩ :=
      (Box.seal_ensures_isSealed source.leaves_true trivial plaintext recipientPublic
        senderPrivate).of_ok h
    exact ⟨decode_eq_ok_iff.mpr ⟨hsealed.tagSize_le, rfl⟩, ofHex_toHex e⟩

end Envelope

end SealedPost
