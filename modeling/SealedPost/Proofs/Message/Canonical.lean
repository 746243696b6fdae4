import SealedPost.Proofs.Message.Grammar

/-!
# Payloads are canonical

What is read as a message is what the message is written as: UTF-8 has one form for every text, the
length in front of a string is that of its octets, and the ids of a receipt are joined as they were
cut. Only a text above the limit is read and not written, for readers do not look at the limit. So
no two payloads are read as one message, nor is one payload under two tags.
-/

namespace SealedPost

/-! ### Parts -/

theorem Bytes.ofNatBE_pair (hi lo : UInt8) :
    ofNatBE 2 (256 * hi.toNat + lo.toNat) = [hi, lo] := by
  have hlo : lo.toNat < 256 := lo.toNat_lt
  have hhi : hi.toNat < 256 := hi.toNat_lt
  simp only [ofNatBE, ofNatLE, List.reverse_cons, List.reverse_nil, List.nil_append,
    List.cons_append, List.cons.injEq, ← UInt8.toNat_inj, UInt8.toNat_ofNat', and_true]
  omega

theorem BlobReference.Spells.encode_eq {bs : Bytes} {r : BlobReference} (h : Spells bs r) :
    r.encode = .ok bs := by
  obtain ⟨id, -, -⟩ := h
  rfl

/-- A string is written as the octets that spell it. -/
theorem SpellsString.packString_eq {bs : Bytes} {s : String} (h : SpellsString bs s)
    (name : String) : packString name s = .ok bs := by
  obtain ⟨hi, lo, hs, hl⟩ := h
  obtain rfl := Utf8.spells_iff.mp hs
  have hlo : lo.toNat < 256 := lo.toNat_lt
  have hhi : hi.toNat < 256 := hi.toNat_lt
  rw [packString_eq_ok (by omega), hl, Bytes.ofNatBE_pair]
  rfl

/-! ### Messages -/

theorem PayloadKind.eq_tag_of_ofTag? {tag : Int} {kind : PayloadKind}
    (h : ofTag? tag = some kind) : tag = kind.tag.toNat := by
  have htag := List.find?_some h
  rw [beq_iff_eq] at htag
  exact htag.symm

namespace Payload

variable {tag tag' : UInt8} {bs bs' : Bytes} {m : Message}

theorem Spells.tag_eq (h : Spells tag bs m) : tag = m.payloadKind.tag := by
  cases h <;> rfl

/-- A text above the limit, which is looked at only where a text is written. -/
def IsOverlong (tag : Int) (bs : Bytes) : Prop := tag = 0x01 ∧ 3500 < bs.length

theorem Spells.encodePayload_of_isOverlong (h : Spells tag bs m) (ho : IsOverlong tag.toNat bs) :
    m.encodePayload = .error (.textTooLong bs.length) := by
  obtain ⟨htag, hl⟩ := ho
  cases h with
  | text hs =>
    obtain rfl := Utf8.spells_iff.mp hs
    rw [Message.encodePayload, if_neg (by simpa [maxTextSize] using hl)]
  | image => cases htag
  | file => cases htag
  | receipt => cases htag

/-- Every other message is written as the payload that it was read from. -/
theorem Spells.encodePayload_eq (h : Spells tag bs m) (ho : ¬ IsOverlong tag.toNat bs) :
    m.encodePayload = .ok bs := by
  cases h with
  | text hs =>
    obtain rfl := Utf8.spells_iff.mp hs
    rw [Message.encodePayload, if_pos]
    exact Nat.not_lt.mp fun hl => ho ⟨rfl, hl⟩
  | image hr =>
    rw [Message.encodePayload, Attachment.encodePayload]
    simp only [hr.encode_eq]
    rfl
  | file hr hm hn =>
    rw [Message.encodePayload, Attachment.encodePayload]
    simp only [hr.encode_eq, hm.packString_eq, hn.packString_eq]
    rfl
  | @receipt code ids h₁ h₄ hne hids =>
    rw [Message.encodePayload, if_neg (by simpa using hne), packIds_eq_ok hids]
    simp only [bind, Except.bind]
    rw [if_pos (by omega), Int.toNat_natCast, UInt8.ofNat_toNat]
    rfl

/-- A message has one payload, under one tag. -/
theorem Spells.unique (h : Spells tag bs m) (h' : Spells tag' bs' m) : tag' = tag ∧ bs' = bs := by
  obtain rfl : tag' = tag := h'.tag_eq.trans h.tag_eq.symm
  refine ⟨rfl, ?_⟩
  by_cases htext : tag' = 0x01
  · -- a text may be above the limit, and then there is nothing written to compare
    subst htext
    cases h with
    | text hs =>
      cases h' with
      | text hs' => rw [Utf8.spells_iff.mp hs, Utf8.spells_iff.mp hs']
  · have hfits : ∀ bs, ¬ IsOverlong tag'.toNat bs := by
      rintro bs ⟨htag, -⟩
      exact htext (UInt8.toNat_inj.mp (Int.ofNat_inj.mp htag))
    have hw := h.encodePayload_eq (hfits bs)
    have hw' := h'.encodePayload_eq (hfits bs')
    exact Except.ok.inj (hw'.symm.trans hw)

theorem spells_of_decode {tag : Int} (h : decode tag bs = .ok m) :
    tag = m.payloadKind.tag.toNat ∧ Spells m.payloadKind.tag bs m := by
  have hkind : ∃ kind : PayloadKind, tag = kind.tag.toNat := by
    rw [decode] at h
    split at h
    · cases h
    · rename_i kind ho
      exact ⟨kind, PayloadKind.eq_tag_of_ofTag? ho⟩
  obtain ⟨kind, rfl⟩ := hkind
  have hs := decode_eq_ok_iff.mp h
  rw [← hs.tag_eq]
  exact ⟨rfl, hs⟩

/-- A payload is read as one message only, the tag is the message's, and the message is written as
the payload that it was read from unless it is a text above the limit. No other octets, and no other
tag, are read as the same message. -/
theorem decode_canonical {tag : Int} (h : decode tag bs = .ok m) :
    tag = m.payloadKind.tag.toNat ∧
    (IsOverlong tag bs → ∃ e, m.encodePayload = .error e ∧ e.kind = .messageTooLong) ∧
    (¬ IsOverlong tag bs → m.encodePayload = .ok bs) ∧
    ∀ tag' bs', decode tag' bs' = .ok m → tag' = tag ∧ bs' = bs := by
  obtain ⟨rfl, hs⟩ := spells_of_decode h
  refine ⟨rfl, ?_, hs.encodePayload_eq, ?_⟩
  · intro ho
    exact ⟨_, hs.encodePayload_of_isOverlong ho, rfl⟩
  · intro tag' bs' h'
    obtain ⟨rfl, hs'⟩ := spells_of_decode h'
    exact ⟨rfl, (hs.unique hs').2⟩

/-- A text that is one octet above the limit is read, but not written; the ids of a receipt are. -/
theorem decode_canonical_long_text :
    ∃ (s : String) (long : Bytes), decode 0x01 long = .ok (.text s) ∧ IsOverlong 0x01 long ∧
      (∃ e, (Message.text s).encodePayload = .error e ∧ e.kind = .messageTooLong) ∧
      (∀ tag' bs', decode tag' bs' = .ok (.text s) → tag' = 0x01 ∧ bs' = long) ∧
      (Message.receipt 2 [List.replicate 8 7]).encodePayload = .ok (2 :: List.replicate 8 7) := by
  have hlong : ∀ n, decode 0x01 (List.replicate n 0x61) =
      .ok (.text (String.ofList (List.replicate n 'a'))) := by
    intro n
    have hs : Utf8.Spells (List.replicate n 0x61) (String.ofList (List.replicate n 'a')) := by
      rw [Utf8.spells_iff, Utf8.encode, String.toList_ofList, List.flatMap_replicate,
        show Utf8.encodeChar 'a' = [0x61] from rfl, List.flatten_replicate_singleton]
    exact (decode_eq_ok_iff.mpr (.text hs) : decode (0x01 : UInt8).toNat _ = _)
  have hids : decode 0x80 (2 :: List.replicate 8 7) = .ok (.receipt 2 [List.replicate 8 7]) := rfl
  obtain ⟨-, hrefused, -, hunique⟩ := decode_canonical (hlong 3501)
  have ho : IsOverlong 0x01 (List.replicate 3501 0x61) := by
    rw [IsOverlong, List.length_replicate]
    decide
  exact ⟨_, _, hlong 3501, ho, hrefused ho, hunique,
    (decode_canonical hids).2.2.1 fun ho => absurd ho.1 (by decide)⟩

end Payload

end SealedPost
