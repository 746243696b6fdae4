import SealedPost.Proofs.Message.Grammar

/-!
# Which payloads are read back

Whoever writes a payload has the limits of texts, strings and lists of ids checked, but neither the
type of a receipt nor the lengths of a key and a nonce. So what is written is read back as the
message that it was, an attachment without its data, exactly if these are as they are meant to be.
-/

namespace SealedPost

/-! ### What was checked before a payload was written -/

theorem length_of_packString {name s : String} {bs : Bytes} (h : packString name s = .ok bs) :
    (Utf8.encode s).length ≤ 0xffff := by
  rw [packString] at h
  split at h
  · assumption
  · cases h

theorem length_of_packIds {ids : List Bytes} {bs : Bytes} (h : packIds ids = .ok bs) :
    ∀ id ∈ ids, id.length = messageIdSize := by
  induction ids generalizing bs with
  | nil => exact nofun
  | cons id ids ih =>
    rw [packIds] at h
    split at h
    case isFalse => cases h
    case isTrue hl =>
      obtain ⟨rest, hrest, -⟩ := Check.bind_eq_ok_iff.mp h
      exact List.forall_mem_cons.mpr ⟨hl, ih hrest⟩

theorem Attachment.fits_of_encodePayload {a : Attachment} {bs : Bytes}
    (h : a.encodePayload = .ok bs) :
    a.kind.Fits ∧ ∃ r id, a.reference = some r ∧ r.blobId = some id := by
  obtain ⟨kind, data, reference⟩ := a
  cases reference with
  | none => cases h
  | some r =>
    obtain ⟨front, hr, h⟩ := Check.bind_eq_ok_iff.mp h
    have hid : ∃ id, r.blobId = some id := by
      rw [BlobReference.encode] at hr
      split at hr
      · cases hr
      · exact ⟨_, ‹_›⟩
    obtain ⟨id, hid⟩ := hid
    refine ⟨?_, r, id, rfl, hid⟩
    cases kind with
    | image => trivial
    | file mimeType filename =>
      obtain ⟨_, hm, h⟩ := Check.bind_eq_ok_iff.mp h
      obtain ⟨_, hn, -⟩ := Check.bind_eq_ok_iff.mp h
      exact ⟨length_of_packString hm, length_of_packString hn⟩

namespace Message

theorem length_of_encodePayload_text {s : String} {bs : Bytes}
    (h : (text s).encodePayload = .ok bs) : (Utf8.encode s).length ≤ maxTextSize := by
  simp only [encodePayload] at h
  split at h
  · assumption
  · cases h

theorem ids_of_encodePayload_receipt {receiptType : Int} {ids : List Bytes} {bs : Bytes}
    (h : (receipt receiptType ids).encodePayload = .ok bs) :
    ids ≠ [] ∧ ∀ id ∈ ids, id.length = messageIdSize := by
  rw [encodePayload] at h
  split at h
  · cases h
  · rename_i hne
    obtain ⟨_, hids, -⟩ := Check.bind_eq_ok_iff.mp h
    exact ⟨by simpa using hne, length_of_packIds hids⟩

/-! ### What was not checked -/

/-- Are the fields what they are meant to be: the type of a receipt one of the four, the key of a
reference 32 octets, and its nonce 24? -/
def KeepsTypes : Message → Prop
  | .text _                => True
  | .attachment a          => ∀ r, a.reference = some r → ∃ key nonce : Bytes,
      r.key = .octets key ∧ key.length = 32 ∧ r.nonce = .octets nonce ∧ nonce.length = 24
  | .receipt receiptType _ => 1 ≤ receiptType ∧ receiptType ≤ 4

/-- The message as its payload has it: an attachment without its data. -/
def withoutData : Message → Message
  | .attachment a => .attachment { a with data := none }
  | m             => m

/-- What is written is read back exactly if all fields are what they are meant to be. -/
theorem decode_encodePayload_iff {m : Message} {bs : Bytes} (h : m.encodePayload = .ok bs) :
    Payload.decode m.payloadKind.tag.toNat bs = .ok m.withoutData ↔ m.KeepsTypes := by
  cases m with
  | text s =>
    obtain ⟨bs', he, hd⟩ := Payload.decode_text (length_of_encodePayload_text h)
    cases he.symm.trans h
    exact iff_of_true hd trivial
  | attachment a =>
    obtain ⟨hfits, r, id, hr, hid⟩ := a.fits_of_encodePayload h
    obtain ⟨kind, data, reference⟩ := a
    obtain rfl : reference = some r := hr
    constructor
    · intro hd
      obtain ⟨-, r', hr', key, nonce, id', rfl, hk, hn⟩ := Payload.isComplete_of_decode hd
      cases hr'
      rintro _ ⟨⟩
      exact ⟨key, nonce, rfl, hk, rfl, hn⟩
    · intro ht
      obtain ⟨key, nonce, hkey, hk, hnonce, hn⟩ := ht r rfl
      have hc : r.IsComplete := ⟨key, nonce, id, by rw [← hkey, ← hnonce, ← hid], hk, hn⟩
      obtain ⟨bs', he, hd⟩ := Payload.decode_attachment data hfits hc
      cases he.symm.trans h
      exact hd
  | receipt receiptType ids =>
    obtain ⟨hne, hids⟩ := ids_of_encodePayload_receipt h
    constructor
    · intro hd
      cases Payload.decode_eq_ok_iff.mp hd with
      | receipt code h₁ h₄ => exact ⟨by omega, by omega⟩
    · rintro ⟨h₁, h₄⟩
      obtain ⟨bs', he, hd⟩ := Payload.decode_receipt h₁ h₄ hne hids
      cases he.symm.trans h
      exact hd

/-- There are payloads that are written and not read back: that of a receipt of a fifth type is
refused, and that of a reference whose key has lent its nonce an octet is read as another one. -/
theorem exists_payload_not_read_back :
    (∃ bs, (receipt 5 [[1, 2, 3, 4, 5, 6, 7, 8]]).encodePayload = .ok bs ∧
      Payload.decode PayloadKind.receipt.tag.toNat bs = .error (.unknownReceiptType 5)) ∧
    ∃ (key nonce bs : Bytes) (r r' : BlobReference),
      key.length = 31 ∧ nonce.length = 25 ∧ r = ⟨.octets key, .octets nonce, some (.ofNat 1)⟩ ∧
      (attachment ⟨.image, none, some r⟩).encodePayload = .ok bs ∧
      Payload.decode PayloadKind.image.tag.toNat bs = .ok (.attachment ⟨.image, none, some r'⟩) ∧
      r' ≠ r := by
  refine ⟨⟨_, rfl, rfl⟩, List.replicate 31 1, List.replicate 25 2, _, _, _, rfl, rfl, rfl, rfl,
    rfl, by decide⟩

/-- A message whose fields are what they are meant to be is read back from its payload, if it has
one. -/
theorem decode_encodePayload {m : Message} {bs : Bytes} (ht : m.KeepsTypes)
    (h : m.encodePayload = .ok bs) :
    Payload.decode m.payloadKind.tag.toNat bs = .ok m.withoutData :=
  (decode_encodePayload_iff h).mpr ht

/-- A file that is in a blob, with its data still beside it. -/
theorem decode_encodePayload_file :
    ∃ (m : Message) (bs : Bytes), m.payloadKind = .file ∧ m.KeepsTypes ∧
      m.encodePayload = .ok bs ∧
      Payload.decode m.payloadKind.tag.toNat bs = .ok m.withoutData := by
  let r : BlobReference :=
    ⟨.octets (List.replicate 32 1), .octets (List.replicate 24 2), some (.ofNat 1)⟩
  let m : Message := .attachment ⟨.file "text/plain" "nötes.txt", some [1, 2, 3], some r⟩
  have ht : m.KeepsTypes := by
    rintro _ ⟨⟩
    exact ⟨_, _, rfl, rfl, rfl, rfl⟩
  obtain ⟨bs, h⟩ : ∃ bs, m.encodePayload = .ok bs := ⟨_, rfl⟩
  exact ⟨m, bs, rfl, ht, h, decode_encodePayload ht h⟩

end Message

end SealedPost
