import SealedPost.Message.Payload
import SealedPost.Proofs.Action
import SealedPost.Proofs.Octets
import SealedPost.Proofs.Text.Utf8

/-!
# Payloads are read back

A message that keeps the limits of its kind has a payload, and the payload is read back as that
message, an attachment without its data. Whatever else is read as a payload, an attachment comes
with a complete reference, and a failure is that of a malformed frame or payload.
-/

namespace SealedPost

/-! ### Tags -/

theorem PayloadKind.ofTag?_eq_some_iff {tag : UInt8} {kind : PayloadKind} :
    ofTag? tag.toNat = some kind ↔ tag = kind.tag := by
  constructor
  · intro h
    rw [ofTag?] at h
    have htag := List.find?_some h
    simp only [beq_iff_eq, Nat.cast_inj, UInt8.toNat_inj] at htag
    exact htag.symm
  · rintro rfl
    cases kind <;> rfl

/-! ### References -/

namespace BlobReference

/-- A reference with an id, and with a key and a nonce of their lengths. -/
def IsComplete (r : BlobReference) : Prop :=
  ∃ (key nonce : Bytes) (id : BlobId), r = ⟨.octets key, .octets nonce, some id⟩ ∧
    key.length = Key.size ∧ nonce.length = nonceSize

theorem decode_append {key nonce : Bytes} (id : BlobId) (hk : key.length = Key.size)
    (hn : nonce.length = nonceSize) :
    decode (id.octets ++ key ++ nonce) = .ok ⟨.octets key, .octets nonce, some id⟩ := by
  have hid : id.octets.length = BlobId.size := id.length_octets
  have hsize : (id.octets ++ key ++ nonce).length = size := by
    simp only [List.length_append, hid, hk, hn, size]
  rw [decode, if_pos hsize, List.append_assoc, List.take_left' hid, List.drop_left' hid,
    BlobId.ofBytes, dif_pos id.length_octets]
  simp only [List.take_left' hk, List.drop_left' hk]
  rfl

theorem IsComplete.decode_encode {r : BlobReference} (h : r.IsComplete) :
    ∃ bs, r.encode = .ok bs ∧ bs.length = size ∧ decode bs = .ok r := by
  obtain ⟨key, nonce, id, rfl, hk, hn⟩ := h
  have hid : id.octets.length = BlobId.size := id.length_octets
  refine ⟨id.octets ++ key ++ nonce, rfl, ?_, decode_append id hk hn⟩
  simp only [List.length_append, hid, hk, hn, size]

/-- A reference is read from its id, its key and its nonce, one after the other. -/
theorem eq_append_of_decode {bs : Bytes} {r : BlobReference} (h : decode bs = .ok r) :
    ∃ (key nonce : Bytes) (id : BlobId), r = ⟨.octets key, .octets nonce, some id⟩ ∧
      key.length = Key.size ∧ nonce.length = nonceSize ∧ bs = id.octets ++ key ++ nonce := by
  rw [decode] at h
  split at h
  case isFalse => cases h
  case isTrue hl =>
    obtain ⟨id, hid, hr⟩ := Check.bind_eq_ok_iff.mp h
    cases hr
    have hoctets : id.octets = bs.take BlobId.size := by
      rw [BlobId.ofBytes] at hid
      split at hid <;> cases hid
      rfl
    simp only [size, BlobId.size, Key.size, nonceSize] at hl
    refine ⟨_, _, id, rfl, ?_, ?_, ?_⟩
    · simp [Key.size, BlobId.size, hl]
    · simp [Key.size, BlobId.size, nonceSize, hl]
    · rw [hoctets, List.append_assoc, List.take_append_drop, List.take_append_drop]

/-- A reference that is read at all is complete. -/
theorem isComplete_of_decode {bs : Bytes} {r : BlobReference} (h : decode bs = .ok r) :
    r.IsComplete := by
  obtain ⟨key, nonce, id, hr, hk, hn, -⟩ := eq_append_of_decode h
  exact ⟨key, nonce, id, hr, hk, hn⟩

theorem kind_of_decode {bs : Bytes} {e : Failure} (h : decode bs = .error e) :
    e.kind = .malformedPayload := by
  rw [decode] at h
  split at h
  case isFalse => cases h; rfl
  case isTrue hl =>
    have ht : (bs.take BlobId.size).length = 16 := by
      simp only [size, BlobId.size, Key.size, nonceSize] at hl
      simp [BlobId.size, hl]
    rcases Check.bind_eq_error_iff.mp h with hid | ⟨id, -, hr⟩
    · rw [BlobId.ofBytes, dif_pos ht] at hid
      cases hid
    · cases hr

end BlobReference

/-! ### Strings and ids -/

theorem packString_eq_ok {name s : String} (h : (Utf8.encode s).length ≤ 0xffff) :
    packString name s = .ok (Bytes.ofNatBE 2 (Utf8.encode s).length ++ Utf8.encode s) := by
  rw [packString, if_pos h]

theorem unpackString_append {s : String} (h : (Utf8.encode s).length ≤ 0xffff) (rest : Bytes) :
    unpackString (Bytes.ofNatBE 2 (Utf8.encode s).length ++ Utf8.encode s ++ rest) =
      .ok (s, rest) := by
  have hn : Bytes.toNatBE (Bytes.ofNatBE 2 (Utf8.encode s).length) = (Utf8.encode s).length :=
    Bytes.toNatBE_ofNatBE (by omega)
  have hl : (Bytes.ofNatBE 2 (Utf8.encode s).length).length = 2 := Bytes.length_ofNatBE _ _
  rw [unpackString, if_neg (by simp; omega), List.append_assoc]
  simp only [List.take_left' hl, List.drop_left' hl, hn]
  rw [if_neg (by simp), List.take_left' rfl, List.drop_left' rfl, Utf8.decode_encode]

theorem kind_of_unpackString {bs : Bytes} {e : Failure} (h : unpackString bs = .error e) :
    e.kind = .malformedPayload := by
  rw [unpackString] at h
  split at h
  · cases h; rfl
  · simp only at h
    split at h
    · cases h; rfl
    · split at h
      · cases h; rfl
      · cases h

theorem packIds_eq_ok {ids : List Bytes} (h : ∀ id ∈ ids, id.length = messageIdSize) :
    packIds ids = .ok ids.flatten := by
  induction ids with
  | nil => rfl
  | cons id ids ih =>
    rw [packIds, if_pos (h id List.mem_cons_self),
      ih fun i hi => h i (List.mem_cons_of_mem _ hi)]
    rfl

/-! ### Messages that keep the limits -/

/-- Is no string of the attachment too long for its length to be written? -/
def AttachmentKind.Fits : AttachmentKind → Prop
  | .image                  => True
  | .file mimeType filename =>
    (Utf8.encode mimeType).length ≤ 0xffff ∧ (Utf8.encode filename).length ≤ 0xffff

/-- A message that can be sent: a text that is not too long, an attachment with its data and
strings that fit, or a receipt of a known type for at least one message. -/
def Message.IsWellFormed : Message → Prop
  | .text s                  => (Utf8.encode s).length ≤ maxTextSize
  | .attachment a            => a.data.isSome ∧ a.kind.Fits
  | .receipt receiptType ids =>
    1 ≤ receiptType ∧ receiptType ≤ 4 ∧ ids ≠ [] ∧ ∀ id ∈ ids, id.length = messageIdSize

namespace Payload

/-! ### Writing, then reading -/

theorem decode_tag {kind : PayloadKind} {bs : Bytes} (h : minSize kind ≤ bs.length) :
    decode kind.tag.toNat bs = decodeAs kind bs := by
  rw [decode, PayloadKind.ofTag?_eq_some_iff.mpr rfl]
  exact if_neg (by omega)

theorem decode_text {s : String} (h : (Utf8.encode s).length ≤ maxTextSize) :
    ∃ bs, (Message.text s).encodePayload = .ok bs ∧
      decode PayloadKind.text.tag.toNat bs = .ok (.text s) := by
  refine ⟨Utf8.encode s, ?_, ?_⟩
  · rw [Message.encodePayload, if_pos h]
  · rw [decode_tag (Nat.zero_le _), decodeAs, decodeText, Utf8.decode_encode]

/-- The payload of an attachment brings back what it is and its reference. -/
theorem decode_attachment {kind : AttachmentKind} (data : Option Bytes) {r : BlobReference}
    (hf : kind.Fits) (hr : r.IsComplete) :
    ∃ bs, Attachment.encodePayload ⟨kind, data, some r⟩ = .ok bs ∧
      decode kind.payloadKind.tag.toNat bs = .ok (.attachment ⟨kind, none, some r⟩) := by
  obtain ⟨bs, he, hl, hd⟩ := hr.decode_encode
  cases kind with
  | image =>
    refine ⟨bs, ?_, ?_⟩
    · simp only [Attachment.encodePayload, he]
      rfl
    · rw [AttachmentKind.payloadKind, decode_tag (by rw [minSize, hl]), decodeAs, decodeImage, hd]
      rfl
  | file mimeType filename =>
    obtain ⟨hm, hn⟩ := hf
    refine ⟨bs ++ (Bytes.ofNatBE 2 (Utf8.encode mimeType).length ++ Utf8.encode mimeType) ++
      (Bytes.ofNatBE 2 (Utf8.encode filename).length ++ Utf8.encode filename), ?_, ?_⟩
    · simp only [Attachment.encodePayload, he, packString_eq_ok hm, packString_eq_ok hn]
      rfl
    · have hlast := unpackString_append hn []
      rw [List.append_nil] at hlast
      rw [AttachmentKind.payloadKind, decode_tag (by simp [minSize, hl]; omega), decodeAs,
        decodeFile, if_neg (by simp [hl]; omega), List.append_assoc, List.take_left' hl,
        List.drop_left' hl, hd]
      simp only [bind, Except.bind, unpackString_append hm, hlast]
      rfl

theorem decode_receipt {receiptType : Int} {ids : List Bytes} (h₁ : 1 ≤ receiptType)
    (h₄ : receiptType ≤ 4) (hne : ids ≠ []) (hids : ∀ id ∈ ids, id.length = messageIdSize) :
    ∃ bs, (Message.receipt receiptType ids).encodePayload = .ok bs ∧
      decode PayloadKind.receipt.tag.toNat bs = .ok (.receipt receiptType ids) := by
  have hn : (UInt8.ofNat receiptType.toNat).toNat = receiptType.toNat := by
    simp only [UInt8.toNat_ofNat']
    omega
  have hl : ids.flatten.length = messageIdSize * ids.length := Bytes.length_flatten_of_size hids
  have hpos : 0 < ids.length := List.length_pos_of_ne_nil hne
  refine ⟨UInt8.ofNat receiptType.toNat :: ids.flatten, ?_, ?_⟩
  · rw [Message.encodePayload, if_neg (by simpa using hne), packIds_eq_ok hids]
    simp only [bind, Except.bind]
    rw [if_pos (by omega)]
    rfl
  · have hsize : 1 + messageIdSize ≤ (UInt8.ofNat receiptType.toNat :: ids.flatten).length := by
      simp only [List.length_cons, hl, messageIdSize]
      omega
    have htype : isReceiptType (UInt8.ofNat receiptType.toNat) = true := by
      simp only [isReceiptType, UInt8.le_iff_toNat_le, hn, Bool.and_eq_true, decide_eq_true_eq,
        UInt8.reduceToNat]
      omega
    rw [decode_tag (show minSize .receipt ≤ _ from hsize), decodeAs, decodeReceipt,
      if_neg (Nat.not_lt.mpr hsize),
      if_neg (by rw [hl, Nat.mul_mod_right]; exact fun h => h rfl), if_pos htype, hn,
      Bytes.blocks_flatten (by decide) hids]
    congr 2
    omega

/-! ### What is read -/

/-- A payload that is read holds a complete reference if it is one of an attachment, whose data
are elsewhere. -/
theorem isComplete_of_decode {tag : Int} {bs : Bytes} {a : Attachment}
    (h : decode tag bs = .ok (.attachment a)) :
    a.data = none ∧ ∃ r, a.reference = some r ∧ r.IsComplete := by
  rw [decode] at h
  split at h
  case h_1 => cases h
  case h_2 kind _ =>
    split at h
    case isTrue => cases h
    case isFalse =>
      cases kind with
      | text =>
        rw [decodeAs, decodeText] at h
        split at h <;> cases h
      | image =>
        obtain ⟨r, hr, ha⟩ := Check.bind_eq_ok_iff.mp h
        cases ha
        exact ⟨rfl, r, rfl, BlobReference.isComplete_of_decode hr⟩
      | file =>
        rw [decodeAs, decodeFile] at h
        split at h
        · cases h
        · obtain ⟨r, hr, h⟩ := Check.bind_eq_ok_iff.mp h
          obtain ⟨⟨mimeType, _⟩, -, h⟩ := Check.bind_eq_ok_iff.mp h
          obtain ⟨⟨filename, _⟩, -, h⟩ := Check.bind_eq_ok_iff.mp h
          simp only at h
          split at h
          · cases h
            exact ⟨rfl, r, rfl, BlobReference.isComplete_of_decode hr⟩
          · cases h
      | receipt =>
        rw [decodeAs, decodeReceipt.eq_def] at h
        split at h
        · split at h
          · cases h
          · split at h
            · cases h
            · split at h <;> cases h
        · cases h

/-- A payload that is long enough for its kind fails as malformed in itself. -/
theorem kind_of_decodeAs {kind : PayloadKind} {bs : Bytes} {e : Failure}
    (h : decodeAs kind bs = .error e) : e.kind = .malformedPayload := by
  cases kind with
  | text =>
    rw [decodeAs, decodeText] at h
    split at h <;> cases h
    rfl
  | image =>
    rcases Check.bind_eq_error_iff.mp h with h | ⟨r, -, h⟩
    · exact BlobReference.kind_of_decode h
    · cases h
  | file =>
    rw [decodeAs, decodeFile] at h
    split at h
    · cases h; rfl
    · rcases Check.bind_eq_error_iff.mp h with h | ⟨r, -, h⟩
      · exact BlobReference.kind_of_decode h
      rcases Check.bind_eq_error_iff.mp h with h | ⟨⟨mimeType, _⟩, -, h⟩
      · exact kind_of_unpackString h
      rcases Check.bind_eq_error_iff.mp h with h | ⟨⟨filename, _⟩, -, h⟩
      · exact kind_of_unpackString h
      simp only at h
      split at h <;> cases h
      rfl
  | receipt =>
    rw [decodeAs, decodeReceipt.eq_def] at h
    split at h
    · split at h
      · cases h; rfl
      · split at h
        · cases h; rfl
        · split at h <;> cases h
          rfl
    · cases h; rfl

/-- What is wrong with a payload is wrong with its frame or with itself. -/
theorem kind_of_decode {tag : Int} {bs : Bytes} {e : Failure} (h : decode tag bs = .error e) :
    e.kind = .malformedFrame ∨ e.kind = .malformedPayload := by
  rw [decode] at h
  split at h
  case h_1 => cases h; exact .inl rfl
  case h_2 kind _ =>
    split at h
    case isTrue => cases h; exact .inl rfl
    case isFalse => exact .inr (kind_of_decodeAs h)

end Payload

end SealedPost
