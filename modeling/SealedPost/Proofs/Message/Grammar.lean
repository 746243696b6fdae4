import SealedPost.Proofs.Payload

/-!
# The grammar of payloads

Which octets are a payload under a tag, and of which message, is said here part by part and without
a reader. A payload is read exactly if it is one of the grammar, and as the message that it spells.
What is not read is told apart by its tag and its length alone: too short for its kind, or under the
tag of none, it is no frame, and otherwise a malformed payload.
-/

namespace SealedPost

/-! ### References -/

namespace BlobReference

/-- An id of 16 octets, a key of 32 and a nonce of 24, one after the other. -/
inductive Spells : Bytes → BlobReference → Prop where
  | parts (id : BlobId) {key nonce : Bytes} (hk : key.length = 32) (hn : nonce.length = 24) :
    Spells (id.octets ++ key ++ nonce) ⟨.octets key, .octets nonce, some id⟩

variable {bs : Bytes} {r : BlobReference}

theorem Spells.length_eq (h : Spells bs r) : bs.length = size := by
  obtain ⟨id, hk, hn⟩ := h
  simp only [List.length_append, id.length_octets, hk, hn, size, BlobId.size, Key.size, nonceSize]

theorem decode_eq_ok_iff : decode bs = .ok r ↔ Spells bs r := by
  constructor
  · intro h
    obtain ⟨key, nonce, id, rfl, hk, hn, rfl⟩ := eq_append_of_decode h
    exact .parts id hk hn
  · rintro ⟨id, hk, hn⟩
    exact decode_append id hk hn

end BlobReference

/-! ### Strings -/

/-- The length of a string in two octets, the high one first, and as many octets of UTF-8. -/
inductive SpellsString : Bytes → String → Prop where
  | parts (hi lo : UInt8) {utf8 : Bytes} {s : String} (hs : Utf8.Spells utf8 s)
      (hl : utf8.length = 256 * hi.toNat + lo.toNat) : SpellsString (hi :: lo :: utf8) s

theorem SpellsString.two_le_length {bs : Bytes} {s : String} (h : SpellsString bs s) :
    2 ≤ bs.length := by
  obtain ⟨hi, lo, -, -⟩ := h
  simp

theorem unpackString_cons (hi lo : UInt8) (rest : Bytes) :
    unpackString (hi :: lo :: rest) =
      if rest.length < 256 * hi.toNat + lo.toNat then
        .error (.stringExceeds (256 * hi.toNat + lo.toNat) rest.length)
      else match Utf8.decode (rest.take (256 * hi.toNat + lo.toNat)) with
        | .error fault => .error (.stringNotUtf8 fault)
        | .ok s        => .ok (s, rest.drop (256 * hi.toNat + lo.toNat)) := by
  rw [← Bytes.toNatBE_pair]
  exact if_neg (by simp)

/-- A string is read from the front of octets that begin with one. -/
theorem unpackString_eq_ok_iff {bs rest : Bytes} {s : String} :
    unpackString bs = .ok (s, rest) ↔ ∃ front, SpellsString front s ∧ bs = front ++ rest := by
  constructor
  · intro h
    match bs, h with
    | [], h => cases h
    | [_], h => cases h
    | hi :: lo :: tail, h =>
      rw [unpackString_cons] at h
      split at h
      · cases h
      · split at h
        · cases h
        · rename_i hl t ht
          cases h
          refine ⟨hi :: lo :: tail.take (256 * hi.toNat + lo.toNat), .parts hi lo ?_ ?_, ?_⟩
          · rw [Utf8.spells_iff, ← Utf8.decode_eq_ok_iff, ht]
          · rw [List.length_take]
            omega
          · rw [List.cons_append, List.cons_append, List.take_append_drop]
  · rintro ⟨_, ⟨hi, lo, hs, hl⟩, rfl⟩
    rw [List.cons_append, List.cons_append, unpackString_cons, List.take_left' hl,
      List.drop_left' hl, Utf8.decode_eq_ok_iff.mpr (Utf8.spells_iff.mp hs), if_neg]
    simp [hl]

/-! ### Messages -/

namespace Payload

/-- The payloads under each tag and the messages that they spell: a text as UTF-8; an image as a
reference; a file as a reference, its mime type and its name; a receipt as its type and the ids of
one or more messages, each of 8 octets. -/
inductive Spells : UInt8 → Bytes → Message → Prop where
  | text {utf8 : Bytes} {s : String} (h : Utf8.Spells utf8 s) : Spells 0x01 utf8 (.text s)
  | image {bs : Bytes} {r : BlobReference} (h : BlobReference.Spells bs r) :
    Spells 0x02 bs (.attachment ⟨.image, none, some r⟩)
  | file {bs mime name : Bytes} {r : BlobReference} {mimeType filename : String}
      (hr : BlobReference.Spells bs r) (hm : SpellsString mime mimeType)
      (hn : SpellsString name filename) :
    Spells 0x17 (bs ++ mime ++ name) (.attachment ⟨.file mimeType filename, none, some r⟩)
  | receipt (code : UInt8) {ids : List Bytes} (h₁ : 1 ≤ code.toNat) (h₄ : code.toNat ≤ 4)
      (hne : ids ≠ []) (hids : ∀ id ∈ ids, id.length = 8) :
    Spells 0x80 (code :: ids.flatten) (.receipt code.toNat ids)

variable {bs : Bytes} {m : Message}

/-! ### What is read of each kind -/

theorem decodeText_eq_ok_iff : decodeText bs = .ok m ↔ Spells 0x01 bs m := by
  constructor
  · intro h
    rw [decodeText] at h
    split at h <;> cases h
    rename_i s hs
    exact .text (Utf8.spells_iff.mpr (Utf8.decode_eq_ok_iff.mp hs))
  · intro h
    cases h with
    | text hs => rw [decodeText, Utf8.decode_eq_ok_iff.mpr (Utf8.spells_iff.mp hs)]

theorem decodeImage_eq_ok_iff : decodeImage bs = .ok m ↔ Spells 0x02 bs m := by
  constructor
  · intro h
    obtain ⟨r, hr, hm⟩ := Check.bind_eq_ok_iff.mp h
    cases hm
    exact .image (BlobReference.decode_eq_ok_iff.mp hr)
  · intro h
    cases h with
    | image hr => exact Check.bind_eq_ok_iff.mpr ⟨_, BlobReference.decode_eq_ok_iff.mpr hr, rfl⟩

theorem decodeFile_eq_ok_iff : decodeFile bs = .ok m ↔ Spells 0x17 bs m := by
  constructor
  · intro h
    rw [decodeFile] at h
    split at h
    · cases h
    obtain ⟨r, hr, h⟩ := Check.bind_eq_ok_iff.mp h
    obtain ⟨⟨mimeType, rest⟩, hmime, h⟩ := Check.bind_eq_ok_iff.mp h
    obtain ⟨⟨filename, rest'⟩, hname, h⟩ := Check.bind_eq_ok_iff.mp h
    simp only at h
    split at h
    · rename_i hempty
      cases h
      obtain ⟨mime, hm, hdrop⟩ := unpackString_eq_ok_iff.mp hmime
      obtain ⟨name, hn, hrest⟩ := unpackString_eq_ok_iff.mp hname
      rw [hrest, List.isEmpty_iff.mp hempty, List.append_nil] at hdrop
      have hbs : bs = bs.take BlobReference.size ++ mime ++ name := by
        rw [List.append_assoc, ← hdrop, List.take_append_drop]
      rw [hbs]
      exact .file (BlobReference.decode_eq_ok_iff.mp hr) hm hn
    · cases h
  · intro h
    cases h with
    | @file reference mime name r mimeType filename hr hm hn =>
      have hl := hr.length_eq
      have h₂ := hm.two_le_length
      have h₂' := hn.two_le_length
      have hname := unpackString_eq_ok_iff.mpr ⟨name, hn, (List.append_nil name).symm⟩
      rw [decodeFile, if_neg (by simp only [List.length_append]; omega), List.append_assoc,
        List.take_left' hl, List.drop_left' hl, BlobReference.decode_eq_ok_iff.mpr hr]
      simp only [bind, Except.bind, unpackString_eq_ok_iff.mpr ⟨mime, hm, rfl⟩, hname]
      rfl

theorem isReceiptType_iff {code : UInt8} :
    isReceiptType code = true ↔ 1 ≤ code.toNat ∧ code.toNat ≤ 4 := by
  simp [isReceiptType, UInt8.le_iff_toNat_le]

theorem decodeReceipt_eq_ok_iff : decodeReceipt bs = .ok m ↔ Spells 0x80 bs m := by
  constructor
  · intro h
    rw [decodeReceipt.eq_def] at h
    split at h
    case h_2 => cases h
    case h_1 code ids =>
      split at h
      · cases h
      split at h
      · cases h
      split at h
      · rename_i hlong heven htype
        cases h
        obtain ⟨h₁, h₄⟩ := isReceiptType_iff.mp htype
        obtain ⟨parts, rfl, hparts⟩ :=
          Bytes.exists_parts (Nat.mul_div_cancel' (Nat.dvd_of_mod_eq_zero (not_not.mp heven))).symm
        rw [Bytes.blocks_flatten (by decide) hparts]
        refine .receipt code h₁ h₄ ?_ hparts
        rintro rfl
        exact hlong (by simp [messageIdSize])
      · cases h
  · intro h
    cases h with
    | @receipt code ids h₁ h₄ hne hids =>
      have hl := Bytes.length_flatten_of_size hids
      have hpos : 0 < ids.length := List.length_pos_of_ne_nil hne
      rw [decodeReceipt, if_neg (by simp only [List.length_cons, hl, messageIdSize]; omega),
        if_neg (by simp [hl, messageIdSize]), if_pos (isReceiptType_iff.mpr ⟨h₁, h₄⟩),
        messageIdSize, Bytes.blocks_flatten (by decide) hids]

/-! ### What is read under a tag -/

theorem decodeAs_eq_ok_iff {kind : PayloadKind} : decodeAs kind bs = .ok m ↔ Spells kind.tag bs m :=
  match kind with
  | .text    => decodeText_eq_ok_iff
  | .image   => decodeImage_eq_ok_iff
  | .file    => decodeFile_eq_ok_iff
  | .receipt => decodeReceipt_eq_ok_iff

/-- The tag is of no kind, or there are fewer octets than in any payload of its kind. -/
def IsMisframed (tag : UInt8) (bs : Bytes) : Prop :=
  tag ∉ [0x01, 0x02, 0x17, 0x80] ∨ tag = 0x02 ∧ bs.length < 72 ∨ tag = 0x17 ∧ bs.length < 76 ∨
    tag = 0x80 ∧ bs.length < 9

theorem isMisframed_tag_iff {kind : PayloadKind} :
    IsMisframed kind.tag bs ↔ bs.length < minSize kind := by
  cases kind <;>
    simp [IsMisframed, PayloadKind.tag, minSize, BlobReference.size, BlobId.size, Key.size,
      nonceSize, messageIdSize]

variable {tag : UInt8}

theorem exists_kind_of_not_isMisframed (h : ¬ IsMisframed tag bs) :
    ∃ kind : PayloadKind, tag = kind.tag := by
  have hmem : tag ∈ [0x01, 0x02, 0x17, 0x80] := not_not.mp fun hnot => h (.inl hnot)
  simp only [List.mem_cons, List.not_mem_nil, or_false] at hmem
  rcases hmem with rfl | rfl | rfl | rfl
  exacts [⟨.text, rfl⟩, ⟨.image, rfl⟩, ⟨.file, rfl⟩, ⟨.receipt, rfl⟩]

/-- What spells a message is long enough for its kind. -/
theorem Spells.exists_kind (h : Spells tag bs m) :
    ∃ kind : PayloadKind, tag = kind.tag ∧ minSize kind ≤ bs.length := by
  cases h with
  | text => exact ⟨.text, rfl, Nat.zero_le _⟩
  | image hr => exact ⟨.image, rfl, hr.length_eq.ge⟩
  | file hr hm hn =>
    have h₂ := hm.two_le_length
    have h₂' := hn.two_le_length
    refine ⟨.file, rfl, ?_⟩
    simp only [minSize, List.length_append, hr.length_eq]
    omega
  | receipt code h₁ h₄ hne hids =>
    have hpos := List.length_pos_of_ne_nil hne
    refine ⟨.receipt, rfl, ?_⟩
    simp only [minSize, List.length_cons, Bytes.length_flatten_of_size hids, messageIdSize]
    omega

theorem Spells.not_isMisframed (h : Spells tag bs m) : ¬ IsMisframed tag bs := by
  obtain ⟨kind, rfl, hl⟩ := h.exists_kind
  rw [isMisframed_tag_iff, Nat.not_lt]
  exact hl

/-- A misframed payload is told as a malformed frame. -/
theorem decode_of_isMisframed (h : IsMisframed tag bs) :
    ∃ e, decode tag.toNat bs = .error e ∧ e.kind = .malformedFrame := by
  rw [decode]
  cases ho : PayloadKind.ofTag? tag.toNat with
  | none => exact ⟨_, rfl, rfl⟩
  | some kind =>
    obtain rfl := PayloadKind.ofTag?_eq_some_iff.mp ho
    rw [isMisframed_tag_iff] at h
    simp only [if_pos h]
    exact ⟨_, rfl, rfl⟩

/-- Octets under a tag are read as the messages that they spell. -/
theorem decode_eq_ok_iff : decode tag.toNat bs = .ok m ↔ Spells tag bs m := by
  by_cases hmis : IsMisframed tag bs
  · obtain ⟨e, he, -⟩ := decode_of_isMisframed hmis
    rw [he]
    exact ⟨nofun, fun h => absurd hmis h.not_isMisframed⟩
  · obtain ⟨kind, rfl⟩ := exists_kind_of_not_isMisframed hmis
    rw [isMisframed_tag_iff, Nat.not_lt] at hmis
    rw [decode_tag hmis, decodeAs_eq_ok_iff]

/-- There are three outcomes of reading a payload. It is told as a malformed frame if its tag is of
no kind or it is too short for its kind, it is read as the message that it spells, and whatever else
it is, it is told as a malformed payload. -/
theorem decode_trichotomy (tag : UInt8) (bs : Bytes) :
    ((∃ e, decode tag.toNat bs = .error e ∧ e.kind = .malformedFrame) ↔ IsMisframed tag bs) ∧
    (∀ m, decode tag.toNat bs = .ok m ↔ Spells tag bs m) ∧
    ((∃ e, decode tag.toNat bs = .error e ∧ e.kind = .malformedPayload) ↔
      ¬ IsMisframed tag bs ∧ ∀ m, ¬ Spells tag bs m) := by
  by_cases hmis : IsMisframed tag bs
  · obtain ⟨e, he, hk⟩ := decode_of_isMisframed hmis
    refine ⟨⟨fun _ => hmis, fun _ => ⟨e, he, hk⟩⟩, fun m => decode_eq_ok_iff, ?_⟩
    simp [he, hk, hmis]
  · obtain ⟨kind, rfl⟩ := exists_kind_of_not_isMisframed hmis
    have hdecode : decode kind.tag.toNat bs = decodeAs kind bs :=
      decode_tag (by rwa [isMisframed_tag_iff, Nat.not_lt] at hmis)
    refine ⟨?_, fun m => decode_eq_ok_iff, ?_⟩
    · refine ⟨?_, fun h => absurd h hmis⟩
      rintro ⟨e, he, hk⟩
      rw [hdecode] at he
      rw [kind_of_decodeAs he] at hk
      cases hk
    · simp only [← decode_eq_ok_iff, hdecode]
      cases hd : decodeAs kind bs with
      | ok m => simp
      | error e => simp [hmis, kind_of_decodeAs hd]

end Payload

end SealedPost
