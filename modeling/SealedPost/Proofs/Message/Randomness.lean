import SealedPost.Proofs.Dealings
import SealedPost.Proofs.Message.ReadBack
import SealedPost.Proofs.Message.Sealing

/-!
# What is drawn for a message

To seal a message takes one draw for each of a few purposes, in a fixed order: the key and the nonce
of a blob, the filler of a frame, the nonce of an envelope. No draw serves two of them, so two
nonces are alike only if the source hands over the same octets twice.
-/

namespace SealedPost

variable {ω : Type}

/-! ### Sizes of payloads -/

/-- The octets in the strings of an attachment, with those of their lengths. -/
def AttachmentKind.stringsSize : AttachmentKind → Nat
  | .image                  => 0
  | .file mimeType filename =>
    (2 + (Utf8.encode mimeType).length) + (2 + (Utf8.encode filename).length)

/-- The octets in the payload of a message. A reference has the same size before the upload. -/
def Message.payloadSize : Message → Nat
  | .text s        => (Utf8.encode s).length
  | .attachment a  => BlobReference.size + a.kind.stringsSize
  | .receipt _ ids => 1 + ids.flatten.length

theorem size_of_packString {name s : String} {bs : Bytes} (h : packString name s = .ok bs) :
    bs.length = 2 + (Utf8.encode s).length := by
  rw [packString_eq_ok (length_of_packString h)] at h
  cases h
  simp

theorem Attachment.size_of_encodePayload {kind : AttachmentKind} {data : Option Bytes}
    {key nonce bs : Bytes} {id : Option BlobId} (hk : key.length = Key.size)
    (hn : nonce.length = nonceSize)
    (h : encodePayload ⟨kind, data, some ⟨.octets key, .octets nonce, id⟩⟩ = .ok bs) :
    bs.length = BlobReference.size + kind.stringsSize := by
  obtain ⟨-, r, i, hr, hi⟩ := fits_of_encodePayload h
  cases hr
  obtain rfl : id = some i := hi
  obtain ⟨front, hfront, h⟩ := Check.bind_eq_ok_iff.mp h
  have hlength : front.length = BlobReference.size := by
    obtain ⟨_, hencode, hsize, -⟩ :=
      BlobReference.IsComplete.decode_encode ⟨key, nonce, i, rfl, hk, hn⟩
    cases hencode.symm.trans hfront
    exact hsize
  cases kind with
  | image =>
    cases h
    exact hlength
  | file mimeType filename =>
    obtain ⟨_, hm, h⟩ := Check.bind_eq_ok_iff.mp h
    obtain ⟨_, hf, h⟩ := Check.bind_eq_ok_iff.mp h
    cases h
    rw [List.length_append, List.length_append, hlength, size_of_packString hm,
      size_of_packString hf, AttachmentKind.stringsSize, Nat.add_assoc]

theorem Message.size_of_encodePayload {m : Message} {bs : Bytes} (hm : m.isAttachment = false)
    (h : m.encodePayload = .ok bs) : bs.length = m.payloadSize := by
  cases m with
  | text s =>
    rw [encodePayload] at h
    split at h <;> cases h
    rfl
  | attachment a => cases hm
  | receipt receiptType ids =>
    have hids := packIds_eq_ok (ids_of_encodePayload_receipt h).2
    rw [encodePayload, hids] at h
    split at h
    · cases h
    · obtain ⟨_, ⟨⟩, h⟩ := Check.bind_eq_ok_iff.mp h
      split at h <;> cases h
      rw [payloadSize, List.length_cons, Nat.add_comm]

/-! ### Purposes -/

/-- What a draw is for. -/
inductive Purpose where
  | blobKey
  | blobNonce
  | filler
  | envelopeNonce
  deriving DecidableEq

namespace Purpose

/-- How much is drawn for a purpose, with a padding of a length. -/
def size (padding : Int) : Purpose → Nat
  | .blobKey                    => Key.size
  | .blobNonce | .envelopeNonce => nonceSize
  | .filler                     => (padding - 1).toNat

/-- What is drawn for when a frame is built and sealed: a filler only where there is more to the
padding than its length. -/
def ofFrame (padding : Int) : List Purpose :=
  (if 1 < padding then [.filler] else []) ++ [.envelopeNonce]

theorem map_size_ofFrame (padding : Int) :
    (ofFrame padding).map (size padding) = Frame.fillerSizes padding ++ [nonceSize] := by
  rw [ofFrame, Frame.fillerSizes]
  split <;> rfl

/-- Octets for each purpose. -/
def assign (blobKey blobNonce filler envelopeNonce : Bytes) : Purpose → Bytes
  | .blobKey       => blobKey
  | .blobNonce     => blobNonce
  | .filler        => filler
  | .envelopeNonce => envelopeNonce

/-- The octets that were drawn for a nonce. -/
def nonce? : Purpose × Nat × Except Failure Material → Option Bytes
  | (.blobNonce, _, .ok (.octets bs)) | (.envelopeNonce, _, .ok (.octets bs)) => some bs
  | _ => none

end Purpose

namespace Message

/-- The length of the padding of a message. -/
def padding (m : Message) (floor : Int) : Int := Frame.padding m.payloadSize floor

/-- What is drawn for when a message is sealed, in this order: a blob only for an attachment. -/
def purposes (m : Message) (floor : Int) : List Purpose :=
  (if m.isAttachment then [.blobKey, .blobNonce] else []) ++ Purpose.ofFrame (m.padding floor)

theorem purposes_nodup (m : Message) (floor : Int) : (m.purposes floor).Nodup := by
  rw [purposes, Purpose.ofFrame]
  split_ifs <;> decide

/-- The sizes of all that is drawn for a message. -/
def sizes (m : Message) (floor : Int) : List Nat :=
  (m.purposes floor).map (Purpose.size (m.padding floor))

/-- The sizes of what is drawn for a frame and its envelope. -/
def frameSizes (m : Message) (floor : Int) : List Nat :=
  Frame.fillerSizes (m.padding floor) ++ [nonceSize]

theorem sizes_of_plain {m : Message} (h : m.isAttachment = false) (floor : Int) :
    m.sizes floor = m.frameSizes floor := by
  rw [sizes, purposes, h]
  exact Purpose.map_size_ofFrame _

theorem sizes_of_attachment (a : Attachment) (floor : Int) :
    sizes (.attachment a) floor = [Key.size, nonceSize] ++ frameSizes (.attachment a) floor := by
  rw [sizes, purposes, List.map_append, Purpose.map_size_ofFrame]
  rfl

-- the payload of an image reaches the floor by itself
example : sizes (.attachment ⟨.image, none, none⟩) 32 = [32, 24, 24] := by decide

end Message

/-! ### Frames in envelopes -/

/-- Was the envelope sealed, with the keys of a recipient and a sender, around the frame of a
message with this filler? -/
def Envelope.Frames (recipientPublic senderPrivate : Bytes) (m : Message) (floor : Int)
    (filler : Bytes) (e : Envelope) : Prop :=
  ∃ payload, m.encodePayload = .ok payload ∧
    Frame.paddingLength payload.length floor = .ok (m.padding floor) ∧
    e.IsSealed recipientPublic senderPrivate
      (m.payloadKind.tag :: payload ++ filler ++ [UInt8.ofNat (m.padding floor).toNat])

/-- The dealings of a frame that is built and sealed. -/
def Frame.sealDealings (padding : Int) (filler nonce : Bytes) : List Dealing :=
  fillerDealings padding filler ++ [.draw nonceSize (.ok (.octets nonce))]

theorem Frame.draws_sealDealings (padding : Int) (value : Purpose → Bytes) :
    draws (sealDealings padding (value .filler) (value .envelopeNonce)) =
      (Purpose.ofFrame padding).map fun p => (p.size padding, .ok (.octets (value p))) := by
  rw [sealDealings, fillerDealings, Purpose.ofFrame]
  split <;> rfl

theorem Frame.follows_sealDealings (padding : Int) (filler nonce : Bytes) :
    Follows (sealDealings padding filler nonce) (fillerSizes padding ++ [nonceSize]) :=
  .append (map_size_fillerDealings padding filler) List.prefix_rfl

theorem Message.seal_deals (source : RandomSource ω) {m : Message}
    (hm : ∀ bs, m.encodePayload = .ok bs → bs.length = m.payloadSize) (floor : Int)
    (recipientPublic senderPrivate : Bytes) :
    (do
      let payload ← Action.ofExcept m.encodePayload
      let frame ← Frame.encode source.observed m.payloadKind.tag.toNat payload floor
      Box.seal source.observed frame recipientPublic senderPrivate :
        Action (ω × List Dealing) Envelope).Deals
      (fun e ds => ∃ filler, (¬ 1 < m.padding floor → filler = []) ∧
        e.Frames recipientPublic senderPrivate m floor filler ∧
        ds = Frame.sealDealings (m.padding floor) filler e.nonce)
      fun ds => Follows ds (m.frameSizes floor) := by
  refine .ofExcept_bind (.nil _) fun payload hpayload => ?_
  have hpadding : Frame.padding payload.length floor = m.padding floor := by
    rw [padding, hm payload hpayload]
  have hencode := Frame.encode_deals source m.payloadKind.tag payload floor
  rw [hpadding] at hencode
  apply hencode.bind fun _ h => h.extend [nonceSize]
  rintro _ _ ⟨filler, hlength, hfiller, rfl, rfl⟩
  apply (Box.seal_deals source _ recipientPublic senderPrivate).mono
  · rintro e _ ⟨hsealed, rfl⟩
    exact ⟨filler, hfiller, ⟨payload, hpayload, hlength, hsealed⟩, rfl⟩
  · intro ds h
    exact h.append (Frame.map_size_fillerDealings _ _)

/-- An attachment is sealed after its data have been put into a blob. -/
theorem Attachment.encrypt_deals (source : RandomSource ω) (t : BlobTransport ω) (floor : Int)
    (recipientPublic senderPrivate data : Bytes) (a : Attachment) :
    (a.encrypt source.observed t.observed floor recipientPublic senderPrivate data).Deals
      (fun e ds => ∃ key nonce id filler, key.length = Key.size ∧ nonce.length = nonceSize ∧
        (¬ 1 < Message.padding (.attachment a) floor → filler = []) ∧
        e.Frames recipientPublic senderPrivate
          (.attachment ⟨a.kind, none, some ⟨.octets key, .octets nonce, id⟩⟩) floor filler ∧
        ds = Blob.dealings key nonce data (.ok id) ++
          Frame.sealDealings (Message.padding (.attachment a) floor) filler e.nonce)
      fun ds => Follows ds [Key.size, nonceSize] ∨
        ∃ key nonce, (∃ e, ds = Blob.dealings key nonce data (.error e)) ∨
          ∃ id ds', ds = Blob.dealings key nonce data (.ok id) ++ ds' ∧
            Follows ds' (Message.frameSizes (.attachment a) floor) := by
  rw [Attachment.encrypt]
  apply (Blob.put_deals source t data).bind
  · rintro ds (h | ⟨key, nonce, h⟩)
    · exact .inl h
    · exact .inr ⟨key, nonce, .inl h⟩
  rintro _ _ ⟨key, nonce, id, hkey, hnonce, rfl, rfl⟩
  have hseal := Message.seal_deals source
    (m := .attachment ⟨a.kind, none, some ⟨.octets key, .octets nonce, id⟩⟩)
    (fun _ => size_of_encodePayload hkey hnonce) floor recipientPublic senderPrivate
  apply hseal.mono
  · rintro e _ ⟨filler, hfiller, hframes, rfl⟩
    exact ⟨key, nonce, id, filler, hkey, hnonce, hfiller, hframes, rfl⟩
  · intro ds' h
    exact .inr ⟨key, nonce, .inr ⟨id, ds', rfl, h⟩⟩

/-! ### Records -/

/-- A message that is to be sealed, with all that is given for it. -/
structure Sealing (ω : Type) where
  message : Message
  sender : KeyPair
  recipientPublic : Material
  floor : Int
  transport : Option (BlobTransport ω)

/-- Seals the message over an observed source and an observed transport. -/
def Sealing.observed (source : RandomSource ω) (s : Sealing ω) :
    Action (ω × List Dealing) Envelope :=
  s.message.encrypt source.observed s.sender s.recipientPublic s.floor
    (s.transport.map BlobTransport.observed)

namespace Sealing

/-- What was dealt when a message was sealed, and what came of it. -/
structure Record (ω : Type) extends Sealing ω where
  dealings : List Dealing
  outcome : Except Failure Envelope

namespace Record

def draws (r : Record ω) : List (Nat × Except Failure Material) := SealedPost.draws r.dealings

/-- The nonces of a blob and an envelope: what was drawn for these purposes. -/
def nonces (r : Record ω) : List Bytes :=
  ((r.message.purposes r.floor).zip r.draws).filterMap Purpose.nonce?

/-- The envelope holds the message, and each draw serves its own purpose in it; the octets that were
drawn are given for each purpose. -/
structure Spends (r : Record ω) (value : Purpose → Bytes) (e : Envelope) : Prop where
  draws : r.draws = (r.message.purposes r.floor).map
    fun p => (p.size (r.message.padding r.floor), .ok (.octets (value p)))
  nonce : e.nonce = value .envelopeNonce
  filler : ¬ 1 < r.message.padding r.floor → value .filler = []
  frames : ∃ recipientPublic sent, r.recipientPublic = .octets recipientPublic ∧
    e.Frames recipientPublic r.sender.privateKey sent r.floor (value .filler) ∧
    r.message.ComesAs false sent fun data reference => ∃ id,
      reference = ⟨.octets (value .blobKey), .octets (value .blobNonce), id⟩ ∧
      .upload (SecretBox.seal (value .blobKey) (value .blobNonce) data) (.ok id) ∈ r.dealings

/-- What is drawn for a message is accounted for. -/
structure Accounts (r : Record ω) : Prop where
  /-- No purpose comes twice. -/
  distinct : (r.message.purposes r.floor).Nodup
  /-- Nothing is drawn but for these purposes, one after the other. -/
  planned : r.draws.map Prod.fst <+: r.message.sizes r.floor
  /-- Without a key of the recipient nothing is done. -/
  refused : (∀ bs : Bytes, r.recipientPublic = .octets bs → bs.length ≠ Key.size) → r.dealings = []
  failedUpload : ∀ bs e, .upload bs (.error e) ∈ r.dealings →
    r.draws.map Prod.fst = [Key.size, nonceSize]
  /-- What is uploaded was sealed with the key and the nonce that were drawn first. -/
  uploaded : ∀ bs answer, .upload bs answer ∈ r.dealings → ∃ a data key nonce rest,
    r.message = .attachment a ∧ a.data = some data ∧ bs = SecretBox.seal key nonce data ∧
    r.draws = (Key.size, .ok (.octets key)) :: (nonceSize, .ok (.octets nonce)) :: rest ∧
    nonce ∈ r.nonces
  sealed : ∀ e, r.outcome = .ok e → (∃ value, r.Spends value e) ∧ e.nonce ∈ r.nonces

theorem nonce_mem_of_spends {r : Record ω} {e : Envelope} (h : ∃ value, r.Spends value e) :
    e.nonce ∈ r.nonces := by
  obtain ⟨value, hspends⟩ := h
  have hmem : .envelopeNonce ∈ r.message.purposes r.floor := by
    simp [Message.purposes, Purpose.ofFrame]
  rw [nonces, hspends.draws, ← List.map_prod_left_eq_zip, hspends.nonce]
  exact List.mem_filterMap.mpr ⟨_, List.mem_map_of_mem hmem, rfl⟩

/-! ### Accounts of one sealing -/

variable {s : Sealing ω} {ds : List Dealing} {outcome : Except Failure Envelope} {key : Bytes}

theorem Accounts.nil (s : Sealing ω) (e : Failure) : Accounts ⟨s, [], .error e⟩ where
  distinct := s.message.purposes_nodup s.floor
  planned := List.nil_prefix
  refused := fun _ => rfl
  failedUpload := nofun
  uploaded := nofun
  sealed := nofun

/-- Where nothing but draws is dealt, it is a matter of their sizes. -/
theorem Accounts.of_follows (hkey : s.recipientPublic = .octets key) (hl : key.length = Key.size)
    (h : Follows ds (s.message.sizes s.floor))
    (hsealed : ∀ e, outcome = .ok e → ∃ value, Spends ⟨s, ds, outcome⟩ value e) :
    Accounts ⟨s, ds, outcome⟩ where
  distinct := s.message.purposes_nodup s.floor
  planned := h.draws_prefix
  refused := fun hr => absurd hl (hr key hkey)
  failedUpload := fun bs e hmem => absurd hmem (h.not_mem_upload bs (.error e))
  uploaded := fun bs answer hmem => absurd hmem (h.not_mem_upload bs answer)
  sealed := fun e he => ⟨hsealed e he, nonce_mem_of_spends (hsealed e he)⟩

/-- An upload that is made is the only one, and if it fails there is nothing more to account for. -/
theorem Accounts.of_upload {a : Attachment} {data blobKey blobNonce : Bytes}
    {answer : Except Failure (Option BlobId)} (hkey : s.recipientPublic = .octets key)
    (hl : key.length = Key.size) (hm : s.message = .attachment a) (ha : a.data = some data)
    (h : Follows ds (s.message.frameSizes s.floor)) (hfailed : ∀ e, answer = .error e → ds = [])
    (hsealed : ∀ e, outcome = .ok e →
      ∃ value, Spends ⟨s, Blob.dealings blobKey blobNonce data answer ++ ds, outcome⟩ value e) :
    Accounts ⟨s, Blob.dealings blobKey blobNonce data answer ++ ds, outcome⟩ := by
  have hupload {bs : Bytes} {answer' : Except Failure (Option BlobId)}
      (hmem : .upload bs answer' ∈ Blob.dealings blobKey blobNonce data answer ++ ds) :
      bs = SecretBox.seal blobKey blobNonce data ∧ answer' = answer := by
    rcases List.mem_append.mp hmem with hmem | hmem
    · simpa [Blob.dealings] using hmem
    · exact absurd hmem (h.not_mem_upload bs answer')
  have hdraws : draws ⟨s, Blob.dealings blobKey blobNonce data answer ++ ds, outcome⟩ =
      (Key.size, .ok (.octets blobKey)) :: (nonceSize, .ok (.octets blobNonce)) ::
        SealedPost.draws ds := rfl
  constructor
  case distinct => exact s.message.purposes_nodup s.floor
  case planned =>
    simp only [hm] at h ⊢
    rw [hdraws, Message.sizes_of_attachment]
    exact (List.prefix_append_right_inj [Key.size, nonceSize]).mpr h.draws_prefix
  case refused => exact fun hr => absurd hl (hr key hkey)
  case failedUpload =>
    intro bs e hmem
    rw [hdraws, hfailed e (hupload hmem).2.symm]
    rfl
  case uploaded =>
    intro bs answer' hmem
    refine ⟨a, data, blobKey, blobNonce, _, hm, ha, (hupload hmem).1, hdraws, ?_⟩
    simp [nonces, hdraws, hm, Message.purposes, Message.isAttachment, Purpose.nonce?]
  case sealed => exact fun e he => ⟨hsealed e he, nonce_mem_of_spends (hsealed e he)⟩

end Record

variable {sender : KeyPair} {key : Bytes} {floor : Int} {transport : Option (BlobTransport ω)}

/-- A message without a blob is framed and sealed, and that is all. -/
theorem plain_deals (source : RandomSource ω) {m : Message} (hm : m.isAttachment = false)
    (hl : key.length = Key.size) :
    (do
      let payload ← Action.ofExcept m.encodePayload
      let frame ← Frame.encode source.observed m.payloadKind.tag.toNat payload floor
      Box.seal source.observed frame key sender.privateKey :
        Action (ω × List Dealing) Envelope).Deals
      (fun e ds => Record.Accounts ⟨⟨m, sender, key, floor, transport⟩, ds, .ok e⟩)
      fun ds => ∀ e, Record.Accounts ⟨⟨m, sender, key, floor, transport⟩, ds, .error e⟩ := by
  have hseal := m.seal_deals source (fun _ => Message.size_of_encodePayload hm) floor key
    sender.privateKey
  apply hseal.mono
  · rintro e _ ⟨filler, hfiller, hframes, rfl⟩
    have hfollows := Frame.follows_sealDealings (m.padding floor) filler e.nonce
    refine .of_follows rfl hl ((m.sizes_of_plain hm floor).symm ▸ hfollows) ?_
    rintro _ ⟨⟩
    refine ⟨Purpose.assign [] [] filler e.nonce, ?_, rfl, hfiller, key, m, rfl, hframes, ?_⟩
    · simp only [Message.purposes, hm]
      exact Frame.draws_sealDealings _ (Purpose.assign [] [] filler e.nonce)
    · exact .of_plain hm
  · intro ds h e
    exact .of_follows rfl hl ((m.sizes_of_plain hm floor).symm ▸ h) nofun

theorem attachment_deals (source : RandomSource ω) (t : BlobTransport ω) {a : Attachment}
    {data : Bytes} (ha : a.data = some data) (hl : key.length = Key.size) :
    (a.encrypt source.observed t.observed floor key sender.privateKey data).Deals
      (fun e ds => Record.Accounts ⟨⟨.attachment a, sender, key, floor, transport⟩, ds, .ok e⟩)
      fun ds => ∀ e,
        Record.Accounts ⟨⟨.attachment a, sender, key, floor, transport⟩, ds, .error e⟩ := by
  apply (a.encrypt_deals source t floor key sender.privateKey data).mono
  · rintro e _ ⟨blobKey, blobNonce, id, filler, -, -, hfiller, hframes, rfl⟩
    refine .of_upload rfl hl rfl ha (Frame.follows_sealDealings _ _ _) nofun ?_
    rintro _ ⟨⟩
    let value := Purpose.assign blobKey blobNonce filler e.nonce
    refine ⟨value, ?_, rfl, hfiller, key, _, rfl, hframes, data, _, ha, ⟨id, rfl, ?_⟩, rfl⟩
    · have hdraws := Frame.draws_sealDealings (Message.padding (.attachment a) floor) value
      rw [Record.draws, draws_append, Message.purposes, List.map_append]
      exact congrArg (_ ++ ·) hdraws
    · exact List.mem_append_left _ (by simp [Blob.dealings, value, Purpose.assign])
  -- a failure comes before the upload, of the upload or after it
  · rintro ds (h | ⟨blobKey, blobNonce, ⟨cause, rfl⟩ | ⟨id, ds', rfl, h⟩⟩) e
    · refine .of_follows rfl hl ?_ nofun
      rw [Message.sizes_of_attachment]
      exact h.extend _
    · rw [← List.append_nil (Blob.dealings ..)]
      exact .of_upload rfl hl rfl ha (.nil _) (fun _ _ => rfl) nofun
    · exact .of_upload rfl hl rfl ha h nofun nofun

/-- Whatever comes of it, to seal a message is accounted for. -/
theorem observed_deals (source : RandomSource ω) (s : Sealing ω) :
    (s.observed source).Deals (fun e ds => Record.Accounts ⟨s, ds, .ok e⟩)
      fun ds => ∀ e, Record.Accounts ⟨s, ds, .error e⟩ := by
  obtain ⟨m, sender, recipientPublic, floor, transport⟩ := s
  simp only [observed]
  rcases Message.encrypt_cases source.observed m sender floor
    (transport.map BlobTransport.observed) recipientPublic with
    ⟨e, he⟩ | ⟨key, rfl, hl, ⟨hm, he⟩ | ⟨a, data, _, rfl, ha, ht, he⟩⟩
  · rw [he]
    exact .throw (Record.Accounts.nil _) e
  · rw [he]
    exact plain_deals source hm hl
  · obtain ⟨t, -, rfl⟩ := Option.map_eq_some_iff.mp ht
    rw [he]
    exact attachment_deals source t ha hl

/-! ### Runs -/

/-- What happens in a run: a message is sealed, or the world changes in between. -/
inductive Event (ω : Type) where
  | sealing (s : Sealing ω)
  | elapse (world : ω)

/-- What comes of sealing a message in a world. -/
def record (source : RandomSource ω) (s : Sealing ω) (w : ω) : Record ω :=
  ⟨s, ((s.observed source).after (w, [])).2, (s.observed source).outcome (w, [])⟩

/-- The records of a run, one for each message. Messages that could not be sealed are among them. -/
def run (source : RandomSource ω) : List (Event ω) → ω → List (Record ω)
  | [], _                       => []
  | .elapse world :: events, _  => run source events world
  | .sealing s :: events, w     =>
    record source s w :: run source events ((s.observed source).after (w, [])).1

/-- What a sealing deals, and what comes of it, is in its record. -/
theorem of_deals {source : RandomSource ω} {s : Sealing ω}
    {P : Except Failure Envelope → List Dealing → Prop}
    (h : (s.observed source).Deals (fun e => P (.ok e)) fun ds => ∀ e, P (.error e) ds) (w : ω) :
    P (record source s w).outcome (record source s w).dealings := by
  have hdeals := h w []
  cases hs : s.observed source (w, []) with
  | ok e w' =>
    obtain ⟨ds, hds, hp⟩ := hdeals.ok hs
    rw [List.nil_append] at hds
    simp only [record, Action.after, Action.outcome, hs, hds]
    exact hp
  | error e w' =>
    obtain ⟨ds, hds, hp⟩ := hdeals.error hs
    rw [List.nil_append] at hds
    simp only [record, Action.after, Action.outcome, hs, hds]
    exact hp e

theorem record_accounts (source : RandomSource ω) (s : Sealing ω) (w : ω) :
    (record source s w).Accounts :=
  of_deals (P := fun outcome ds => Record.Accounts ⟨s, ds, outcome⟩) (observed_deals source s) w

theorem accounts_of_mem_run {source : RandomSource ω} {events : List (Event ω)} {w : ω}
    {r : Record ω} (h : r ∈ run source events w) : r.Accounts := by
  induction events generalizing w with
  | nil => cases h
  | cons event events ih =>
    cases event with
    | elapse world => exact ih h
    | sealing s =>
      rcases List.mem_cons.mp h with rfl | h
      · exact record_accounts source s w
      · exact ih h

/-! ### Nonces of a run -/

/-- What came of a draw of the size of a nonce, if it did not fail. -/
def nonceDraw? : Nat × Except Failure Material → Option Material
  | (size, .ok m) => if size = nonceSize then some m else none
  | _             => none

theorem nonceDraw_of_nonce {p : Purpose} {padding : Int} {answer : Except Failure Material}
    {bs : Bytes} (h : Purpose.nonce? (p, p.size padding, answer) = some bs) :
    nonceDraw? (p.size padding, answer) = some (.octets bs) := by
  rw [Purpose.nonce?.eq_def] at h
  split at h <;> cases h <;> simp_all [nonceDraw?, Purpose.size]

/-- What is drawn for nonces is among the draws of their size. -/
theorem nonces_sublist {padding : Int} {purposes : List Purpose}
    {draws : List (Nat × Except Failure Material)}
    (h : draws.map Prod.fst <+: purposes.map (Purpose.size padding)) :
    (((purposes.zip draws).filterMap Purpose.nonce?).map Material.octets).Sublist
      (draws.filterMap nonceDraw?) := by
  -- with each draw its purpose is taken off, which says how much was drawn
  induction draws generalizing purposes with
  | nil => simp
  | cons draw draws ih =>
    cases purposes with
    | nil => simp
    | cons p purposes =>
      rw [List.map_cons, List.map_cons, List.cons_prefix_cons] at h
      have hrest := ih h.2
      obtain ⟨size, answer⟩ := draw
      obtain rfl : size = p.size padding := h.1
      rw [List.zip_cons_cons]
      cases hp : Purpose.nonce? (p, p.size padding, answer) with
      | none =>
        rw [List.filterMap_cons_none hp]
        exact hrest.trans ((List.sublist_cons_self _ _).filterMap _)
      | some bs =>
        rw [List.filterMap_cons_some hp, List.filterMap_cons_some (nonceDraw_of_nonce hp)]
        exact hrest.cons_cons _

theorem nonces_sublist_of_accounts {records : List (Record ω)} (h : ∀ r ∈ records, r.Accounts) :
    ((records.flatMap Record.nonces).map Material.octets).Sublist
      ((records.flatMap Record.draws).filterMap nonceDraw?) := by
  induction records with
  | nil => exact .slnil
  | cons r records ih =>
    rw [List.forall_mem_cons] at h
    rw [List.flatMap_cons, List.flatMap_cons, List.map_append, List.filterMap_append]
    exact (nonces_sublist h.1.planned).append (ih h.2)

/-- In any run over one random source each draw serves one purpose. So if all draws of 24 octets
differ, so do all nonces of blobs and envelopes. -/
theorem draws_serve_once (source : RandomSource ω) (events : List (Event ω)) (w : ω) :
    (∀ r ∈ run source events w, r.Accounts) ∧
      ((((run source events w).flatMap Record.draws).filterMap nonceDraw?).Nodup →
        ((run source events w).flatMap Record.nonces).Nodup) := by
  have haccounts : ∀ r ∈ run source events w, r.Accounts := fun r => accounts_of_mem_run
  exact ⟨haccounts, fun h => (h.sublist (nonces_sublist_of_accounts haccounts)).of_map _⟩

/-- An image is sealed, another one cannot be uploaded, and a text is sealed after them. -/
theorem draws_serve_once_images :
    ∃ (source : RandomSource (Nat × BlobStore)) (events : List (Event (Nat × BlobStore)))
      (w : Nat × BlobStore),
      (((run source events w).flatMap Record.draws).filterMap nonceDraw?).Nodup ∧
      ((run source events w).flatMap Record.nonces).length = 4 ∧
      ((run source events w).flatMap Record.nonces).Nodup := by
  let image : Message := .attachment ⟨.image, some [1, 2, 3], none⟩
  let recipient : Material := (KeyPair.uniform 2).publicKey
  let noRoute : BlobTransport (Nat × BlobStore) :=
    .answering (.error (.reported .connection "no route")) (.ok none)
  let events : List (Event (Nat × BlobStore)) :=
    [.sealing ⟨image, .uniform 1, recipient, 32, some BlobStore.transport.onSecond⟩,
      .sealing ⟨image, .uniform 1, recipient, 32, some noRoute⟩,
      .sealing ⟨.text "hi", .uniform 1, recipient, 32, none⟩]
  have hdraws : (((run RandomSource.numbered.onFirst events (0, .empty)).flatMap
      Record.draws).filterMap nonceDraw?).Nodup := by decide +kernel
  exact ⟨_, events, (0, .empty), hdraws, by decide +kernel,
    (draws_serve_once RandomSource.numbered.onFirst events (0, .empty)).2 hdraws⟩

end Sealing

end SealedPost
