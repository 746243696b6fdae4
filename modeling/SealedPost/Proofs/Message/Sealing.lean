import SealedPost.Proofs.Message.RoundTrip

/-!
# What leaves a sender

Whatever random source and transport there are, a message that is sealed at all is sealed around its
own payload, with the keys of the sender and the recipient. The data of an attachment are uploaded
before, once and encrypted, and the payload has the reference that came of the upload.
-/

namespace SealedPost

variable {ω : Type} {source : RandomSource ω} {t : BlobTransport ω} {P : ω → Prop}
  {Q : Option BlobId → Bytes → ω → Prop} {E : Bytes → ω → Prop} {w : ω}

/-! ### Uploads -/

/-- Where `P` holds an upload leads to a world of which `Q` holds, of the answer and of what was
uploaded, or at least `E`. The random source touches neither `P` nor `Q`. -/
structure BlobTransport.Uploads (t : BlobTransport ω) (source : RandomSource ω) (P : ω → Prop)
    (Q : Option BlobId → Bytes → ω → Prop) (E : Bytes → ω → Prop) : Prop where
  before : source.Leaves P
  upload : ∀ bs w, P w → (t.upload bs).EndsIn w (fun id w' => Q id bs w') (E bs)
  after : ∀ id bs, source.Leaves (Q id bs)
  weaken : ∀ id bs w, Q id bs w → E bs w

/-- The reference has a key and a nonce; `Q` holds of its id and of the data sealed with these. -/
def BlobReference.IsOf (data : Bytes) (Q : Option BlobId → Bytes → Prop) (r : BlobReference) :
    Prop :=
  ∃ (key nonce : Bytes) (id : Option BlobId), r = ⟨.octets key, .octets nonce, id⟩ ∧
    Q id (SecretBox.seal key nonce data)

theorem Blob.put_endsIn (ht : t.Uploads source P Q E) (hw : P w) (data : Bytes) :
    (put source t data).EndsIn w (fun r w' => r.IsOf data fun id box => Q id box w')
      fun w' => P w' ∨ ∃ key nonce, E (SecretBox.seal key nonce data) w' := by
  apply ((prepare_ensures ht.before hw data).endsIn.mono (fun _ _ => id) fun _ => .inl).bind
  rintro _ w₁ ⟨hw₁, key, nonce, -, -, rfl⟩
  have hupload := (ht.upload (SecretBox.seal key nonce data) w₁ hw₁).adaptExcept
    AttachmentSend.uploadFailure
  apply (hupload.mono (fun _ _ => id) fun w₂ hw₂ => .inr ⟨key, nonce, hw₂⟩).bind
  intro id w₂ hw₂
  exact Action.EndsIn.pure ⟨key, nonce, id, rfl, hw₂⟩

/-! ### Frames -/

/-- Was the envelope sealed, with the keys of a recipient and a sender, around the payload of a
message? -/
def Envelope.Holds (recipientPublic senderPrivate : Bytes) (m : Message) (e : Envelope) : Prop :=
  ∃ payload padding, m.encodePayload = .ok payload ∧
    e.IsSealed recipientPublic senderPrivate (m.payloadKind.tag :: payload ++ padding)

/-- A frame around the payload of a message is sealed around the payload. -/
theorem Message.seal_ensures (hs : source.Leaves P) (hw : P w) (m : Message) (floor : Int)
    (recipientPublic senderPrivate : Bytes) :
    (do
      let payload ← Action.ofExcept m.encodePayload
      let frame ← Frame.encode source m.payloadKind.tag.toNat payload floor
      Box.seal source frame recipientPublic senderPrivate : Action ω Envelope).Ensures w P
      (Envelope.Holds recipientPublic senderPrivate m) := by
  apply (Action.Ensures.ofExcept hw fun _ => id).bind
  intro payload w₁ hw₁ hm
  apply (Frame.encode_ensures_begins hs hw₁ m.payloadKind.tag payload floor).bind
  rintro _ w₂ hw₂ ⟨padding, rfl⟩
  apply (Box.seal_ensures_isSealed hs hw₂ _ _ _).mono
  rintro envelope ⟨_, _, hpublic, hprivate, hsealed⟩
  cases hpublic
  cases hprivate
  exact ⟨payload, padding, hm, hsealed⟩

/-! ### Messages -/

theorem Message.ComesAs.plain_or_attachment {m arrived : Message}
    {R : Bytes → BlobReference → Prop} (h : m.ComesAs false arrived R) :
    (m.isAttachment = false ∧ arrived = m) ∨ ∃ a data r, m = .attachment a ∧ a.data = some data ∧
      R data r ∧ arrived = .attachment ⟨a.kind, none, some r⟩ := by
  cases m with
  | text s => exact .inl ⟨rfl, h⟩
  | receipt receiptType ids => exact .inl ⟨rfl, h⟩
  | attachment a =>
    obtain ⟨data, r, hd, hr, rfl⟩ := h
    exact .inr ⟨a, data, r, rfl, hd, hr, rfl⟩

variable {recipientPublic senderPrivate : Bytes} {floor : Int}

theorem Attachment.encrypt_endsIn (ht : t.Uploads source P Q E) (hw : P w) (a : Attachment)
    (data : Bytes) :
    (a.encrypt source t floor recipientPublic senderPrivate data).EndsIn w
      (fun envelope w' => ∃ r, (r.IsOf data fun id box => Q id box w') ∧
        envelope.Holds recipientPublic senderPrivate (.attachment ⟨a.kind, none, some r⟩))
      fun w' => P w' ∨ ∃ key nonce, E (SecretBox.seal key nonce data) w' := by
  rw [Attachment.encrypt]
  apply (Blob.put_endsIn ht hw data).bind
  rintro _ w₁ ⟨key, nonce, id, rfl, hq⟩
  have hframed := Message.seal_ensures (ht.after _ _) hq
    (.attachment ⟨a.kind, none, some ⟨.octets key, .octets nonce, id⟩⟩) floor recipientPublic
    senderPrivate
  apply hframed.endsIn.mono
  · rintro envelope w₂ ⟨hw₂, hholds⟩
    exact ⟨_, ⟨key, nonce, id, rfl, hw₂⟩, hholds⟩
  · intro w₂ hw₂
    exact .inr ⟨key, nonce, ht.weaken _ _ _ hw₂⟩

/-- Sealing a message ends with an envelope of it, or with a failure before or after the upload of
the data of an attachment. -/
theorem Message.encrypt_endsIn (ht : t.Uploads source P Q E) (hw : P w) (m : Message)
    (sender : KeyPair) :
    (m.encrypt source sender recipientPublic floor (some t)).EndsIn w
      (fun envelope w' => (m.isAttachment = false → P w') ∧ ∃ sent, envelope.Holds recipientPublic
        sender.privateKey sent ∧ m.ComesAs false sent fun data r =>
          r.IsOf data fun id box => Q id box w')
      fun w' => P w' ∨ ∃ a data key nonce, m = .attachment a ∧ a.data = some data ∧
        E (SecretBox.seal key nonce data) w' := by
  rcases Message.encrypt_cases source m sender floor (some t) recipientPublic with
    ⟨e, he⟩ | ⟨_, ⟨⟩, -, ⟨hm, he⟩ | ⟨a, data, _, rfl, ha, ⟨⟩, he⟩⟩
  · rw [he]
    exact Action.EndsIn.throw (.inl hw) e
  · rw [he]
    apply (Message.seal_ensures ht.before hw m floor recipientPublic sender.privateKey).endsIn.mono
    · rintro envelope w₁ ⟨hw₁, hholds⟩
      exact ⟨fun _ => hw₁, m, hholds, .of_plain hm⟩
    · exact fun _ => .inl
  · rw [he]
    apply (Attachment.encrypt_endsIn ht hw a data).mono
    · rintro envelope w₁ ⟨r, hr, hholds⟩
      refine ⟨?_, _, hholds, data, r, ha, hr, rfl⟩
      rintro ⟨⟩
    · rintro w₁ (hw₁ | ⟨key, nonce, he⟩)
      · exact .inl hw₁
      · exact .inr ⟨a, data, key, nonce, rfl, ha, he⟩

end SealedPost
