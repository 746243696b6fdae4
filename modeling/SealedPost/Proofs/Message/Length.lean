import SealedPost.Proofs.Message.Arrival

/-!
# What the length of an envelope tells

A box is longer than its frame by a tag, and a frame is no longer than its payload and its floor
make it. Below the floor all payloads are of one length to those who see the envelope only. The data
of an attachment lie in a blob, so that the payload is of one size whatever they are.
-/

namespace SealedPost

variable {ω : Type} {source : RandomSource ω} {P : ω → Prop} {w : ω}

/-! ### One envelope -/

/-- Was the envelope sealed, with the keys of a recipient and a sender, around a payload of a
message that was framed for a floor? -/
def Envelope.Fills (recipientPublic senderPrivate : Bytes) (m : Message) (floor : Int)
    (payload : Bytes) (e : Envelope) : Prop :=
  ∃ frame, m.encodePayload = .ok payload ∧
    Frame.IsFramed floor m.payloadKind.tag payload frame ∧
    e.IsSealed recipientPublic senderPrivate frame

theorem Envelope.Fills.length_box {recipientPublic senderPrivate payload : Bytes} {m : Message}
    {floor : Int} {e : Envelope} (h : e.Fills recipientPublic senderPrivate m floor payload) :
    (e.box.length : Int) = 16 + max floor (payload.length + 2) := by
  obtain ⟨frame, -, hframed, shared, -, hbox⟩ := h
  rw [hbox, SecretBox.length_seal, ← hframed.length_eq]
  omega

theorem Message.seal_ensures_fills (hs : source.Supplies P) (hw : P w) (m : Message) (floor : Int)
    (recipientPublic senderPrivate : Bytes) :
    (do
      let payload ← Action.ofExcept m.encodePayload
      let frame ← Frame.encode source m.payloadKind.tag.toNat payload floor
      Box.seal source frame recipientPublic senderPrivate : Action ω Envelope).Ensures w P
      fun e => ∃ payload, e.Fills recipientPublic senderPrivate m floor payload := by
  apply (Action.Ensures.ofExcept hw fun _ => id).bind
  intro payload w₁ hw₁ hpayload
  apply (Frame.encode_ensures_isFramed hs hw₁ m.payloadKind.tag payload floor).bind
  intro frame w₂ hw₂ hframed
  apply (Box.seal_ensures_isSealed hs.leaves hw₂ _ _ _).mono
  rintro e ⟨_, _, ⟨⟩, ⟨⟩, hsealed⟩
  exact ⟨payload, frame, hpayload, hframed, hsealed⟩

/-! ### Messages -/

namespace Sealing

variable {ω' : Type} {s : Sealing ω} {s' : Sealing ω'} {e e' : Envelope}

/-- Does the sealing succeed with this envelope, over a source that hands over what it is asked
for? -/
def Gives (s : Sealing ω) (e : Envelope) : Prop :=
  ∃ source : RandomSource ω, source.IsExact ∧ ∃ w w',
    s.message.encrypt source s.sender s.recipientPublic s.floor s.transport w = .ok e w'

/-- Was the envelope sealed around this payload of the message? The payload of an attachment has the
reference that came of the upload. -/
def Carries (s : Sealing ω) (payload : Bytes) (e : Envelope) : Prop :=
  ∃ key sent, s.recipientPublic = .octets key ∧ (s.message.ComesAs false sent fun _ _ => True) ∧
    e.Fills key s.sender.privateKey sent s.floor payload

theorem encrypt_ensures_carries (hs : source.IsExact) (s : Sealing ω) (w : ω) :
    (s.message.encrypt source s.sender s.recipientPublic s.floor s.transport).Ensures w
      (fun _ => True) fun e => ∃ payload, s.Carries payload e ∧
        payload.length = s.message.payloadSize := by
  obtain ⟨m, sender, recipientPublic, floor, transport⟩ := s
  simp only
  rcases Message.encrypt_cases source m sender floor transport recipientPublic with
    ⟨e, he⟩ | ⟨key, rfl, -, ⟨hm, he⟩ | ⟨a, data, t, rfl, ha, -, he⟩⟩
  · rw [he]
    exact Action.Ensures.throw trivial e
  · rw [he]
    apply (Message.seal_ensures_fills hs.supplies trivial m floor key sender.privateKey).mono
    rintro e ⟨payload, hfills⟩
    refine ⟨payload, ⟨key, m, rfl, .of_plain hm, hfills⟩, ?_⟩
    exact Message.size_of_encodePayload hm hfills.choose_spec.1
  · rw [he]
    apply (Blob.put_ensures source t data w).bind
    rintro _ w₁ - ⟨blobKey, nonce, id, hkey, hnonce, rfl⟩
    apply (Message.seal_ensures_fills hs.supplies trivial
      (.attachment ⟨a.kind, none, some ⟨.octets blobKey, .octets nonce, id⟩⟩) floor key
      sender.privateKey).mono
    rintro e ⟨payload, hfills⟩
    refine ⟨payload, ⟨key, _, rfl, ⟨data, _, ha, trivial, rfl⟩, hfills⟩, ?_⟩
    exact Attachment.size_of_encodePayload hkey hnonce hfills.choose_spec.1

theorem Carries.length_box {payload : Bytes} (h : s.Carries payload e) :
    (e.box.length : Int) = 16 + max s.floor (payload.length + 2) := by
  obtain ⟨key, sent, -, -, hfills⟩ := h
  exact hfills.length_box

theorem Gives.exists_carries (h : s.Gives e) :
    ∃ payload, s.Carries payload e ∧ payload.length = s.message.payloadSize := by
  obtain ⟨source, hs, w, w', hrun⟩ := h
  exact ((encrypt_ensures_carries hs s w).of_ok hrun).2

theorem Gives.length_encode (h : s.Gives e) :
    (e.encode.length : Int) = 40 + max s.floor (s.message.payloadSize + 2) := by
  obtain ⟨payload, hcarries, hsize⟩ := h.exists_carries
  have hbox := hcarries.length_box
  rw [Envelope.encode, List.length_append, e.length_nonce, nonceSize, ← hsize]
  omega

/-! ### Two envelopes -/

/-- The length of an envelope tells the larger of the floor and the size of the payload, and nothing
else. Two envelopes for one floor are of one length if both payloads lie below it, whatever the
messages are, and if both hold attachments that differ in nothing but their data. -/
theorem length_hidden (h : s.Gives e) (h' : s'.Gives e') :
    (∃ payload, s.Carries payload e ∧ payload.length = s.message.payloadSize ∧
      (e.box.length : Int) = 16 + max s.floor (payload.length + 2)) ∧
    (s.floor = s'.floor → (s.message.payloadSize : Int) ≤ s.floor - 2 →
      (s'.message.payloadSize : Int) ≤ s.floor - 2 → e.encode.length = e'.encode.length) ∧
    ∀ a a', s.message = .attachment a → s'.message = .attachment a' → a.kind = a'.kind →
      s.floor = s'.floor → e.encode.length = e'.encode.length := by
  have hlength := h.length_encode
  have hlength' := h'.length_encode
  refine ⟨?_, fun hf hs hs' => ?_, fun a a' ha ha' hkind hf => ?_⟩
  · obtain ⟨payload, hcarries, hsize⟩ := h.exists_carries
    exact ⟨payload, hcarries, hsize, hcarries.length_box⟩
  · rw [max_eq_left (by omega)] at hlength hlength'
    omega
  · rw [ha, Message.payloadSize] at hlength
    rw [ha', Message.payloadSize, ← hkind, ← hf] at hlength'
    exact_mod_cast hlength.trans hlength'.symm

/-- An image and a text in envelopes of 240 octets. -/
theorem length_hidden_image_text :
    ∃ (s s' : Sealing (Nat × BlobStore)) (e e' : Envelope), s.Gives e ∧ s'.Gives e' ∧
      s.message = .attachment ⟨.image, some [1, 2, 3], none⟩ ∧ s'.message = .text "hi" ∧
      s.floor = 200 ∧ s'.floor = 200 ∧ e.box.length = 216 ∧
      e.encode.length = e'.encode.length := by
  have hs := RandomSource.isReliable_numbered.onFirst (ν := BlobStore)
  have ht := (BlobStore.handsBack BlobStore.counted RandomSource.numbered).accepts
  let sealing (m : Message) : Sealing (Nat × BlobStore) :=
    ⟨m, .uniform 1, .octets (KeyPair.uniform 2).publicKey, 200,
      some (BlobStore.transportFrom BlobStore.counted).onSecond⟩
  have hf : (0 : Int) ≤ 200 ∧ 200 ≤ Frame.maxFloor := by decide
  have exists_gives (m : Message) (hm : m.IsWellFormed) : ∃ e, (sealing m).Gives e := by
    obtain ⟨e, w', hrun, -⟩ := Message.encrypt_yields (w := (0, .empty)) hs ht trivial
      KeyPair.agrees_uniform hf hm
    exact ⟨e, _, hs.isExact, _, w', hrun⟩
  obtain ⟨e, he⟩ := exists_gives (.attachment ⟨.image, some [1, 2, 3], none⟩) ⟨rfl, trivial⟩
  have htext : (Utf8.encode "hi").length ≤ maxTextSize := by decide +kernel
  obtain ⟨e', he'⟩ := exists_gives (.text "hi") htext
  obtain ⟨⟨payload, hcarries, hsize, hbox⟩, hequal, -⟩ := length_hidden he he'
  refine ⟨_, _, e, e', he, he', rfl, rfl, rfl, rfl, ?_,
    hequal rfl (by decide) (by decide +kernel)⟩
  have hpayload : payload.length = 72 := hsize
  have hfloor : (e.box.length : Int) = 16 + max (200 : Int) (payload.length + 2) := hbox
  omega

end Sealing

end SealedPost
