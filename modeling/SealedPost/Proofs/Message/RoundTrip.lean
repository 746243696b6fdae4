import SealedPost.Message.Sealed
import SealedPost.Proofs.AttachmentSend.InOrder
import SealedPost.Proofs.Frame

/-!
# Messages arrive as they were sent

A message that keeps the limits of its kind is sealed over a reliable source and a transport that
holds what it is given, and the recipient opens it. An attachment arrives with the data that were
sent and with the reference of this upload, whatever reference it had before.
-/

namespace SealedPost

variable {ω : Type} {source : RandomSource ω} {t : BlobTransport ω} {P : ω → Prop}
  {Q : BlobId → Bytes → ω → Prop} {w : ω} {sender recipient : KeyPair} {floor : Int}

/-! ### Sealing a payload -/

/-- What a payload is read as is what the envelope of its frame is opened to. -/
theorem Frame.seal_yields (hs : source.IsReliable) (hk : source.Keeps P) (hw : P w)
    (ha : sender.Agrees recipient) (hf : 0 ≤ floor ∧ floor ≤ maxFloor) {tag : UInt8}
    {payload : Bytes} {m : Message} (hm : Payload.decode tag.toNat payload = .ok m) :
    (encode source tag.toNat payload floor >>= fun frame =>
      Box.seal source frame recipient.publicKey sender.privateKey).Yields w fun envelope w' =>
        Message.open envelope sender.publicKey recipient.privateKey = .ok m ∧ P w' := by
  apply (encode_yields hs hk hw tag payload hf).bind
  rintro frame w₁ ⟨hframe, hw₁⟩
  apply (Box.seal_yields hs hk hw₁ ha frame).mono
  rintro envelope w₂ ⟨ho, hw₂⟩
  refine ⟨?_, hw₂⟩
  simp only [Message.open, ho, hframe, hm, bind, Except.bind]

/-! ### Messages on their way -/

namespace Message

/-- The message that comes out of the envelope of another: the same, or the attachment with a
reference that stands in a relation to its data, and with the data only once they are fetched. -/
def ComesAs (m : Message) (fetched : Bool) (arrived : Message)
    (R : Bytes → BlobReference → Prop) : Prop :=
  match m with
  | .attachment a => ∃ data r, a.data = some data ∧ R data r ∧
      arrived = .attachment ⟨a.kind, if fetched then some data else none, some r⟩
  | m => arrived = m

variable {m opened arrived : Message} {fetched : Bool} {R S : Bytes → BlobReference → Prop}

theorem ComesAs.mono (h : m.ComesAs fetched arrived R) (hrs : ∀ data r, R data r → S data r) :
    m.ComesAs fetched arrived S := by
  cases m with
  | attachment a =>
    obtain ⟨data, r, ha, hr, rfl⟩ := h
    exact ⟨data, r, ha, hrs data r hr, rfl⟩
  | text s => exact h
  | receipt receiptType ids => exact h

/-- Without a blob there is nothing that could become different. -/
theorem ComesAs.of_plain (hm : m.isAttachment = false) : m.ComesAs fetched m R := by
  cases m with
  | attachment a => cases hm
  | text s => rfl
  | receipt receiptType ids => rfl

theorem ComesAs.same (h : m.ComesAs true arrived R) : arrived.same m = true := by
  cases m with
  | attachment a =>
    obtain ⟨data, r, ha, -, rfl⟩ := h
    simp [Message.same, withoutReference, ha]
  | text s => simp [Message.same, show arrived = .text s from h]
  | receipt receiptType ids => simp [Message.same, show arrived = .receipt receiptType ids from h]

theorem ComesAs.isResolved (h : m.ComesAs fetched arrived R) :
    arrived.isResolved = (fetched || !m.isAttachment) := by
  cases m with
  | attachment a =>
    obtain ⟨data, r, -, -, rfl⟩ := h
    cases fetched <;> rfl
  | text s =>
    obtain rfl : arrived = .text s := h
    cases fetched <;> rfl
  | receipt receiptType ids =>
    obtain rfl : arrived = .receipt receiptType ids := h
    cases fetched <;> rfl

/-- The data of an attachment are fetched where its reference leads. -/
theorem ComesAs.resolve_yields (h : m.ComesAs false opened R) (hw : P w)
    (hr : ∀ data r, R data r → r.LeadsTo data fun id box =>
      (t.download id).Yields w fun found w' => found = some box ∧ P w') :
    (opened.resolve t).Yields w fun arrived w' => m.ComesAs true arrived R ∧ P w' := by
  cases m with
  | attachment a =>
    obtain ⟨data, r, ha, hR, rfl⟩ := h
    simp only [resolve]
    apply (BlobReference.fetch_yields (hr data r hR)).bind
    rintro _ w' ⟨rfl, hw'⟩
    exact Action.Yields.pure ⟨⟨_, r, ha, hR, rfl⟩, hw'⟩
  | text s =>
    obtain rfl : opened = .text s := h
    exact Action.Yields.pure ⟨rfl, hw⟩
  | receipt receiptType ids =>
    obtain rfl : opened = .receipt receiptType ids := h
    exact Action.Yields.pure ⟨rfl, hw⟩

end Message

/-! ### Sealing a message -/

/-- Without a key of the recipient nothing is done. -/
theorem Message.encrypt_of_no_key (m : Message) (sender : KeyPair) (floor : Int)
    (transport : Option (BlobTransport ω)) {recipientPublic : Material}
    (h : ∀ bs : Bytes, recipientPublic = .octets bs → bs.length ≠ Key.size) :
    ∃ e, m.encrypt source sender recipientPublic floor transport = throw e := by
  cases hc : Key.check "Recipient public key" Key.size recipientPublic with
  | ok bs =>
    obtain ⟨hbs, hl⟩ := Key.check_eq_ok_iff.mp hc
    exact absurd (by exact_mod_cast hl) (h bs hbs)
  | error e =>
    refine ⟨e, ?_⟩
    rw [encrypt, hc]
    rfl

/-- Without the data of an attachment, or without a transport for them, nothing is done. -/
theorem Message.encrypt_of_no_data {a : Attachment} (sender : KeyPair) (floor : Int)
    {transport : Option (BlobTransport ω)} (h : transport = none ∨ a.data = none)
    (recipientPublic : Material) :
    ∃ e, Message.encrypt source (.attachment a) sender recipientPublic floor transport =
      throw e := by
  rw [encrypt]
  cases Key.check "Recipient public key" Key.size recipientPublic with
  | error e => exact ⟨e, rfl⟩
  | ok key =>
    cases transport with
    | none => exact ⟨.noTransport a.kind.payloadKind, rfl⟩
    | some t =>
      have ha : a.data = none := h.resolve_left nofun
      refine ⟨.noData, ?_⟩
      rw [Action.ofExcept_ok_bind]
      simp only [AttachmentSend.start, ha]
      rfl

/-- A message without a blob is framed and sealed; no transport is asked for. -/
theorem Message.encrypt_of_plain {m : Message} (hm : m.isAttachment = false) {key : Bytes}
    (hk : key.length = Key.size) (transport : Option (BlobTransport ω)) :
    m.encrypt source sender key floor transport = (do
      let payload ← Action.ofExcept m.encodePayload
      let frame ← Frame.encode source m.payloadKind.tag.toNat payload floor
      Box.seal source frame key sender.privateKey) := by
  rw [encrypt, Key.check_octets hk, Action.ofExcept_ok_bind]
  cases m with
  | attachment a => cases hm
  | text s => rfl
  | receipt receiptType ids => rfl

/-- An attachment with its data goes through all the steps of a send. -/
theorem Message.encrypt_of_attachment {a : Attachment} {data : Bytes} (ha : a.data = some data)
    {key : Bytes} (hk : key.length = Key.size) :
    Message.encrypt source (.attachment a) sender key floor (some t) =
      a.encrypt source t floor key sender.privateKey data := by
  have hstart : AttachmentSend.start a =
      .ok ⟨a, data, .composed, none, none, none, none, none, .empty⟩ := by
    rw [AttachmentSend.start, ha]
  rw [encrypt, Key.check_octets hk, Action.ofExcept_ok_bind]
  simp only [hstart, Action.ofExcept_ok_bind, AttachmentSend.forget_perform hstart ha]

/-- All that sealing a message comes to, for whatever is given. -/
theorem Message.encrypt_cases (source : RandomSource ω) (m : Message) (sender : KeyPair)
    (floor : Int) (transport : Option (BlobTransport ω)) (recipientPublic : Material) :
    (∃ e, m.encrypt source sender recipientPublic floor transport = throw e) ∨
    ∃ key : Bytes, recipientPublic = .octets key ∧ key.length = Key.size ∧
      ((m.isAttachment = false ∧ m.encrypt source sender recipientPublic floor transport = (do
        let payload ← Action.ofExcept m.encodePayload
        let frame ← Frame.encode source m.payloadKind.tag.toNat payload floor
        Box.seal source frame key sender.privateKey)) ∨
      ∃ a data t, m = .attachment a ∧ a.data = some data ∧ transport = some t ∧
        m.encrypt source sender recipientPublic floor transport =
          a.encrypt source t floor key sender.privateKey data) := by
  by_cases hkey : ∃ key : Bytes, recipientPublic = .octets key ∧ key.length = Key.size
  case neg =>
    left
    apply encrypt_of_no_key
    intro bs hbs hl
    exact hkey ⟨bs, hbs, hl⟩
  obtain ⟨key, rfl, hl⟩ := hkey
  cases m with
  | text s => exact .inr ⟨key, rfl, hl, .inl ⟨rfl, encrypt_of_plain rfl hl transport⟩⟩
  | receipt receiptType ids =>
    exact .inr ⟨key, rfl, hl, .inl ⟨rfl, encrypt_of_plain rfl hl transport⟩⟩
  | attachment a =>
    cases ht : transport with
    | none => exact .inl (encrypt_of_no_data sender floor (.inl rfl) _)
    | some t =>
      cases ha : a.data with
      | none => exact .inl (encrypt_of_no_data sender floor (.inr ha) _)
      | some data =>
        exact .inr ⟨key, rfl, hl, .inr ⟨a, data, t, rfl, ha, rfl, encrypt_of_attachment ha hl⟩⟩

theorem Attachment.encrypt_yields (hs : source.IsReliable) (ht : t.Accepts source P Q) (hw : P w)
    (hk : sender.Agrees recipient) (hf : 0 ≤ floor ∧ floor ≤ Frame.maxFloor) {a : Attachment}
    (ha : a.kind.Fits) (data : Bytes) :
    (a.encrypt source t floor recipient.publicKey sender.privateKey data).Yields w
      fun envelope w' => ∃ r w₁, Blob.put source t data w = .ok r w₁ ∧
        r.LeadsTo data (fun id box => Q id box w') ∧
        Message.open envelope sender.publicKey recipient.privateKey =
          .ok (.attachment ⟨a.kind, none, some r⟩) := by
  obtain ⟨r, w₁, hput, id, box, hc, hid, hr, hq⟩ := Blob.put_yields hs ht hw data
  obtain ⟨payload, he, hd⟩ := Payload.decode_attachment a.data ha hc
  obtain ⟨envelope, w₂, hseal, ho, hq'⟩ := Frame.seal_yields hs (ht.after id box) hq hk hf hd
  refine ⟨envelope, w₂, ?_, r, w₁, hput, ⟨id, box, hc, hid, hr, hq'⟩, ho⟩
  rw [Attachment.encrypt, Action.bind_of_ok hput, he, Action.ofExcept_ok_bind, hseal]

/-- The envelope of a message is opened to the message, an attachment without its data. -/
theorem Message.encrypt_yields {m : Message} (hs : source.IsReliable) (ht : t.Accepts source P Q)
    (hw : P w) (hk : sender.Agrees recipient) (hf : 0 ≤ floor ∧ floor ≤ Frame.maxFloor)
    (hm : m.IsWellFormed) :
    (m.encrypt source sender recipient.publicKey floor (some t)).Yields w fun envelope w' =>
      (∃ opened, Message.open envelope sender.publicKey recipient.privateKey = .ok opened ∧
        m.ComesAs false opened fun data r => (∃ w₁, Blob.put source t data w = .ok r w₁) ∧
          r.LeadsTo data fun id box => Q id box w') ∧
      (m.isAttachment = false → P w') := by
  have hl := recipient.length_publicKey
  cases m with
  | text s =>
    obtain ⟨payload, he, hd⟩ := Payload.decode_text hm
    rw [encrypt_of_plain rfl hl, he, Action.ofExcept_ok_bind]
    apply (Frame.seal_yields hs ht.before hw hk hf hd).mono
    rintro envelope w' ⟨ho, hw'⟩
    exact ⟨⟨_, ho, rfl⟩, fun _ => hw'⟩
  | receipt receiptType ids =>
    obtain ⟨h₁, h₄, hne, hids⟩ := hm
    obtain ⟨payload, he, hd⟩ := Payload.decode_receipt h₁ h₄ hne hids
    rw [encrypt_of_plain rfl hl, he, Action.ofExcept_ok_bind]
    apply (Frame.seal_yields hs ht.before hw hk hf hd).mono
    rintro envelope w' ⟨ho, hw'⟩
    exact ⟨⟨_, ho, rfl⟩, fun _ => hw'⟩
  | attachment a =>
    obtain ⟨hdata, hfits⟩ := hm
    obtain ⟨data, ha⟩ := Option.isSome_iff_exists.mp hdata
    rw [encrypt_of_attachment ha hl]
    apply (Attachment.encrypt_yields hs ht hw hk hf hfits data).mono
    rintro envelope w' ⟨r, w₁, hput, hr, ho⟩
    constructor
    · exact ⟨_, ho, data, r, ha, ⟨⟨w₁, hput⟩, hr⟩, rfl⟩
    · intro h
      cases h

/-! ### There and back -/

/-- A message is sealed and opened again, and arrives as it was sent; the reference with which an
attachment arrives is the one that comes of putting its data into a blob. -/
theorem Message.decrypt_encrypt {m : Message} (hs : source.IsReliable) (ht : t.HandsBack source)
    (hk : sender.Agrees recipient) (hf : 0 ≤ floor ∧ floor ≤ Frame.maxFloor)
    (hm : m.IsWellFormed) (w : ω) :
    (m.encrypt source sender recipient.publicKey floor (some t)).Yields w fun envelope w' =>
      (Message.decrypt envelope sender.publicKey recipient.privateKey (some t)).Yields w'
        fun arrived _ => m.ComesAs true arrived fun data r =>
          ∃ w₁, Blob.put source t data w = .ok r w₁ := by
  apply (encrypt_yields hs ht.accepts trivial hk hf hm).mono
  rintro envelope w' ⟨⟨opened, ho, hc⟩, -⟩
  rw [Message.decrypt, ho, Action.ofExcept_ok_bind]
  refine (hc.resolve_yields (P := fun _ => True) trivial ?_).mono ?_
  · intro data r h
    exact h.2.mono fun id box hd => hd.mono fun found _ hf => ⟨hf, trivial⟩
  · rintro arrived _ ⟨h, -⟩
    exact h.mono fun data r h => h.1

/-- An image that still has the reference of an earlier upload goes from one party to another. -/
theorem Message.decrypt_encrypt_image :
    ∃ (stale : BlobReference) (source : RandomSource (Nat × BlobStore))
      (t : BlobTransport (Nat × BlobStore)) (w : Nat × BlobStore),
      source.IsReliable ∧ t.HandsBack source ∧
      (KeyPair.uniform 1).Agrees (KeyPair.uniform 2) ∧ ((0 : Int) ≤ 40 ∧ 40 ≤ Frame.maxFloor) ∧
      IsWellFormed (.attachment ⟨.image, some [1, 2, 3], some stale⟩) ∧
      (Message.encrypt source (.attachment ⟨.image, some [1, 2, 3], some stale⟩)
        (KeyPair.uniform 1) (KeyPair.uniform 2).publicKey 40 (some t)).Yields w
        fun envelope w' => (Message.decrypt envelope (KeyPair.uniform 1).publicKey
          (KeyPair.uniform 2).privateKey (some t)).Yields w' fun arrived _ =>
            ComesAs (.attachment ⟨.image, some [1, 2, 3], some stale⟩) true arrived fun data r =>
              ∃ w₁, Blob.put source t data w = .ok r w₁ := by
  let stale : BlobReference := ⟨.octets [0], .absent, some (BlobId.ofNat 1)⟩
  have hs := RandomSource.isReliable_numbered.onFirst (ν := BlobStore)
  have ht := BlobStore.handsBack BlobStore.counted RandomSource.numbered
  have hf : (0 : Int) ≤ 40 ∧ 40 ≤ Frame.maxFloor := by decide
  have hm : IsWellFormed (.attachment ⟨.image, some [1, 2, 3], some stale⟩) := ⟨rfl, trivial⟩
  exact ⟨stale, _, _, (0, .empty), hs, ht, KeyPair.agrees_uniform, hf, hm,
    decrypt_encrypt hs ht KeyPair.agrees_uniform hf hm (0, .empty)⟩

end SealedPost
