import SealedPost.Proofs.Frame.Reading
import SealedPost.Proofs.Message.Randomness

/-!
# Draws that are short or long

The key and the nonce of a blob and the nonce of an envelope are measured when they are drawn. The
filler of a frame is not, though the count after it is worked out before: if it is shorter or longer
than it was to be, the recipient cuts off too much or too little. So a message that was sealed over
any source arrives as it was sent exactly if the source handed over what it was asked for.
-/

namespace SealedPost

variable {ω : Type} {t : BlobTransport ω} {sender recipient : KeyPair} {floor : Int}

/-! ### Sizes of what is read -/

theorem SpellsString.length_eq {bs : Bytes} {s : String} (h : SpellsString bs s) :
    bs.length = 2 + (Utf8.encode s).length := by
  obtain ⟨hi, lo, hs, -⟩ := h
  rw [Utf8.spells_iff.mp hs, List.length_cons, List.length_cons]
  omega

/-- A payload is as long as the message says that is read from it. -/
theorem Payload.Spells.length_eq {tag : UInt8} {bs : Bytes} {m : Message} (h : Spells tag bs m) :
    bs.length = m.payloadSize := by
  cases h with
  | text hs =>
    rw [Utf8.spells_iff.mp hs]
    rfl
  | image hr => exact hr.length_eq
  | file hr hm hn =>
    rw [List.length_append, List.length_append, hr.length_eq, hm.length_eq, hn.length_eq,
      Nat.add_assoc]
    rfl
  | receipt code h₁ h₄ hne hids =>
    rw [List.length_cons, Nat.add_comm]
    rfl

namespace Message

theorem payloadSize_withoutData (m : Message) : m.withoutData.payloadSize = m.payloadSize := by
  cases m <;> rfl

theorem length_of_encodePayload {m : Message} (hm : m.KeepsTypes) {bs : Bytes}
    (h : m.encodePayload = .ok bs) : bs.length = m.payloadSize := by
  rw [← payloadSize_withoutData]
  exact (Payload.decode_eq_ok_iff.mp (decode_encodePayload hm h)).length_eq

theorem payloadSize_of_same {m n : Message} (h : m.same n = true) :
    m.payloadSize = n.payloadSize := by
  have hw : ∀ m : Message, m.withoutReference.payloadSize = m.payloadSize := by
    intro m
    cases m <;> rfl
  rw [← hw m, of_decide_eq_true h, hw n]

/-- To fetch the data of a message does not change its payload. -/
theorem payloadSize_of_resolve {m arrived : Message} {w w' : ω}
    (h : m.resolve t w = .ok arrived w') : arrived.payloadSize = m.payloadSize := by
  have hends : (m.resolve t).EndsIn w (fun arrived _ => arrived.payloadSize = m.payloadSize)
      fun _ => True := by
    cases m with
    | text s => exact .pure rfl
    | receipt receiptType ids => exact .pure rfl
    | attachment a =>
      rw [resolve]
      split
      · exact .pure rfl
      · rename_i r _
        have hfetch : (r.fetch t).EndsIn w (fun _ _ => True) fun _ => True :=
          ⟨fun _ => trivial, fun _ => trivial⟩
        exact hfetch.bind fun _ _ _ => .pure rfl
  exact hends.ok h

section ComesAs

variable {m sent : Message} {R : Bytes → BlobReference → Prop}

theorem ComesAs.payloadSize_eq (h : m.ComesAs false sent R) :
    sent.payloadSize = m.payloadSize := by
  rcases h.plain_or_attachment with ⟨-, rfl⟩ | ⟨a, data, r, rfl, -, -, rfl⟩
  · rfl
  · rfl

theorem ComesAs.withoutData_eq (h : m.ComesAs false sent R) : sent.withoutData = sent := by
  rcases h.plain_or_attachment with ⟨hm, rfl⟩ | ⟨a, data, r, rfl, -, -, rfl⟩
  · cases sent with
    | attachment a => cases hm
    | text s => rfl
    | receipt receiptType ids => rfl
  · rfl

end ComesAs

/-! ### Which draws there are -/

variable {m : Message}

theorem blobKey_mem_purposes_iff : .blobKey ∈ m.purposes floor ↔ m.isAttachment = true := by
  rw [purposes, Purpose.ofFrame]
  split_ifs <;> simp [*]

theorem blobNonce_mem_purposes_iff : .blobNonce ∈ m.purposes floor ↔ m.isAttachment = true := by
  rw [purposes, Purpose.ofFrame]
  split_ifs <;> simp [*]

theorem filler_mem_purposes_iff : .filler ∈ m.purposes floor ↔ 1 < m.padding floor := by
  rw [purposes, Purpose.ofFrame]
  split_ifs <;> simp [*]

end Message

/-! ### Frames with fillers of any length -/

theorem Frame.padding_of_paddingLength {payloadLength floor padding : Int} (h₀ : 0 ≤ payloadLength)
    (h : paddingLength payloadLength floor = .ok padding) : 1 ≤ padding ∧ padding ≤ 255 := by
  rw [paddingLength] at h
  split at h <;> cases h
  rename_i hf
  simp only [maxFloor] at hf
  omega

/-- Is a filler as long as it was to be, with the count that comes after it? -/
def Message.IsFilledBy (m : Message) (floor : Int) (filler : Bytes) : Prop :=
  (filler.length : Int) + 1 = m.padding floor

namespace Envelope

variable {e : Envelope} {m : Message} {filler : Bytes}

/-- What the recipient of a frame reads. -/
theorem Frames.open_eq (h : e.Frames recipient.publicKey sender.privateKey m floor filler)
    (ha : sender.Agrees recipient) :
    ∃ (payload : Bytes) (count : UInt8), m.encodePayload = .ok payload ∧
      (count.toNat : Int) = m.padding floor ∧
      Message.open e sender.publicKey recipient.privateKey =
        (Frame.decode (m.payloadKind.tag :: payload ++ filler ++ [count]) >>= fun read =>
          Payload.decode read.1.toNat read.2) := by
  obtain ⟨payload, hpayload, hpadding, hsealed⟩ := h
  obtain ⟨h₁, h₂⟩ := Frame.padding_of_paddingLength (Int.natCast_nonneg _) hpadding
  refine ⟨payload, UInt8.ofNat (m.padding floor).toNat, hpayload, ?_, ?_⟩
  · simp only [UInt8.toNat_ofNat']
    omega
  · rw [Message.open, hsealed.open_eq ha]
    rfl

theorem Frames.open_of_isFilledBy
    (h : e.Frames recipient.publicKey sender.privateKey m floor filler)
    (ha : sender.Agrees recipient) (hm : m.KeepsTypes) (hf : m.IsFilledBy floor filler) :
    Message.open e sender.publicKey recipient.privateKey = .ok m.withoutData := by
  obtain ⟨payload, count, hpayload, hcount, hopen⟩ := h.open_eq ha
  rw [Message.IsFilledBy, ← hcount] at hf
  rw [hopen, Frame.decode_filled _ _ (by exact_mod_cast hf.symm)]
  exact Message.decode_encodePayload hm hpayload

/-- A message of the right size is read only if the right number of octets is cut off. -/
theorem Frames.isFilledBy_of_open
    (h : e.Frames recipient.publicKey sender.privateKey m floor filler)
    (ha : sender.Agrees recipient) (hm : m.KeepsTypes) {opened : Message}
    (ho : Message.open e sender.publicKey recipient.privateKey = .ok opened)
    (hsize : opened.payloadSize = m.payloadSize) : m.IsFilledBy floor filler := by
  obtain ⟨payload, count, hpayload, hcount, hopen⟩ := h.open_eq ha
  rw [hopen] at ho
  obtain ⟨⟨tag', payload'⟩, hframe, hread⟩ := Check.bind_eq_ok_iff.mp ho
  have hlength := Frame.length_eq_of_decode hframe
  have hread' := (Payload.decode_eq_ok_iff.mp hread).length_eq
  have hwritten := Message.length_of_encodePayload hm hpayload
  simp only at hread'
  rw [Message.IsFilledBy, ← hcount]
  omega

end Envelope

/-! ### Full draws -/

/-- Did a draw come to as many octets as were asked for? -/
def IsFull (draw : Nat × Except Failure Material) : Prop :=
  ∃ bs : Bytes, draw.2 = .ok (.octets bs) ∧ bs.length = draw.1

theorem isFull_iff {size : Nat} {bs : Bytes} :
    IsFull (size, .ok (.octets bs)) ↔ bs.length = size := by
  constructor
  · rintro ⟨_, ⟨⟩, hl⟩
    exact hl
  · exact fun hl => ⟨bs, rfl, hl⟩

instance : DecidablePred IsFull
  | (_, .ok (.octets _)) => decidable_of_iff _ isFull_iff.symm
  | (_, .ok .absent)     => isFalse nofun
  | (_, .ok (.text _))   => isFalse nofun
  | (_, .error _)        => isFalse nofun

/-! ### Uploads that are handed back -/

/-- An upload that was answered with an id: this and what was uploaded. -/
def Dealing.stored? : Dealing → Option (BlobId × Bytes)
  | .upload bs (.ok (some id)) => some (id, bs)
  | _                          => none

/-- Would a transport, in some world, hand back all that was uploaded before? -/
def BlobTransport.HoldsAll (t : BlobTransport ω) (ds : List Dealing) (w : ω) : Prop :=
  ∀ stored ∈ ds.filterMap Dealing.stored?, t.Holds stored.1 stored.2 w

/-! ### Arrivals -/

namespace Sealing

variable {source : RandomSource ω} {s : Sealing ω} {w : ω} {e : Envelope} {value : Purpose → Bytes}

/-- No attachment is sealed with a key or a nonce of another length. -/
theorem observed_deals_blob (source : RandomSource ω) (s : Sealing ω) :
    (s.observed source).Deals
      (fun _ ds => s.message.isAttachment = true → ∃ key nonce rest,
        key.length = Key.size ∧ nonce.length = nonceSize ∧
        draws ds = (Key.size, .ok (.octets key)) :: (nonceSize, .ok (.octets nonce)) :: rest)
      fun _ => True := by
  obtain ⟨m, sender, recipientPublic, floor, transport⟩ := s
  simp only [observed]
  rcases Message.encrypt_cases source.observed m sender floor
    (transport.map BlobTransport.observed) recipientPublic with
    ⟨e, he⟩ | ⟨key, rfl, hl, ⟨hm, he⟩ | ⟨a, data, _, rfl, ha, ht, he⟩⟩
  · rw [he]
    exact .throw trivial e
  · rw [he]
    apply (Message.seal_deals source (fun _ => Message.size_of_encodePayload hm) floor _ _).mono
    · intro _ _ _ hattachment
      exact absurd hattachment (by rw [hm]; exact Bool.false_ne_true)
    · exact fun _ _ => trivial
  · obtain ⟨t, -, rfl⟩ := Option.map_eq_some_iff.mp ht
    rw [he]
    apply (a.encrypt_deals source t floor _ _ data).mono
    · rintro e _ ⟨key, nonce, id, filler, hkey, hnonce, -, -, rfl⟩ -
      exact ⟨key, nonce, _, hkey, hnonce, draws_append _ _⟩
    · exact fun _ _ => trivial

theorem draws_of_spends (h : (record source s w).Spends value e) :
    (record source s w).draws = (s.message.purposes s.floor).map
      fun p => (p.size (s.message.padding s.floor), .ok (.octets (value p))) :=
  h.draws

theorem blob_lengths_of_spends (he : (record source s w).outcome = .ok e)
    (h : (record source s w).Spends value e) (hm : s.message.isAttachment = true) :
    (value .blobKey).length = Key.size ∧ (value .blobNonce).length = nonceSize := by
  have hdeals := of_deals (P := fun outcome ds => ∀ e, outcome = .ok e → ∃ key nonce rest,
    key.length = Key.size ∧ nonce.length = nonceSize ∧
    draws ds = (Key.size, .ok (.octets key)) :: (nonceSize, .ok (.octets nonce)) :: rest)
    ((observed_deals_blob source s).mono (fun _ _ hds _ _ => hds hm) fun _ _ _ => nofun) w
  obtain ⟨key, nonce, rest, hkey, hnonce, hdraws⟩ := hdeals e he
  have hspent := draws_of_spends h
  rw [Record.draws, hdraws, Message.purposes, if_pos hm] at hspent
  cases hspent
  exact ⟨hkey, hnonce⟩

/-- All that is drawn for a message is measured, except the filler of its frame. -/
theorem length_of_spends (he : (record source s w).outcome = .ok e)
    (h : (record source s w).Spends value e) {p : Purpose}
    (hp : p ∈ s.message.purposes s.floor) (hne : p ≠ .filler) :
    (value p).length = p.size (s.message.padding s.floor) := by
  cases p with
  | blobKey => exact (blob_lengths_of_spends he h (Message.blobKey_mem_purposes_iff.mp hp)).1
  | blobNonce => exact (blob_lengths_of_spends he h (Message.blobNonce_mem_purposes_iff.mp hp)).2
  | filler => exact absurd rfl hne
  | envelopeNonce =>
    rw [← h.nonce]
    exact e.length_nonce

/-- So all draws are full if and only if the frame is filled. -/
theorem forall_isFull_iff (he : (record source s w).outcome = .ok e)
    (h : (record source s w).Spends value e) :
    (∀ draw ∈ (record source s w).draws, IsFull draw) ↔
      s.message.IsFilledBy s.floor (value .filler) := by
  have hone : 1 ≤ s.message.padding s.floor := le_max_left _ _
  rw [draws_of_spends h, List.forall_mem_map, Message.IsFilledBy]
  simp only [isFull_iff]
  by_cases hpadding : 1 < s.message.padding s.floor
  · constructor
    · intro hfull
      have hfiller := hfull .filler (Message.filler_mem_purposes_iff.mpr hpadding)
      simp only [Purpose.size] at hfiller
      omega
    · intro hfilled p hp
      by_cases hne : p = .filler
      · subst hne
        simp only [Purpose.size]
        omega
      · exact length_of_spends he h hp hne
  · -- nothing is drawn for the padding, which is only the octet that counts it
    have hnil : value .filler = [] := h.filler hpadding
    rw [hnil]
    constructor
    · intro _
      simp only [List.length_nil]
      omega
    · intro _ p hp
      refine length_of_spends he h hp ?_
      rintro rfl
      exact hpadding (Message.filler_mem_purposes_iff.mp hp)

/-- The envelope is around the frame of what was sent, and the reference in it leads to what was
uploaded. -/
theorem comesAs_of_spends (he : (record source s w).outcome = .ok e)
    (h : (record source s w).Spends value e) (hr : s.recipientPublic = .octets recipient.publicKey)
    (hm : ∀ code ids, s.message = .receipt code ids → 1 ≤ code ∧ code ≤ 4) :
    ∃ sent, e.Frames recipient.publicKey s.sender.privateKey sent s.floor (value .filler) ∧
      sent.KeepsTypes ∧ s.message.ComesAs false sent fun data r => r.LeadsTo data fun id bs =>
        .upload bs (.ok (some id)) ∈ (record source s w).dealings := by
  obtain ⟨_, sent, hpublic, hframes, hcomes⟩ := h.frames
  cases hr.symm.trans hpublic
  refine ⟨sent, hframes, ?_⟩
  obtain ⟨m, sender, recipientPublic, floor, transport⟩ := s
  cases m with
  | text text =>
    obtain rfl : sent = .text text := hcomes
    exact ⟨trivial, rfl⟩
  | receipt code ids =>
    obtain rfl : sent = .receipt code ids := hcomes
    exact ⟨hm code ids rfl, rfl⟩
  | attachment a =>
    obtain ⟨data, _, hdata, ⟨id, rfl, hmem⟩, rfl⟩ := hcomes
    obtain ⟨hkey, hnonce⟩ := blob_lengths_of_spends he h rfl
    obtain ⟨payload, hpayload, -⟩ := hframes
    have hreference : ∃ i, id = some i := by
      obtain ⟨-, _, i, ⟨⟩, hid⟩ := Attachment.fits_of_encodePayload
        (a := ⟨a.kind, none, some ⟨.octets (value .blobKey), .octets (value .blobNonce), id⟩⟩)
        hpayload
      exact ⟨i, hid⟩
    obtain ⟨i, rfl⟩ := hreference
    refine ⟨?_, data, _, hdata, BlobReference.leadsTo_of_seal hkey hnonce hmem, rfl⟩
    rintro _ ⟨⟩
    exact ⟨_, _, rfl, hkey, rfl, hnonce⟩

/-- A text from one party to another in a frame of at least 32 octets. -/
def textOf (text : String) : Sealing Unit :=
  ⟨.text text, .uniform 1, .octets (KeyPair.uniform 2).publicKey, 32, none⟩

/-- A source that is asked for one size and hands over another. -/
def resizing (resize : Nat → Nat) : RandomSource Unit :=
  ⟨fun size w => .ok (.octets (List.replicate (resize size) 0x41)) w⟩

/-- An octet too many at the filler is read as the end of a text, and one too few takes the end of a
text with it. -/
theorem exists_text_not_as_sent :
    ∃ longer shorter : RandomSource Unit,
      (∃ e, (record longer (textOf "hi") ()).outcome = .ok e ∧
        Message.open e (KeyPair.uniform 1).publicKey (KeyPair.uniform 2).privateKey =
          .ok (.text "hiA")) ∧
      ∃ e, (record shorter (textOf "hello") ()).outcome = .ok e ∧
        Message.open e (KeyPair.uniform 1).publicKey (KeyPair.uniform 2).privateKey =
          .ok (.text "hell") := by
  have hread {source : RandomSource Unit} {s : Sealing Unit} {m : Message}
      (h : ((record source s ()).outcome.toOption.bind fun e => (Message.open e
        (KeyPair.uniform 1).publicKey (KeyPair.uniform 2).privateKey).toOption) = some m) :
      ∃ e, (record source s ()).outcome = .ok e ∧
        Message.open e (KeyPair.uniform 1).publicKey (KeyPair.uniform 2).privateKey = .ok m := by
    obtain ⟨e, he, hm⟩ := Option.bind_eq_some_iff.mp h
    exact ⟨e, Check.toOption_eq_some_iff.mp he, Check.toOption_eq_some_iff.mp hm⟩
  refine ⟨resizing fun size => if size = 24 then 24 else size + 1,
    resizing fun size => if size = 24 then 24 else size - 1, hread ?_, hread ?_⟩
  · decide +kernel
  · decide +kernel

/-- A message that was sealed over any source arrives at the recipient, who has the transport hand
back what was uploaded, exactly if all draws were full. Only the filler may not have been. -/
theorem arrives_iff_isFull (source : RandomSource ω) (s : Sealing ω) (w : ω)
    (hr : s.recipientPublic = .octets recipient.publicKey) (ha : s.sender.Agrees recipient)
    (hm : ∀ code ids, s.message = .receipt code ids → 1 ≤ code ∧ code ≤ 4)
    (he : (record source s w).outcome = .ok e) {w' : ω}
    (ht : t.HoldsAll (record source s w).dealings w') :
    ((Message.decrypt e s.sender.publicKey recipient.privateKey (some t)).Yields w'
        (fun arrived _ => arrived.same s.message = true) ↔
      ∀ draw ∈ (record source s w).draws, IsFull draw) ∧
    ∀ p draw, (p, draw) ∈ (s.message.purposes s.floor).zip (record source s w).draws →
      p ≠ .filler → IsFull draw := by
  obtain ⟨value, hspends⟩ := ((record_accounts source s w).sealed e he).1
  obtain ⟨sent, hframes, htypes, hcomes⟩ := comesAs_of_spends he hspends hr hm
  have hsize : sent.payloadSize = s.message.payloadSize := hcomes.payloadSize_eq
  have hfilled : sent.IsFilledBy s.floor (value .filler) ↔
      s.message.IsFilledBy s.floor (value .filler) := by
    rw [Message.IsFilledBy, Message.IsFilledBy, Message.padding, Message.padding, hsize]
  constructor
  · rw [forall_isFull_iff he hspends, ← hfilled]
    constructor
    · rintro ⟨arrived, w₁, hrun, hsame⟩
      rw [Message.decrypt] at hrun
      cases hopen : Message.open e s.sender.publicKey recipient.privateKey with
      | error cause =>
        rw [hopen] at hrun
        cases hrun
      | ok opened =>
        rw [hopen, Action.ofExcept_ok_bind] at hrun
        apply hframes.isFilledBy_of_open ha htypes hopen
        rw [hsize, ← Message.payloadSize_of_same hsame, Message.payloadSize_of_resolve hrun]
    · intro h
      rw [Message.decrypt, hframes.open_of_isFilledBy ha htypes h, Action.ofExcept_ok_bind,
        hcomes.withoutData_eq]
      refine (hcomes.resolve_yields (P := fun _ => True) trivial ?_).mono ?_
      · intro data r hleads
        refine hleads.mono fun id bs hmem => ?_
        have hholds : t.Holds id bs w' := ht (id, bs) (List.mem_filterMap.mpr ⟨_, hmem, rfl⟩)
        exact hholds.mono fun found _ hfound => ⟨hfound, trivial⟩
      · rintro arrived _ ⟨harrived, -⟩
        exact harrived.same
  · intro p draw hmem hne
    rw [draws_of_spends hspends, ← List.map_prod_left_eq_zip] at hmem
    obtain ⟨_, hp, hdraw⟩ := List.mem_map.mp hmem
    cases hdraw
    exact isFull_iff.mpr (length_of_spends he hspends hp hne)

/-- An image for which there are four draws, all of them full, is fetched from a store. -/
theorem arrives_iff_isFull_image :
    ∃ (source : RandomSource (Nat × BlobStore)) (s : Sealing (Nat × BlobStore)) (e : Envelope)
      (w' : Nat × BlobStore),
      s.recipientPublic = .octets (KeyPair.uniform 2).publicKey ∧
      s.sender.Agrees (KeyPair.uniform 2) ∧
      (∀ code ids, s.message = .receipt code ids → 1 ≤ code ∧ code ≤ 4) ∧
      (record source s (0, .empty)).outcome = .ok e ∧
      BlobStore.transport.onSecond.HoldsAll (record source s (0, .empty)).dealings w' ∧
      (record source s (0, .empty)).draws.length = 4 ∧
      (Message.decrypt e s.sender.publicKey (KeyPair.uniform 2).privateKey
        (some BlobStore.transport.onSecond)).Yields w'
        fun arrived _ => arrived.same s.message = true := by
  let source : RandomSource (Nat × BlobStore) := RandomSource.numbered.onFirst
  let s : Sealing (Nat × BlobStore) :=
    ⟨.attachment ⟨.image, some [1, 2, 3], none⟩, .uniform 1, .octets (KeyPair.uniform 2).publicKey,
      200, some BlobStore.transport.onSecond⟩
  let w' : Nat × BlobStore := ((s.observed source).after ((0, .empty), [])).1
  have hreceipt : ∀ code ids, s.message = .receipt code ids → 1 ≤ code ∧ code ≤ 4 := nofun
  obtain ⟨e, he⟩ : ∃ e, (record source s (0, .empty)).outcome = .ok e := by
    have hsome : (record source s (0, .empty)).outcome.toOption.isSome = true := by decide +kernel
    obtain ⟨e, he⟩ := Option.isSome_iff_exists.mp hsome
    exact ⟨e, Check.toOption_eq_some_iff.mp he⟩
  have hstored : ∀ stored ∈ (record source s (0, .empty)).dealings.filterMap Dealing.stored?,
      w'.2.blobs.lookup stored.1 = some stored.2 := by decide +kernel
  have ht : BlobStore.transport.onSecond.HoldsAll (record source s (0, .empty)).dealings w' :=
    fun stored hmem =>
      BlobTransport.holds_onSecond.mpr (BlobStore.holds_of_lookup (hstored stored hmem))
  have hfull : ∀ draw ∈ (record source s (0, .empty)).draws, IsFull draw := by decide +kernel
  exact ⟨source, s, e, w', rfl, KeyPair.agrees_uniform, hreceipt, he, ht, by decide +kernel,
    (arrives_iff_isFull source s (0, .empty) rfl KeyPair.agrees_uniform hreceipt he ht).1.mpr hfull⟩

end Sealing

end SealedPost
