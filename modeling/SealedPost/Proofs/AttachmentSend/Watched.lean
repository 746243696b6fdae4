import SealedPost.Message.Sealed
import SealedPost.Proofs.AttachmentSend.Stages
import SealedPost.Proofs.BlobStore
import SealedPost.Proofs.Frame
import SealedPost.Proofs.Message.ReadBack
import SealedPost.Proofs.SecretMemory

/-!
# What a send stands for

A send is watched: what its uploads are answered with, and what keys its frames are sealed with. In
each of its stages it stands for the data it began with: encrypted they are what it uploads, in the
store they lie under the id that the upload was answered with, and the frame and the envelope hold
the reference that leads there. Whatever is called on the send keeps this up, and so does whatever
else is put into the store.
-/

namespace SealedPost

variable {ω ρ : Type}

/-! ### Frames and envelopes -/

/-- Is the message read from the frame? -/
def Frame.Carries (frame : Bytes) (m : Message) : Prop :=
  ∃ tag payload, Frame.decode frame = .ok (tag, payload) ∧ Payload.decode tag.toNat payload = .ok m

/-- An attachment whose reference is complete is read from every frame that is built for it. -/
theorem AttachmentSend.frameBytes_ensures {source : RandomSource ω} {P : ω → Prop} {w : ω}
    (hs : source.Supplies P) (hw : P w) (floor : Int) (s : AttachmentSend) :
    (frameBytes source floor s).Ensures w P fun frame => ∀ r, s.reference = some r →
      r.IsComplete → Frame.Carries frame (.attachment ⟨s.attachment.kind, none, some r⟩) := by
  rw [frameBytes]
  refine (Action.Ensures.ofExcept hw fun _ => id).bind fun payload w₁ hw₁ hpayload => ?_
  refine (Frame.encode_ensures hs hw₁ _ payload floor).mono fun frame hframe r hr hc => ?_
  refine ⟨_, payload, hframe, ?_⟩
  have ht : (Message.attachment s.framed).KeepsTypes := by
    intro r' hr'
    obtain ⟨key, nonce, id, rfl, hk, hn⟩ := hc
    cases hr.symm.trans hr'
    exact ⟨key, nonce, rfl, hk, rfl, hn⟩
  have hread : Payload.decode s.attachment.kind.payloadKind.tag.toNat payload = _ :=
    (Message.decode_encodePayload_iff (m := .attachment s.framed) hpayload).mpr ht
  rw [hread, Message.withoutData, framed, hr]

/-- Does the message come out of the envelope for whoever has the keys that match those, of the
recipient and of the sender, that it was sealed with? -/
def Envelope.OpensTo (envelope : Envelope) (sealing : Material × Material) (m : Message) : Prop :=
  ∀ sender recipient : KeyPair, sender.Agrees recipient →
    sealing.1 = .octets recipient.publicKey → sealing.2 = .octets sender.privateKey →
    Message.open envelope sender.publicKey recipient.privateKey = .ok m

theorem Box.seal_opensTo {source : RandomSource ω} {P : ω → Prop} {w : ω} (hs : source.Supplies P)
    (hw : P w) {frame : Bytes} (recipientPublic senderPrivate : Material) :
    (Box.seal source frame recipientPublic senderPrivate).Ensures w P fun envelope =>
      ∀ m, Frame.Carries frame m → envelope.OpensTo (recipientPublic, senderPrivate) m := by
  apply (Box.seal_ensures hs.leaves hw frame recipientPublic senderPrivate).mono
  rintro envelope ho m ⟨tag, payload, hframe, hpayload⟩ sender recipient hagrees hp hq
  rw [Message.open, ho sender recipient hagrees hp hq]
  simp only [bind, Except.bind, hframe, hpayload]

/-! ### What is seen of a send -/

namespace AttachmentSend

/-- The answer to an upload, if the call is one and succeeds. -/
def Call.answer? (s : AttachmentSend) (w : ω) : Call ω → Option (Option BlobId)
  | .upload t =>
    match AttachmentSend.upload t (s, w) with
    | .ok id _   => some id
    | .error _ _ => none
  | _ => none

/-- The keys that a frame is sealed with, if the call does so. -/
def Call.sealing? (source : RandomSource ω) (s : AttachmentSend) (w : ω) :
    Call ω → Option (Material × Material)
  | .sealFrame recipientPublic senderPrivate =>
    match AttachmentSend.sealFrame source recipientPublic senderPrivate (s, w) with
    | .ok _ _    => some (recipientPublic, senderPrivate)
    | .error _ _ => none
  | _ => none

/-- A send with what its uploads were answered with, and with the keys, of the recipient and of the
sender, that its frames were sealed with, latest first. -/
structure Watched where
  send : AttachmentSend
  answers : List (Option BlobId)
  sealings : List (Material × Material)

/-- A watched send and the world after a call, whether it succeeded or not. -/
def Watched.after (source : RandomSource ω) (s : Watched) (w : ω) (c : Call ω) : Watched × ω :=
  let (send, w') := c.after source s.send w
  (⟨send, (c.answer? s.send w).toList ++ s.answers,
    (c.sealing? source s.send w).toList ++ s.sealings⟩, w')

section After

variable {source : RandomSource ω} {c : Call ω} {p : Passage} {s : Watched} {s' : AttachmentSend}
  {w w' : ω}

theorem Watched.after_of_ok (c : Call ω) (h : c.perform source (s.send, w) = .ok () (s', w')) :
    s.after source w c =
      (⟨s', (c.answer? s.send w).toList ++ s.answers,
        (c.sealing? source s.send w).toList ++ s.sealings⟩, w') := by
  simp only [after, Call.after, h]

/-- An upload that fails is not answered. -/
theorem Call.answer?_of_error {s : AttachmentSend} {e : Failure}
    (h : c.perform source (s, w) = .error e (s', w')) : c.answer? s w = none := by
  cases c with
  | upload t => simp only [answer?, quietly_eq_error_iff.mp h]
  | _ => rfl

/-- Of a call that fails nothing is seen. -/
theorem Watched.after_of_error {e : Failure}
    (h : c.perform source (s.send, w) = .error e (s', w')) :
    s.after source w c = ({ s with send := s' }, w') := by
  have hsealing : c.sealing? source s.send w = none := by
    cases c with
    | sealFrame => simp only [Call.sealing?, quietly_eq_error_iff.mp h]
    | _ => rfl
  simp only [after, Call.after, h, Call.answer?_of_error h, hsealing, Option.toList_none,
    List.nil_append]

/-- A call out of its stage leaves all as it was. -/
theorem Watched.after_of_ne (hp : c.passage? = some p) (h : s.send.stage ≠ p.origin) :
    s.after source w c = (s, w) :=
  after_of_error (Call.perform_of_ne source w hp h)

theorem Watched.after_abort_of_sent (h : s.send.stage = .sent) :
    s.after source w .abort = (s, w) :=
  after_of_error (abort_of_sent h)

theorem Watched.after_abort_of_ne_sent (h : s.send.stage ≠ .sent) :
    s.after source w .abort = ({ s with send := s.send.abandoned }, w) :=
  after_of_ok .abort (abort_of_ne_sent h)

theorem Watched.after_markSent (h : s.send.stage = .sealed) :
    s.after source w .markSent = ({ s with send := { s.send with stage := .sent } }, w) :=
  after_of_ok .markSent (advance_of_eq h)

end After

/-! ### What a send stands for -/

section Stands

variable (ids : Nat → BlobId) (kind : AttachmentKind) (data : Bytes) (store : BlobStore)

/-- The reference leads to the data by the id that the only upload was answered with. -/
def Watched.HasStored (s : Watched) (r : BlobReference) : Prop :=
  r.LeadsTo data fun id box => s.answers = [some id] ∧ store.Has ids id box

/-- No frame has been sealed. -/
def Watched.IsUnsealed (s : Watched) : Prop := s.send.envelope = none ∧ s.sealings = []

/-- The send holds an envelope of a message that leads to the data. -/
structure Watched.Posts (s : Watched) (envelope : Envelope) (sealing : Material × Material)
    (r : BlobReference) : Prop where
  stage : s.send.stage = .sealed ∨ s.send.stage = .sent ∨ s.send.stage = .aborted
  envelope_eq : s.send.envelope = some envelope
  stored : s.HasStored ids data store r
  sealings_eq : s.sealings = [sealing]
  opens : envelope.OpensTo sealing (.attachment ⟨kind, none, some r⟩)

/-- What is so in each stage of a send of these data. -/
def Watched.Stands (s : Watched) : Prop :=
  match s.send.stage with
  | .composed =>
    s.IsUnsealed ∧ s.answers = [] ∧ s.send.attachment.kind = kind ∧ s.send.data = data
  | .blobEncrypted =>
    s.IsUnsealed ∧ s.answers = [] ∧ s.send.attachment.kind = kind ∧
      ∃ key nonce : Bytes, key.length = Key.size ∧ nonce.length = nonceSize ∧
        s.send.encrypted = some (SecretBox.seal key nonce data) ∧
        s.send.reference = some ⟨.octets key, .octets nonce, none⟩
  | .blobUploaded =>
    s.IsUnsealed ∧ s.send.attachment.kind = kind ∧
      ∃ r, s.send.reference = some r ∧ s.HasStored ids data store r
  | .frameBuilt =>
    s.IsUnsealed ∧ ∃ r, s.HasStored ids data store r ∧
      Frame.Carries (s.send.memory.read (s.send.frame.getD 0)) (.attachment ⟨kind, none, some r⟩)
  | .sealed  => ∃ envelope sealing r, s.Posts ids kind data store envelope sealing r
  | .sent    => ∃ envelope sealing r, s.Posts ids kind data store envelope sealing r
  | .aborted => s.IsUnsealed ∨ ∃ envelope sealing r, s.Posts ids kind data store envelope sealing r

end Stands

/-! ### One call -/

section Step

variable {ids : Nat → BlobId} {kind : AttachmentKind} {data : Bytes} {source : RandomSource ρ}
  {s : Watched} {w : ρ × BlobStore}

/-- A call makes the store grow at most, and the send stands for the same data after it. -/
def Watched.Proceeds (ids : Nat → BlobId) (kind : AttachmentKind) (data : Bytes)
    (store : BlobStore) (next : Watched × ρ × BlobStore) : Prop :=
  BlobStore.Grows ids store next.2.2 ∧ next.1.Stands ids kind data next.2.2

/-- A step that fails in its own stage abandons the send before anything is sealed. -/
theorem Watched.proceeds_of_error (hu : s.IsUnsealed) {c : Call (ρ × BlobStore)} {e : Failure}
    {s' : AttachmentSend} {w' : ρ × BlobStore}
    (h : c.perform source.onFirst (s.send, w) = .error e (s', w')) (ha : s'.stage = .aborted)
    (he : s'.envelope = s.send.envelope) (hg : BlobStore.Grows ids w.2 w'.2) :
    Proceeds ids kind data w.2 (s.after source.onFirst w c) := by
  rw [after_of_error h]
  refine ⟨hg, ?_⟩
  simp only [Stands, ha]
  exact .inl ⟨he.trans hu.1, hu.2⟩

theorem Watched.Stands.encryptBlob (hs : source.IsExact) (h : s.Stands ids kind data w.2)
    (ho : s.send.stage = .composed) :
    Proceeds ids kind data w.2 (s.after source.onFirst w .encryptBlob) := by
  simp only [Stands, ho] at h
  obtain ⟨hu, ha, hkind, rfl⟩ := h
  have hp : (Blob.prepare source.onFirst s.send.data).Ensures w (fun w' => w'.2 = w.2) _ :=
    Blob.prepare_ensures (hs.supplies_onFirst (· = w.2)).leaves rfl _
  have hstep : AttachmentSend.encryptBlob source.onFirst (s.send, w) = _ :=
    encryptBlob_of_composed ho
  cases hd : Blob.prepare source.onFirst s.send.data w with
  | error e w' =>
    rw [hd] at hstep
    exact proceeds_of_error hu (quietly_eq_error_iff.mpr hstep) rfl rfl (hp.of_error hd ▸ .refl)
  | ok out w' =>
    rw [hd] at hstep
    obtain ⟨hstore, key, nonce, hk, hn, rfl⟩ := hp.of_ok hd
    rw [after_of_ok .encryptBlob (quietly_of_ok hstep), Proceeds, hstore]
    exact ⟨.refl, hu, ha, hkind, key, nonce, hk, hn, rfl, rfl⟩

theorem Watched.Stands.upload {t : BlobTransport (ρ × BlobStore)} (ht : t.Reaches ids)
    (h : s.Stands ids kind data w.2) (ho : s.send.stage = .blobEncrypted) :
    Proceeds ids kind data w.2 (s.after source.onFirst w (.upload t)) := by
  simp only [Stands, ho] at h
  obtain ⟨hu, ha, hkind, key, nonce, hk, hn, hencrypted, hreference⟩ := h
  have ht := ht (s.send.encrypted.getD []) w
  have hstep : AttachmentSend.upload t (s.send, w) = _ := upload_of_blobEncrypted ho
  cases hd : t.upload (s.send.encrypted.getD []) w with
  | error e w' =>
    rw [hd] at ht hstep
    refine proceeds_of_error hu (quietly_eq_error_iff.mpr hstep) rfl rfl ?_
    rcases ht with ht | ht <;> rw [ht]
    · exact .refl
    · exact .kept _
  | ok id w' =>
    rw [hd] at ht hstep
    obtain ⟨rfl, hstore⟩ := ht
    rw [after_of_ok (.upload t) (quietly_of_ok hstep), Proceeds, hstore]
    refine ⟨.kept _, hu, hkind, _, by rw [hreference]; rfl,
      BlobReference.leadsTo_of_seal hk hn ⟨?_, ?_⟩⟩
    · simp only [Call.answer?, hstep, ha, Option.toList_some, List.append_nil]
    · rw [hencrypted, Option.getD_some]
      exact BlobStore.has_kept ids w.2 _

theorem Watched.Stands.buildFrame (hs : source.IsExact) (floor : Int)
    (h : s.Stands ids kind data w.2) (ho : s.send.stage = .blobUploaded) :
    Proceeds ids kind data w.2 (s.after source.onFirst w (.buildFrame floor)) := by
  simp only [Stands, ho] at h
  obtain ⟨hu, rfl, r, hr, hstored⟩ := h
  have hf : (frameBytes source.onFirst floor s.send).Ensures w (fun w' => w'.2 = w.2) _ :=
    frameBytes_ensures (hs.supplies_onFirst (· = w.2)) rfl floor s.send
  have hstep : AttachmentSend.buildFrame source.onFirst floor (s.send, w) = _ :=
    buildFrame_of_blobUploaded ho
  cases hd : frameBytes source.onFirst floor s.send w with
  | error e w' =>
    rw [hd] at hstep
    exact proceeds_of_error hu (quietly_eq_error_iff.mpr hstep) rfl rfl (hf.of_error hd ▸ .refl)
  | ok frame w' =>
    rw [hd] at hstep
    obtain ⟨hstore, hcarries⟩ := hf.of_ok hd
    obtain ⟨_, _, hc, -⟩ := id hstored
    have hread := s.send.memory.read_allocate frame
    rw [SecretMemory.allocate] at hread
    rw [after_of_ok (.buildFrame floor) (quietly_of_ok hstep), Proceeds, hstore]
    refine ⟨.refl, hu, r, hstored, ?_⟩
    rw [Option.getD_some, hread]
    exact hcarries r hr hc

theorem Watched.Stands.sealFrame (hs : source.IsExact) (recipientPublic senderPrivate : Material)
    (h : s.Stands ids kind data w.2) (ho : s.send.stage = .frameBuilt) :
    Proceeds ids kind data w.2
      (s.after source.onFirst w (.sealFrame recipientPublic senderPrivate)) := by
  simp only [Stands, ho] at h
  obtain ⟨hu, r, hstored, hcarries⟩ := h
  have hb : (Box.seal source.onFirst (s.send.memory.read (s.send.frame.getD 0)) recipientPublic
      senderPrivate).Ensures w (fun w' => w'.2 = w.2) _ :=
    Box.seal_opensTo (hs.supplies_onFirst (· = w.2)) rfl recipientPublic senderPrivate
  have hstep : AttachmentSend.sealFrame source.onFirst recipientPublic senderPrivate
      (s.send, w) = _ := sealFrame_of_frameBuilt ho
  cases hd : Box.seal source.onFirst (s.send.memory.read (s.send.frame.getD 0)) recipientPublic
      senderPrivate w with
  | error e w' =>
    rw [hd] at hstep
    exact proceeds_of_error hu (quietly_eq_error_iff.mpr hstep) rfl rfl (hb.of_error hd ▸ .refl)
  | ok envelope w' =>
    rw [hd] at hstep
    obtain ⟨hstore, hopens⟩ := hb.of_ok hd
    rw [after_of_ok (.sealFrame recipientPublic senderPrivate) (quietly_of_ok hstep), Proceeds,
      hstore]
    refine ⟨.refl, envelope, (recipientPublic, senderPrivate), r, .inl rfl, rfl, hstored, ?_,
      hopens _ hcarries⟩
    simp only [Call.sealing?, hstep, hu.2, Option.toList_some, List.append_nil]

/-- Nothing that is called on a send that posts an envelope does anything to it. -/
theorem Watched.Posts.after {envelope : Envelope} {sealing : Material × Material}
    {r : BlobReference} (h : s.Posts ids kind data w.2 envelope sealing r)
    (source : RandomSource ρ) (c : Call (ρ × BlobStore)) :
    (s.after source.onFirst w c).1.Posts ids kind data w.2 envelope sealing r ∧
      (s.after source.onFirst w c).2 = w := by
  cases hp : c.passage? with
  | none =>
    cases c <;> cases hp
    by_cases hsent : s.send.stage = .sent
    · rw [after_abort_of_sent hsent]
      exact ⟨h, rfl⟩
    · rw [after_abort_of_ne_sent hsent]
      exact ⟨⟨.inr (.inr rfl), h.envelope_eq, h.stored, h.sealings_eq, h.opens⟩, rfl⟩
  | some p =>
    by_cases ho : s.send.stage = p.origin
    · -- only the last passage starts where an envelope is held
      have hstage := h.stage
      rw [ho] at hstage
      cases p with
      | markSent =>
        cases c <;> cases hp
        rw [after_markSent ho]
        exact ⟨⟨.inr (.inl rfl), h.envelope_eq, h.stored, h.sealings_eq, h.opens⟩, rfl⟩
      | _ => simp [Passage.origin] at hstage
    · rw [after_of_ne hp ho]
      exact ⟨h, rfl⟩

theorem Watched.Posts.stands {envelope : Envelope} {sealing : Material × Material}
    {r : BlobReference} {store : BlobStore} (h : s.Posts ids kind data store envelope sealing r) :
    s.Stands ids kind data store := by
  rcases h.stage with hs | hs | hs <;> simp only [Stands, hs]
  · exact ⟨envelope, sealing, r, h⟩
  · exact ⟨envelope, sealing, r, h⟩
  · exact .inr ⟨envelope, sealing, r, h⟩

theorem Watched.Stands.isUnsealed_or_posts {store : BlobStore}
    (h : s.Stands ids kind data store) :
    s.IsUnsealed ∨ ∃ envelope sealing r, s.Posts ids kind data store envelope sealing r := by
  unfold Stands at h
  split at h
  · exact .inl h.1
  · exact .inl h.1
  · exact .inl h.1
  · exact .inl h.1
  · exact .inr h
  · exact .inr h
  · exact h

/-- A transport that is called reaches the store. -/
def Call.Reaches (ids : Nat → BlobId) : Call (ρ × BlobStore) → Prop
  | .upload t => t.Reaches ids
  | _         => True

theorem Watched.Stands.after_of_eq (hs : source.IsExact) (h : s.Stands ids kind data w.2)
    (hu : s.IsUnsealed) {c : Call (ρ × BlobStore)} (hc : c.Reaches ids) {p : Passage}
    (hp : c.passage? = some p) (ho : s.send.stage = p.origin) :
    Proceeds ids kind data w.2 (s.after source.onFirst w c) := by
  cases c <;> cases hp
  case encryptBlob => exact h.encryptBlob hs ho
  case upload => exact h.upload hc ho
  case buildFrame floor => exact h.buildFrame hs floor ho
  case sealFrame => exact h.sealFrame hs _ _ ho
  case markSent =>
    simp only [Stands, ho, Passage.origin] at h
    obtain ⟨envelope, sealing, r, hposts⟩ := h
    cases hu.1.symm.trans hposts.envelope_eq

/-- Whatever is called on a send, it stands for its data after the call. -/
theorem Watched.Stands.after (hs : source.IsExact) (h : s.Stands ids kind data w.2)
    {c : Call (ρ × BlobStore)} (hc : c.Reaches ids) :
    Proceeds ids kind data w.2 (s.after source.onFirst w c) := by
  rcases h.isUnsealed_or_posts with hu | ⟨envelope, sealing, r, hposts⟩
  · cases hp : c.passage? with
    | none =>
      cases c <;> cases hp
      by_cases hsent : s.send.stage = .sent
      · rw [after_abort_of_sent hsent]
        exact ⟨.refl, h⟩
      · rw [after_abort_of_ne_sent hsent]
        exact ⟨.refl, .inl hu⟩
    | some p =>
      by_cases ho : s.send.stage = p.origin
      · exact h.after_of_eq hs hu hc hp ho
      · rw [after_of_ne hp ho]
        exact ⟨.refl, h⟩
  · obtain ⟨hnext, hw⟩ := hposts.after source c
    rw [Proceeds, hw]
    exact ⟨.refl, hnext.stands⟩

end Step

/-! ### What others do -/

section Grows

variable {ids : Nat → BlobId} {kind : AttachmentKind} {data : Bytes} {store store' : BlobStore}
  {s : Watched}

theorem Watched.HasStored.mono {r : BlobReference} (h : s.HasStored ids data store r)
    (hg : BlobStore.Grows ids store store') (hd : store'.IdsDiffer ids) :
    s.HasStored ids data store' r :=
  BlobReference.LeadsTo.mono h fun _ _ hid => ⟨hid.1, hg.has hd hid.2⟩

theorem Watched.Posts.mono {envelope : Envelope} {sealing : Material × Material}
    {r : BlobReference} (h : s.Posts ids kind data store envelope sealing r)
    (hg : BlobStore.Grows ids store store') (hd : store'.IdsDiffer ids) :
    s.Posts ids kind data store' envelope sealing r :=
  ⟨h.stage, h.envelope_eq, h.stored.mono hg hd, h.sealings_eq, h.opens⟩

theorem Watched.Stands.mono (h : s.Stands ids kind data store)
    (hg : BlobStore.Grows ids store store') (hd : store'.IdsDiffer ids) :
    s.Stands ids kind data store' := by
  unfold Stands at h ⊢
  split at h
  · exact h
  · exact h
  · obtain ⟨hu, hkind, r, hr, hstored⟩ := h
    exact ⟨hu, hkind, r, hr, hstored.mono hg hd⟩
  · obtain ⟨hu, r, hstored, hcarries⟩ := h
    exact ⟨hu, r, hstored.mono hg hd, hcarries⟩
  · obtain ⟨envelope, sealing, r, hposts⟩ := h
    exact ⟨envelope, sealing, r, hposts.mono hg hd⟩
  · obtain ⟨envelope, sealing, r, hposts⟩ := h
    exact ⟨envelope, sealing, r, hposts.mono hg hd⟩
  · rcases h with hu | ⟨envelope, sealing, r, hposts⟩
    · exact .inl hu
    · exact .inr ⟨envelope, sealing, r, hposts.mono hg hd⟩

end Grows

end AttachmentSend

end SealedPost
