import SealedPost.Proofs.AttachmentSend.Watched

/-!
# What a send keeps secret, and how long

The frame of an attachment holds the key of its blob. Whatever is called on a send, a buffer with a
frame exists from the moment the frame is built until it is sealed, cannot be sealed, or the send is
abandoned; from then on it is zeros of the same length. The encrypted data are kept between their
encryption and their upload, and at no other time.
-/

namespace SealedPost.AttachmentSend

variable {ω : Type} {source : RandomSource ω} {s : AttachmentSend} {w : ω} {a : Attachment}

/-! ### Frames that were built -/

/-- A frame with the floor that it was built for. -/
structure Built where
  floor : Int
  bytes : Bytes

/-- The buffer of a frame after it has been wiped: as many zeros as the frame has octets. -/
def Built.wiped (f : Built) : SecretBuffer := ⟨List.replicate f.bytes.length 0⟩

/-- A wiped frame can be wiped again. -/
theorem Built.buffers_wipe {f : Built} {m : SecretMemory} {b : SecretBuffer}
    (hb : b = ⟨f.bytes⟩ ∨ b = f.wiped) (h : m.buffers = [b]) :
    (m.wipe 0).buffers = [f.wiped] := by
  have hwipe : b.wipe = f.wiped := by
    rcases hb with rfl | rfl <;> simp [SecretBuffer.wipe, wiped]
  rw [SecretMemory.wipe, h]
  exact congrArg (fun b => [b]) hwipe

/-- What a call uploads with the answer to it, if the call is an upload and succeeds. -/
def Call.uploaded? (s : AttachmentSend) (w : ω) (c : Call ω) : Option (Bytes × Option BlobId) :=
  (c.answer? s w).map fun id => (s.encrypted.getD [], id)

/-- The frame that a call builds, as it can be read right after the call. -/
def Call.built? (source : RandomSource ω) (s : AttachmentSend) (w : ω) : Call ω → Option Built
  | .buildFrame floor =>
    match AttachmentSend.buildFrame source floor (s, w) with
    | .ok _ (s', _) => some ⟨floor, s'.memory.read (s'.frame.getD 0)⟩
    | .error _ _    => none
  | _ => none

/-- What can have been called on a send so far, with its uploads and the frames that it built,
latest last. Between two calls others may do to the world what they like. -/
inductive Course (source : RandomSource ω) (s₀ : AttachmentSend) (w₀ : ω) :
    List (Bytes × Option BlobId) → List Built → AttachmentSend → ω → Prop where
  | start : Course source s₀ w₀ [] [] s₀ w₀
  | call {uploads : List (Bytes × Option BlobId)} {frames : List Built} {s : AttachmentSend} {w : ω}
      (h : Course source s₀ w₀ uploads frames s w) (c : Call ω) :
      Course source s₀ w₀ (uploads ++ (c.uploaded? s w).toList)
        (frames ++ (c.built? source s w).toList) (c.after source s w).1 (c.after source s w).2
  | elsewhere {uploads : List (Bytes × Option BlobId)} {frames : List Built} {s : AttachmentSend}
      {w : ω} (h : Course source s₀ w₀ uploads frames s w) (w' : ω) :
      Course source s₀ w₀ uploads frames s w'

/-! ### What is kept in each stage -/

/-- The send has let go of its frames: it holds none, and all that it built are wiped. -/
structure HasReleased (s : AttachmentSend) (frames : List Built) : Prop where
  frame : s.frame = none
  buffers : s.memory.buffers = frames.map Built.wiped

/-- The send holds the only buffer there is, and in it the frame of the attachment with the
reference to what was uploaded: the data under a key and a nonce, and the id in the answer. -/
structure HoldsFrame (s : AttachmentSend) (a : Attachment) (uploads : List (Bytes × Option BlobId))
    (frames : List Built) (f : Built) (id : BlobId) (key nonce payload : Bytes) : Prop where
  frames_eq : frames = [f]
  frame : s.frame = some 0
  buffers : s.memory.buffers = [⟨f.bytes⟩]
  uploads_eq : uploads = [(SecretBox.seal key nonce s.data, some id)]
  data : a.data = some s.data
  reference : s.reference = some ⟨.octets key, .octets nonce, some id⟩
  attachment : s.attachment = { a with reference := s.reference }
  payload_eq : s.attachment.encodePayload = .ok payload
  pads : Frame.Pads a.kind.payloadKind.tag payload f.floor f.bytes

/-- Nothing is left of the frames, and nothing is there yet to be uploaded. -/
structure IsBare (s : AttachmentSend) (frames : List Built) : Prop extends
    s.HasReleased frames where
  encrypted : s.encrypted = none

/-- What is so in each stage of a send of an attachment. -/
def Guards (a : Attachment) (uploads : List (Bytes × Option BlobId)) (frames : List Built)
    (s : AttachmentSend) : Prop :=
  match s.stage with
  | .composed =>
    s.IsBare frames ∧ frames = [] ∧ uploads = [] ∧ s.attachment = a ∧ a.data = some s.data
  | .blobEncrypted =>
    s.HasReleased frames ∧ frames = [] ∧ uploads = [] ∧ s.attachment = a ∧ a.data = some s.data ∧
      ∃ key nonce : Bytes, s.encrypted = some (SecretBox.seal key nonce s.data) ∧
        s.reference = some ⟨.octets key, .octets nonce, none⟩
  | .blobUploaded =>
    s.IsBare frames ∧ frames = [] ∧ s.attachment = a ∧ a.data = some s.data ∧
      ∃ (key nonce : Bytes) (id : Option BlobId),
        uploads = [(SecretBox.seal key nonce s.data, id)] ∧
        s.reference = some ⟨.octets key, .octets nonce, id⟩
  | .frameBuilt =>
    s.encrypted = none ∧ ∃ f id key nonce payload,
      s.HoldsFrame a uploads frames f id key nonce payload
  | .sealed  => s.IsBare frames
  | .sent    => s.IsBare frames
  | .aborted => s.IsBare frames

section Guards

variable {uploads : List (Bytes × Option BlobId)} {frames : List Built}

/-! ### Abandoning -/

theorem HasReleased.abandoned (h : s.HasReleased frames) : s.abandoned.IsBare frames where
  frame := rfl
  buffers := by
    rw [AttachmentSend.abandoned, h.frame]
    exact h.buffers
  encrypted := rfl

section HoldsFrame

variable {f : Built} {id : BlobId} {key nonce payload : Bytes}

theorem HoldsFrame.buffers_wiped (h : s.HoldsFrame a uploads frames f id key nonce payload) :
    s.wiped.memory.buffers = [f.wiped] := by
  rw [wiped, h.frame]
  exact Built.buffers_wipe (.inl rfl) h.buffers

theorem HoldsFrame.abandoned (h : s.HoldsFrame a uploads frames f id key nonce payload) :
    s.abandoned.IsBare frames where
  frame := rfl
  buffers := by
    rw [AttachmentSend.abandoned, h.frame, h.frames_eq]
    exact Built.buffers_wipe (.inl rfl) h.buffers
  encrypted := rfl

/-- A frame that cannot be sealed is wiped twice. -/
theorem HoldsFrame.wiped_abandoned (h : s.HoldsFrame a uploads frames f id key nonce payload) :
    s.wiped.abandoned.IsBare frames where
  frame := rfl
  buffers := by
    rw [AttachmentSend.abandoned, show s.wiped.frame = some 0 from h.frame, h.frames_eq]
    exact Built.buffers_wipe (.inr rfl) h.buffers_wiped
  encrypted := rfl

end HoldsFrame

/-- From whatever stage a send is abandoned, nothing of its frames is left. -/
theorem Guards.abandoned (h : s.Guards a uploads frames) : s.abandoned.IsBare frames := by
  unfold Guards at h
  split at h
  · exact h.1.toHasReleased.abandoned
  · exact h.1.abandoned
  · exact h.1.toHasReleased.abandoned
  · obtain ⟨-, f, id, key, nonce, payload, hf⟩ := h
    exact hf.abandoned
  · exact h.toHasReleased.abandoned
  · exact h.toHasReleased.abandoned
  · exact h.toHasReleased.abandoned

/-! ### One call -/

/-- A call keeps up what is so in each stage. -/
def Call.Preserves (source : RandomSource ω) (a : Attachment)
    (uploads : List (Bytes × Option BlobId)) (frames : List Built) (s : AttachmentSend) (w : ω)
    (c : Call ω) : Prop :=
  (c.after source s w).1.Guards a (uploads ++ (c.uploaded? s w).toList)
    (frames ++ (c.built? source s w).toList)

variable {c : Call ω} {s' : AttachmentSend} {w' : ω}

theorem Call.after_of_ok (c : Call ω) (h : c.perform source (s, w) = .ok () (s', w')) :
    c.after source s w = (s', w') := by
  rw [after, h]

/-- Most calls neither upload anything nor build a frame. -/
theorem Call.preserves_of_ok (h : c.perform source (s, w) = .ok () (s', w'))
    (hu : c.uploaded? s w = none) (hb : c.built? source s w = none)
    (hs : s'.Guards a uploads frames) : c.Preserves source a uploads frames s w := by
  rw [Preserves, after_of_ok c h, hu, hb]
  simpa using hs

/-- A call that fails is not answered and builds nothing. -/
theorem Call.preserves_of_error {e : Failure} (h : c.perform source (s, w) = .error e (s', w'))
    (hs : s'.Guards a uploads frames) : c.Preserves source a uploads frames s w := by
  have hbuilt : c.built? source s w = none := by
    cases c with
    | buildFrame floor => simp only [built?, quietly_eq_error_iff.mp h]
    | _ => rfl
  rw [Preserves, after, h, uploaded?, answer?_of_error h, hbuilt]
  simpa using hs

theorem Guards.encryptBlob (h : s.Guards a uploads frames) (ho : s.stage = .composed) :
    Call.encryptBlob.Preserves source a uploads frames s w := by
  have hbare := h.abandoned
  simp only [Guards, ho] at h
  obtain ⟨hs, rfl, rfl, ha, hdata⟩ := h
  have hp : (Blob.prepare source s.data).Ensures w (fun _ => True) _ :=
    Blob.prepare_ensures source.leaves_true trivial _
  have hstep : AttachmentSend.encryptBlob source (s, w) = _ := encryptBlob_of_composed ho
  cases hd : Blob.prepare source s.data w with
  | error e w' =>
    rw [hd] at hstep
    exact Call.preserves_of_error (quietly_eq_error_iff.mpr hstep) hbare
  | ok out w' =>
    rw [hd] at hstep
    obtain ⟨-, key, nonce, -, -, rfl⟩ := hp.of_ok hd
    refine Call.preserves_of_ok (quietly_of_ok hstep) rfl rfl ?_
    exact ⟨⟨hs.frame, hs.buffers⟩, rfl, rfl, ha, hdata, key, nonce, rfl, rfl⟩

theorem Guards.upload {t : BlobTransport ω} (h : s.Guards a uploads frames)
    (ho : s.stage = .blobEncrypted) :
    (Call.upload t).Preserves source a uploads frames s w := by
  have hbare := h.abandoned
  simp only [Guards, ho] at h
  obtain ⟨hs, rfl, rfl, ha, hdata, key, nonce, hencrypted, hr⟩ := h
  have hstep : AttachmentSend.upload t (s, w) = _ := upload_of_blobEncrypted ho
  cases hd : t.upload (s.encrypted.getD []) w with
  | error e w' =>
    rw [hd] at hstep
    exact Call.preserves_of_error (quietly_eq_error_iff.mpr hstep) hbare
  | ok id w' =>
    rw [hd] at hstep
    rw [Call.Preserves, Call.after_of_ok (.upload t) (quietly_of_ok hstep), Call.uploaded?,
      Call.answer?, hstep, hencrypted]
    exact ⟨⟨⟨hs.frame, hs.buffers⟩, rfl⟩, rfl, ha, hdata, key, nonce, id, rfl, by rw [hr]; rfl⟩

theorem frameBytes_ensures_pads {P : ω → Prop} (hs : source.Leaves P) (hw : P w) (floor : Int)
    (s : AttachmentSend) :
    (frameBytes source floor s).Ensures w P fun frame => ∃ payload,
      s.framed.encodePayload = .ok payload ∧
        Frame.Pads s.attachment.kind.payloadKind.tag payload floor frame := by
  rw [frameBytes]
  refine (Action.Ensures.ofExcept hw fun _ => id).bind fun payload w₁ hw₁ hpayload => ?_
  refine (Frame.encode_ensures_pads hs hw₁ _ payload floor).mono fun frame hframe => ?_
  exact ⟨payload, hpayload, hframe⟩

theorem Guards.buildFrame {floor : Int} (h : s.Guards a uploads frames)
    (ho : s.stage = .blobUploaded) :
    (Call.buildFrame floor).Preserves source a uploads frames s w := by
  simp only [Guards, ho] at h
  obtain ⟨hs, rfl, ha, hdata, key, nonce, id, rfl, hr⟩ := h
  have hf : (frameBytes source floor s).Ensures w (fun _ => True) _ :=
    frameBytes_ensures_pads source.leaves_true trivial floor s
  have hstep : AttachmentSend.buildFrame source floor (s, w) = _ := buildFrame_of_blobUploaded ho
  cases hd : frameBytes source floor s w with
  | error e w' =>
    rw [hd] at hstep
    have hbare : { s with attachment := s.framed }.abandoned.IsBare [] :=
      HasReleased.abandoned ⟨hs.frame, hs.buffers⟩
    exact Call.preserves_of_error (quietly_eq_error_iff.mpr hstep) hbare
  | ok frame w' =>
    rw [hd] at hstep
    obtain ⟨-, payload, hpayload, hpads⟩ := hf.of_ok hd
    have hread := s.memory.read_allocate frame
    rw [SecretMemory.allocate] at hread
    have hnone : s.memory.buffers = [] := hs.buffers
    have hbuilt : (Call.buildFrame floor).built? source s w = some ⟨floor, frame⟩ := by
      simp only [Call.built?, hstep, Option.getD_some, hread]
    rw [Call.Preserves, Call.after_of_ok (.buildFrame floor) (quietly_of_ok hstep), hbuilt]
    -- the payload names the id of the blob, so there is one
    obtain ⟨-, r, i, hframed, hi⟩ := s.framed.fits_of_encodePayload hpayload
    obtain rfl : id = some i := by
      cases hr.symm.trans hframed
      exact hi
    refine ⟨hs.encrypted, ⟨floor, frame⟩, i, key, nonce, payload, ?_⟩
    exact {
      frames_eq := rfl
      frame := by rw [hnone]; rfl
      buffers := by rw [hnone]; rfl
      uploads_eq := rfl
      data := hdata
      reference := hr
      attachment := by rw [framed, ha]
      payload_eq := hpayload
      pads := ha ▸ hpads }

theorem Guards.sealFrame {recipientPublic senderPrivate : Material}
    (h : s.Guards a uploads frames) (ho : s.stage = .frameBuilt) :
    (Call.sealFrame recipientPublic senderPrivate).Preserves source a uploads frames s w := by
  simp only [Guards, ho] at h
  obtain ⟨hencrypted, f, id, key, nonce, payload, hf⟩ := h
  have hstep : AttachmentSend.sealFrame source recipientPublic senderPrivate (s, w) = _ :=
    sealFrame_of_frameBuilt ho
  cases hd : Box.seal source (s.memory.read (s.frame.getD 0)) recipientPublic senderPrivate w with
  | error e w' =>
    rw [hd] at hstep
    exact Call.preserves_of_error (quietly_eq_error_iff.mpr hstep) hf.wiped_abandoned
  | ok envelope w' =>
    rw [hd] at hstep
    refine Call.preserves_of_ok (quietly_of_ok hstep) rfl rfl ⟨⟨rfl, ?_⟩, hencrypted⟩
    rw [hf.frames_eq]
    exact hf.buffers_wiped

theorem Guards.markSent (h : s.Guards a uploads frames) (ho : s.stage = .sealed) :
    Call.markSent.Preserves source a uploads frames s w := by
  simp only [Guards, ho] at h
  have hsent : IsBare { s with stage := .sent } frames := ⟨⟨h.frame, h.buffers⟩, h.encrypted⟩
  exact Call.preserves_of_ok (advance_of_eq ho) rfl rfl hsent

theorem Guards.abort (h : s.Guards a uploads frames) :
    Call.abort.Preserves source a uploads frames s w := by
  by_cases hsent : s.stage = .sent
  · exact Call.preserves_of_error (abort_of_sent hsent) h
  · have hbare := h.abandoned
    exact Call.preserves_of_ok (abort_of_ne_sent hsent) rfl rfl hbare

theorem Guards.preserves_of_eq (h : s.Guards a uploads frames) {p : Passage}
    (hp : c.passage? = some p) (ho : s.stage = p.origin) :
    c.Preserves source a uploads frames s w := by
  cases c <;> cases hp
  case encryptBlob => exact h.encryptBlob ho
  case upload => exact h.upload ho
  case buildFrame => exact h.buildFrame ho
  case sealFrame => exact h.sealFrame ho
  case markSent => exact h.markSent ho

/-- Whatever is called on a send, what is to be so in its stage is so after the call. -/
theorem Guards.preserves (h : s.Guards a uploads frames) (c : Call ω) :
    c.Preserves source a uploads frames s w := by
  cases hp : c.passage? with
  | none =>
    cases c <;> cases hp
    exact h.abort
  | some p =>
    by_cases ho : s.stage = p.origin
    · exact h.preserves_of_eq hp ho
    · exact Call.preserves_of_error (Call.perform_of_ne source w hp ho) h

/-! ### Every course of a send -/

theorem Guards.of_course {s₀ : AttachmentSend} {w₀ : ω} (h₀ : start a = .ok s₀)
    (h : Course source s₀ w₀ uploads frames s w) : s.Guards a uploads frames := by
  induction h with
  | start =>
    rw [AttachmentSend.start] at h₀
    split at h₀ <;> cases h₀
    exact ⟨⟨⟨rfl, rfl⟩, rfl⟩, rfl, rfl, rfl, ‹_›⟩
  | call _ c ih => exact ih.preserves c
  | elsewhere _ w' ih => exact ih

/-- After any course of a send, all frames that were ever built are wiped, each to as many zeros as
it had octets, and the send holds none of them; only where a frame has been built and nothing has
come of it yet, the send holds the one buffer there is, with the frame of its attachment and of the
reference that came of the upload. Encrypted data are held from their encryption until they are
uploaded or the send is abandoned. -/
theorem keepsSecrets_of_course {s₀ : AttachmentSend} {w₀ : ω} (h₀ : start a = .ok s₀)
    (h : Course source s₀ w₀ uploads frames s w) :
    (s.stage ≠ .frameBuilt → s.HasReleased frames) ∧
    (s.stage = .frameBuilt → ∃ f id key nonce payload,
      s.HoldsFrame a uploads frames f id key nonce payload) ∧
    (s.encrypted.isSome = true ↔ s.stage = .blobEncrypted) := by
  have hg := Guards.of_course h₀ h
  unfold Guards at hg
  split at hg <;> rename_i hstage <;> rw [hstage]
  case h_1 => exact ⟨fun _ => hg.1.toHasReleased, nofun, by simp [hg.1.encrypted]⟩
  case h_2 =>
    obtain ⟨hreleased, -, -, -, -, key, nonce, hencrypted, -⟩ := hg
    exact ⟨fun _ => hreleased, nofun, by simp [hencrypted]⟩
  case h_3 => exact ⟨fun _ => hg.1.toHasReleased, nofun, by simp [hg.1.encrypted]⟩
  case h_4 => exact ⟨fun hne => absurd rfl hne, fun _ => hg.2, by simp [hg.1]⟩
  all_goals exact ⟨fun _ => hg.toHasReleased, nofun, by simp [hg.encrypted]⟩

end Guards

/-- The frame of an image is built, and then the image is not sent after all. -/
theorem keepsSecrets_of_course_abandoned :
    ∃ s₀ uploads frames s w, start ⟨.image, some [1, 2, 3], none⟩ = .ok s₀ ∧
      Course Tape.source s₀ (.counting 0) uploads frames s w ∧ s.stage = .aborted ∧
      frames.map (·.bytes.length) = [74] ∧
      (s.stage ≠ .frameBuilt → s.HasReleased frames) ∧
      (s.stage = .frameBuilt → ∃ f id key nonce payload,
        s.HoldsFrame ⟨.image, some [1, 2, 3], none⟩ uploads frames f id key nonce payload) ∧
      (s.encrypted.isSome = true ↔ s.stage = .blobEncrypted) := by
  let t : BlobTransport Tape := .answering (.ok (some (.ofNat 1))) (.ok none)
  let s₀ : AttachmentSend :=
    ⟨⟨.image, some [1, 2, 3], none⟩, [1, 2, 3], .composed, none, none, none, none, none, .empty⟩
  have hs : start ⟨.image, some [1, 2, 3], none⟩ = .ok s₀ := rfl
  have h₀ : Course Tape.source s₀ (.counting 0) [] [] s₀ (.counting 0) := .start
  have h := (((h₀.call .encryptBlob).call (.upload t)).call (.buildFrame 32)).call .abort
  exact ⟨s₀, _, _, _, _, hs, h, rfl, rfl, keepsSecrets_of_course hs h⟩

end SealedPost.AttachmentSend
