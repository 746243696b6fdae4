import SealedPost.Proofs.AttachmentSend.Steps
import SealedPost.Proofs.Blob

/-!
# A send from its beginning to its envelope

When the steps of a send are made in their order, nothing is left to see of its stages: what happens
in the world is that the data are put into a blob, and that the frame with the new reference is
built and sealed.
-/

namespace SealedPost

variable {ω : Type}

/-- Puts the data of an attachment into a blob and seals its frame, without stages. -/
def Attachment.encrypt (source : RandomSource ω) (t : BlobTransport ω) (floor : Int)
    (recipientPublic senderPrivate : Material) (data : Bytes) (a : Attachment) :
    Action ω Envelope := do
  let r ← Blob.put source t data
  let payload ← Action.ofExcept { a with reference := some r }.encodePayload
  let frame ← Frame.encode source a.kind.payloadKind.tag.toNat payload floor
  Box.seal source frame recipientPublic senderPrivate

namespace AttachmentSend

/-! ### One step after another -/

section Forget

variable {α β : Type} {x : Step ω α} {f : α → Step ω β} {s s' : AttachmentSend} {w w' : ω}

theorem forget_bind_of_ok {a : α} (h : x (s, w) = .ok a (s', w')) :
    s.forget (x >>= f) w = s'.forget (f a) w' := by
  unfold forget
  rw [Action.bind_of_ok h]

theorem forget_bind_of_error {e : Failure} (h : x (s, w) = .error e (s', w')) :
    s.forget (x >>= f) w = .error e w' := by
  unfold forget
  rw [Action.bind_of_error h]

end Forget

section Steps

variable {β : Type} {source : RandomSource ω} {t : BlobTransport ω} {s : AttachmentSend}

theorem forget_encryptBlob_bind (h : s.stage = .composed) (f : Bytes → Step ω β) :
    s.forget (encryptBlob source >>= f) = (do
      let (encrypted, r) ← Blob.prepare source s.data
      forget { s with
        stage := .blobEncrypted, encrypted := some encrypted, reference := some r }
        (f encrypted)) := by
  funext w
  have hstep : encryptBlob source (s, w) = _ := encryptBlob_of_composed h
  cases hp : Blob.prepare source s.data w with
  | ok out w₁ =>
    rw [hp] at hstep
    rw [forget_bind_of_ok hstep, Action.bind_of_ok hp]
  | error e w₁ =>
    rw [hp] at hstep
    rw [forget_bind_of_error hstep, Action.bind_of_error hp]

theorem forget_upload_bind (h : s.stage = .blobEncrypted) (f : Option BlobId → Step ω β) :
    s.forget (upload t >>= f) = (do
      let id ← EStateM.adaptExcept uploadFailure (t.upload (s.encrypted.getD []))
      forget { s with
        stage := .blobUploaded, blobId := id, reference := s.reference.map (·.withBlobId id),
        encrypted := none } (f id)) := by
  funext w
  have hstep : upload t (s, w) = _ := upload_of_blobEncrypted h
  cases hu : t.upload (s.encrypted.getD []) w with
  | ok id w₁ =>
    rw [hu] at hstep
    have hadapted : EStateM.adaptExcept uploadFailure (t.upload (s.encrypted.getD [])) w =
        .ok id w₁ := by
      rw [EStateM.adaptExcept, hu]
    rw [forget_bind_of_ok hstep, Action.bind_of_ok hadapted]
  | error e w₁ =>
    rw [hu] at hstep
    have hadapted : EStateM.adaptExcept uploadFailure (t.upload (s.encrypted.getD [])) w =
        .error (uploadFailure e) w₁ := by
      rw [EStateM.adaptExcept, hu]
    rw [forget_bind_of_error hstep, Action.bind_of_error hadapted]

theorem forget_buildFrame_bind {floor : Int} (h : s.stage = .blobUploaded) (f : Nat → Step ω β) :
    s.forget (buildFrame source floor >>= f) = (do
      let frame ← frameBytes source floor s
      forget { s with
        stage := .frameBuilt, attachment := s.framed, frame := some s.memory.buffers.length,
        memory := ⟨s.memory.buffers ++ [⟨frame⟩]⟩ } (f frame.length)) := by
  funext w
  have hstep : buildFrame source floor (s, w) = _ := buildFrame_of_blobUploaded h
  cases hf : frameBytes source floor s w with
  | ok frame w₁ =>
    rw [hf] at hstep
    rw [forget_bind_of_ok hstep, Action.bind_of_ok hf]
  | error e w₁ =>
    rw [hf] at hstep
    rw [forget_bind_of_error hstep, Action.bind_of_error hf]

theorem forget_sealFrame {recipientPublic senderPrivate : Material} (h : s.stage = .frameBuilt) :
    s.forget (sealFrame source recipientPublic senderPrivate) =
      Box.seal source (s.memory.read (s.frame.getD 0)) recipientPublic senderPrivate := by
  funext w
  rw [forget, sealFrame_of_frameBuilt h]
  cases Box.seal source (s.memory.read (s.frame.getD 0)) recipientPublic senderPrivate w <;> rfl

end Steps

/-! ### All steps -/

/-- The four steps do to the world what the attachment asks for without them, and come to the same
envelope or the same failure. -/
theorem forget_perform {source : RandomSource ω} {t : BlobTransport ω} {floor : Int}
    {recipientPublic senderPrivate : Material} {a : Attachment} {data : Bytes}
    {s : AttachmentSend} (h : start a = .ok s) (hd : a.data = some data) :
    s.forget (perform source t floor recipientPublic senderPrivate) =
      a.encrypt source t floor recipientPublic senderPrivate data := by
  rw [start, hd] at h
  cases h
  rw [perform, Attachment.encrypt, Blob.put, forget_encryptBlob_bind rfl, bind_assoc]
  congr 1
  funext ⟨encrypted, r⟩
  simp only
  rw [forget_upload_bind rfl, bind_assoc]
  congr 1
  funext id
  rw [forget_buildFrame_bind rfl, frameBytes, pure_bind, bind_assoc]
  congr 1
  funext payload
  congr 1
  funext frame
  -- the frame is the only buffer so far, and what its handle reads
  rw [forget_sealFrame rfl]
  rfl

end AttachmentSend

end SealedPost
