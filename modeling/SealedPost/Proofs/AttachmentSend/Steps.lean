import SealedPost.AttachmentSend
import SealedPost.Proofs.Action

/-!
# What the steps of an attachment come to

Each step has one equation for its own stage: what its collaborators answer decides whether the
send moves on or is abandoned. In every other stage a step fails and changes nothing.
-/

namespace SealedPost.AttachmentSend

variable {ω α : Type} {s : AttachmentSend} {w : ω} {expected target : Stage}
  {work : AttachmentSend → ω → EStateM.Result Failure (AttachmentSend × ω) α}

/-! ### Steps in general -/

theorem require_of_eq (h : s.stage = expected) :
    require expected target (s, w) = .ok () (s, w) := by
  rw [require, if_pos h]

theorem require_of_ne (h : s.stage ≠ expected) :
    require expected target (s, w) = .error (.wrongStage target s.stage expected) (s, w) := by
  rw [require, if_neg h]

theorem advance_of_eq (h : s.stage = expected) :
    advance expected target (s, w) = .ok () ({ s with stage := target }, w) :=
  Action.bind_of_ok (require_of_eq h)

theorem advance_of_ne (h : s.stage ≠ expected) :
    advance expected target (s, w) = .error (.wrongStage target s.stage expected) (s, w) :=
  Action.bind_of_error (require_of_ne h)

theorem abort_of_ne_sent (h : s.stage ≠ .sent) : abort (s, w) = .ok () (s.abandoned, w) := by
  rw [abort, if_neg h]

theorem abort_of_sent (h : s.stage = .sent) : abort (s, w) = .error .alreadySent (s, w) := by
  rw [abort, if_pos h]

/-- A step that is called out of its stage fails, whatever its work would be. -/
theorem step_of_ne (h : s.stage ≠ expected) :
    step expected target work (s, w) = .error (.wrongStage target s.stage expected) (s, w) :=
  Action.bind_of_error (require_of_ne h)

/-- Does some work leave the send in its stage? -/
def KeepsStage (work : AttachmentSend → ω → EStateM.Result Failure (AttachmentSend × ω) α)
    (s : AttachmentSend) (w : ω) : Prop :=
  match work s w with
  | .ok _ (s', _)    => s'.stage = s.stage
  | .error _ (s', _) => s'.stage = s.stage

/-- In its own stage a step moves on or abandons the send. Neither of the looks at the stage after
the work can fail, so the failure is always that of the work. -/
theorem step_of_eq (h : s.stage = expected) (hne : expected ≠ .sent)
    (hk : KeepsStage work s w) :
    step expected target work (s, w) =
      match work s w with
      | .ok a (s', w')    => .ok a ({ s' with stage := target }, w')
      | .error e (s', w') => .error e (s'.abandoned, w') := by
  rw [step, Action.bind_of_ok (require_of_eq h)]
  unfold KeepsStage at hk
  cases hw : work s w with
  | ok a sw =>
    obtain ⟨s', w'⟩ := sw
    rw [hw] at hk
    have hattempt : attempt work (s, w) = .ok a (s', w') := by rw [attempt, hw]
    rw [Action.bind_of_ok hattempt, Action.bind_of_ok (advance_of_eq (Eq.trans hk h))]
    rfl
  | error e sw =>
    obtain ⟨s', w'⟩ := sw
    rw [hw] at hk
    have hsent : s'.stage ≠ .sent := by
      rw [show s'.stage = s.stage from hk, h]
      exact hne
    have hattempt : attempt work (s, w) = .error e (s'.abandoned, w') := by
      simp only [attempt, hw, abort_of_ne_sent hsent]
    rw [Action.bind_of_error hattempt]

/-! ### The steps -/

variable {source : RandomSource ω}

theorem encryptBlob_of_composed (h : s.stage = .composed) :
    encryptBlob source (s, w) =
      match Blob.prepare source s.data w with
      | .ok (encrypted, r) w' =>
        .ok encrypted ({ s with
          stage := .blobEncrypted, encrypted := some encrypted, reference := some r }, w')
      | .error e w' => .error e (s.abandoned, w') := by
  rw [encryptBlob, step_of_eq h (by decide)]
  · cases Blob.prepare source s.data w <;> rfl
  · cases h : Blob.prepare source s.data w <;> simp [KeepsStage, h]

theorem upload_of_blobEncrypted {t : BlobTransport ω} (h : s.stage = .blobEncrypted) :
    upload t (s, w) =
      match t.upload (s.encrypted.getD []) w with
      | .ok id w' =>
        .ok id ({ s with
          stage := .blobUploaded, blobId := id, reference := s.reference.map (·.withBlobId id),
          encrypted := none }, w')
      | .error e w' => .error (uploadFailure e) (s.abandoned, w') := by
  rw [upload, step_of_eq h (by decide)]
  · cases t.upload (s.encrypted.getD []) w <;> rfl
  · cases h : t.upload (s.encrypted.getD []) w <;> simp [KeepsStage, h]

/-- The attachment as it is framed: with the reference that came of the upload. -/
def framed (s : AttachmentSend) : Attachment := { s.attachment with reference := s.reference }

/-- The frame of the attachment, from its payload on. -/
def frameBytes (source : RandomSource ω) (floor : Int) (s : AttachmentSend) : Action ω Bytes := do
  let payload ← Action.ofExcept s.framed.encodePayload
  Frame.encode source s.attachment.kind.payloadKind.tag.toNat payload floor

theorem buildFrame_of_blobUploaded {floor : Int} (h : s.stage = .blobUploaded) :
    buildFrame source floor (s, w) =
      match frameBytes source floor s w with
      | .ok frame w' =>
        .ok frame.length ({ s with
          stage := .frameBuilt, attachment := s.framed, frame := some s.memory.buffers.length,
          memory := ⟨s.memory.buffers ++ [⟨frame⟩]⟩ }, w')
      | .error e w' => .error e ({ s with attachment := s.framed }.abandoned, w') := by
  have hwork : ∀ sw, buildFrame source floor sw = step .blobUploaded .frameBuilt
      (fun s w => match frameBytes source floor s w with
        | .ok frame w' => .ok frame.length ({ s with
            attachment := s.framed, frame := some s.memory.buffers.length,
            memory := ⟨s.memory.buffers ++ [⟨frame⟩]⟩ }, w')
        | .error e w' => .error e ({ s with attachment := s.framed }, w')) sw := by
    intro sw
    rw [buildFrame]
    congr 1
    funext s w
    simp only [frameBytes, framed]
    cases he : Attachment.encodePayload { s.attachment with reference := s.reference } with
    | error e => rfl
    | ok payload =>
      simp only [Action.ofExcept_ok_bind]
      cases Frame.encode source s.attachment.kind.payloadKind.tag.toNat payload floor w <;> rfl
  rw [hwork, step_of_eq h (by decide)]
  · cases frameBytes source floor s w <;> rfl
  · cases h : frameBytes source floor s w <;> simp [KeepsStage, h]

/-- The send after its frame has been wiped. -/
def wiped (s : AttachmentSend) : AttachmentSend :=
  { s with memory := s.memory.wipe (s.frame.getD 0) }

theorem sealFrame_of_frameBuilt {recipientPublic senderPrivate : Material}
    (h : s.stage = .frameBuilt) :
    sealFrame source recipientPublic senderPrivate (s, w) =
      match Box.seal source (s.memory.read (s.frame.getD 0)) recipientPublic senderPrivate w with
      | .ok envelope w' =>
        .ok envelope ({ s.wiped with
          stage := .sealed, frame := none, envelope := some envelope }, w')
      | .error e w' => .error e (s.wiped.abandoned, w') := by
  rw [sealFrame, step_of_eq h (by decide)]
  · simp only [wiped]
    cases Box.seal source (s.memory.read (s.frame.getD 0)) recipientPublic senderPrivate w <;> rfl
  · cases h : Box.seal source (s.memory.read (s.frame.getD 0)) recipientPublic senderPrivate w <;>
      simp [KeepsStage, h]

end SealedPost.AttachmentSend
