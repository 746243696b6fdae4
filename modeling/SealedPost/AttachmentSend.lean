import SealedPost.Attachment
import SealedPost.Frame
import SealedPost.Message.Payload
import SealedPost.SecretMemory

/-!
# An attachment on its way out

The stages are passed in one order: the data are encrypted, the blob is uploaded, the frame is
built, the frame is sealed, the envelope is sent. A step that is called in another stage than its
own fails and does nothing. A step that fails in its own stage abandons the send for good. The
frame is in secret memory and is wiped when it has been sealed or the send is abandoned.
-/

namespace SealedPost

/-- One outbound attachment. -/
structure AttachmentSend where
  attachment : Attachment
  data : Bytes
  stage : Stage
  blobId : Option BlobId
  envelope : Option Envelope
  encrypted : Option Bytes
  reference : Option BlobReference
  frame : Option SecretMemory.Handle
  memory : SecretMemory
  deriving DecidableEq

namespace AttachmentSend

variable {ω α : Type}

/-- A step of a send in a world. -/
abbrev Step (ω : Type) := EStateM Failure (AttachmentSend × ω)

/-- A send at its beginning; the attachment must have its data. -/
def start (a : Attachment) : Except Failure AttachmentSend :=
  match a.data with
  | none      => .error .noData
  | some data => .ok ⟨a, data, .composed, none, none, none, none, none, .empty⟩

/-- The send of a message, which must be an attachment. -/
def ofMessage : Message → Except Failure AttachmentSend
  | .attachment a => start a
  | m             => .error (.noAttachment m.payloadKind)

/-! ### Abandoning -/

/-- The send after it has been abandoned: a built frame is wiped, and no encrypted data are kept. -/
def abandoned (s : AttachmentSend) : AttachmentSend :=
  { s with
    stage := .aborted
    encrypted := none
    frame := none
    memory := match s.frame with
      | some h => s.memory.wipe h
      | none   => s.memory }

/-- Abandons a send that has not been sent. -/
def abort : Step ω Unit := fun (s, w) =>
  if s.stage = .sent then .error .alreadySent (s, w) else .ok () (s.abandoned, w)

/-! ### Steps -/

/-- Refuses a step that is called in another stage than its own. -/
def require (expected target : Stage) : Step ω Unit := fun (s, w) =>
  if s.stage = expected then .ok () (s, w)
  else .error (.wrongStage target s.stage expected) (s, w)

/-- Moves a send on from one stage to another. -/
def advance (expected target : Stage) : Step ω Unit := do
  require expected target
  fun (s, w) => .ok () ({ s with stage := target }, w)

/-- Does the work of a step. The work may change the send before it fails; the changed send is then
abandoned, and the failure goes on unless the send cannot be abandoned. -/
def attempt (work : AttachmentSend → ω → EStateM.Result Failure (AttachmentSend × ω) α) :
    Step ω α := fun (s, w) =>
  match work s w with
  | .ok a sw    => .ok a sw
  | .error e sw =>
    match abort sw with
    | .ok () sw   => .error e sw
    | .error e sw => .error e sw

/-- A step from one stage to another. Its stage is looked at before its work and once more when the
send moves on. -/
def step (expected target : Stage)
    (work : AttachmentSend → ω → EStateM.Result Failure (AttachmentSend × ω) α) : Step ω α := do
  require expected target
  let a ← attempt work
  advance expected target
  pure a

/-- Encrypts the data; gives the octets to upload. -/
def encryptBlob (source : RandomSource ω) : Step ω Bytes :=
  step .composed .blobEncrypted fun s w =>
    match Blob.prepare source s.data w with
    | .ok (encrypted, r) w =>
      .ok encrypted ({ s with encrypted := some encrypted, reference := some r }, w)
    | .error e w => .error e (s, w)

/-- The failure of an upload, as the one who sends sees it. -/
def uploadFailure (cause : Failure) : Failure :=
  if cause.kind = .blobUploadFailed then cause else .uploadFailed cause

/-- Uploads the encrypted data; gives the id that the transport answers with. -/
def upload (t : BlobTransport ω) : Step ω (Option BlobId) :=
  step .blobEncrypted .blobUploaded fun s w =>
    match t.upload (s.encrypted.getD []) w with
    | .ok id w =>
      .ok id ({ s with
        blobId := id, reference := s.reference.map (·.withBlobId id), encrypted := none }, w)
    | .error e w => .error (uploadFailure e) (s, w)

/-- Builds the frame of the attachment with its new reference; gives its length. -/
def buildFrame (source : RandomSource ω) (floor : Int) : Step ω Nat :=
  step .blobUploaded .frameBuilt fun s w =>
    let a := { s.attachment with reference := s.reference }
    let s := { s with attachment := a }
    match a.encodePayload with
    | .error e    => .error e (s, w)
    | .ok payload =>
      match Frame.encode source a.kind.payloadKind.tag.toNat payload floor w with
      | .error e w  => .error e (s, w)
      | .ok frame w =>
        let (h, memory) := s.memory.allocate frame
        .ok frame.length ({ s with frame := some h, memory := memory }, w)

/-- Seals the frame for a recipient. The frame is wiped, whether it could be sealed or not. -/
def sealFrame (source : RandomSource ω) (recipientPublic senderPrivate : Material) :
    Step ω Envelope :=
  step .frameBuilt .sealed fun s w =>
    let h := s.frame.getD 0
    let wiped := { s with memory := s.memory.wipe h }
    match Box.seal source (s.memory.read h) recipientPublic senderPrivate w with
    | .ok envelope w => .ok envelope ({ wiped with frame := none, envelope := some envelope }, w)
    | .error e w     => .error e (wiped, w)

/-- Takes down that the envelope was handed over. -/
def markSent : Step ω Unit := advance .sealed .sent

/-! ### From the data to the envelope -/

/-- The first four steps in their order. -/
def perform (source : RandomSource ω) (t : BlobTransport ω) (floor : Int)
    (recipientPublic senderPrivate : Material) : Step ω Envelope := do
  let _ ← encryptBlob source
  let _ ← upload t
  let _ ← buildFrame source floor
  sealFrame source recipientPublic senderPrivate

/-- Forgets the send and keeps the world. -/
def forget (s : AttachmentSend) (x : Step ω α) : Action ω α := fun w =>
  match x (s, w) with
  | .ok a (_, w)    => .ok a w
  | .error e (_, w) => .error e w

end AttachmentSend

end SealedPost
