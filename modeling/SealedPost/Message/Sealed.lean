import SealedPost.AttachmentSend

/-!
# Sealed messages

A message is framed and sealed for a recipient; the data of an attachment are uploaded before. An
opened message is read back; with a transport, the data of an attachment are fetched too, once the
message has been read.
-/

namespace SealedPost

variable {ω : Type}

/-- Seals a message from a sender for a recipient. The key of the recipient is checked before
anything is drawn or uploaded. -/
def Message.encrypt (source : RandomSource ω) (m : Message) (sender : KeyPair)
    (recipientPublic : Material) (floor : Int) (transport : Option (BlobTransport ω)) :
    Action ω Envelope := do
  let recipientKey ← Action.ofExcept (Key.check "Recipient public key" Key.size recipientPublic)
  match m with
  | .attachment a =>
    match transport with
    | none   => throw (.noTransport a.kind.payloadKind)
    | some t =>
      let s ← Action.ofExcept (AttachmentSend.start a)
      s.forget (AttachmentSend.perform source t floor recipientKey sender.privateKey)
  | m =>
    let payload ← Action.ofExcept m.encodePayload
    let frame ← Frame.encode source m.payloadKind.tag.toNat payload floor
    Box.seal source frame recipientKey sender.privateKey

/-- The message in an envelope, an attachment without its data. -/
def Message.open (envelope : Envelope) (senderPublic recipientPrivate : Material) :
    Except Failure Message := do
  let frame ← Box.open envelope senderPublic recipientPrivate
  let (tag, payload) ← Frame.decode frame
  Payload.decode tag.toNat payload

/-- Fetches the data of an attachment; other messages stay as they are. -/
def Message.resolve (t : BlobTransport ω) : Message → Action ω Message
  | .attachment a =>
    match a.reference with
    | none   => pure (.attachment a)
    | some r => do
      let data ← r.fetch t
      pure (.attachment { a with data := some data })
  | m => pure m

/-- The message in an envelope; with a transport, an attachment with its data. -/
def Message.decrypt (envelope : Envelope) (senderPublic recipientPrivate : Material)
    (transport : Option (BlobTransport ω)) : Action ω Message := do
  let m ← Action.ofExcept (Message.open envelope senderPublic recipientPrivate)
  match transport with
  | none   => pure m
  | some t => m.resolve t

end SealedPost
