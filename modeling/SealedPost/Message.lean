import SealedPost.Blob

/-!
# Messages

A message is a text, an attachment or a receipt. An attachment is an image or a named file; it may
have its data, a reference to the blob that holds them, both or neither.
-/

namespace SealedPost

/-! ### Attachments -/

/-- What an attachment is. -/
inductive AttachmentKind where
  | image
  | file (mimeType filename : String)
  deriving DecidableEq

/-- An attachment; the frame of its message holds the reference and not the data. -/
structure Attachment where
  kind : AttachmentKind
  data : Option Bytes
  reference : Option BlobReference
  deriving DecidableEq

namespace AttachmentKind

/-- The mime type of a file that was given none. -/
def defaultMimeType : String := "application/octet-stream"

def payloadKind : AttachmentKind → PayloadKind
  | .image    => .image
  | .file _ _ => .file

end AttachmentKind

/-! ### Messages -/

/-- A message. The type of a receipt and the length of its ids are looked at when it is framed. -/
inductive Message where
  | text (text : String)
  | attachment (attachment : Attachment)
  | receipt (receiptType : Int) (messageIds : List Bytes)
  deriving DecidableEq

namespace Message

def payloadKind : Message → PayloadKind
  | .text _       => .text
  | .attachment a => a.kind.payloadKind
  | .receipt _ _  => .receipt

/-- Does the message carry its content in a blob? -/
def isAttachment : Message → Bool
  | .attachment _ => true
  | _             => false

/-- Is the content there? Only an attachment can lack it. -/
def isResolved : Message → Bool
  | .attachment a => a.data.isSome
  | _             => true

/-- A message without the reference to its blob. -/
def withoutReference : Message → Message
  | .attachment a => .attachment { a with reference := none }
  | m             => m

/-- Do two messages say the same? Where the blob lies makes no difference. -/
def same (m n : Message) : Bool := m.withoutReference = n.withoutReference

end Message

/-! ### Tags -/

/-- The tag of a frame for each kind of payload. -/
def PayloadKind.tag : PayloadKind → UInt8
  | .text    => 0x01
  | .image   => 0x02
  | .file    => 0x17
  | .receipt => 0x80

/-- The kind of payload that a tag stands for. -/
def PayloadKind.ofTag? (tag : Int) : Option PayloadKind :=
  [PayloadKind.text, .image, .file, .receipt].find? fun kind => kind.tag.toNat == tag

end SealedPost
