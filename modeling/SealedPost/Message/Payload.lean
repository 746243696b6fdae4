import SealedPost.Message

/-!
# Payloads

The payload of a text is the text; of an image, its reference; of a file, its reference and two
strings, each after its length; of a receipt, its type and the ids of the messages it is for. A
payload that is too short for its kind is refused before its parts are looked at.
-/

namespace SealedPost

/-! ### Parts -/

/-- The most octets in a text. -/
def maxTextSize : Nat := 3500

/-- The octets in the id of a message. -/
def messageIdSize : Nat := 8

/-- A text after the number of its octets; `name` is what it is called in failures. -/
def packString (name s : String) : Except Failure Bytes :=
  let bs := Utf8.encode s
  if bs.length ≤ 0xffff then .ok (Bytes.ofNatBE 2 bs.length ++ bs)
  else .error (.stringTooLong name bs.length)

/-- The text at the front of an octet string and what comes after it. -/
def unpackString (bs : Bytes) : Except Failure (String × Bytes) :=
  if bs.length < 2 then .error .lengthTruncated
  else
    let length := Bytes.toNatBE (bs.take 2)
    let rest := bs.drop 2
    if rest.length < length then .error (.stringExceeds length rest.length)
    else
      match Utf8.decode (rest.take length) with
      | .error fault => .error (.stringNotUtf8 fault)
      | .ok s        => .ok (s, rest.drop length)

/-- The first id that has not the length of one is refused. -/
def packIds : List Bytes → Except Failure Bytes
  | []        => .ok []
  | id :: ids =>
    if id.length = messageIdSize then do
      let rest ← packIds ids
      pure (id ++ rest)
    else .error (.messageIdLength id.length)

/-! ### Writing -/

/-- The payload of an attachment. -/
def Attachment.encodePayload (a : Attachment) : Except Failure Bytes :=
  match a.reference with
  | none   => .error (.notUploaded a.kind.payloadKind)
  | some r => do
    let reference ← r.encode
    match a.kind with
    | .image                  => pure reference
    | .file mimeType filename =>
      let mimeType ← packString "Mime type" mimeType
      let filename ← packString "Filename" filename
      pure (reference ++ mimeType ++ filename)

/-- The payload of a message. -/
def Message.encodePayload : Message → Except Failure Bytes
  | .text s =>
    let bs := Utf8.encode s
    if bs.length ≤ maxTextSize then .ok bs else .error (.textTooLong bs.length)
  | .attachment a => a.encodePayload
  | .receipt receiptType ids =>
    if ids.isEmpty then .error .noMessageIds
    else do
      let ids ← packIds ids
      if 0 ≤ receiptType ∧ receiptType ≤ 255 then pure (UInt8.ofNat receiptType.toNat :: ids)
      else throw .receiptTypeOutOfRange

/-! ### Reading -/

namespace Payload

def decodeText (bs : Bytes) : Except Failure Message :=
  match Utf8.decode bs with
  | .error fault => .error (.textNotUtf8 fault)
  | .ok s        => .ok (.text s)

def decodeImage (bs : Bytes) : Except Failure Message := do
  let r ← BlobReference.decode bs
  pure (.attachment ⟨.image, none, some r⟩)

def decodeFile (bs : Bytes) : Except Failure Message :=
  if bs.length < BlobReference.size + 4 then .error (.filePayloadTooShort bs.length)
  else do
    let r ← BlobReference.decode (bs.take BlobReference.size)
    let (mimeType, rest) ← unpackString (bs.drop BlobReference.size)
    let (filename, rest) ← unpackString rest
    if rest.isEmpty then pure (.attachment ⟨.file mimeType filename, none, some r⟩)
    else throw (.trailingOctets rest.length)

/-- Is the octet the type of a receipt: received, read, acknowledged or declined? -/
def isReceiptType (code : UInt8) : Bool := 1 ≤ code && code ≤ 4

def decodeReceipt (bs : Bytes) : Except Failure Message :=
  match bs with
  | code :: ids =>
    if bs.length < 1 + messageIdSize then .error (.receiptTooShort bs.length)
    else if ids.length % messageIdSize ≠ 0 then .error (.messageIdsUneven ids.length)
    else if isReceiptType code then .ok (.receipt code.toNat (Bytes.blocks messageIdSize ids))
    else .error (.unknownReceiptType code)
  | [] => .error (.receiptTooShort 0)

/-- The message in a payload of a known kind. -/
def decodeAs : PayloadKind → Bytes → Except Failure Message
  | .text    => decodeText
  | .image   => decodeImage
  | .file    => decodeFile
  | .receipt => decodeReceipt

/-- The fewest octets in a payload of a kind. -/
def minSize : PayloadKind → Nat
  | .text    => 0
  | .image   => BlobReference.size
  | .file    => BlobReference.size + 4
  | .receipt => 1 + messageIdSize

/-- The message in a payload under a tag. -/
def decode (tag : Int) (bs : Bytes) : Except Failure Message :=
  match PayloadKind.ofTag? tag with
  | none      => .error (.unknownTag tag)
  | some kind =>
    if bs.length < minSize kind then .error (.payloadTooShort kind bs.length (minSize kind))
    else decodeAs kind bs

end Payload

end SealedPost
