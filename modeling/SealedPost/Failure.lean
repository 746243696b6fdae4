import SealedPost.Material
import SealedPost.Number.Whole
import SealedPost.Text.Utf8

/-!
# Failures

A failure is a cause with what is known of it. Its kind says which family it belongs to, which
decides where it is wrapped on its way; its message is the one text that is shown of it. What a
collaborator reports of its own is a kind and a text.

Whole numbers in messages are written in full. Those of more than `Whole.maxDigits` digits are not
read, and have no text in a message either: they are out of scope wherever a failure names a number.
-/

namespace SealedPost

/-! ### Kinds -/

/-- The kinds of failures. -/
inductive Kind where
  -- of the library
  | gateway
  | invalidKeyLength
  | invalidNonceLength
  | malformedFrame
  | malformedPayload
  | authenticationFailed
  | encryption
  | blobFetchFailed
  | blobUploadFailed
  | badBlobId
  | invalidIdentity
  | invalidState
  | messageTooLong
  -- of the gateway's answers
  | gatewayApi
  | badSenderOrRecipient
  | badCredentials
  | noCredits
  | idNotFound
  | server
  -- of a request on its way
  | request
  | connection
  | timeout
  | httpStatus
  -- of arguments and of the system
  | value
  | type
  | lookup
  | index
  | attribute
  | overflow
  | system
  | runtime
  | other
  deriving DecidableEq, Repr

/-- Is the failure one of the library's own or one that the gateway's answer stands for? -/
def Kind.isGateway : Kind → Bool
  | .gateway | .invalidKeyLength | .invalidNonceLength | .malformedFrame | .malformedPayload
  | .authenticationFailed | .encryption | .blobFetchFailed | .blobUploadFailed | .badBlobId
  | .invalidIdentity | .invalidState | .messageTooLong | .gatewayApi | .badSenderOrRecipient
  | .badCredentials | .noCredits | .idNotFound | .server => true
  | _ => false

/-- Did a request fail before any answer came? -/
def Kind.isRequest : Kind → Bool
  | .request | .connection | .timeout | .httpStatus => true
  | _ => false

/-! ### What failures name -/

/-- The kinds of payloads, as failures name them. -/
inductive PayloadKind where
  | text
  | image
  | file
  | receipt
  deriving DecidableEq, Repr

def PayloadKind.name : PayloadKind → String
  | .text    => "TextMessage"
  | .image   => "ImageMessage"
  | .file    => "FileMessage"
  | .receipt => "DeliveryReceipt"

/-- How far an outbound attachment has come. -/
inductive Stage where
  | composed
  | blobEncrypted
  | blobUploaded
  | frameBuilt
  | sealed
  | sent
  | aborted
  deriving DecidableEq, Repr

def Stage.name : Stage → String
  | .composed      => "composed"
  | .blobEncrypted => "blob_encrypted"
  | .blobUploaded  => "blob_uploaded"
  | .frameBuilt    => "frame_built"
  | .sealed        => "sealed"
  | .sent          => "sent"
  | .aborted       => "aborted"

/-! ### Causes -/

/-- Why something failed. -/
inductive Failure where
  -- keys, nonces and identities
  | keyNotOctets (name : String) (found : Material)
  | keyLength (name : String) (expected : Int) (actual : Nat)
  | nonceLength (actual : Nat)
  | nothingMeasured
  | textUnencoded
  | notJoinable (found : Material)
  | seedLength (actual : Nat)
  | keyNotHex (text : String)
  | invalidIdentity (offered : Identity.Candidate)
  -- boxes and envelopes
  | encryptionRefused
  | authentication
  | envelopeNotHex (place : Nat)
  | envelopeTooShort (length : Nat)
  -- frames
  | tagTooLarge (tag : Int)
  | floorOutOfRange (floor : Int)
  | frameTooShort (length : Nat)
  | paddingZero
  | paddingTooLong (padding body : Nat)
  | unknownTag (tag : Int)
  -- payloads
  | payloadTooShort (kind : PayloadKind) (length minimum : Nat)
  | textTooLong (length : Nat)
  | textNotUtf8 (fault : Utf8.Fault)
  | notUploaded (kind : PayloadKind)
  | referenceLength (length : Nat)
  | blobNotUploaded
  | filePayloadTooShort (length : Nat)
  | stringTooLong (name : String) (length : Nat)
  | lengthTruncated
  | stringExceeds (length remaining : Nat)
  | stringNotUtf8 (fault : Utf8.Fault)
  | trailingOctets (count : Nat)
  | noMessageIds
  | messageIdLength (length : Nat)
  | receiptTypeOutOfRange
  | receiptTooShort (length : Nat)
  | messageIdsUneven (length : Nat)
  | unknownReceiptType (code : UInt8)
  -- blobs
  | blobIdLength (length : Nat)
  | blobIdNotHex (text : String)
  | noBlobId
  | noBlobData (id : String)
  | blobNotFound (id : String)
  | downloadFailed (id : String) (cause : Failure)
  | uploadFailed (cause : Failure)
  | noTransport (kind : PayloadKind)
  | noData
  | noAttachment (kind : PayloadKind)
  -- stages and buffers
  | wrongStage (target current expected : Stage)
  | alreadySent
  | readOnly
  -- configuration and caches
  | missingVariables (names : List String)
  | notWhole (fault : Whole.Fault)
  | notReal (text : String)
  | negativeTtl (ttl : Quantity)
  | sumTooLarge
  -- requests
  | reservedParameter (name : String)
  | requestFailed (path : String) (cause : Failure)
  | unknownStatus (status : Int)
  | credentials
  | credits
  | notFound
  | tooLongForGateway
  | serverFault
  | badRecipient
  | badBlob
  | badCriterion (criterion : String)
  | unknownCriterion (criterion : String)
  | simpleTextTooLong
  | creditsUnreadable (text : String)
  -- what collaborators report
  | reported (kind : Kind) (text : String)

namespace Failure

/-- The kind of a failure. -/
def kind : Failure → Kind
  | .keyNotOctets .. | .nothingMeasured | .textUnencoded | .notJoinable .. | .readOnly
  | .reservedParameter .. => .type
  | .noAttachment ..    => .attribute
  | .sumTooLarge        => .overflow
  | .keyLength ..       => .invalidKeyLength
  | .nonceLength ..     => .invalidNonceLength
  | .invalidIdentity .. => .invalidIdentity
  | .encryptionRefused  => .encryption
  | .authentication     => .authenticationFailed
  | .envelopeNotHex .. | .envelopeTooShort .. | .frameTooShort .. | .paddingZero
  | .paddingTooLong .. | .unknownTag .. | .payloadTooShort .. => .malformedFrame
  | .textTooLong .. | .tooLongForGateway | .simpleTextTooLong => .messageTooLong
  | .textNotUtf8 .. | .referenceLength .. | .filePayloadTooShort .. | .lengthTruncated
  | .stringExceeds .. | .stringNotUtf8 .. | .trailingOctets .. | .receiptTooShort ..
  | .messageIdsUneven .. | .unknownReceiptType .. => .malformedPayload
  | .blobIdLength .. | .blobIdNotHex .. => .badBlobId
  | .noBlobId | .noBlobData .. | .blobNotFound .. | .downloadFailed .. => .blobFetchFailed
  | .uploadFailed ..    => .blobUploadFailed
  | .wrongStage .. | .alreadySent => .invalidState
  | .requestFailed .. | .unknownStatus .. | .badBlob | .badCriterion ..
  | .creditsUnreadable .. => .gatewayApi
  | .credentials        => .badCredentials
  | .credits            => .noCredits
  | .notFound           => .idNotFound
  | .serverFault        => .server
  | .badRecipient       => .badSenderOrRecipient
  | .reported kind _    => kind
  | .seedLength .. | .keyNotHex .. | .tagTooLarge .. | .floorOutOfRange .. | .notUploaded ..
  | .blobNotUploaded | .stringTooLong .. | .noMessageIds | .messageIdLength ..
  | .receiptTypeOutOfRange | .noTransport .. | .noData | .missingVariables .. | .notWhole ..
  | .notReal .. | .negativeTtl .. | .unknownCriterion .. => .value

/-! ### Messages -/

/-- A number of at least two lower-case hexadecimal digits, its sign counted as one. -/
def shortHex (n : Int) : String :=
  let digits := String.ofList (Nat.toDigits 16 n.natAbs)
  if n < 0 then "-" ++ digits else if digits.length < 2 then "0" ++ digits else digits

/-- What is wrong with octets that are no UTF-8. -/
def utf8Message (fault : Utf8.Fault) : String :=
  let place :=
    if fault.first = fault.last then
      "byte 0x" ++ shortHex fault.octet.toNat ++ " in position " ++ toString fault.first
    else "bytes in position " ++ toString fault.first ++ "-" ++ toString fault.last
  let reason := match fault.reason with
    | .start        => "invalid start byte"
    | .continuation => "invalid continuation byte"
    | .endOfData    => "unexpected end of data"
  "'utf-8' codec can't decode " ++ place ++ ": " ++ reason

/-- The text of a failure. -/
def message : Failure → String
  | .keyNotOctets name found => name ++ " must be bytes, got " ++ found.word
  | .keyLength name expected actual =>
    name ++ " must be " ++ toString expected ++ " bytes, got " ++ toString actual
  | .nonceLength actual => "Nonce must be 24 bytes, got " ++ toString actual
  | .nothingMeasured => "object of type 'NoneType' has no len()"
  | .textUnencoded => "string argument without an encoding"
  | .notJoinable found => "can't concat " ++ found.word ++ " to bytes"
  | .seedLength actual => "Seed must be 32 bytes, got " ++ toString actual
  | .keyNotHex text => "Public key is not valid hex: " ++ Quoted.quote text
  | .invalidIdentity offered => "Invalid identity: " ++ offered.quoted
  | .encryptionRefused => "Encryption failed: Unexpected library error"
  | .authentication => "Authentication failed"
  | .envelopeNotHex place =>
    "Invalid hex in envelope: non-hexadecimal number found in fromhex() arg at position "
      ++ toString place
  | .envelopeTooShort length => "Data too short: " ++ toString length ++ " bytes (minimum 40)"
  | .tagTooLarge tag => "Type tag must fit in one byte, got " ++ toString tag
  | .floorOutOfRange floor =>
    "Minimum frame length must be between 0 and 256, got " ++ toString floor
  | .frameTooShort length => "Frame too short: " ++ toString length ++ " bytes (minimum 2)"
  | .paddingZero => "Invalid padding length: 0"
  | .paddingTooLong padding body =>
    "Padding length " ++ toString padding ++ " exceeds frame body of " ++ toString body ++ " bytes"
  | .unknownTag tag => "Unknown message type: 0x" ++ shortHex tag
  | .payloadTooShort kind length minimum =>
    "Payload too short for " ++ kind.name ++ ": " ++ toString length ++ " bytes (minimum "
      ++ toString minimum ++ ")"
  | .textTooLong length => "Text is " ++ toString length ++ " bytes (max 3500)"
  | .textNotUtf8 fault => "Text is not valid UTF-8: " ++ utf8Message fault
  | .notUploaded kind =>
    (match kind with | .image => "Image" | _ => "File")
      ++ " must be uploaded before it can be framed"
  | .referenceLength length => "Blob reference must be 72 bytes, got " ++ toString length
  | .blobNotUploaded => "Blob has not been uploaded yet"
  | .filePayloadTooShort length => "File payload too short: " ++ toString length ++ " bytes"
  | .stringTooLong name length => name ++ " too long: " ++ toString length ++ " bytes"
  | .lengthTruncated => "Truncated length prefix"
  | .stringExceeds length remaining =>
    "String of " ++ toString length ++ " bytes exceeds remaining " ++ toString remaining ++ " bytes"
  | .stringNotUtf8 fault => "String is not valid UTF-8: " ++ utf8Message fault
  | .trailingOctets count => toString count ++ " trailing bytes in file payload"
  | .noMessageIds => "Delivery receipt needs at least one message ID"
  | .messageIdLength length => "Message ID must be 8 bytes, got " ++ toString length
  | .receiptTypeOutOfRange => "bytes must be in range(0, 256)"
  | .receiptTooShort length => "Delivery receipt too short: " ++ toString length ++ " bytes"
  | .messageIdsUneven length =>
    "Message ID list length " ++ toString length ++ " is not a multiple of 8"
  | .unknownReceiptType code => "Unknown receipt type: " ++ toString code.toNat
  | .blobIdLength length => "Blob ID must be 16 bytes, got " ++ toString length
  | .blobIdNotHex text => "Invalid blob ID: " ++ Quoted.quote text
  | .noBlobId => "Blob reference has no blob ID"
  | .noBlobData id => "No data for blob " ++ id
  | .blobNotFound id => "Blob not found: " ++ id
  | .downloadFailed id cause => "Download of blob " ++ id ++ " failed: " ++ cause.message
  | .uploadFailed cause => "Blob upload failed: " ++ cause.message
  | .noTransport kind => kind.name ++ " requires a blob transport"
  | .noData => "Attachment message has no data"
  | .noAttachment kind => Quoted.quote kind.name ++ " object has no attribute 'data'"
  | .wrongStage target current expected =>
    "Cannot move to " ++ target.name ++ " from " ++ current.name ++ " (expected " ++ expected.name
      ++ ")"
  | .alreadySent => "Message has already been sent"
  | .readOnly => "cannot modify read-only memory"
  | .missingVariables names => "Missing environment variables: " ++ ", ".intercalate names
  | .notWhole fault => fault.message
  | .notReal text => "could not convert string to float: " ++ Quoted.quote text
  | .negativeTtl ttl => "TTL must not be negative, got " ++ ttl.write
  | .sumTooLarge => "int too large to convert to float"
  | .reservedParameter name =>
    "GatewayConnection.send_e2e() got multiple values for argument " ++ Quoted.quote name
  | .requestFailed path cause => "Request to " ++ path ++ " failed: " ++ cause.message
  | .unknownStatus status => "Bad response status code: " ++ toString status
  | .credentials => "API identity or secret incorrect"
  | .credits => "No credits remain"
  | .notFound => "Not found"
  | .tooLongForGateway => "Message too long"
  | .serverFault => "Temporary internal server error"
  | .badRecipient => "Bad sender or recipient"
  | .badBlob => "Blob is empty or too big"
  | .badCriterion criterion => "Invalid " ++ criterion
  | .unknownCriterion criterion => Quoted.quote criterion ++ " is not a valid LookupCriterion"
  | .simpleTextTooLong => "Text exceeds 3500 bytes"
  | .creditsUnreadable text => "Invalid credits response: " ++ Quoted.quote text
  | .reported _ text => text

end Failure

end SealedPost
